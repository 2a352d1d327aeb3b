import KubeAliyun.Volume.Reads

/-!
# The volume operations on a synchronous service

A service that completes every pending transition before the next call shows
each disk either in use or free.  Under that view the operations change one disk
at a time, and a failure without a fault of the service changes nothing.
-/

namespace KubeAliyun.Volume

open KubeAliyun.Cloud KubeAliyun.Provider KubeAliyun.Remote

/-! ## The view -/

/-- The inventory, and every disk as the next call will find it. -/
structure SyncView where
  inventory : List InstanceAttributes
  disk : String → Option DiskItem

def syncView (account : Account) : SyncView :=
  ⟨account.ecs.visible, fun diskId => (account.ecs.disk? diskId).map DiskItem.settle⟩

namespace SyncView

def set (view : SyncView) (diskId : String) (next : DiskItem) : SyncView :=
  { view with disk := Function.update view.disk diskId (some next) }

@[simp] theorem set_inventory (view : SyncView) (diskId : String) (next : DiskItem) :
    (view.set diskId next).inventory = view.inventory := rfl

@[simp] theorem set_disk_self (view : SyncView) (diskId : String) (next : DiskItem) :
    (view.set diskId next).disk diskId = some next := by
  simp [set]

theorem set_disk_other (view : SyncView) {diskId other : String} (next : DiskItem)
    (different : other ≠ diskId) : (view.set diskId next).disk other = view.disk other := by
  simp [set, different]

def Attaches (view : SyncView) (instanceId diskId : String) (after : SyncView) : Prop :=
  ∃ disk device, view.disk diskId = some disk ∧ disk.status = .available ∧
    after = view.set diskId { disk with status := .inUse, instanceId, device }

def Detaches (view : SyncView) (instanceId diskId : String) (after : SyncView) : Prop :=
  ∃ disk, view.disk diskId = some disk ∧ disk.status = .inUse ∧
    disk.instanceId = instanceId ∧
    after = view.set diskId
      { disk with status := .available, instanceId := "", device := "" }

end SyncView

/-- Completing transitions early does not show. -/
theorem syncView_settledFor (choice : Choice) (account : Account) :
    syncView (settledFor choice account) = syncView account := by
  have disks : ∀ diskId, ((settledFor choice account).ecs.disk? diskId).map DiskItem.settle =
      (account.ecs.disk? diskId).map DiskItem.settle := by
    intro diskId
    rw [show (settledFor choice account).ecs.disk? diskId = _ from
      Ecs.settle_disk? account.ecs choice.settles diskId]
    cases account.ecs.disk? diskId with
    | none => rfl
    | some disk =>
        cases choice.settles diskId with
        | true => exact congrArg some disk.settle_settle
        | false => rfl
  exact congrArg (SyncView.mk account.ecs.visible) (funext disks)

/-- A changed disk shows as the next call will find it. -/
theorem syncView_put (account : Account) {diskId : String} {disk next : DiskItem}
    (found : account.ecs.disk? diskId = some disk) (named : next.diskId = diskId) :
    syncView { account with ecs := account.ecs.put next } =
      (syncView account).set diskId next.settle := by
  have disks : (fun other => ((account.ecs.put next).disk? other).map DiskItem.settle) =
      Function.update (syncView account).disk diskId (some next.settle) := by
    funext other
    by_cases same : other = diskId
    · subst same
      rw [Ecs.put_disk?_self found named, Function.update_self]
      rfl
    · rw [Ecs.put_disk?_other _ (by rw [named]; exact Ne.symm same),
        Function.update_of_ne same]
      rfl
  exact congrArg (SyncView.mk account.ecs.visible) disks

/-! ## The contract -/

/-- The replies to a changing call: it is granted, it is refused because it is
impossible or by a fault, or it is granted and reported as failed by a fault. -/
def ChangeReply (faulty : Prop) (view : SyncView) (attempt : SyncView → Prop) :
    Option ApiError → SyncView → Prop
  | none, after => attempt after
  | some _, after =>
      after = view ∧ (faulty ∨ ∀ next, ¬attempt next) ∨ faulty ∧ attempt after

def ReadReply {α : Type} (faulty : Prop) (shown : List α) :
    Except ApiError (List α × PaginationResult) → Prop
  | .ok page => page.1 = shown
  | .error _ => faulty

def SyncStep (faulty : Prop) (view : SyncView) :
    (request : Call) → Reply request → SyncView → Prop
  | .ecs (.describeInstances args), reply, after =>
      after = view ∧ (args.pagination = ⟨0, 0⟩ → ReadReply faulty view.inventory reply)
  | .ecs (.describeDisks args), reply, after =>
      after = view ∧ ∀ diskId size, args.diskIds = [diskId] → args.instanceId = "" →
        args.pagination = ⟨0, size⟩ → ReadReply faulty (view.disk diskId).toList reply
  | .ecs (.attachDisk args), reply, after =>
      ChangeReply faulty view (view.Attaches args.instanceId args.diskId) reply after
  | .ecs (.detachDisk instanceId diskId), reply, after =>
      ChangeReply faulty view (view.Detaches instanceId diskId) reply after
  | .slb _, _, _ => False

def OnEcs : Call → Prop
  | .ecs _ => True
  | .slb _ => False

/-- A synchronous service, with faults or without. -/
def synchronous (faulty : Prop) : Contract SyncView Call Reply where
  step := SyncStep faulty
  permit _ request := OnEcs request
  event _ _ _ _ := True

/-- The service completes every transition, and serves unless it is faulty. -/
def Prompt (faulty : Prop) (choice : Choice) : Prop :=
  (∀ diskId, choice.settles diskId = true) ∧ (faulty ∨ choice.fate = .served)

section Refinement

variable {faulty : Prop} {choice : Choice}

theorem settled_disk? (account : Account) (all : ∀ diskId, choice.settles diskId = true)
    (diskId : String) :
    (settledFor choice account).ecs.disk? diskId = (syncView account).disk diskId := by
  have shown := Ecs.settle_disk? account.ecs choice.settles diskId
  simp only [all, if_true] at shown
  exact shown

theorem readReply_of_read {α : Type} (prompt : Prompt faulty choice)
    {page : List α × PaginationResult} {shown : List α} (same : page.1 = shown) :
    ReadReply faulty shown (choice.read (some page)) := by
  by_cases served : choice.fate = .served
  · rw [(Choice.read_ok_iff _ _ _).mpr ⟨served, rfl⟩]
    exact same
  · rw [Choice.read_unserved _ _ served]
    exact prompt.2.resolve_right served

theorem changeReply_of_commit (see : Ecs → SyncView) (prompt : Prompt faulty choice)
    {ecs : Ecs} {attempt : Option Ecs} {possible : SyncView → Prop} {view : SyncView}
    (still : see ecs = view)
    (effect : ∀ next, attempt = some next → possible (see next))
    (impossible : attempt = none → ∀ next, ¬possible next) :
    ChangeReply faulty view possible (choice.commit ecs attempt).1
      (see (choice.commit ecs attempt).2) := by
  cases attempt with
  | none =>
      have refused : choice.commit ecs none = (some choice.error, ecs) := by
        unfold Choice.commit
        cases choice.fate <;> rfl
      rw [refused]
      exact Or.inl ⟨still, Or.inr (impossible rfl)⟩
  | some next =>
      have moved := effect next rfl
      unfold Choice.commit
      cases fate : choice.fate with
      | served => exact moved
      | refused =>
          have fault := prompt.2.resolve_right (by rw [fate]; decide)
          exact Or.inl ⟨still, Or.inl fault⟩
      | unanswered =>
          have fault := prompt.2.resolve_right (by rw [fate]; decide)
          exact Or.inr ⟨fault, moved⟩

/-- An accepted attachment, as the next call will find it. -/
theorem attach_effect {ecs : Ecs} {slb : Slb} {view : SyncView} (args : AttachDiskArgs)
    (device : String) (disks : ∀ diskId, ecs.disk? diskId = view.disk diskId)
    (still : syncView ⟨ecs, slb⟩ = view) (next : Ecs)
    (accepted : ((ecs.disk? args.diskId).bind fun disk =>
      (disk.attach args.instanceId device).map ecs.put) = some next) :
    view.Attaches args.instanceId args.diskId (syncView ⟨next, slb⟩) := by
  obtain ⟨disk, found, moved⟩ := Option.bind_eq_some_iff.mp accepted
  obtain ⟨attached, taken, put⟩ := Option.map_eq_some_iff.mp moved
  have named := (DiskItem.attach_diskId taken).trans (Ecs.disk?_diskId found)
  have shown := syncView_put ⟨ecs, slb⟩ found named
  unfold DiskItem.attach at taken
  split at taken
  · rename_i available
    cases taken
    refine ⟨disk, device, (disks _).symm.trans found, available, ?_⟩
    rw [← put, ← still]
    exact shown
  · cases taken

theorem attach_impossible {ecs : Ecs} {view : SyncView} (args : AttachDiskArgs)
    (device : String) (disks : ∀ diskId, ecs.disk? diskId = view.disk diskId)
    (refused : ((ecs.disk? args.diskId).bind fun disk =>
      (disk.attach args.instanceId device).map ecs.put) = none) (next : SyncView) :
    ¬view.Attaches args.instanceId args.diskId next := by
  rintro ⟨disk, _, found, available, -⟩
  rw [disks, found] at refused
  simp [DiskItem.attach, available] at refused

/-- An accepted detachment, as the next call will find it. -/
theorem detach_effect {ecs : Ecs} {slb : Slb} {view : SyncView}
    (instanceId diskId : String) (disks : ∀ diskId, ecs.disk? diskId = view.disk diskId)
    (settled : ∀ disk, view.disk diskId = some disk → disk.status ≠ .attaching)
    (still : syncView ⟨ecs, slb⟩ = view) (next : Ecs)
    (accepted : ((ecs.disk? diskId).bind fun disk =>
      (disk.detach instanceId).map ecs.put) = some next) :
    view.Detaches instanceId diskId (syncView ⟨next, slb⟩) := by
  obtain ⟨disk, found, moved⟩ := Option.bind_eq_some_iff.mp accepted
  obtain ⟨detached, taken, put⟩ := Option.map_eq_some_iff.mp moved
  have named := (DiskItem.detach_diskId taken).trans (Ecs.disk?_diskId found)
  have shown := syncView_put ⟨ecs, slb⟩ found named
  unfold DiskItem.detach at taken
  split at taken
  · rename_i held
    have seen := (disks diskId).symm.trans found
    have inUse := held.2.resolve_right (settled disk seen)
    cases taken
    refine ⟨disk, seen, inUse, held.1, ?_⟩
    rw [← put, ← still]
    exact shown
  · cases taken

theorem detach_impossible {ecs : Ecs} {view : SyncView} (instanceId diskId : String)
    (disks : ∀ diskId, ecs.disk? diskId = view.disk diskId)
    (refused : ((ecs.disk? diskId).bind fun disk =>
      (disk.detach instanceId).map ecs.put) = none) (next : SyncView) :
    ¬view.Detaches instanceId diskId next := by
  rintro ⟨disk, found, inUse, here, -⟩
  rw [disks, found] at refused
  simp [DiskItem.detach, inUse, here] at refused

/-- The account shows what the contract says. -/
theorem synchronous_refines (faulty : Prop) :
    Refines Account.answer syncView (Prompt faulty) (fun _ => True)
      (synchronous faulty) where
  step := by
    intro choice account request prompt _ permitted
    have still := syncView_settledFor choice account
    have disks := fun diskId => settled_disk? account prompt.1 diskId
    cases request with
    | slb inner => exact permitted.elim
    | ecs inner =>
        cases inner with
        | describeInstances args =>
            refine ⟨still, ?_⟩
            intro page
            refine readReply_of_read prompt ?_
            rw [page]
            rfl
        | describeDisks args =>
            refine ⟨still, ?_⟩
            intro diskId size one any page
            obtain ⟨region, ids, instanceId, pagination⟩ := args
            cases one
            cases any
            cases page
            refine readReply_of_read prompt ?_
            exact (Ecs.paginate_describedDisks _ region diskId size).trans
              (congrArg Option.toList (disks diskId))
        | attachDisk args =>
            exact changeReply_of_commit (fun ecs => syncView { account with ecs }) prompt
              still (attach_effect args choice.device disks still)
              (attach_impossible args choice.device disks)
        | detachDisk instanceId diskId =>
            have settled : ∀ disk, (syncView account).disk diskId = some disk →
                disk.status ≠ .attaching := by
              intro disk shown
              obtain ⟨before, -, same⟩ := Option.map_eq_some_iff.mp shown
              rw [← same]
              exact before.settle_not_attaching
            exact changeReply_of_commit (fun ecs => syncView { account with ecs }) prompt
              still (detach_effect instanceId diskId disks settled still)
              (detach_impossible instanceId diskId disks)
  keeps := fun _ _ _ => trivial

end Refinement

/-! ## Lookups -/

section Lookups

variable {faulty : Prop} (provider : AliyunProvider) (view : SyncView)

theorem getInstances_sync :
    (getInstances provider).Yields (synchronous faulty)
      (fun listed after => after = view ∧ (listed = .ok view.inventory ∨
        faulty ∧ ∃ failure, listed = .error failure)) view := by
  refine Prog.Yields.ask trivial ?_
  intro reply after step
  obtain ⟨same, read⟩ := step
  have shown := read rfl
  refine ⟨trivial, ?_⟩
  match reply, shown with
  | .ok (instances, counters), shown =>
      have all : instances = view.inventory := shown
      exact Prog.Yields.done ⟨same, Or.inl (congrArg Except.ok all)⟩
  | .error failure, fault => exact Prog.Yields.done ⟨same, Or.inr ⟨fault, failure, rfl⟩⟩

theorem getInstanceByNodeName_sync (node : String) :
    (getInstanceByNodeName provider node).Yields (synchronous faulty)
      (fun result after => after = view ∧
        (result = instanceByNodeName provider.nodeNameType view.inventory node ∨
          faulty ∧ ∃ failure, result = .error failure)) view := by
  refine (getInstances_sync provider view).bind ?_
  intro listed after looked
  obtain ⟨same, rfl | ⟨fault, failure, rfl⟩⟩ := looked
  · exact Prog.Yields.done ⟨same, Or.inl rfl⟩
  · exact Prog.Yields.done ⟨same, Or.inr ⟨fault, _, rfl⟩⟩

inductive SyncResolved (faulty : Prop) (provider : AliyunProvider)
    (inventory : List InstanceAttributes) (node : String) :
    Except VolumeError String → Prop where
  | found {instanceId : String} (known : Resolves provider inventory node instanceId) :
      SyncResolved faulty provider inventory node (.ok instanceId)
  | failed {failure : VolumeError} (status : failure.status = statusFailure)
      (cause : faulty ∨ ∀ instanceId, Resolves provider inventory node instanceId →
        instanceId = "") :
      SyncResolved faulty provider inventory node (.error failure)

theorem syncResolved_of_lookup (faulty : Prop) {node : String} {inventory : List InstanceAttributes}
    {result : Except GoError InstanceAttributes}
    (looked : result = instanceByNodeName provider.nodeNameType inventory node) :
    SyncResolved faulty provider inventory node
      (match result with
        | .error failure => .error (unresolvedNode node failure)
        | .ok found => requireInstance found.instanceId) := by
  cases result with
  | error failure =>
      refine .failed rfl (Or.inr ?_)
      rintro instanceId ⟨attributes, known, -⟩
      rw [← looked] at known
      cases known
  | ok attributes =>
      simp only [requireInstance]
      by_cases nameless : attributes.instanceId = ""
      · rw [if_pos nameless]
        refine .failed rfl (Or.inr ?_)
        rintro instanceId ⟨other, known, here⟩
        rw [← looked] at known
        cases known
        rw [← here, nameless]
      · rw [if_neg nameless]
        exact .found ⟨attributes, looked.symm, rfl⟩

theorem resolveInstance_sync {node : String} (named : node ≠ "") :
    (resolveInstance provider node).Yields (synchronous faulty)
      (fun result after => after = view ∧
        SyncResolved faulty provider view.inventory node result) view := by
  rw [resolveInstance, if_pos named]
  refine (getInstanceByNodeName_sync provider view node).bind ?_
  intro result after looked
  obtain ⟨same, found | ⟨fault, failure, rfl⟩⟩ := looked
  · have resolved := syncResolved_of_lookup provider faulty found
    cases result with
    | error failure => exact Prog.Yields.done ⟨same, resolved⟩
    | ok attributes => exact Prog.Yields.done ⟨same, resolved⟩
  · exact Prog.Yields.done ⟨same, .failed rfl (Or.inl fault)⟩

inductive SyncLooked (faulty : Prop) (found : Option DiskItem) :
    Except GoError DiskItem → Prop where
  | seen {disk : DiskItem} (shown : found = some disk) : SyncLooked faulty found (.ok disk)
  | failed {failure : GoError} (cause : faulty ∨ found = none) :
      SyncLooked faulty found (.error failure)

theorem getDiskById_sync (diskId : String) :
    (getDiskById provider diskId).Yields (synchronous faulty)
      (fun result after => after = view ∧ SyncLooked faulty (view.disk diskId) result)
      view := by
  refine Prog.Yields.ask trivial ?_
  intro reply after step
  obtain ⟨same, read⟩ := step
  have shown := read diskId 50 rfl rfl rfl
  refine ⟨trivial, ?_⟩
  match reply, shown with
  | .error failure, fault => exact Prog.Yields.done ⟨same, .failed (Or.inl fault)⟩
  | .ok ([], counters), shown =>
      have missing : view.disk diskId = none := Option.toList_eq_nil_iff.mp shown.symm
      exact Prog.Yields.done ⟨same, .failed (Or.inr missing)⟩
  | .ok (disk :: others, counters), shown =>
      cases found : view.disk diskId with
      | none =>
          rw [found] at shown
          cases shown
      | some other =>
          rw [found] at shown
          cases shown
          exact Prog.Yields.done ⟨same, .seen rfl⟩

theorem waitForDisk_sync (region diskId : String) (status : DiskStatus) :
    (waitForDisk region diskId status 0).Yields (synchronous faulty)
      (fun _ after => after = view) view := by
  refine waitForDisk_keeps ?_ region diskId status 0
  intro args
  refine ⟨trivial, ?_⟩
  intro reply after step
  exact ⟨trivial, step.1⟩

theorem attachDisk_sync (args : AttachDiskArgs) :
    (attachDisk args).Yields (synchronous faulty)
      (ChangeReply faulty view (view.Attaches args.instanceId args.diskId)) view := by
  refine Prog.Yields.ask trivial ?_
  intro reply after step
  exact ⟨trivial, Prog.Yields.done step⟩

theorem detachDisk_sync (instanceId diskId : String) :
    (detachDisk instanceId diskId).Yields (synchronous faulty)
      (ChangeReply faulty view (view.Detaches instanceId diskId)) view := by
  refine Prog.Yields.ask trivial ?_
  intro reply after step
  exact ⟨trivial, Prog.Yields.done step⟩

end Lookups

end KubeAliyun.Volume
