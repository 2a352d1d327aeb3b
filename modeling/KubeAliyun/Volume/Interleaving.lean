import KubeAliyun.Remote.Pool
import KubeAliyun.Volume.Reads

/-!
# Concurrent attachments and detachments

Any number of volume calls share one account and their requests interleave
freely.  A request that takes a disk from an instance is one its call may make:
a detachment of that disk from its own instance, or an attachment of that disk to
another one.  What a call has read about the disk may be out of date; the request
names the instance it believed to hold the disk, and ECS refuses it otherwise.
-/

namespace KubeAliyun.Volume

open KubeAliyun.Cloud KubeAliyun.Provider KubeAliyun.Remote

/-! ## What a call may detach -/

/-- The instance a call is for: that of the named node, or the provider's own. -/
def Targets (provider : AliyunProvider) (inventory : List InstanceAttributes)
    (node instanceId : String) : Prop :=
  if node = "" then provider.defaultInstance = instanceId
  else Resolves provider inventory node instanceId

/-- A detachment takes its disk from its own instance, an attachment takes its
disk from an instance other than its own. -/
def MayDetach (provider : AliyunProvider) (inventory : List InstanceAttributes)
    (instanceId diskId : String) : DiskCall → Prop
  | .detach volume node =>
      Text.base volume = diskId ∧ Targets provider inventory node instanceId
  | .attach options node =>
      options.diskId = diskId ∧
        ∃ own, Targets provider inventory node own ∧ own ≠ instanceId
  | .isAttached _ _ => False

/-- What the calls rely on: the inventory does not change, and a description of
one disk shows no other. -/
def GuardedStep (inventory : List InstanceAttributes) :
    (request : Call) → Reply request → List InstanceAttributes → Prop
  | .ecs (.describeInstances args), reply, after =>
      after = inventory ∧ (args.pagination = ⟨0, 0⟩ → ∀ page, reply = .ok page →
        page.1 = inventory)
  | .ecs (.describeDisks args), reply, after =>
      after = inventory ∧ ∀ diskId, args.diskIds = [diskId] → ∀ page,
        reply = .ok page → ∀ disk ∈ page.1, disk.diskId = diskId
  | _, _, after => after = inventory

/-- The requests of a call: it detaches only what it may. -/
def Permits (provider : AliyunProvider) (call : DiskCall)
    (inventory : List InstanceAttributes) : Call → Prop
  | .ecs (.detachDisk instanceId diskId) =>
      MayDetach provider inventory instanceId diskId call
  | _ => True

def guarded (provider : AliyunProvider) (call : DiskCall) :
    Contract (List InstanceAttributes) Call Reply where
  step := GuardedStep
  permit := Permits provider call
  event _ _ _ _ := True

/-! ## The account keeps its side -/

/-- What a request can do to the disks, the completed transitions aside. -/
inductive DiskEffect (choice : Choice) (account : Account) : Call → Ecs → Prop where
  | unrelated {inner : SlbCall} : DiskEffect choice account (.slb inner) account.ecs
  | still {inner : EcsCall} :
      DiskEffect choice account (.ecs inner) (account.ecs.settle choice.settles)
  | attached {args : AttachDiskArgs} {disk next : DiskItem}
      (found : (account.ecs.settle choice.settles).disk? args.diskId = some disk)
      (accepted : disk.attach args.instanceId choice.device = some next) :
      DiskEffect choice account (.ecs (.attachDisk args))
        ((account.ecs.settle choice.settles).put next)
  | detached {instanceId diskId : String} {disk next : DiskItem}
      (found : (account.ecs.settle choice.settles).disk? diskId = some disk)
      (accepted : disk.detach instanceId = some next) :
      DiskEffect choice account (.ecs (.detachDisk instanceId diskId))
        ((account.ecs.settle choice.settles).put next)

theorem diskEffect_of_answer (choice : Choice) (account : Account) (request : Call) :
    DiskEffect choice account request (Account.answer choice account request).2.ecs := by
  cases request with
  | slb inner => exact .unrelated
  | ecs inner =>
      cases inner with
      | describeInstances args => exact .still
      | describeDisks args => exact .still
      | attachDisk args =>
          simp only [Account.answer, Ecs.answer]
          generalize attempted : Option.bind _ _ = attempt
          rcases Choice.commit_state choice (account.ecs.settle choice.settles) attempt with
            same | moved
          · rw [same]
            exact .still
          · generalize (choice.commit _ attempt).2 = after at moved ⊢
            rw [moved] at attempted
            obtain ⟨disk, found, put⟩ := Option.bind_eq_some_iff.mp attempted
            obtain ⟨next, accepted, rfl⟩ := Option.map_eq_some_iff.mp put
            exact .attached found accepted
      | detachDisk instanceId diskId =>
          simp only [Account.answer, Ecs.answer]
          generalize attempted : Option.bind _ _ = attempt
          rcases Choice.commit_state choice (account.ecs.settle choice.settles) attempt with
            same | moved
          · rw [same]
            exact .still
          · generalize (choice.commit _ attempt).2 = after at moved ⊢
            rw [moved] at attempted
            obtain ⟨disk, found, put⟩ := Option.bind_eq_some_iff.mp attempted
            obtain ⟨next, accepted, rfl⟩ := Option.map_eq_some_iff.mp put
            exact .detached found accepted

theorem visible_answer (choice : Choice) (account : Account) (request : Call) :
    (Account.answer choice account request).2.ecs.visible = account.ecs.visible := by
  have effect := diskEffect_of_answer choice account request
  generalize (Account.answer choice account request).2.ecs = after at effect ⊢
  cases effect with
  | unrelated => rfl
  | still => rfl
  | attached found accepted => rfl
  | detached found accepted => rfl

theorem mem_paginate {α : Type} {defaultSize : Nat} {page : Pagination} {items : List α}
    {item : α} (member : item ∈ (paginate defaultSize page items).1) : item ∈ items :=
  List.mem_of_mem_drop (List.mem_of_mem_take member)

theorem guarded_step (choice : Choice) (account : Account) (request : Call) :
    GuardedStep account.ecs.visible request (Account.answer choice account request).1
      (Account.answer choice account request).2.ecs.visible := by
  have same := visible_answer choice account request
  cases request with
  | slb inner => exact same
  | ecs inner =>
      cases inner with
      | describeInstances args =>
          refine ⟨same, ?_⟩
          intro whole page answered
          have read := ((Choice.read_ok_iff choice _ page).mp answered).2
          cases read
          rw [whole]
          rfl
      | describeDisks args =>
          refine ⟨same, ?_⟩
          intro diskId one page answered disk member
          have read := ((Choice.read_ok_iff choice _ page).mp answered).2
          cases read
          have described := mem_paginate member
          have matching := (List.mem_filter.mp described).2
          rw [one] at matching
          simp only [List.isEmpty_cons, Bool.false_or, Bool.and_eq_true,
            decide_eq_true_eq, List.mem_singleton] at matching
          exact matching.1
      | attachDisk args => exact same
      | detachDisk instanceId diskId => exact same

/-- The calls share nothing but an inventory that no request changes. -/
theorem calls_isolated {ι : Type} (provider : ι → AliyunProvider) (call : ι → DiskCall) :
    Isolated Account.answer (fun (_ : ι) account => account.ecs.visible)
      (fun _ => True) (fun index => guarded (provider index) (call index)) where
  refines := fun _ =>
    { step := fun _ _ _ => guarded_step _ _ _
      keeps := fun _ _ _ => trivial }
  frame := fun _ _ _ => visible_answer _ _ _

/-! ## Removals -/

/-- The disk is on the instance, or on its way there. -/
def HeldBy (ecs : Ecs) (instanceId diskId : String) : Prop :=
  ∃ disk, ecs.disk? diskId = some disk ∧ disk.instanceId = instanceId ∧
    (disk.status = .inUse ∨ disk.status = .attaching)

theorem heldBy_settle {ecs : Ecs} {instanceId diskId : String} (which : String → Bool)
    (held : HeldBy ecs instanceId diskId) :
    HeldBy (ecs.settle which) instanceId diskId := by
  obtain ⟨disk, found, here, status⟩ := held
  have shown := Ecs.settle_disk? ecs which diskId
  rw [found, Option.map_some] at shown
  refine ⟨_, shown, ?_⟩
  split
  · rcases status with inUse | attaching
    · simp [DiskItem.settle, inUse, here]
    · simp [DiskItem.settle, attaching, here]
  · exact ⟨here, status⟩

theorem heldBy_put_other {ecs : Ecs} {instanceId diskId : String} {next : DiskItem}
    (different : next.diskId ≠ diskId) (held : HeldBy ecs instanceId diskId) :
    HeldBy (ecs.put next) instanceId diskId := by
  obtain ⟨disk, found, rest⟩ := held
  exact ⟨disk, (Ecs.put_disk?_other ecs different).trans found, rest⟩

/-- Only a detachment from that very instance takes a disk from it. -/
theorem removal_request {choice : Choice} {account : Account} {request : Call}
    {after : Ecs} {instanceId diskId : String}
    (effect : DiskEffect choice account request after)
    (held : HeldBy account.ecs instanceId diskId)
    (lost : ¬HeldBy after instanceId diskId) :
    request = .ecs (.detachDisk instanceId diskId) := by
  have settled := heldBy_settle choice.settles held
  cases effect with
  | unrelated => exact absurd held lost
  | still => exact absurd settled lost
  | @attached args disk next found accepted =>
      have named := (DiskItem.attach_diskId accepted).trans (Ecs.disk?_diskId found)
      by_cases same : args.diskId = diskId
      · obtain ⟨other, shown, -, status⟩ := settled
        rw [same, shown] at found
        cases found
        rcases status with inUse | attaching
        · simp [DiskItem.attach, inUse] at accepted
        · simp [DiskItem.attach, attaching] at accepted
      · exact absurd (heldBy_put_other (by rw [named]; exact same) settled) lost
  | @detached owner other disk next found accepted =>
      have named := (DiskItem.detach_diskId accepted).trans (Ecs.disk?_diskId found)
      by_cases same : other = diskId
      · subst same
        obtain ⟨holding, shown, here, -⟩ := settled
        rw [shown] at found
        cases found
        unfold DiskItem.detach at accepted
        split at accepted
        · rename_i condition
          rw [← condition.1, here]
        · cases accepted
      · exact absurd (heldBy_put_other (by rw [named]; exact same) settled) lost

/-! ## The calls keep theirs -/

section Calls

variable (provider : AliyunProvider) (call : DiskCall)
  (inventory : List InstanceAttributes)

theorem getInstances_guarded :
    (getInstances provider).Yields (guarded provider call)
      (fun listed after => after = inventory ∧
        ∀ instances, listed = .ok instances → instances = inventory) inventory := by
  refine Prog.Yields.ask trivial ?_
  intro reply after step
  obtain ⟨same, whole⟩ := step
  refine ⟨trivial, ?_⟩
  match reply with
  | .error failure =>
      refine Prog.Yields.done ⟨same, ?_⟩
      intro instances impossible
      cases impossible
  | .ok (listed, counters) =>
      refine Prog.Yields.done ⟨same, ?_⟩
      intro instances equal
      cases equal
      exact whole rfl _ rfl

theorem getInstanceByNodeName_guarded (node : String) :
    (getInstanceByNodeName provider node).Yields (guarded provider call)
      (fun result after => after = inventory ∧ ∀ found, result = .ok found →
        Resolves provider inventory node found.instanceId) inventory := by
  refine (getInstances_guarded provider call inventory).bind ?_
  intro listed after looked
  obtain ⟨same, whole⟩ := looked
  cases listed with
  | error failure =>
      refine Prog.Yields.done ⟨same, ?_⟩
      intro found impossible
      cases impossible
  | ok instances =>
      refine Prog.Yields.done ⟨same, ?_⟩
      intro found known
      rw [whole instances rfl] at known
      exact ⟨found, known, rfl⟩

theorem requireInstance_ok {instanceId other : String}
    (granted : requireInstance instanceId = .ok other) : other = instanceId := by
  unfold requireInstance at granted
  split at granted
  · cases granted
  · exact (Except.ok.inj granted).symm

theorem resolveInstance_guarded (node : String) :
    (resolveInstance provider node).Yields (guarded provider call)
      (fun result after => after = inventory ∧ ∀ instanceId, result = .ok instanceId →
        Targets provider inventory node instanceId) inventory := by
  unfold resolveInstance Targets
  by_cases named : node = ""
  · simp only [named, ne_eq, not_true_eq_false, if_false, if_true]
    refine Prog.Yields.done ⟨rfl, ?_⟩
    intro instanceId granted
    exact (requireInstance_ok granted).symm
  · simp only [ne_eq, named, not_false_eq_true, if_true, if_false]
    refine (getInstanceByNodeName_guarded provider call inventory node).bind ?_
    intro result after looked
    obtain ⟨same, known⟩ := looked
    cases result with
    | error failure =>
        refine Prog.Yields.done ⟨same, ?_⟩
        intro instanceId impossible
        cases impossible
    | ok found =>
        refine Prog.Yields.done ⟨same, ?_⟩
        intro instanceId granted
        rw [requireInstance_ok granted]
        exact known found rfl

theorem getDiskById_guarded (diskId : String) :
    (getDiskById provider diskId).Yields (guarded provider call)
      (fun result after => after = inventory ∧ ∀ disk, result = .ok disk →
        disk.diskId = diskId) inventory := by
  refine Prog.Yields.ask trivial ?_
  intro reply after step
  obtain ⟨same, only⟩ := step
  refine ⟨trivial, ?_⟩
  match reply with
  | .error failure =>
      refine Prog.Yields.done ⟨same, ?_⟩
      intro disk impossible
      cases impossible
  | .ok ([], counters) =>
      refine Prog.Yields.done ⟨same, ?_⟩
      intro disk impossible
      cases impossible
  | .ok (first :: others, counters) =>
      refine Prog.Yields.done ⟨same, ?_⟩
      intro disk equal
      cases equal
      exact only diskId rfl _ rfl first List.mem_cons_self

theorem waitForDisk_guarded (region diskId : String) (status : DiskStatus) :
    (waitForDisk region diskId status 0).Yields (guarded provider call)
      (fun _ after => after = inventory) inventory := by
  refine waitForDisk_keeps ?_ region diskId status 0
  intro args
  refine ⟨trivial, ?_⟩
  intro reply after step
  exact ⟨trivial, step.1⟩

theorem attachDisk_guarded (args : AttachDiskArgs) :
    (attachDisk args).Yields (guarded provider call)
      (fun _ after => after = inventory) inventory := by
  refine Prog.Yields.ask trivial ?_
  intro reply after same
  exact ⟨trivial, Prog.Yields.done same⟩

theorem detachDisk_guarded {instanceId diskId : String}
    (may : MayDetach provider inventory instanceId diskId call) :
    (detachDisk instanceId diskId).Yields (guarded provider call)
      (fun _ after => after = inventory) inventory := by
  refine Prog.Yields.ask may ?_
  intro reply after same
  exact ⟨trivial, Prog.Yields.done same⟩

end Calls

section Programs

variable (provider : AliyunProvider) (inventory : List InstanceAttributes)

theorem releaseDisk_guarded (options : VolumeOptions) {node instanceId : String}
    (own : Targets provider inventory node instanceId) :
    (releaseDisk provider instanceId options.diskId).Yields
      (guarded provider (.attach options node))
      (fun _ after => after = inventory) inventory := by
  refine (getDiskById_guarded provider _ inventory options.diskId).bind ?_
  intro result after looked
  obtain ⟨rfl, named⟩ := looked
  cases result with
  | error failure => exact Prog.Yields.done rfl
  | ok disk =>
      by_cases inUse : disk.status = .inUse
      · by_cases here : disk.instanceId = instanceId
        · simp only [if_pos inUse, if_pos here]
          exact Prog.Yields.done rfl
        · simp only [if_pos inUse, if_neg here]
          -- the holder is read as another instance than the one to attach to
          have may : MayDetach provider after disk.instanceId options.diskId
              (.attach options node) := ⟨rfl, instanceId, own, Ne.symm here⟩
          refine (detachDisk_guarded provider _ after may).bind ?_
          intro reply between same
          subst same
          cases reply with
          | some failure => exact Prog.Yields.done rfl
          | none =>
              refine (waitForDisk_guarded provider _ between _ _ _).bind ?_
              intro waited final same
              exact Prog.Yields.done same
      · simp only [if_neg inUse]
        exact Prog.Yields.done rfl

theorem requestAttachment_guarded (options : VolumeOptions) (node : String) :
    (requestAttachment provider options node).Yields
      (guarded provider (.attach options node))
      (fun _ after => after = inventory) inventory := by
  refine (resolveInstance_guarded provider _ inventory node).bind ?_
  intro result after resolved
  obtain ⟨rfl, target⟩ := resolved
  cases result with
  | error failure => exact Prog.Yields.done rfl
  | ok instanceId =>
      by_cases missing : options.diskId = ""
      · simp only [if_pos missing]
        exact Prog.Yields.done rfl
      · simp only [if_neg missing]
        refine (releaseDisk_guarded provider after options (target instanceId rfl)).bind ?_
        intro early between same
        subst same
        cases early with
        | some result => exact Prog.Yields.done rfl
        | none =>
            refine (attachDisk_guarded provider _ between _).bind ?_
            intro reply final same
            cases reply with
            | some failure => exact Prog.Yields.done same
            | none => exact Prog.Yields.done same

theorem attach_guarded (options : VolumeOptions) (node : String) :
    (attach provider options node).Yields (guarded provider (.attach options node))
      (fun _ after => after = inventory) inventory := by
  refine (requestAttachment_guarded provider inventory options node).bind ?_
  intro request after same
  subst same
  cases request with
  | error result => exact Prog.Yields.done rfl
  | ok diskId =>
      refine (waitForDisk_guarded provider _ after _ _ _).bind ?_
      intro waited waiting same
      subst same
      refine (getDiskById_guarded provider _ waiting diskId).bind ?_
      intro result final looked
      cases result with
      | error failure => exact Prog.Yields.done looked.1
      | ok disk => exact Prog.Yields.done looked.1

theorem detach_guarded (volume node : String) :
    (detach provider volume node).Yields (guarded provider (.detach volume node))
      (fun _ after => after = inventory) inventory := by
  refine (resolveInstance_guarded provider _ inventory node).bind ?_
  intro result after resolved
  obtain ⟨rfl, target⟩ := resolved
  cases result with
  | error failure => exact Prog.Yields.done rfl
  | ok instanceId =>
      refine (getDiskById_guarded provider _ after (Text.base volume)).bind ?_
      intro result seen looked
      obtain ⟨rfl, named⟩ := looked
      cases result with
      | error failure => exact Prog.Yields.done rfl
      | ok disk =>
          simp only
          split
          · exact Prog.Yields.done rfl
          · split
            · exact Prog.Yields.done rfl
            · have may : MayDetach provider seen instanceId disk.diskId
                  (.detach volume node) := ⟨(named disk rfl).symm, target instanceId rfl⟩
              refine (detachDisk_guarded provider _ seen may).bind ?_
              intro reply final same
              cases reply with
              | some failure => exact Prog.Yields.done same
              | none => exact Prog.Yields.done same

theorem isAttached_guarded (options : VolumeOptions) (node : String) :
    (isAttached provider options node).Yields
      (guarded provider (.isAttached options node))
      (fun _ after => after = inventory) inventory := by
  unfold isAttached
  split
  · refine (getInstanceByNodeName_guarded provider _ inventory _).bind ?_
    intro result after looked
    obtain ⟨rfl, -⟩ := looked
    cases result with
    | error failure => exact Prog.Yields.done rfl
    | ok found =>
        by_cases missing : options.diskId = ""
        · simp only [if_pos missing]
          exact Prog.Yields.done rfl
        · simp only [if_neg missing]
          refine (getDiskById_guarded provider _ after options.diskId).bind ?_
          intro result final looked
          cases result with
          | error failure => exact Prog.Yields.done looked.1
          | ok disk => exact Prog.Yields.done looked.1
  · exact Prog.Yields.done rfl

theorem program_guarded (call : DiskCall) :
    (call.program provider).Yields (guarded provider call)
      (fun _ after => after = inventory) inventory := by
  cases call with
  | attach options node => exact attach_guarded provider inventory options node
  | detach volume node => exact detach_guarded provider inventory volume node
  | isAttached options node => exact isAttached_guarded provider inventory options node

end Programs

/-! ## Every interleaving -/

/-- Calls of any providers over one account, each with the choices the service
makes for it. -/
def callPool {ι : Type} (provider : ι → AliyunProvider) (call : ι → DiskCall)
    (choices : ι → Nat → Choice) (account : Account) :
    Pool ι Choice Account Call Reply VolumeError :=
  ⟨fun index => ⟨(call index).program (provider index), choices index⟩, account⟩

theorem visible_step {ι : Type} [DecidableEq ι]
    (pool : Pool ι Choice Account Call Reply VolumeError) (index : ι) :
    (pool.step Account.answer index).state.ecs.visible = pool.state.ecs.visible := by
  rw [Pool.step_state]
  generalize pool.process index = process
  obtain ⟨program, choices⟩ := process
  cases program with
  | done value => rfl
  | crash => rfl
  | ask request next => exact visible_answer _ _ _

theorem visible_runs {ι : Type} [DecidableEq ι]
    (pool : Pool ι Choice Account Call Reply VolumeError) (schedule : List ι) :
    (pool.runs Account.answer schedule).state.ecs.visible = pool.state.ecs.visible := by
  induction schedule generalizing pool with
  | nil => rfl
  | cons index rest ih =>
      exact (ih (pool.step Account.answer index)).trans (visible_step pool index)

/-- In every interleaving of volume calls, a step that takes a disk from an
instance is made by a detachment of that disk from that instance, or by an
attachment of that disk to another instance. -/
theorem removal_by_entitled_call {ι : Type} [DecidableEq ι]
    (provider : ι → AliyunProvider) (call : ι → DiskCall)
    (choices : ι → Nat → Choice) (account : Account) (schedule : List ι) (index : ι)
    (instanceId diskId : String)
    (held : HeldBy ((callPool provider call choices account).runs Account.answer
      schedule).state.ecs instanceId diskId)
    (lost : ¬HeldBy (((callPool provider call choices account).runs Account.answer
      schedule).step Account.answer index).state.ecs instanceId diskId) :
    MayDetach (provider index) account.ecs.visible instanceId diskId (call index) := by
  have meets : (callPool provider call choices account).Meets
      (fun _ account => account.ecs.visible) (fun _ => True)
      (fun index => guarded (provider index) (call index))
      (fun _ outcome after => ∃ value, outcome = some value ∧
        after = account.ecs.visible) :=
    ⟨trivial, fun index => program_guarded (provider index) account.ecs.visible (call index)⟩
  have same : ((callPool provider call choices account).runs Account.answer
      schedule).state.ecs.visible = account.ecs.visible := visible_runs _ schedule
  rcases (meets.runs (calls_isolated provider call) schedule).moves index with
    still | ⟨choice, request, permitted, moved⟩
  · rw [still] at lost
    exact absurd held lost
  · rw [moved] at lost
    have removal := removal_request (diskEffect_of_answer choice _ request) held lost
    subst removal
    rw [same] at permitted
    exact permitted

/-- A detachment of the first disk from the second node, and an attachment that
moves it to the first. -/
def moveDuringDetach : Pool Bool Choice Account Call Reply VolumeError :=
  callPool (fun _ => twoNodes)
    (fun attaching =>
      if attaching then .attach (forDisk "d-1") "node-a" else .detach "d-1" "node-b")
    (fun _ _ => serving fun _ => true) twoDisks

/-- The attachment takes the disk from the second instance, as it may; the
detachment, which has read the disk there before, then leaves it on the first. -/
theorem removal_by_entitled_call_sample :
    MayDetach twoNodes twoDisks.ecs.visible "i-2" "d-1"
      (.attach (forDisk "d-1") "node-a") ∧
    (moveDuringDetach.runs Account.answer
      [false, false, true, true, true, true, true, false]).state.ecs.disk? "d-1" =
        some ⟨"d-1", .inUse, "i-1", "/dev/xvdc"⟩ := by
  have before : (moveDuringDetach.runs Account.answer
      [false, false, true, true]).state.ecs.disk? "d-1" =
        some ⟨"d-1", .inUse, "i-2", "/dev/xvdb"⟩ := by
    decide
  have after : ((moveDuringDetach.runs Account.answer
      [false, false, true, true]).step Account.answer true).state.ecs.disk? "d-1" =
        some ⟨"d-1", .detaching, "i-2", "/dev/xvdb"⟩ := by
    decide
  refine ⟨?_, by decide⟩
  refine removal_by_entitled_call (fun _ : Bool => twoNodes)
    (fun attaching =>
      if attaching then .attach (forDisk "d-1") "node-a" else .detach "d-1" "node-b")
    (fun _ _ => serving fun _ => true) twoDisks [false, false, true, true] true "i-2" "d-1"
    ⟨_, before, rfl, Or.inl rfl⟩ ?_
  rintro ⟨disk, found, -, status⟩
  have same := found.symm.trans after
  cases same
  rcases status with status | status <;> cases status

end KubeAliyun.Volume
