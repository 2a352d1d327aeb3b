import KubeAliyun.Volume.Synchronous

/-!
# Attachment as a map from disks to instances

On a synchronous service the volume operations act on a partial map from disks to
instances: `Attach` sets an entry, `Detach` clears it if it is the caller's, and
`IsAttached` compares it.  This holds along every sequence of calls.
-/

namespace KubeAliyun.Volume

open KubeAliyun.Cloud KubeAliyun.Provider KubeAliyun.Remote

/-! ## The abstract map -/

def holder : Option DiskItem → Option String
  | some disk => if disk.status = .inUse then some disk.instanceId else none
  | none => none

theorem holder_eq_some {found : Option DiskItem} {instanceId : String} :
    holder found = some instanceId ↔
      ∃ disk, found = some disk ∧ disk.status = .inUse ∧ disk.instanceId = instanceId := by
  cases found with
  | none => simp [holder]
  | some disk =>
      by_cases inUse : disk.status = .inUse
      · simp [holder, inUse]
      · simp [holder, inUse]

/-- The disk can be worked with: it is in use or free. -/
def Usable (found : Option DiskItem) : Prop :=
  ∃ disk, found = some disk ∧ (disk.status = .inUse ∨ disk.status = .available)

/-- The node has no instance, or the disk cannot be worked with. -/
def Hopeless (provider : AliyunProvider) (view : SyncView) (node diskId : String) : Prop :=
  (∀ instanceId, Resolves provider view.inventory node instanceId → instanceId = "") ∨
    ¬Usable (view.disk diskId)

/-- At most this disk has changed. -/
def OnlyAt (diskId : String) (view after : SyncView) : Prop :=
  after.inventory = view.inventory ∧
    ∀ other, other ≠ diskId → after.disk other = view.disk other

theorem OnlyAt.refl (diskId : String) (view : SyncView) : OnlyAt diskId view view :=
  ⟨rfl, fun _ _ => rfl⟩

theorem OnlyAt.trans {diskId : String} {first second third : SyncView}
    (left : OnlyAt diskId first second) (right : OnlyAt diskId second third) :
    OnlyAt diskId first third := by
  refine ⟨right.1.trans left.1, ?_⟩
  intro other different
  exact (right.2 other different).trans (left.2 other different)

theorem onlyAt_set (view : SyncView) (diskId : String) (next : DiskItem) :
    OnlyAt diskId view (view.set diskId next) :=
  ⟨rfl, fun _ different => view.set_disk_other next different⟩

section Changes

variable {view after : SyncView} {instanceId diskId : String}

theorem attaches_onlyAt (attaches : view.Attaches instanceId diskId after) :
    OnlyAt diskId view after := by
  obtain ⟨disk, device, -, -, rfl⟩ := attaches
  exact onlyAt_set view diskId _

/-- An attached disk is in use on the instance. -/
theorem attaches_disk (attaches : view.Attaches instanceId diskId after) :
    ∃ disk, after.disk diskId = some disk ∧ disk.status = .inUse ∧
      disk.instanceId = instanceId := by
  obtain ⟨disk, device, -, -, rfl⟩ := attaches
  exact ⟨_, view.set_disk_self diskId _, rfl, rfl⟩

theorem detaches_onlyAt (detaches : view.Detaches instanceId diskId after) :
    OnlyAt diskId view after := by
  obtain ⟨disk, -, -, -, rfl⟩ := detaches
  exact onlyAt_set view diskId _

/-- A detached disk is free. -/
theorem detaches_disk (detaches : view.Detaches instanceId diskId after) :
    ∃ disk, after.disk diskId = some disk ∧ disk.status = .available := by
  obtain ⟨disk, -, -, -, rfl⟩ := detaches
  exact ⟨_, view.set_disk_self diskId _, rfl⟩

theorem detaches_holder (detaches : view.Detaches instanceId diskId after) :
    holder (after.disk diskId) = none := by
  obtain ⟨disk, found, free⟩ := detaches_disk detaches
  rw [found]
  simp [holder, free]

theorem detaches_held (detaches : view.Detaches instanceId diskId after) :
    holder (view.disk diskId) = some instanceId := by
  obtain ⟨disk, found, inUse, here, -⟩ := detaches
  exact holder_eq_some.mpr ⟨disk, found, inUse, here⟩

end Changes

/-! ## Attach -/

inductive SyncReleased (faulty : Prop) (view : SyncView) (instanceId diskId : String) :
    Option VolumeError → SyncView → Prop where
  | already {disk : DiskItem} (found : view.disk diskId = some disk)
      (inUse : disk.status = .inUse) (here : disk.instanceId = instanceId) :
      SyncReleased faulty view instanceId diskId (some (attachedAt disk)) view
  | unread {failure : VolumeError} (failed : failure.status = statusFailure)
      (cause : faulty ∨ view.disk diskId = none) :
      SyncReleased faulty view instanceId diskId (some failure) view
  | refused {failure : VolumeError} (failed : failure.status = statusFailure)
      (fault : faulty) {after : SyncView}
      (moved : after = view ∨ ∃ owner, view.Detaches owner diskId after) :
      SyncReleased faulty view instanceId diskId (some failure) after
  | idle {disk : DiskItem} (found : view.disk diskId = some disk)
      (unused : disk.status ≠ .inUse) :
      SyncReleased faulty view instanceId diskId none view
  | freed {after : SyncView} {owner : String} (moved : view.Detaches owner diskId after) :
      SyncReleased faulty view instanceId diskId none after

section Operations

variable {faulty : Prop} {provider : AliyunProvider} {view : SyncView}

theorem releaseDisk_sync (instanceId diskId : String) :
    (releaseDisk provider instanceId diskId).Yields (synchronous faulty)
      (SyncReleased faulty view instanceId diskId) view := by
  refine (getDiskById_sync provider view diskId).bind ?_
  intro result after looked
  obtain ⟨rfl, looked⟩ := looked
  cases looked with
  | failed cause => exact Prog.Yields.done (.unread rfl cause)
  | @seen disk shown =>
      by_cases inUse : disk.status = .inUse
      · by_cases here : disk.instanceId = instanceId
        · simp only [if_pos inUse, if_pos here]
          exact Prog.Yields.done (.already shown inUse here)
        · simp only [if_pos inUse, if_neg here]
          refine (detachDisk_sync after disk.instanceId diskId).bind ?_
          intro reply moved changed
          cases reply with
          | some failure =>
              rcases changed with ⟨same, fault | impossible⟩ | ⟨fault, detached⟩
              · exact Prog.Yields.done (.refused rfl fault (Or.inl same))
              · exact absurd ⟨disk, shown, inUse, rfl, rfl⟩ (impossible _)
              · exact Prog.Yields.done (.refused rfl fault (Or.inr ⟨_, detached⟩))
          | none =>
              refine (waitForDisk_sync moved provider.region diskId .available).bind ?_
              intro waited final same
              rw [same]
              exact Prog.Yields.done (.freed changed)
      · simp only [if_neg inUse]
        exact Prog.Yields.done (.idle shown inUse)

/-- What `Attach` may do: it succeeds with the disk in use on the instance of the
node, or it fails, and then without a fault it had no way to succeed and changed
nothing. -/
inductive SyncAttached (faulty : Prop) (provider : AliyunProvider) (view : SyncView)
    (node diskId : String) : VolumeError → SyncView → Prop where
  | done {result : VolumeError} {after : SyncView} {instanceId : String}
      {disk : DiskItem} (success : result.status = statusSuccess)
      (known : Resolves provider view.inventory node instanceId)
      (found : after.disk diskId = some disk) (inUse : disk.status = .inUse)
      (here : disk.instanceId = instanceId)
      (path : result.devicePath = deviceApi2Local disk.device)
      (only : OnlyAt diskId view after) :
      SyncAttached faulty provider view node diskId result after
  | failed {result : VolumeError} {after : SyncView}
      (failure : result.status = statusFailure)
      (cause : faulty ∨ after = view ∧ Hopeless provider view node diskId)
      (only : OnlyAt diskId view after)
      (left : holder (after.disk diskId) = holder (view.disk diskId) ∨
        holder (after.disk diskId) = none ∨
        ∃ instanceId, Resolves provider view.inventory node instanceId ∧
          holder (after.disk diskId) = some instanceId) :
      SyncAttached faulty provider view node diskId result after

theorem hopeless_of_missing {node diskId : String} (missing : view.disk diskId = none) :
    Hopeless provider view node diskId := by
  refine Or.inr ?_
  rintro ⟨disk, shown, -⟩
  rw [missing] at shown
  cases shown

/-- A failure that has left everything as it was. -/
theorem syncAttached_unchanged {node diskId : String} {result : VolumeError}
    (failure : result.status = statusFailure)
    (cause : faulty ∨ Hopeless provider view node diskId) :
    SyncAttached faulty provider view node diskId result view := by
  refine .failed failure ?_ (OnlyAt.refl diskId view) (Or.inl rfl)
  rcases cause with fault | hopeless
  · exact Or.inl fault
  · exact Or.inr ⟨rfl, hopeless⟩

/-- The last call of `Attach` that changes anything, on a disk that is free or was
freed before. -/
theorem attachDisk_attached {node instanceId diskId : String} {between after : SyncView}
    (known : Resolves provider view.inventory node instanceId)
    (only : OnlyAt diskId view between)
    (ready : between = view ∧ (∃ disk, view.disk diskId = some disk ∧
        disk.status ≠ .inUse) ∨
      ∃ disk, between.disk diskId = some disk ∧ disk.status = .available)
    {failure : ApiError}
    (changed : ChangeReply faulty between (between.Attaches instanceId diskId)
      (some failure) after) (result : VolumeError) (status : result.status = statusFailure) :
    SyncAttached faulty provider view node diskId result after := by
  rcases changed with ⟨same, fault | impossible⟩ | ⟨fault, attached⟩
  · subst same
    refine .failed status (Or.inl fault) only ?_
    rcases ready with ⟨same, -⟩ | ⟨disk, found, free⟩
    · exact Or.inl (by rw [same])
    · exact Or.inr (Or.inl (by rw [found]; simp [holder, free]))
  · subst same
    rcases ready with ⟨same, disk, found, unused⟩ | ⟨disk, found, free⟩
    · subst same
      refine syncAttached_unchanged status (Or.inr (Or.inr ?_))
      rintro ⟨other, shown, inUse | free⟩
      · rw [found] at shown
        cases shown
        exact unused inUse
      · exact impossible _ ⟨other, "", shown, free, rfl⟩
    · exact absurd ⟨disk, "", found, free, rfl⟩ (impossible _)
  · obtain ⟨disk, found, inUse, here⟩ := attaches_disk attached
    refine .failed status (Or.inl fault) (only.trans (attaches_onlyAt attached)) ?_
    exact Or.inr (Or.inr ⟨instanceId, known, holder_eq_some.mpr ⟨disk, found, inUse, here⟩⟩)

/-- How far `Attach` has come when `AttachDisk` has been answered. -/
inductive SyncRequested (faulty : Prop) (provider : AliyunProvider) (view : SyncView)
    (node diskId : String) : Except VolumeError String → SyncView → Prop where
  | ended {result : VolumeError} {after : SyncView}
      (attached : SyncAttached faulty provider view node diskId result after) :
      SyncRequested faulty provider view node diskId (.error result) after
  | accepted {after : SyncView} {instanceId : String} {disk : DiskItem}
      (known : Resolves provider view.inventory node instanceId)
      (found : after.disk diskId = some disk) (inUse : disk.status = .inUse)
      (here : disk.instanceId = instanceId) (only : OnlyAt diskId view after) :
      SyncRequested faulty provider view node diskId (.ok diskId) after

/-- `AttachDisk` on a disk that is free or was freed before, and what is made of its
answer. -/
theorem attachDisk_requested {node : String} {args : AttachDiskArgs} {between : SyncView}
    (known : Resolves provider view.inventory node args.instanceId)
    (only : OnlyAt args.diskId view between)
    (ready : between = view ∧ (∃ disk, view.disk args.diskId = some disk ∧
        disk.status ≠ .inUse) ∨
      ∃ disk, between.disk args.diskId = some disk ∧ disk.status = .available)
    {next : Option ApiError → Aliyun (Except VolumeError String)}
    (failed : ∀ failure, next (some failure) =
      .done (.error (newVolumeError (ApiError.text failure))))
    (accepted : next none = .done (.ok args.diskId)) :
    (attachDisk args >>= next).Yields (synchronous faulty)
      (SyncRequested faulty provider view node args.diskId) between := by
  refine (attachDisk_sync between args).bind ?_
  intro reply after changed
  cases reply with
  | some failure =>
      rw [failed]
      exact Prog.Yields.done (.ended (attachDisk_attached known only ready changed _ rfl))
  | none =>
      obtain ⟨disk, shown, inUse, here⟩ := attaches_disk changed
      rw [accepted]
      exact Prog.Yields.done (.accepted known shown inUse here
        (only.trans (attaches_onlyAt changed)))

theorem requestAttachment_sync {options : VolumeOptions} {node : String}
    (named : node ≠ "") (present : options.diskId ≠ "") :
    (requestAttachment provider options node).Yields (synchronous faulty)
      (SyncRequested faulty provider view node options.diskId) view := by
  refine (resolveInstance_sync provider view named).bind ?_
  intro result after resolved
  obtain ⟨rfl, resolved⟩ := resolved
  cases resolved with
  | failed status cause =>
      refine Prog.Yields.done (.ended (syncAttached_unchanged status ?_))
      exact cause.imp_right Or.inl
  | @found instanceId known =>
      simp only [if_neg present]
      refine (releaseDisk_sync instanceId options.diskId).bind ?_
      intro early between released
      cases released with
      | already found inUse here =>
          exact Prog.Yields.done (.ended (.done rfl known found inUse here rfl
            (OnlyAt.refl _ _)))
      | unread failed cause =>
          exact Prog.Yields.done (.ended (syncAttached_unchanged failed
            (cause.imp_right hopeless_of_missing)))
      | refused failed fault moved =>
          rcases moved with same | ⟨owner, detached⟩
          · subst same
            exact Prog.Yields.done (.ended (syncAttached_unchanged failed (Or.inl fault)))
          · exact Prog.Yields.done (.ended (.failed failed (Or.inl fault)
              (detaches_onlyAt detached) (Or.inr (Or.inl (detaches_holder detached)))))
      | idle found unused =>
          exact attachDisk_requested known (OnlyAt.refl _ _) (Or.inl ⟨rfl, _, found, unused⟩)
            (fun _ => rfl) rfl
      | freed detached =>
          exact attachDisk_requested known (detaches_onlyAt detached)
            (Or.inr (detaches_disk detached)) (fun _ => rfl) rfl

theorem attach_sync {options : VolumeOptions} {node : String}
    (named : node ≠ "") (present : options.diskId ≠ "") :
    (attach provider options node).Yields (synchronous faulty)
      (SyncAttached faulty provider view node options.diskId) view := by
  refine (requestAttachment_sync named present).bind ?_
  intro request after requested
  cases requested with
  | ended attached => exact Prog.Yields.done attached
  | @accepted _ instanceId disk known found inUse here only =>
      refine (waitForDisk_sync after provider.region options.diskId .inUse).bind ?_
      intro waited waiting same
      subst same
      refine (getDiskById_sync provider waiting options.diskId).bind ?_
      intro result final looked
      obtain ⟨rfl, looked⟩ := looked
      cases looked with
      | seen shown =>
          rw [found] at shown
          cases shown
          exact Prog.Yields.done (.done rfl known found inUse here rfl only)
      | failed cause =>
          have fault := cause.resolve_right (by rw [found]; simp)
          refine Prog.Yields.done (.failed rfl (Or.inl fault) only ?_)
          exact Or.inr (Or.inr ⟨instanceId, known,
            holder_eq_some.mpr ⟨disk, found, inUse, here⟩⟩)

/-! ## Detach -/

/-- What `Detach` may do: it takes the disk from the instance of the node, or
leaves it because another instance or none holds it, or fails. -/
inductive SyncDetached (faulty : Prop) (provider : AliyunProvider) (view : SyncView)
    (node diskId : String) : VolumeError → SyncView → Prop where
  | taken {result : VolumeError} {after : SyncView} {instanceId : String}
      (success : result.status = statusSuccess)
      (known : Resolves provider view.inventory node instanceId)
      (detached : view.Detaches instanceId diskId after) :
      SyncDetached faulty provider view node diskId result after
  | left {result : VolumeError} {instanceId : String}
      (success : result.status = statusSuccess)
      (known : Resolves provider view.inventory node instanceId)
      (elsewhere : holder (view.disk diskId) ≠ some instanceId) :
      SyncDetached faulty provider view node diskId result view
  | failed {result : VolumeError} (failure : result.status = statusFailure)
      (cause : faulty ∨ Hopeless provider view node diskId) :
      SyncDetached faulty provider view node diskId result view
  | unanswered {result : VolumeError} {after : SyncView} {instanceId : String}
      (failure : result.status = statusFailure) (fault : faulty)
      (known : Resolves provider view.inventory node instanceId)
      (detached : view.Detaches instanceId diskId after) :
      SyncDetached faulty provider view node diskId result after

/-- The views of an account name each disk by its own id. -/
def SyncView.Named (view : SyncView) : Prop :=
  ∀ diskId disk, view.disk diskId = some disk → disk.diskId = diskId

theorem detach_sync (named : view.Named) {volume node diskId : String}
    (nodeNamed : node ≠ "") (base : Text.base volume = diskId) :
    (detach provider volume node).Yields (synchronous faulty)
      (SyncDetached faulty provider view node diskId) view := by
  refine (resolveInstance_sync provider view nodeNamed).bind ?_
  intro result after resolved
  obtain ⟨rfl, resolved⟩ := resolved
  cases resolved with
  | failed status cause => exact Prog.Yields.done (.failed status (cause.imp_right Or.inl))
  | @found instanceId known =>
      rw [base]
      refine (getDiskById_sync provider after diskId).bind ?_
      intro result seen looked
      obtain ⟨rfl, looked⟩ := looked
      cases looked with
      | failed cause =>
          exact Prog.Yields.done (.failed rfl (cause.imp_right hopeless_of_missing))
      | @seen disk shown =>
          by_cases free : disk.status = .detaching ∨ disk.status = .available
          · simp only [if_pos free]
            refine Prog.Yields.done (.left rfl known ?_)
            intro held
            obtain ⟨other, found, inUse, -⟩ := holder_eq_some.mp held
            rw [shown] at found
            cases found
            rw [inUse] at free
            rcases free with free | free <;> cases free
          · simp only [if_neg free]
            by_cases here : disk.instanceId = instanceId
            · rw [if_neg (not_not.mpr here), named diskId disk shown]
              refine (detachDisk_sync seen instanceId diskId).bind ?_
              intro reply final changed
              cases reply with
              | none => exact Prog.Yields.done (.taken rfl known changed)
              | some failure =>
                  rcases changed with ⟨same, cause⟩ | ⟨fault, detached⟩
                  · subst same
                    refine Prog.Yields.done (.failed rfl (cause.imp_right fun impossible =>
                      Or.inr ?_))
                    rintro ⟨other, found, usable⟩
                    rw [shown] at found
                    cases found
                    rcases usable with inUse | available
                    · exact impossible _ ⟨disk, shown, inUse, here, rfl⟩
                    · exact free (Or.inr available)
                  · exact Prog.Yields.done (.unanswered rfl fault known detached)
            · rw [if_pos here]
              refine Prog.Yields.done (.left rfl known ?_)
              intro held
              obtain ⟨other, found, -, same⟩ := holder_eq_some.mp held
              rw [shown] at found
              cases found
              exact here same

/-! ## IsAttached -/

inductive SyncReported (faulty : Prop) (provider : AliyunProvider) (view : SyncView)
    (node diskId : String) : VolumeError → Prop where
  | told {result : VolumeError} {instanceId : String}
      (success : result.status = statusSuccess)
      (known : Resolves provider view.inventory node instanceId)
      (exact : result.attached = true ↔ holder (view.disk diskId) = some instanceId) :
      SyncReported faulty provider view node diskId result
  | failed {result : VolumeError} (failure : result.status = statusFailure)
      (cause : faulty ∨ Hopeless provider view node diskId) :
      SyncReported faulty provider view node diskId result

theorem isAttached_sync (authorized : provider.authorized) {options : VolumeOptions}
    {node : String} (remote : node ≠ "localhost") (present : options.diskId ≠ "") :
    (isAttached provider options node).Yields (synchronous faulty)
      (fun result after => after = view ∧
        SyncReported faulty provider view node options.diskId result) view := by
  have program : isAttached provider options node =
      getInstanceByNodeName provider (queriedNode provider node) >>= _ := if_pos authorized
  have same : queriedNode provider node = node := if_neg remote
  rw [program, same]
  refine (getInstanceByNodeName_sync provider view node).bind ?_
  intro result after looked
  obtain ⟨rfl, found | ⟨fault, failure, rfl⟩⟩ := looked
  · cases result with
    | error failure =>
        refine Prog.Yields.done ⟨rfl, .failed rfl (Or.inr (Or.inl ?_))⟩
        rintro instanceId ⟨attributes, known, -⟩
        rw [← found] at known
        cases known
    | ok attributes =>
        simp only [if_neg present]
        refine (getDiskById_sync provider after options.diskId).bind ?_
        intro result final looked
        obtain ⟨rfl, looked⟩ := looked
        cases looked with
        | failed cause =>
            exact Prog.Yields.done ⟨rfl, .failed rfl (cause.imp_right hopeless_of_missing)⟩
        | @seen disk shown =>
            refine Prog.Yields.done ⟨rfl, .told rfl ⟨attributes, found.symm, rfl⟩ ?_⟩
            rw [holder_eq_some, shown]
            simp only [decide_eq_true_eq]
            constructor
            · intro held
              exact ⟨disk, rfl, held.2, held.1⟩
            · rintro ⟨other, equal, inUse, here⟩
              cases equal
              exact ⟨here, inUse⟩
  · exact Prog.Yields.done ⟨rfl, .failed rfl (Or.inl fault)⟩

end Operations

/-! ## Sequences of calls -/

namespace DiskCall

/-- The call is about this disk: the options name it, or the volume is the name
`GetVolumeName` returns for it, or a path that ends in it. -/
def Names : DiskCall → String → Prop
  | .attach options _, diskId => options.diskId = diskId
  | .isAttached options _, diskId => options.diskId = diskId
  | .detach volume _, diskId =>
      (∃ shown options, options.diskId = diskId ∧ getVolumeName shown options =
        .done { newVolumeSuccess with volumeName := volume }) ∨
      ∃ front, volume = front ++ "/" ++ diskId

/-- The call is about this disk, whose id is not empty and has no slash, and
about a named node. -/
structure Valid (call : DiskCall) (diskId : String) : Prop where
  names : call.Names diskId
  present : diskId ≠ ""
  noSlash : '/' ∉ diskId.toList
  named : call.node ≠ ""
  remote : call.node ≠ "localhost"

end DiskCall

/-- One call of a sequence, with the choices the service makes for it. -/
structure Performed where
  call : DiskCall
  choices : Nat → Choice
  before : Account
  run : Run Choice Account Call Reply VolumeError

def performAll (provider : AliyunProvider) :
    List (DiskCall × (Nat → Choice)) → Account → List Performed
  | [], _ => []
  | (call, choices) :: rest, account =>
      let run := (call.program provider).run Account.answer choices account
      ⟨call, choices, account, run⟩ :: performAll provider rest run.state

/-- The abstract state: which instance, if any, each disk is attached to. -/
def attachments (account : Account) : String → Option String :=
  fun diskId => holder ((syncView account).disk diskId)

/-- What a call that returned `result` may have done to the abstract map. -/
def AbstractStep (known : String → Prop) (faultless : Prop) (diskId : String)
    (result : VolumeError) (before after : String → Option String) : DiskCall → Prop
  | .attach _ _ =>
      (result.status = statusSuccess → ∃ instanceId, known instanceId ∧
        after = Function.update before diskId (some instanceId)) ∧
      (result.status ≠ statusSuccess → (faultless → after = before) ∧
        (after = before ∨ after = Function.update before diskId none ∨
          ∃ instanceId, known instanceId ∧
            after = Function.update before diskId (some instanceId)))
  | .detach _ _ =>
      (result.status = statusSuccess → ∃ instanceId, known instanceId ∧
        after = if before diskId = some instanceId then
          Function.update before diskId none else before) ∧
      (result.status ≠ statusSuccess → (faultless → after = before) ∧
        (after = before ∨ ∃ instanceId, known instanceId ∧
          before diskId = some instanceId ∧
          after = Function.update before diskId none))
  | .isAttached _ _ =>
      after = before ∧ (result.status = statusSuccess → ∃ instanceId,
        known instanceId ∧ (result.attached = true ↔ before diskId = some instanceId))

namespace Performed

def Faultless (performed : Performed) : Prop :=
  ∀ index, (performed.choices index).fate = .served

/-- A call returns, steps the abstract map, reports the device of a disk it has
attached, and succeeds when the service serves it, its node has an instance and
its disk is in use or free. -/
def Refines (provider : AliyunProvider) (inventory : List InstanceAttributes)
    (diskId : String) (performed : Performed) : Prop :=
  ∃ result, performed.run.outcome = some result ∧
    AbstractStep (Resolves provider inventory performed.call.node) performed.Faultless
      diskId result (attachments performed.before) (attachments performed.run.state)
      performed.call ∧
    (∀ options node, performed.call = .attach options node →
      result.status = statusSuccess → ∃ disk,
        (syncView performed.run.state).disk diskId = some disk ∧
        result.devicePath = deviceApi2Local disk.device) ∧
    (performed.Faultless →
      (∃ instanceId, Resolves provider inventory performed.call.node instanceId ∧
        instanceId ≠ "") →
      Usable ((syncView performed.before).disk diskId) →
      result.status = statusSuccess)

end Performed

theorem syncView_named (account : Account) : (syncView account).Named := by
  intro diskId disk shown
  obtain ⟨before, found, same⟩ := Option.map_eq_some_iff.mp shown
  rw [← same, DiskItem.settle_diskId, Ecs.disk?_diskId found]

/-- A change of one disk, seen on the map. -/
theorem holder_onlyAt {diskId : String} {view after : SyncView}
    (only : OnlyAt diskId view after) :
    (fun other => holder (after.disk other)) =
      Function.update (fun other => holder (view.disk other)) diskId
        (holder (after.disk diskId)) := by
  funext other
  by_cases same : other = diskId
  · subst same
    rw [Function.update_self]
  · rw [Function.update_of_ne same, only.2 other same]

theorem Hopeless.elim {provider : AliyunProvider} {view : SyncView}
    {node diskId : String} (hopeless : Hopeless provider view node diskId)
    (resolves : ∃ instanceId, Resolves provider view.inventory node instanceId ∧
      instanceId ≠ "") (usable : Usable (view.disk diskId)) : False := by
  obtain ⟨instanceId, known, present⟩ := resolves
  rcases hopeless with unresolved | unusable
  · exact present (unresolved instanceId known)
  · exact unusable usable

section Calls

variable {provider : AliyunProvider} {account : Account} {choices : Nat → Choice}

/-- A specification for a service with or without faults, on one run of a
synchronous service. -/
theorem yields_run (account : Account) {program : Aliyun VolumeError}
    (good : Prop → VolumeError → SyncView → Prop)
    (prompt : ∀ index diskId, (choices index).settles diskId = true)
    (yields : ∀ faulty, program.Yields (synchronous faulty) (good faulty)
      (syncView account)) :
    ∃ result, (program.run Account.answer choices account).outcome = some result ∧
      good (¬∀ index, (choices index).fate = .served) result
        (syncView (program.run Account.answer choices account).state) := by
  refine (Prog.Ensures.run (synchronous_refines _) (yields _) ?_ trivial).2.1
  intro index
  refine ⟨prompt index, ?_⟩
  by_cases faultless : ∀ index, (choices index).fate = .served
  · exact Or.inr (faultless index)
  · exact Or.inl faultless

theorem success_ne_failure {result : VolumeError} (failure : result.status = statusFailure) :
    result.status ≠ statusSuccess := by
  rw [failure]
  decide

/-- A disk the operations have left in use, on the map. -/
theorem attachments_set {before after : Account} {diskId : String} {held : Option String}
    (only : OnlyAt diskId (syncView before) (syncView after))
    (shown : holder ((syncView after).disk diskId) = held) :
    attachments after = Function.update (attachments before) diskId held := by
  rw [← shown]
  exact holder_onlyAt only

theorem attachments_same {before after : Account} (same : syncView after = syncView before) :
    attachments after = attachments before := by
  unfold attachments
  rw [same]

theorem attach_refines {options : VolumeOptions} {node diskId : String}
    (valid : (DiskCall.attach options node).Valid diskId)
    (prompt : ∀ index diskId, (choices index).settles diskId = true) :
    Performed.Refines provider account.ecs.visible diskId
        ⟨.attach options node, choices, account,
          (attach provider options node).run Account.answer choices account⟩ ∧
      ((attach provider options node).run Account.answer choices
        account).state.ecs.visible = account.ecs.visible := by
  obtain ⟨names, present, -, named, -⟩ := valid
  have names : options.diskId = diskId := names
  subst names
  obtain ⟨result, outcome, attached⟩ := yields_run account
    (fun faulty => SyncAttached faulty provider (syncView account) node options.diskId)
    prompt (fun faulty => attach_sync named present)
  cases attached with
  | done success known found inUse here path only =>
      refine ⟨⟨result, outcome, ⟨?_, ?_⟩, ?_, fun _ _ _ => success⟩, only.1⟩
      · intro _
        exact ⟨_, known, attachments_set only
          (holder_eq_some.mpr ⟨_, found, inUse, here⟩)⟩
      · intro unsuccessful
        exact absurd success unsuccessful
      · intro _ _ _ _
        exact ⟨_, found, path⟩
  | failed failure cause only left =>
      have unsuccessful := success_ne_failure failure
      refine ⟨⟨result, outcome, ⟨?_, ?_⟩, ?_, ?_⟩, only.1⟩
      · intro success
        exact absurd success unsuccessful
      · intro _
        constructor
        · intro faultless
          exact attachments_same (cause.resolve_left (not_not.mpr faultless)).1
        · rcases left with same | free | ⟨instanceId, known, held⟩
          · refine Or.inl ((attachments_set only same).trans ?_)
            exact Function.update_eq_self options.diskId (attachments account)
          · exact Or.inr (Or.inl (attachments_set only free))
          · exact Or.inr (Or.inr ⟨instanceId, known, attachments_set only held⟩)
      · intro _ _ _ success
        exact absurd success unsuccessful
      · intro faultless resolves usable
        exact ((cause.resolve_left (not_not.mpr faultless)).2.elim resolves usable).elim

theorem names_base {volume node diskId : String}
    (valid : (DiskCall.detach volume node).Valid diskId) : Text.base volume = diskId := by
  obtain ⟨names, present, noSlash, -, -⟩ := valid
  refine Text.base_of_ends present noSlash ?_
  rcases names with ⟨shown, options, named, returned⟩ | ending
  · refine Or.inl ?_
    rw [getVolumeName, if_neg (by rw [named]; exact present)] at returned
    have volumes := congrArg VolumeError.volumeName (Prog.done.inj returned)
    rw [← named]
    exact volumes.symm
  · exact Or.inr ending

theorem detach_refines {volume node diskId : String}
    (valid : (DiskCall.detach volume node).Valid diskId)
    (prompt : ∀ index diskId, (choices index).settles diskId = true) :
    Performed.Refines provider account.ecs.visible diskId
        ⟨.detach volume node, choices, account,
          (detach provider volume node).run Account.answer choices account⟩ ∧
      ((detach provider volume node).run Account.answer choices
        account).state.ecs.visible = account.ecs.visible := by
  obtain ⟨result, outcome, detached⟩ := yields_run account
    (fun faulty => SyncDetached faulty provider (syncView account) node diskId)
    prompt (fun faulty => detach_sync (syncView_named account) valid.named (names_base valid))
  generalize view : syncView ((detach provider volume node).run Account.answer choices
    account).state = after at detached
  have noAttach : ∀ options other, DiskCall.detach volume node = .attach options other →
      result.status = statusSuccess → ∃ disk,
        (syncView ((detach provider volume node).run Account.answer choices
          account).state).disk diskId = some disk ∧
        result.devicePath = deviceApi2Local disk.device := by
    intro _ _ impossible
    cases impossible
  cases detached with
  | taken success known detached =>
      subst view
      have held : attachments account diskId = some _ := detaches_held detached
      have map := attachments_set (detaches_onlyAt detached) (detaches_holder detached)
      refine ⟨⟨result, outcome, ⟨?_, fun unsuccessful => absurd success unsuccessful⟩,
        noAttach, fun _ _ _ => success⟩, (detaches_onlyAt detached).1⟩
      intro _
      exact ⟨_, known, by rw [if_pos held]; exact map⟩
  | left success known elsewhere =>
      have map := attachments_same view
      refine ⟨⟨result, outcome, ⟨?_, fun unsuccessful => absurd success unsuccessful⟩,
        noAttach, fun _ _ _ => success⟩, congrArg SyncView.inventory view⟩
      intro _
      have apart : attachments account diskId ≠ some _ := elsewhere
      exact ⟨_, known, by rw [if_neg apart]; exact map⟩
  | failed failure cause =>
      have unsuccessful := success_ne_failure failure
      have map := attachments_same view
      refine ⟨⟨result, outcome, ⟨fun success => absurd success unsuccessful, ?_⟩,
        noAttach, ?_⟩, congrArg SyncView.inventory view⟩
      · intro _
        exact ⟨fun _ => map, Or.inl map⟩
      · intro faultless resolves usable
        exact ((cause.resolve_left (not_not.mpr faultless)).elim resolves usable).elim
  | unanswered failure fault known detached =>
      subst view
      have unsuccessful := success_ne_failure failure
      have map := attachments_set (detaches_onlyAt detached) (detaches_holder detached)
      refine ⟨⟨result, outcome, ⟨fun success => absurd success unsuccessful, ?_⟩,
        noAttach, fun faultless => absurd faultless fault⟩, (detaches_onlyAt detached).1⟩
      intro _
      refine ⟨fun faultless => absurd faultless fault, Or.inr ⟨_, known, ?_, map⟩⟩
      exact detaches_held detached

theorem isAttached_refines (authorized : provider.authorized) {options : VolumeOptions}
    {node diskId : String} (valid : (DiskCall.isAttached options node).Valid diskId)
    (prompt : ∀ index diskId, (choices index).settles diskId = true) :
    Performed.Refines provider account.ecs.visible diskId
        ⟨.isAttached options node, choices, account,
          (isAttached provider options node).run Account.answer choices account⟩ ∧
      ((isAttached provider options node).run Account.answer choices
        account).state.ecs.visible = account.ecs.visible := by
  obtain ⟨names, present, -, -, remote⟩ := valid
  have names : options.diskId = diskId := names
  subst names
  obtain ⟨result, outcome, view, reported⟩ := yields_run account
    (fun faulty result after => after = syncView account ∧
      SyncReported faulty provider (syncView account) node options.diskId result)
    prompt (fun faulty => isAttached_sync authorized remote present)
  have map := attachments_same view
  refine ⟨⟨result, outcome, ⟨map, ?_⟩, ?_, ?_⟩, congrArg SyncView.inventory view⟩
  · intro success
    cases reported with
    | told _ known exact => exact ⟨_, known, exact⟩
    | failed failure cause => exact absurd success (success_ne_failure failure)
  · intro _ _ impossible
    cases impossible
  · intro faultless resolves usable
    cases reported with
    | told success _ _ => exact success
    | failed failure cause =>
        exact ((cause.resolve_left (not_not.mpr faultless)).elim resolves usable).elim

end Calls

/-- Along every sequence of calls on a synchronous service, `Attach`, `Detach` and
`IsAttached` act on the map from disks to instances. -/
theorem disk_calls_refine_map (provider : AliyunProvider)
    (authorized : provider.authorized) (account : Account)
    (calls : List (DiskCall × (Nat → Choice)))
    (valid : ∀ entry ∈ calls, ∃ diskId, entry.1.Valid diskId)
    (prompt : ∀ entry ∈ calls, ∀ index diskId, (entry.2 index).settles diskId = true) :
    ∀ performed ∈ performAll provider calls account, ∀ diskId,
      performed.call.Valid diskId →
      performed.Refines provider account.ecs.visible diskId := by
  induction calls generalizing account with
  | nil =>
      intro performed member
      cases member
  | cons entry rest ih =>
      obtain ⟨call, choices⟩ := entry
      have first : ∀ diskId, call.Valid diskId →
          Performed.Refines provider account.ecs.visible diskId
            ⟨call, choices, account,
              (call.program provider).run Account.answer choices account⟩ ∧
          ((call.program provider).run Account.answer choices
            account).state.ecs.visible = account.ecs.visible := by
        intro diskId valid
        have promptFirst := prompt (call, choices) List.mem_cons_self
        cases call with
        | attach options node => exact attach_refines valid promptFirst
        | detach volume node => exact detach_refines valid promptFirst
        | isAttached options node => exact isAttached_refines authorized valid promptFirst
      intro performed member diskId named
      rcases List.mem_cons.mp member with rfl | later
      · exact (first diskId named).1
      · obtain ⟨own, ownValid⟩ := valid (call, choices) List.mem_cons_self
        have same := (first own ownValid).2
        rw [← same]
        exact ih _ (fun entry inside => valid entry (List.mem_cons_of_mem _ inside))
          (fun entry inside => prompt entry (List.mem_cons_of_mem _ inside))
          performed later diskId named

/-- The first disk is moved to the first node, and given up by both. -/
def moveAndRelease : List (DiskCall × (Nat → Choice)) :=
  [.attach (forDisk "d-1") "node-a", .isAttached (forDisk "d-1") "node-a",
    .detach "volumes/d-1" "node-b", .detach "d-1" "node-a"].map
      fun call => (call, fun _ => serving fun _ => true)

theorem moveAndRelease_valid :
    ∀ entry ∈ moveAndRelease, ∃ diskId, entry.1.Valid diskId := by
  intro entry member
  refine ⟨"d-1", ?_⟩
  obtain ⟨call, inside, rfl⟩ := List.mem_map.mp member
  simp only [List.mem_cons, List.not_mem_nil, or_false] at inside
  rcases inside with rfl | rfl | rfl | rfl
  · exact ⟨rfl, by decide, by decide, by decide, by decide⟩
  · exact ⟨rfl, by decide, by decide, by decide, by decide⟩
  · exact ⟨Or.inr ⟨"volumes", rfl⟩, by decide, by decide, by decide, by decide⟩
  · exact ⟨Or.inl ⟨"", forDisk "d-1", rfl, rfl⟩, by decide, by decide, by decide, by decide⟩

theorem disk_calls_refine_map_sample :
    (performAll twoNodes moveAndRelease twoDisks).map (fun performed =>
        (performed.run.outcome.map VolumeError.status,
          attachments performed.run.state "d-1")) =
      [(some "Success", some "i-1"), (some "Success", some "i-1"),
        (some "Success", some "i-1"), (some "Success", none)] ∧
    ∀ performed ∈ performAll twoNodes moveAndRelease twoDisks, ∀ diskId,
      performed.call.Valid diskId →
      performed.Refines twoNodes twoDisks.ecs.visible diskId := by
  refine ⟨by decide, ?_⟩
  refine disk_calls_refine_map twoNodes (by decide) twoDisks moveAndRelease
    moveAndRelease_valid ?_
  intro entry member index diskId
  obtain ⟨call, -, rfl⟩ := List.mem_map.mp member
  rfl

end KubeAliyun.Volume
