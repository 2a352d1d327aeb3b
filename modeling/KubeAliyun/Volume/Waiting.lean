import KubeAliyun.Volume.Attachment

/-!
# What a successful wait says

`WaitForAttach` waits until the disk is in use.  It does not ask where, and its success
carries no device path: the promise that the disk is attached here, at the path in the
result, is kept only where no wait can succeed.
-/

namespace KubeAliyun.Volume

open KubeAliyun.Cloud KubeAliyun.Provider KubeAliyun.Remote

/-! ## Waits that end with the status -/

section Polling

variable {region diskId : String} {choices : Nat → Choice} {account : Account}

theorem firstDisk_ok {disk : DiskItem}
    {reply : Except ApiError (List DiskItem × PaginationResult)}
    (first : firstDisk diskId reply = .ok disk) :
    ∃ others counters, reply = .ok (disk :: others, counters) := by
  cases reply with
  | error failure => cases first
  | ok page =>
      obtain ⟨disks, counters⟩ := page
      cases disks with
      | nil => cases first
      | cons found others =>
          cases first
          exact ⟨others, counters, rfl⟩

theorem firstDisk_error {failure : GoError}
    {reply : Except ApiError (List DiskItem × PaginationResult)}
    (first : firstDisk diskId reply = .error failure) :
    (∃ refused, reply = .error refused) ∨ ∃ counters, reply = .ok ([], counters) := by
  cases reply with
  | error refused => exact .inl ⟨refused, rfl⟩
  | ok page =>
      obtain ⟨disks, counters⟩ := page
      cases disks with
      | nil => exact .inr ⟨counters, rfl⟩
      | cons found others => cases first

/-- A poll that finds the status ends the wait. -/
theorem pollDisk_reached {status : DiskStatus} {disk : DiskItem} (left : Nat)
    (looked : lookupDisk (choices 0) (settledFor (choices 0) account).ecs diskId = .ok disk)
    (reached : disk.status = status) :
    ((pollDisk region diskId status (left + 1)).run Account.answer choices account).outcome =
      some none := by
  obtain ⟨reply, event, described, first, -⟩ :=
    describeDisks_run region diskId 0 choices account
  rw [looked] at first
  obtain ⟨others, counters, rfl⟩ := firstDisk_ok first
  rw [pollDisk, Prog.run_bind_of_run described]
  simp only [if_pos reached]
  rfl

/-- A poll that finds no disk ends the wait with an error. -/
theorem pollDisk_fails {status : DiskStatus} {failure : GoError} (left : Nat)
    (looked : lookupDisk (choices 0) (settledFor (choices 0) account).ecs diskId =
      .error failure) :
    ∃ error, ((pollDisk region diskId status (left + 1)).run Account.answer choices
      account).outcome = some (some error) := by
  obtain ⟨reply, event, described, first, -⟩ :=
    describeDisks_run region diskId 0 choices account
  rw [looked] at first
  rw [pollDisk, Prog.run_bind_of_run described]
  rcases firstDisk_error first with ⟨refused, rfl⟩ | ⟨counters, rfl⟩
  · exact ⟨_, rfl⟩
  · exact ⟨_, rfl⟩

/-- The disk is in use or about to be, on whatever instance. -/
def MayBeInUse (disk : DiskItem) : Prop := disk.status = .inUse ∨ disk.status = .attaching

instance (disk : DiskItem) : Decidable (MayBeInUse disk) :=
  inferInstanceAs (Decidable (_ ∨ _))

theorem MayBeInUse.settle {disk : DiskItem} (may : MayBeInUse disk) :
    disk.settle.status = .inUse := by
  rcases may with inUse | attaching
  · simp [DiskItem.settle, inUse]
  · simp [DiskItem.settle, attaching]

/-- No transition brings another disk in use. -/
theorem MayBeInUse.of_settle {disk : DiskItem} (may : MayBeInUse disk.settle) :
    MayBeInUse disk := by
  obtain ⟨diskId, status, instanceId, device⟩ := disk
  cases status with
  | inUse => exact .inl rfl
  | attaching => exact .inr rfl
  | available => exact may
  | detaching => simp [MayBeInUse, DiskItem.settle] at may
  | creating => exact may
  | reIniting => exact may

/-- Nothing that can be described under the id is in use or about to be. -/
def NeverInUse (account : Account) (diskId : String) : Prop :=
  ∀ disk, account.ecs.disk? diskId = some disk → ¬MayBeInUse disk

theorem NeverInUse.settled (never : NeverInUse account diskId) (choice : Choice) :
    NeverInUse (settledFor choice account) diskId := by
  intro disk found may
  rw [settledFor_disk?] at found
  obtain ⟨old, present, same⟩ := Option.map_eq_some_iff.mp found
  subst same
  split at may
  · exact never old present may.of_settle
  · exact never old present may

/-- A wait for such a disk does not succeed. -/
theorem pollDisk_never (left : Nat) (never : NeverInUse account diskId) :
    ((pollDisk region diskId .inUse left).run Account.answer choices account).outcome ≠
      some none := by
  induction left generalizing choices account with
  | zero => simp [pollDisk, Prog.pure_eq]
  | succ left ih =>
      have settled := never.settled (choices 0)
      cases looked : lookupDisk (choices 0) (settledFor (choices 0) account).ecs diskId with
      | error failure =>
          obtain ⟨error, ended⟩ := pollDisk_fails left looked
          rw [ended]
          simp
      | ok disk =>
          have other : disk.status ≠ .inUse := fun inUse =>
            settled disk (lookupDisk_ok looked).2 (.inl inUse)
          obtain ⟨event, continued⟩ := pollDisk_continues left looked other
          rw [continued]
          exact ih settled

end Polling

/-! ## `WaitForAttach` -/

theorem newVolumeError_unsuccessful (message : String) :
    (newVolumeError message).status ≠ statusSuccess := by
  show statusFailure ≠ statusSuccess
  decide

section Waiting

variable {provider : AliyunProvider} {options : VolumeOptions} {choices : Nat → Choice}
  {account : Account}

/-- An authorized wait: the outcome when the disk is found, and the wait then ends. -/
theorem waitForAttach_found {disk : DiskItem} (authorized : provider.authorized)
    (looked : lookupDisk (choices 0) (settledFor (choices 0) account).ecs options.diskId =
      .ok disk) :
    ∃ waited, ((waitForDisk provider.region options.diskId .inUse 0).run Account.answer
        (later choices) (settledFor (choices 0) account)).outcome = some waited ∧
      ((waitForAttach provider options).run Account.answer choices account).outcome =
        some (waited.elim volumeSuccess fun failure => newVolumeError failure.text) := by
  obtain ⟨event, seen, -⟩ := getDiskById_run provider options.diskId choices account
  rw [looked] at seen
  have itself : disk.diskId = options.diskId := Ecs.disk?_diskId (lookupDisk_ok looked).2
  obtain ⟨waited, log, after, rest, ended⟩ := waitForDisk_ends provider.region options.diskId
    .inUse (later choices) (settledFor (choices 0) account)
  refine ⟨waited, by rw [ended], ?_⟩
  have program : waitForAttach provider options =
      getDiskById provider options.diskId >>= _ := if_pos authorized
  rw [program, Prog.run_bind_of_run seen]
  simp only [itself]
  rw [Prog.run_bind_of_run ended]
  cases waited with
  | none => rfl
  | some failure => rfl

theorem waitForAttach_missing {failure : GoError} (authorized : provider.authorized)
    (looked : lookupDisk (choices 0) (settledFor (choices 0) account).ecs options.diskId =
      .error failure) :
    ((waitForAttach provider options).run Account.answer choices account).outcome =
      some (newVolumeError failure.text) := by
  obtain ⟨event, seen, -⟩ := getDiskById_run provider options.diskId choices account
  rw [looked] at seen
  have program : waitForAttach provider options =
      getDiskById provider options.diskId >>= _ := if_pos authorized
  rw [program, Prog.run_bind_of_run seen]
  rfl

/-- Where transitions complete at once the first poll sees the disk in use. -/
theorem waitForAttach_succeeds {disk : DiskItem} (authorized : provider.authorized)
    (found : account.ecs.disk? options.diskId = some disk) (may : MayBeInUse disk) :
    ((waitForAttach provider options).run Account.answer (fun _ => serving fun _ => true)
      account).outcome = some volumeSuccess := by
  let prompt : Choice := serving fun _ => true
  have completed (state : Account) (next : DiskItem)
      (present : state.ecs.disk? options.diskId = some next) :
      lookupDisk prompt (settledFor prompt state).ecs options.diskId = .ok next.settle := by
    apply lookupDisk_found rfl
    rw [settledFor_disk?, present]
    rfl
  have first := completed account disk found
  have second := completed (settledFor prompt account) disk.settle (lookupDisk_ok first).2
  rw [DiskItem.settle_settle] at second
  obtain ⟨waited, ended, outcome⟩ :=
    @waitForAttach_found _ _ (fun _ => prompt) _ _ authorized first
  have reached : waited = none :=
    Option.some.inj (ended.symm.trans (pollDisk_reached 11 second may.settle))
  rw [reached] at outcome
  exact outcome

theorem waitForAttach_never {result : VolumeError} (authorized : provider.authorized)
    (never : NeverInUse account options.diskId)
    (outcome : ((waitForAttach provider options).run Account.answer choices account).outcome =
      some result) : result.status ≠ statusSuccess := by
  cases looked : lookupDisk (choices 0) (settledFor (choices 0) account).ecs
      options.diskId with
  | error failure =>
      rw [waitForAttach_missing authorized looked] at outcome
      cases outcome
      exact newVolumeError_unsuccessful _
  | ok disk =>
      obtain ⟨waited, ended, same⟩ := waitForAttach_found authorized looked
      rw [same] at outcome
      cases waited with
      | none => exact absurd ended (pollDisk_never _ (never.settled (choices 0)))
      | some failure =>
          cases outcome
          exact newVolumeError_unsuccessful _

end Waiting

/-- What is promised of a success of `WaitForAttach`: the last description showed the disk
in use on the provider's own instance, and the result has its device path. -/
def WaitsTruly (provider : AliyunProvider) (options : VolumeOptions) (account : Account) :
    Prop :=
  ∀ choices result,
    ((waitForAttach provider options).run Account.answer choices account).outcome =
      some result → result.status = statusSuccess →
    ∃ disk, lastDescription ((waitForAttach provider options).run Account.answer choices
        account).log = some disk ∧
      disk.status = .inUse ∧ disk.instanceId = provider.defaultInstance ∧
      result.devicePath ≠ "" ∧ result.devicePath = deviceApi2Local disk.device

/-- A success of an authorized wait is true exactly where no wait can succeed: when the
disk does not exist, or is neither in use nor being attached. -/
theorem waits_truly_iff (provider : AliyunProvider) (options : VolumeOptions)
    (account : Account) (authorized : provider.authorized) :
    WaitsTruly provider options account ↔ NeverInUse account options.diskId := by
  constructor
  · intro truly disk found may
    obtain ⟨-, -, -, -, path, -⟩ := truly _ volumeSuccess
      (waitForAttach_succeeds authorized found may) rfl
    exact path rfl
  · intro never choices result outcome success
    exact absurd success (waitForAttach_never authorized never outcome)

/-- A free disk. -/
theorem waits_truly_free : twoNodes.authorized ∧ NeverInUse twoDisks "d-2" ∧
    WaitsTruly twoNodes (forDisk "d-2") twoDisks := by
  have never : NeverInUse twoDisks "d-2" := by
    intro disk found
    have free : twoDisks.ecs.disk? "d-2" = some ⟨"d-2", .available, "", ""⟩ := by decide
    rw [free] at found
    cases found
    decide
  exact ⟨by decide, never, (waits_truly_iff twoNodes (forDisk "d-2") twoDisks
    (by decide)).mpr never⟩

/-- The disk is in use on the other instance: the wait succeeds, without a device path. -/
theorem other_instance_succeeds :
    let run := (waitForAttach twoNodes (forDisk "d-1")).run Account.answer
      (fun _ => serving fun _ => true) twoDisks
    (twoNodes.authorized ∧ twoNodes.defaultInstance = "i-1" ∧
      run.outcome = some { status := "Success" } ∧
      lastDescription run.log = some ⟨"d-1", .inUse, "i-2", "/dev/xvdb"⟩) ∧
    ¬WaitsTruly twoNodes (forDisk "d-1") twoDisks := by
  intro run
  have succeeds : run.outcome = some { status := "Success" } := by decide
  have described : lastDescription run.log = some ⟨"d-1", .inUse, "i-2", "/dev/xvdb"⟩ := by
    decide
  refine ⟨⟨by decide, by decide, succeeds, described⟩, fun truly => ?_⟩
  obtain ⟨disk, last, -, owner, -⟩ := truly _ _ succeeds rfl
  rw [described] at last
  cases last
  exact absurd owner (by decide)

end KubeAliyun.Volume
