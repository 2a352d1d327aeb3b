import KubeAliyun.Volume.Reads

/-!
# What a successful attachment has seen

`Attach` drops the result of its waits and does not check the status it reads
last.  Its success is therefore true of that last description exactly when an
accepted attachment completes before the description is read.
-/

namespace KubeAliyun.Volume

open KubeAliyun.Cloud KubeAliyun.Provider KubeAliyun.Remote

/-! ## Waiting -/

section Waiting

variable {region diskId : String} {status : DiskStatus} (left : Nat)
  {choices : Nat → Choice} {account : Account}

/-- A poll that finds another status leads to the next poll. -/
theorem pollDisk_continues {disk : DiskItem}
    (looked : lookupDisk (choices 0) (settledFor (choices 0) account).ecs diskId = .ok disk)
    (other : disk.status ≠ status) :
    ∃ event, (pollDisk region diskId status (left + 1)).run Account.answer choices
        account =
      { (pollDisk region diskId status left).run Account.answer (later choices)
          (settledFor (choices 0) account) with
        log := [event] ++ ((pollDisk region diskId status left).run Account.answer
          (later choices) (settledFor (choices 0) account)).log } := by
  obtain ⟨reply, event, described, first, -⟩ :=
    describeDisks_run region diskId 0 choices account
  rw [looked] at first
  refine ⟨event, ?_⟩
  rw [pollDisk, Prog.run_bind_of_run described]
  match reply, first with
  | .ok (found :: others, counters), first =>
      have same : found = disk := Except.ok.inj first
      simp only [same, if_neg other]

/-- Every other poll ends the wait. -/
theorem pollDisk_stops
    (last : ∀ disk, lookupDisk (choices 0) (settledFor (choices 0) account).ecs diskId =
      .ok disk → disk.status = status) :
    ∃ waited event, (pollDisk region diskId status (left + 1)).run Account.answer
      choices account =
        ⟨some waited, [event] ++ [], settledFor (choices 0) account, later choices⟩ := by
  obtain ⟨reply, event, described, first, -⟩ :=
    describeDisks_run region diskId 0 choices account
  rw [pollDisk, Prog.run_bind_of_run described]
  match reply, first with
  | .error failure, _ => exact ⟨_, event, rfl⟩
  | .ok ([], counters), _ => exact ⟨_, event, rfl⟩
  | .ok (found :: others, counters), first =>
      have reached := last found first.symm
      refine ⟨none, event, ?_⟩
      simp only [if_pos reached]
      rfl

end Waiting

/-- A wait always ends. -/
theorem pollDisk_ends (region diskId : String) (status : DiskStatus) (left : Nat)
    (choices : Nat → Choice) (account : Account) :
    ∃ waited log after rest, (pollDisk region diskId status left).run Account.answer
      choices account = ⟨some waited, log, after, rest⟩ := by
  induction left generalizing choices account with
  | zero => exact ⟨_, _, _, _, rfl⟩
  | succ left ih =>
      by_cases last : ∀ disk, lookupDisk (choices 0)
          (settledFor (choices 0) account).ecs diskId = .ok disk → disk.status = status
      · obtain ⟨waited, event, ended⟩ := pollDisk_stops left last
        exact ⟨waited, _, _, _, ended⟩
      · push Not at last
        obtain ⟨disk, looked, other⟩ := last
        obtain ⟨event, continued⟩ := pollDisk_continues left looked other
        obtain ⟨waited, log, after, rest, ended⟩ :=
          ih (later choices) (settledFor (choices 0) account)
        rw [ended] at continued
        exact ⟨waited, _, after, rest, continued⟩

theorem waitForDisk_ends (region diskId : String) (status : DiskStatus)
    (choices : Nat → Choice) (account : Account) :
    ∃ waited log after rest, (waitForDisk region diskId status 0).run Account.answer
      choices account = ⟨some waited, log, after, rest⟩ := by
  unfold waitForDisk
  exact pollDisk_ends region diskId status _ choices account

/-! ## Before the attachment -/

/-- How the part of `Attach` before `AttachDisk` ends. -/
inductive Released (instanceId diskId : String) :
    Run Choice Account Call Reply (Option VolumeError) → Prop where
  /-- The disk was read in use on the instance. -/
  | already {disk : DiskItem} {event : Event Account Call Reply} {after : Account}
      {rest : Nat → Choice} (read : description event = some disk)
      (named : disk.diskId = diskId) (inUse : disk.status = .inUse)
      (here : disk.instanceId = instanceId) :
      Released instanceId diskId ⟨some (some (attachedAt disk)), [event], after, rest⟩
  | failed {failure : VolumeError} {log : List (Event Account Call Reply)}
      {after : Account} {rest : Nat → Choice}
      (status : failure.status = statusFailure) :
      Released instanceId diskId ⟨some (some failure), log, after, rest⟩
  | free {log : List (Event Account Call Reply)} {after : Account}
      {rest : Nat → Choice} :
      Released instanceId diskId ⟨some none, log, after, rest⟩

theorem lookupDisk_ok {choice : Choice} {ecs : Ecs} {diskId : String} {disk : DiskItem}
    (looked : lookupDisk choice ecs diskId = .ok disk) :
    choice.fate = .served ∧ ecs.disk? diskId = some disk := by
  unfold lookupDisk at looked
  split at looked
  · rename_i served
    cases found : ecs.disk? diskId with
    | none =>
        rw [found] at looked
        cases looked
    | some other =>
        rw [found] at looked
        exact ⟨served, congrArg some (Except.ok.inj looked)⟩
  · cases looked

theorem releaseDisk_released (provider : AliyunProvider) (instanceId diskId : String)
    (choices : Nat → Choice) (account : Account) :
    Released instanceId diskId
      ((releaseDisk provider instanceId diskId).run Account.answer choices account) := by
  obtain ⟨event, seen, read⟩ := getDiskById_run provider diskId choices account
  rw [releaseDisk, Prog.run_bind_of_run seen]
  cases looked : lookupDisk (choices 0) (settledFor (choices 0) account).ecs diskId with
  | error failure => exact .failed rfl
  | ok disk =>
      rw [looked] at read
      have named := Ecs.disk?_diskId (lookupDisk_ok looked).2
      by_cases inUse : disk.status = .inUse
      · by_cases here : disk.instanceId = instanceId
        · simp only [if_pos inUse, if_pos here]
          exact .already read named inUse here
        · simp only [if_pos inUse, if_neg here]
          obtain ⟨reply, call, after, called⟩ : ∃ reply call after,
              (detachDisk disk.instanceId diskId).run Account.answer (later choices)
                (settledFor (choices 0) account) =
              ⟨some reply, [call], after, later (later choices)⟩ := ⟨_, _, _, rfl⟩
          rw [Prog.run_bind_of_run called]
          cases reply with
          | some failure => exact .failed rfl
          | none =>
              obtain ⟨waited, log, final, rest, ended⟩ := waitForDisk_ends
                provider.region diskId .available (later (later choices)) after
              simp only [Prog.run_bind_of_run ended]
              exact .free
      · simp only [if_neg inUse]
        exact .free

/-! ## The attachment -/

/-- An accepted `AttachDisk` leaves the disk attaching to the instance. -/
theorem attachDisk_accepted {args : AttachDiskArgs} {choice : Choice}
    {account after : Account}
    (accepted : Account.answer choice account (.ecs (.attachDisk args)) = (none, after)) :
    ∃ disk, after.ecs.disk? args.diskId = some disk ∧ disk.status = .attaching ∧
      disk.instanceId = args.instanceId := by
  have state := congrArg (fun answer => answer.2.ecs) accepted
  have reply := congrArg Prod.fst accepted
  simp only [Account.answer, Ecs.answer] at state reply
  rcases Choice.commit_cases choice (account.ecs.settle choice.settles)
      (((account.ecs.settle choice.settles).disk? args.diskId).bind fun disk =>
        (disk.attach args.instanceId choice.device).map
          (account.ecs.settle choice.settles).put) with
    ⟨next, possible, -, same⟩ | ⟨next, -, -, same⟩ | same
  · obtain ⟨disk, found, moved⟩ := Option.bind_eq_some_iff.mp possible
    obtain ⟨attached, taken, put⟩ := Option.map_eq_some_iff.mp moved
    have named : attached.diskId = args.diskId :=
      (DiskItem.attach_diskId taken).trans (Ecs.disk?_diskId found)
    rw [same] at state
    refine ⟨attached, ?_, ?_⟩
    · rw [← state, ← put]
      exact Ecs.put_disk?_self found named
    · unfold DiskItem.attach at taken
      split at taken
      · cases taken
        exact ⟨rfl, rfl⟩
      · cases taken
  · rw [same] at reply
    cases reply
  · rw [same] at reply
    cases reply

/-- How `Attach` has gone by the time `AttachDisk` is accepted, or ended before. -/
inductive Requested (provider : AliyunProvider) (options : VolumeOptions)
    (node : String) (choices : Nat → Choice) (account : Account) :
    Run Choice Account Call Reply (Except VolumeError String) → Prop where
  | already {instanceId : String} {disk : DiskItem}
      {log : List (Event Account Call Reply)} {after : Account} {rest : Nat → Choice}
      (resolved : ((resolveInstance provider node).run Account.answer choices
        account).outcome = some (.ok instanceId))
      (read : lastDescription log = some disk) (named : disk.diskId = options.diskId)
      (inUse : disk.status = .inUse) (here : disk.instanceId = instanceId) :
      Requested provider options node choices account
        ⟨some (.error (attachedAt disk)), log, after, rest⟩
  | failed {failure : VolumeError} {log : List (Event Account Call Reply)}
      {after : Account} {rest : Nat → Choice}
      (status : failure.status = statusFailure) :
      Requested provider options node choices account
        ⟨some (.error failure), log, after, rest⟩
  | accepted {instanceId : String} {disk : DiskItem}
      {log : List (Event Account Call Reply)} {after : Account} {rest : Nat → Choice}
      (resolved : ((resolveInstance provider node).run Account.answer choices
        account).outcome = some (.ok instanceId))
      (found : after.ecs.disk? options.diskId = some disk)
      (attaching : disk.status = .attaching) (here : disk.instanceId = instanceId) :
      Requested provider options node choices account
        ⟨some (.ok options.diskId), log, after, rest⟩

theorem requireInstance_failed {instanceId : String} {failure : VolumeError}
    (refused : requireInstance instanceId = .error failure) :
    failure.status = statusFailure := by
  unfold requireInstance at refused
  split at refused
  · cases refused
    rfl
  · cases refused

/-- The lookup of the instance ends with an instance or a failure. -/
theorem resolveInstance_ends (provider : AliyunProvider) (node : String)
    (choices : Nat → Choice) (account : Account) :
    ∃ result log after rest, (resolveInstance provider node).run Account.answer choices
        account = ⟨some result, log, after, rest⟩ ∧
      ∀ failure, result = .error failure → failure.status = statusFailure := by
  by_cases named : node = ""
  · subst named
    exact ⟨_, _, _, _, resolveInstance_run_default provider choices account,
      fun failure => requireInstance_failed⟩
  · obtain ⟨log, resolved⟩ := resolveInstance_run_named provider named choices account
    refine ⟨_, _, _, _, resolved, ?_⟩
    intro failure refused
    unfold resolvedNode at refused
    split at refused
    · cases refused
      rfl
    · exact requireInstance_failed refused

theorem requestAttachment_requested (provider : AliyunProvider)
    (options : VolumeOptions) (node : String) (choices : Nat → Choice)
    (account : Account) :
    Requested provider options node choices account
      ((requestAttachment provider options node).run Account.answer choices account) := by
  obtain ⟨result, log, after, rest, resolved, failures⟩ :=
    resolveInstance_ends provider node choices account
  have outcome := congrArg Run.outcome resolved
  rw [requestAttachment, Prog.run_bind_of_run resolved]
  cases result with
  | error failure => exact .failed (failures failure rfl)
  | ok instanceId =>
      by_cases missing : options.diskId = ""
      · simp only [if_pos missing]
        exact .failed rfl
      · simp only [if_neg missing]
        have released :=
          releaseDisk_released provider instanceId options.diskId rest after
        generalize run : (releaseDisk provider instanceId options.diskId).run
          Account.answer rest after = whole at released
        cases released with
        | already read named inUse here =>
            rw [Prog.run_bind_of_run run]
            exact .already outcome (by simpa using lastDescription_concat log read) named
              inUse here
        | failed status =>
            rw [Prog.run_bind_of_run run]
            exact .failed status
        | free =>
            rename_i freeLog free freeRest
            obtain ⟨reply, final, answered⟩ : ∃ reply final,
                Account.answer (freeRest 0) free (.ecs (.attachDisk ⟨instanceId,
                  options.diskId, options.bool "deleteWithInstance"⟩)) =
                (reply, final) := ⟨_, _, rfl⟩
            have called : (attachDisk ⟨instanceId, options.diskId,
                options.bool "deleteWithInstance"⟩).run Account.answer freeRest free =
                ⟨some reply, [⟨free, _, reply, final⟩], final, later freeRest⟩ :=
              Prog.run_ask_of_answer answered
            rw [Prog.run_bind_of_run run]
            simp only [Prog.run_bind_of_run called]
            cases reply with
            | some failure => exact .failed rfl
            | none =>
                obtain ⟨disk, found, attaching, here⟩ := attachDisk_accepted answered
                exact .accepted outcome found attaching here

/-! ## The last look -/

/-- With this many polls to go, the wait for the disk ends and the last look is
served while the attachment is still pending. -/
def LooksTooSoon (diskId : String) : Nat → (Nat → Choice) → Prop
  | 0, choices => (choices 0).settles diskId = false ∧ (choices 0).fate = .served
  | left + 1, choices =>
      (choices 0).settles diskId = false ∧
        if (choices 0).fate = .served then LooksTooSoon diskId left (later choices)
        else (choices 1).settles diskId = false ∧ (choices 1).fate = .served

theorem settledFor_disk? (choice : Choice) (account : Account) (diskId : String) :
    (settledFor choice account).ecs.disk? diskId =
      (account.ecs.disk? diskId).map fun disk =>
        if choice.settles diskId then disk.settle else disk :=
  Ecs.settle_disk? account.ecs choice.settles diskId

theorem lookupDisk_found {choice : Choice} {ecs : Ecs} {diskId : String}
    {disk : DiskItem} (served : choice.fate = .served)
    (found : ecs.disk? diskId = some disk) : lookupDisk choice ecs diskId = .ok disk := by
  rw [lookupDisk, if_pos served, found]
  rfl

section Pending

variable {region diskId : String} {disk : DiskItem}

/-- A pending attachment is still pending when the wait ends, or it has
completed; it is read too soon exactly when the last look then finds it pending. -/
theorem pollDisk_pending (left : Nat) {choices : Nat → Choice} {account : Account}
    (found : account.ecs.disk? diskId = some disk) (attaching : disk.status = .attaching) :
    ∃ waited log after rest, (pollDisk region diskId .inUse left).run Account.answer
        choices account = ⟨some waited, log, after, rest⟩ ∧
      (after.ecs.disk? diskId = some disk ∧
          (LooksTooSoon diskId left choices ↔ LooksTooSoon diskId 0 rest) ∨
        after.ecs.disk? diskId = some disk.settle ∧ ¬LooksTooSoon diskId left choices) := by
  induction left generalizing choices account with
  | zero => exact ⟨_, _, _, _, rfl, Or.inl ⟨found, Iff.rfl⟩⟩
  | succ left ih =>
      have settled := settledFor_disk? (choices 0) account diskId
      rw [found, Option.map_some] at settled
      cases completes : (choices 0).settles diskId with
      | true =>
          rw [completes, if_pos rfl] at settled
          have last : ∀ other, lookupDisk (choices 0)
              (settledFor (choices 0) account).ecs diskId = .ok other →
              other.status = .inUse := by
            intro other looked
            rw [(lookupDisk_ok looked).2] at settled
            rw [Option.some.inj settled, DiskItem.settle, attaching]
          obtain ⟨waited, event, ended⟩ := pollDisk_stops left last
          refine ⟨waited, _, _, _, ended, Or.inr ⟨settled, ?_⟩⟩
          intro soon
          rw [LooksTooSoon, completes] at soon
          exact absurd soon.1 (by decide)
      | false =>
          rw [completes, if_neg (by decide)] at settled
          by_cases served : (choices 0).fate = .served
          · have looked := lookupDisk_found served settled
            obtain ⟨event, continued⟩ := pollDisk_continues left looked
              (show disk.status ≠ .inUse by rw [attaching]; decide)
            obtain ⟨waited, log, after, rest, ended, cases⟩ :=
              ih (show (settledFor (choices 0) account).ecs.disk? diskId = some disk
                from settled)
            have unfolded : LooksTooSoon diskId (left + 1) choices ↔
                LooksTooSoon diskId left (later choices) := by
              rw [LooksTooSoon, if_pos served]
              simp [completes]
            rw [ended] at continued
            rw [unfolded]
            exact ⟨waited, _, after, rest, continued, cases⟩
          · have last : ∀ other, lookupDisk (choices 0)
                (settledFor (choices 0) account).ecs diskId = .ok other →
                other.status = .inUse := by
              intro other looked
              exact absurd (lookupDisk_ok looked).1 served
            obtain ⟨waited, event, ended⟩ := pollDisk_stops left last
            refine ⟨waited, _, _, _, ended, Or.inl ⟨settled, ?_⟩⟩
            simp [LooksTooSoon, served, completes, later]

/-- The last look, once the wait has left the disk in this shape. -/
theorem confirm_ends {provider : AliyunProvider} {choices rest : Nat → Choice}
    {account after : Account} {waited : Option ApiError}
    {log : List (Event Account Call Reply)}
    (ended : (waitForDisk provider.region diskId .inUse 0).run Account.answer choices
      account = ⟨some waited, log, after, rest⟩)
    (found : after.ecs.disk? diskId = some disk) :
    ∃ result more, (confirmAttachment provider diskId).run Account.answer choices
        account = ⟨some result, more, settledFor (rest 0) after, later rest⟩ ∧
      ((rest 0).fate ≠ .served ∧ result.status = statusFailure ∨
        (rest 0).fate = .served ∧ ∃ seen, lastDescription more = some seen ∧
          result = attachedAt seen ∧
          seen = if (rest 0).settles diskId then disk.settle else disk) := by
  obtain ⟨event, looked, read⟩ := getDiskById_run provider diskId rest after
  rw [confirmAttachment, Prog.run_bind_of_run ended, Prog.run_bind_of_run looked]
  by_cases served : (rest 0).fate = .served
  · have settled := settledFor_disk? (rest 0) after diskId
    rw [found, Option.map_some] at settled
    rw [lookupDisk_found served settled] at read ⊢
    refine ⟨_, _, rfl, Or.inr ⟨served, _, ?_, rfl, rfl⟩⟩
    exact lastDescription_append log (by simpa using lastDescription_concat [] read)
  · rw [lookupDisk, if_neg served]
    exact ⟨_, _, rfl, Or.inl ⟨served, rfl⟩⟩

/-- A pending attachment is reported as done when it is looked at too soon;
otherwise the look fails or shows the disk in use. -/
theorem confirmAttachment_cases (provider : AliyunProvider) (choices : Nat → Choice)
    {account : Account} (found : account.ecs.disk? diskId = some disk)
    (attaching : disk.status = .attaching) :
    ∃ result log after rest, (confirmAttachment provider diskId).run Account.answer
        choices account = ⟨some result, log, after, rest⟩ ∧
      (LooksTooSoon diskId 12 choices ∧ result = attachedAt disk ∧
          lastDescription log = some disk ∨
        ¬LooksTooSoon diskId 12 choices ∧ (result.status = statusFailure ∨
          result = attachedAt disk.settle ∧ lastDescription log = some disk.settle)) := by
  obtain ⟨waited, log, after, rest, ended, pending | completed⟩ :=
    pollDisk_pending 12 found attaching
  · obtain ⟨still, soon⟩ := pending
    obtain ⟨result, more, confirmed, look⟩ := confirm_ends ended still
    refine ⟨result, more, _, _, confirmed, ?_⟩
    rw [soon, LooksTooSoon]
    rcases look with ⟨unserved, failed⟩ | ⟨served, seen, last, reported, shape⟩
    · exact Or.inr ⟨fun both => unserved both.2, Or.inl failed⟩
    · cases completes : (rest 0).settles diskId with
      | true =>
          rw [completes, if_pos rfl] at shape
          subst shape
          exact Or.inr ⟨fun both => absurd both.1 (by decide), Or.inr ⟨reported, last⟩⟩
      | false =>
          rw [completes, if_neg (by decide)] at shape
          subst shape
          exact Or.inl ⟨⟨rfl, served⟩, reported, last⟩
  · obtain ⟨done, notSoon⟩ := completed
    obtain ⟨result, more, confirmed, look⟩ := confirm_ends ended done
    refine ⟨result, more, _, _, confirmed, Or.inr ⟨notSoon, ?_⟩⟩
    rcases look with ⟨-, failed⟩ | ⟨-, seen, last, reported, shape⟩
    · exact Or.inl failed
    · rw [disk.settle_settle, ite_self] at shape
      subst shape
      exact Or.inr ⟨reported, last⟩

end Pending

/-! ## Truth of a success -/

/-- If `Attach` reports success, the last disk description it has read is of the
requested disk, in use on the requested instance, at the reported device. -/
def ReportsTruly (provider : AliyunProvider) (options : VolumeOptions) (node : String)
    (choices : Nat → Choice) (account : Account) : Prop :=
  ∀ result, ((attach provider options node).run Account.answer choices
      account).outcome = some result → result.status = statusSuccess →
    ∃ instanceId disk,
      ((resolveInstance provider node).run Account.answer choices account).outcome =
        some (.ok instanceId) ∧
      lastDescription ((attach provider options node).run Account.answer choices
        account).log = some disk ∧
      disk.diskId = options.diskId ∧ disk.status = .inUse ∧
      disk.instanceId = instanceId ∧
      result.devicePath = deviceApi2Local disk.device

/-- A success of `Attach` is true of the last description it has read exactly
when, in case `AttachDisk` was accepted, the attachment completes by the time of
the last look, or that look fails. -/
theorem attach_reports_truly_iff (provider : AliyunProvider) (options : VolumeOptions)
    (node : String) (choices : Nat → Choice) (account : Account) :
    ReportsTruly provider options node choices account ↔
      ∀ diskId, ((requestAttachment provider options node).run Account.answer choices
          account).outcome = some (.ok diskId) →
        ¬LooksTooSoon diskId 12 ((requestAttachment provider options node).run
          Account.answer choices account).rest := by
  have requested := requestAttachment_requested provider options node choices account
  generalize run : (requestAttachment provider options node).run Account.answer choices
    account = whole at requested
  unfold ReportsTruly
  rw [attach]
  cases requested with
  | failed status =>
      rw [Prog.run_bind_of_run run]
      constructor
      · intro _ diskId outcome
        cases outcome
      · intro _ result outcome success
        cases outcome
        rw [status] at success
        exact absurd success (by decide)
  | already resolved read named inUse here =>
      rw [Prog.run_bind_of_run run]
      constructor
      · intro _ diskId outcome
        cases outcome
      · intro _ result outcome success
        cases outcome
        exact ⟨_, _, resolved, by simpa using read, named, inUse, here, rfl⟩
  | accepted resolved found attaching here =>
      rename_i instanceId disk before accepted later
      obtain ⟨result, log, after, rest, confirmed, soon | notSoon⟩ :=
        confirmAttachment_cases provider later found attaching
      · obtain ⟨soon, reported, last⟩ := soon
        simp only [Prog.run_bind_of_run run, confirmed]
        constructor
        · -- the last description shows the disk attaching
          intro truly
          obtain ⟨-, seen, -, read, -, inUse, -⟩ := truly result rfl (by rw [reported]; rfl)
          rw [lastDescription_append before last] at read
          cases read
          rw [attaching] at inUse
          cases inUse
        · intro never
          exact absurd soon (never options.diskId rfl)
      · obtain ⟨notSoon, look⟩ := notSoon
        simp only [Prog.run_bind_of_run run, confirmed]
        constructor
        · intro _ diskId outcome
          cases outcome
          exact notSoon
        · intro _ other outcome success
          cases outcome
          rcases look with failed | ⟨reported, last⟩
          · rw [failed] at success
            exact absurd success (by decide)
          · have shape : disk.settle.status = .inUse ∧
                disk.settle.instanceId = instanceId := by
              simp [DiskItem.settle, attaching, here]
            exact ⟨instanceId, disk.settle, resolved, lastDescription_append before last,
              by rw [DiskItem.settle_diskId, Ecs.disk?_diskId found], shape.1, shape.2,
              by rw [reported]; rfl⟩

/-- On a service that never completes the attachment, `Attach` waits in vain and
reports success for a disk it has last seen attaching. -/
theorem attach_reports_pending :
    ((attach twoNodes (forDisk "d-2") "node-a").run Account.answer
      (fun _ => serving fun _ => false) twoDisks).outcome =
        some { status := "Success", devicePath := "/dev/vdc" } ∧
    lastDescription ((attach twoNodes (forDisk "d-2") "node-a").run Account.answer
      (fun _ => serving fun _ => false) twoDisks).log =
        some ⟨"d-2", .attaching, "i-1", "/dev/xvdc"⟩ ∧
    ¬ReportsTruly twoNodes (forDisk "d-2") "node-a"
      (fun _ => serving fun _ => false) twoDisks := by
  have reported : ((attach twoNodes (forDisk "d-2") "node-a").run Account.answer
      (fun _ => serving fun _ => false) twoDisks).outcome =
        some { status := "Success", devicePath := "/dev/vdc" } := by
    decide
  have last : lastDescription ((attach twoNodes (forDisk "d-2") "node-a").run
      Account.answer (fun _ => serving fun _ => false) twoDisks).log =
        some ⟨"d-2", .attaching, "i-1", "/dev/xvdc"⟩ := by
    decide
  refine ⟨reported, last, ?_⟩
  intro truly
  obtain ⟨-, seen, -, read, -, inUse, -⟩ := truly _ reported rfl
  rw [last] at read
  cases read
  cases inUse

end KubeAliyun.Volume
