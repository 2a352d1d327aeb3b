import KubeAliyun.Flexv.Main
import KubeAliyun.Remote.Logic
import KubeAliyun.Volume.Reads

/-!
# The query commands of the driver

`init`, `getvolumename` and `waitforattach` only describe, so they leave every
disk where it is.  `isattached` is dispatched to `Attach`: it answers as
`IsAttached` would, and changes nothing, only where `Attach` gives up before its
first look at the disk and `IsAttached` gives up with the same words.
-/

namespace KubeAliyun.Flexv

open KubeAliyun.Cloud KubeAliyun.Provider KubeAliyun.Remote KubeAliyun.Volume

/-! ## Programs that only describe -/

def Describes : Call → Prop
  | .ecs (.describeInstances _) => True
  | .ecs (.describeDisks _) => True
  | _ => False

/-- A service whose describing calls do not change the account. -/
def describing : Contract Account Call Reply where
  step before _ _ after := after = before
  permit _ request := Describes request
  event _ _ _ _ := True

def CompletesNothing (choice : Choice) : Prop :=
  ∀ diskId, choice.settles diskId = false

theorem describing_refines :
    Refines Account.answer id CompletesNothing (fun _ => True) describing where
  step := by
    intro choice account request quiet _ describes
    have still := settledFor_quiet account quiet
    cases request with
    | slb inner => exact describes.elim
    | ecs inner =>
        cases inner with
        | describeInstances args => exact still
        | describeDisks args => exact still
        | attachDisk args => exact describes.elim
        | detachDisk instanceId diskId => exact describes.elim
  keeps := fun _ _ _ => trivial

/-- A program that leaves the account alone, whatever it is told. -/
def ReadOnly {α : Type} (program : Aliyun α) : Prop :=
  ∀ account, program.Ensures describing (fun _ after => after = account) account

namespace ReadOnly

variable {α β : Type}

theorem done (value : α) : ReadOnly (.done value) := fun _ => rfl

theorem bind {program : Aliyun α} {next : α → Aliyun β} (first : ReadOnly program)
    (second : ∀ value, ReadOnly (next value)) : ReadOnly (program >>= next) := by
  intro account
  refine Prog.Ensures.bind (first account) ?_ ?_
  · intro value after same
    subst same
    exact second value after
  · intro after same
    exact same

theorem run {program : Aliyun α} (readOnly : ReadOnly program) {choices : Nat → Choice}
    (quiet : ∀ index, CompletesNothing (choices index)) (account : Account) :
    (program.run Account.answer choices account).state = account :=
  (Prog.Ensures.run describing_refines (readOnly account) quiet trivial).2.1

end ReadOnly

theorem readOnly_describeDisks (args : DescribeDisksArgs) :
    ReadOnly (describeDisks args) := by
  intro account
  refine ⟨trivial, ?_⟩
  intro reply after same
  exact ⟨trivial, same⟩

theorem readOnly_getDiskById (provider : AliyunProvider) (diskId : String) :
    ReadOnly (getDiskById provider diskId) := by
  refine (readOnly_describeDisks _).bind ?_
  intro reply
  match reply with
  | .error failure => exact ReadOnly.done _
  | .ok (disk :: others, counters) => exact ReadOnly.done _
  | .ok ([], counters) => exact ReadOnly.done _

theorem readOnly_waitForDisk (region diskId : String) (status : DiskStatus)
    (timeout : Nat) : ReadOnly (waitForDisk region diskId status timeout) := by
  intro account
  have kept : (waitForDisk region diskId status timeout).Yields describing
      (fun _ after => after = account) account :=
    waitForDisk_keeps (fun _ => ⟨trivial, fun _ _ same => ⟨trivial, same⟩⟩) region diskId
      status timeout
  refine Prog.Ensures.mono kept ?_
  rintro outcome after ⟨waited, -, same⟩
  exact same

theorem readOnly_waitForAttach (provider : AliyunProvider) (options : VolumeOptions) :
    ReadOnly (waitForAttach provider options) := by
  unfold waitForAttach
  split
  · refine (readOnly_getDiskById provider options.diskId).bind ?_
    intro looked
    cases looked with
    | error failure => exact ReadOnly.done _
    | ok disk =>
        refine (readOnly_waitForDisk provider.region disk.diskId .inUse 0).bind ?_
        intro waited
        cases waited with
        | none => exact ReadOnly.done _
        | some failure => exact ReadOnly.done _
  · exact ReadOnly.done _

theorem readOnly_getVolumeName (shown : String) (options : VolumeOptions) :
    ReadOnly (getVolumeName shown options) := by
  unfold getVolumeName
  split <;> exact ReadOnly.done _

theorem readOnly_withOptions (host : Host) (json : String)
    {operation : VolumeOptions → Aliyun VolumeError}
    (readOnly : ∀ options, ReadOnly (operation options)) :
    ReadOnly (withOptions host json operation) := by
  unfold withOptions
  split
  · exact ReadOnly.done _
  · exact (readOnly _).bind fun _ => ReadOnly.done _

/-! ## Commands -/

/-- The commands that ask and do not act. -/
def Command.Query : Command → Prop
  | .init => True
  | .getVolumeName => True
  | .waitForAttach => True
  | .isAttached => True
  | _ => False

/-- Every query command but one only describes. -/
theorem readOnly_perform (host : Host) (provider : AliyunProvider) {command : Command}
    (query : command.Query) (other : command ≠ .isAttached) (args : List String) :
    ReadOnly (perform host provider command args) := by
  cases command with
  | init => exact (ReadOnly.done _).bind fun _ => ReadOnly.done _
  | isAttached => exact absurd rfl other
  | getVolumeName =>
      cases args with
      | nil => exact ReadOnly.done _
      | cons json rest =>
          exact readOnly_withOptions host json fun _ => readOnly_getVolumeName _ _
  | waitForAttach =>
      match args with
      | [] => exact ReadOnly.done _
      | [_] => exact ReadOnly.done _
      | _ :: json :: _ =>
          exact readOnly_withOptions host json fun _ => readOnly_waitForAttach _ _
  | attach => exact query.elim
  | detach => exact query.elim
  | mountDevice => exact query.elim
  | unmountDevice => exact query.elim

/-! ## The misdirected query -/

def placement (account : Account) (diskId : String) : Option (DiskStatus × String) :=
  (account.ecs.disk? diskId).map fun disk => (disk.status, disk.instanceId)

/-- The query commands change no disk, and `isattached` reports what `IsAttached`
returns, on every service whose describing calls change nothing. -/
def QueriesTruthfully (host : Host) (provider : AliyunProvider) (account : Account)
    (args : List String) : Prop :=
  ∀ choices : Nat → Choice, (∀ index, CompletesNothing (choices index)) →
    (∀ op rest command, args = op :: rest → Command.ofName op = some command →
      command.Query → ∀ diskId,
        placement ((dispatch host provider args).run Account.answer choices
          account).state diskId = placement account diskId) ∧
    ∀ json node rest options, args = "isattached" :: json :: node :: rest →
      host.decodeOptions json = some options →
      ((dispatch host provider args).run Account.answer choices account).outcome =
        ((isAttached provider options node).run Account.answer choices
          account).outcome.map fun result => .result (.volume result)

/-- `Attach` and `IsAttached` give up at the same point: the node cannot be
resolved, or it can and no disk is named. -/
def GivesUpAlike (provider : AliyunProvider) (account : Account)
    (options : VolumeOptions) (node : String) : Prop :=
  provider.authorized ∧ node ≠ "" ∧ queriedNode provider node = node ∧
    ∀ found, instanceByNodeName provider.nodeNameType account.ecs.visible node =
      .ok found → found.instanceId ≠ "" ∧ options.diskId = ""

theorem dispatch_isAttached {host : Host} {provider : AliyunProvider} {json : String}
    {options : VolumeOptions} (decoded : host.decodeOptions json = some options)
    (node : String) (rest : List String) :
    dispatch host provider ("isattached" :: json :: node :: rest) =
      reporting (attach provider options node) := by
  have selected : dispatch host provider ("isattached" :: json :: node :: rest) =
      withOptions host json fun options => attach provider options node := rfl
  rw [selected, withOptions, decoded]

theorem reporting_run (operation : Aliyun VolumeError) (choices : Nat → Choice)
    (account : Account) :
    (reporting operation).run Account.answer choices account =
      let whole := operation.run Account.answer choices account
      ⟨whole.outcome.map fun result => .result (.volume result), whole.log, whole.state,
        whole.rest⟩ :=
  Prog.run_map _ operation choices account

theorem givesUpAlike_run {provider : AliyunProvider} {account : Account}
    {options : VolumeOptions} {node : String}
    (alike : GivesUpAlike provider account options node) {choices : Nat → Choice}
    (quiet : ∀ index, CompletesNothing (choices index)) :
    ((attach provider options node).run Account.answer choices account).outcome =
        ((isAttached provider options node).run Account.answer choices account).outcome ∧
      ((attach provider options node).run Account.answer choices account).state =
        account := by
  obtain ⟨authorized, named, queried, stops⟩ := alike
  obtain ⟨log, resolved⟩ := resolveInstance_run_named provider named choices account
  rw [settledFor_quiet account (quiet 0), resolvedNode] at resolved
  cases looked : lookupNode provider (choices 0) account.ecs node with
  | error failure =>
      simp only [looked] at resolved
      have query := isAttached_unresolved options authorized
        (show lookupNode provider (choices 0) account.ecs (queriedNode provider node) =
          .error failure by rw [queried, looked])
      rw [attach_unresolved resolved, query, queried]
      exact ⟨rfl, rfl⟩
  | ok found =>
      simp only [looked] at resolved
      have query := isAttached_resolved options authorized
        (show lookupNode provider (choices 0) account.ecs (queriedNode provider node) =
          .ok found by rw [queried, looked])
      have known : instanceByNodeName provider.nodeNameType account.ecs.visible node =
          .ok found := by
        unfold lookupNode at looked
        split at looked
        · exact looked
        · cases looked
      obtain ⟨present, missing⟩ := stops found known
      rw [requireInstance, if_neg present] at resolved
      rw [attach_without_disk resolved missing, query, if_pos missing]
      exact ⟨rfl, rfl⟩

/-! ### Choices that tell the two apart -/

def refusing : Choice :=
  ⟨.refused, ⟨"", 0, "", ""⟩, fun _ => false, "", "", "", .stopped, false⟩

def servingOnce : Nat → Choice
  | 0 => { refusing with fate := .served }
  | _ + 1 => refusing

theorem refusing_quiet : CompletesNothing refusing := fun _ => rfl

theorem servingOnce_quiet (index : Nat) : CompletesNothing (servingOnce index) := by
  cases index <;> exact fun _ => rfl

def unreadDisk : VolumeError :=
  newVolumeErrorf ("Unable to get disk. " ++ refusing.error.text)

/-- `Attach` for the default instance, on a service that refuses. -/
theorem attach_refused_default (provider : AliyunProvider) (options : VolumeOptions)
    (account : Account) :
    ∃ result, ((attach provider options "").run Account.answer (fun _ => refusing)
        account).outcome = some result ∧
      (result = noInstance ∨ result = missingDiskId ∨ result = unreadDisk) := by
  have resolved :=
    resolveInstance_run_default provider (fun _ => refusing) account
  rw [requireInstance] at resolved
  by_cases none : provider.defaultInstance = ""
  · rw [if_pos none] at resolved
    exact ⟨noInstance, by rw [attach_unresolved resolved], Or.inl rfl⟩
  · rw [if_neg none] at resolved
    by_cases missing : options.diskId = ""
    · exact ⟨missingDiskId, by rw [attach_without_disk resolved missing],
        Or.inr (Or.inl rfl)⟩
    · exact ⟨unreadDisk, attach_unread resolved missing rfl, Or.inr (Or.inr rfl)⟩

/-- `Attach` for a named node, on a service that refuses. -/
theorem attach_refused_named (provider : AliyunProvider) (options : VolumeOptions)
    {node : String} (named : node ≠ "") (account : Account) :
    ((attach provider options node).run Account.answer (fun _ => refusing)
      account).outcome = some (unresolvedNode node (.api refusing.error)) := by
  obtain ⟨log, resolved⟩ :=
    resolveInstance_run_named provider named (fun _ => refusing) account
  rw [attach_unresolved resolved]

theorem unresolvedNode_inj {left right : String} {failure : GoError}
    (same : unresolvedNode left failure = unresolvedNode right failure) :
    left = right := by
  have messages := congrArg (fun result => result.message.toList) same
  simp only [unresolvedNode, newVolumeErrorf, String.toList_append, List.append_assoc] at messages
  have tails := List.append_cancel_left messages
  rw [← String.toList_inj]
  exact List.append_cancel_right tails

section Telling

variable {provider : AliyunProvider} {account : Account} {options : VolumeOptions}
  {node : String}

def Agree (provider : AliyunProvider) (account : Account) (options : VolumeOptions)
    (node : String) : Prop :=
  ∀ choices : Nat → Choice, (∀ index, CompletesNothing (choices index)) →
    ((attach provider options node).run Account.answer choices account).outcome =
      ((isAttached provider options node).run Account.answer choices account).outcome

theorem Agree.authorized (agree : Agree provider account options node) :
    provider.authorized := by
  by_contra locked
  have query : isAttached provider options node = .done (newVolumeNotSupported
      "Unable to check if a spec is attached without access key") := if_neg locked
  have same := agree (fun _ => refusing) (fun _ => refusing_quiet)
  rw [query, Prog.run_done] at same
  by_cases named : node = ""
  · subst named
    obtain ⟨result, outcome, cases⟩ := attach_refused_default provider options account
    rw [outcome] at same
    rcases cases with equal | equal | equal
    all_goals
      rw [equal] at same
      exact absurd (Option.some.inj same) (by decide)
  · rw [attach_refused_named provider options named] at same
    exact absurd (congrArg VolumeError.status (Option.some.inj same))
      (show statusFailure ≠ statusNotSupported by decide)

theorem Agree.query_refused (agree : Agree provider account options node) :
    ((attach provider options node).run Account.answer (fun _ => refusing)
      account).outcome =
      some (unresolvedNode (queriedNode provider node) (.api refusing.error)) := by
  rw [agree (fun _ => refusing) (fun _ => refusing_quiet)]
  exact isAttached_unresolved options agree.authorized rfl

theorem Agree.named (agree : Agree provider account options node) : node ≠ "" := by
  rintro rfl
  have same := agree.query_refused
  have empty : queriedNode provider "" = "" := rfl
  obtain ⟨result, outcome, cases⟩ := attach_refused_default provider options account
  rw [outcome, empty] at same
  rcases cases with equal | equal | equal
  all_goals
    rw [equal] at same
    exact absurd (Option.some.inj same) (by decide)

theorem Agree.queried (agree : Agree provider account options node) :
    queriedNode provider node = node := by
  have same := agree.query_refused
  rw [attach_refused_named provider options agree.named] at same
  exact (unresolvedNode_inj (Option.some.inj same)).symm

theorem Agree.stops (agree : Agree provider account options node)
    {found : InstanceAttributes}
    (known : instanceByNodeName provider.nodeNameType account.ecs.visible node =
      .ok found) : found.instanceId ≠ "" ∧ options.diskId = "" := by
  have same := agree servingOnce servingOnce_quiet
  have looked : lookupNode provider (servingOnce 0) account.ecs node = .ok found := known
  obtain ⟨log, resolved⟩ :=
    resolveInstance_run_named provider agree.named servingOnce account
  rw [resolvedNode, looked] at resolved
  rw [isAttached_resolved options agree.authorized
    (show lookupNode provider (servingOnce 0) account.ecs (queriedNode provider node) =
      .ok found by rw [agree.queried, looked])] at same
  have report : attachedReport found (lookupDisk (servingOnce 1) (settledFor
      (servingOnce 1) (settledFor (servingOnce 0) account)).ecs options.diskId) =
      newVolumeError refusing.error.text := rfl
  rw [report] at same
  by_cases nameless : found.instanceId = ""
  · simp only [requireInstance, if_pos nameless] at resolved
    rw [attach_unresolved resolved] at same
    by_cases missing : options.diskId = ""
    · rw [if_pos missing] at same
      exact absurd (Option.some.inj same) (by decide)
    · rw [if_neg missing] at same
      exact absurd (Option.some.inj same) (by decide)
  · refine ⟨nameless, ?_⟩
    by_contra present
    simp only [requireInstance, if_neg nameless] at resolved
    have unread : ((attach provider options node).run Account.answer servingOnce
        account).outcome = some unreadDisk := attach_unread resolved present rfl
    rw [unread, if_neg present] at same
    exact absurd (Option.some.inj same) (by decide)

theorem Agree.givesUpAlike (agree : Agree provider account options node) :
    GivesUpAlike provider account options node :=
  ⟨agree.authorized, agree.named, agree.queried, fun _ known => agree.stops known⟩

end Telling

/-- Where every well-formed `isattached` gives up, the command changes nothing. -/
theorem isAttached_unchanged {host : Host} {provider : AliyunProvider}
    {account : Account} {args rest : List String}
    (alike : ∀ json node rest options, args = "isattached" :: json :: node :: rest →
      host.decodeOptions json = some options →
      GivesUpAlike provider account options node)
    (whole : args = "isattached" :: rest) {choices : Nat → Choice}
    (quiet : ∀ index, CompletesNothing (choices index)) :
    ((dispatch host provider args).run Account.answer choices account).state = account := by
  subst whole
  match rest with
  | [] => rfl
  | [_] => rfl
  | json :: node :: others =>
      cases decoded : host.decodeOptions json with
      | none =>
          have ended : dispatch host provider ("isattached" :: json :: node :: others) =
              .done (.fatal ("Invalid json options: " ++ json)) := by
            have selected : dispatch host provider ("isattached" :: json :: node :: others) =
                withOptions host json fun options => attach provider options node := rfl
            rw [selected, withOptions, decoded]
            rfl
          rw [ended]
          rfl
      | some options =>
          rw [dispatch_isAttached decoded, reporting_run]
          exact (givesUpAlike_run (alike json node others options rfl decoded) quiet).2

/-- The query commands are read-only and truthful exactly for the argument
vectors that are no well-formed `isattached`, or one on which `Attach` and
`IsAttached` give up alike. -/
theorem queries_truthful_iff (host : Host) (provider : AliyunProvider)
    (account : Account) (args : List String) :
    QueriesTruthfully host provider account args ↔
      ∀ json node rest options, args = "isattached" :: json :: node :: rest →
        host.decodeOptions json = some options →
        GivesUpAlike provider account options node := by
  constructor
  · intro truthful json node rest options shape decoded
    apply Agree.givesUpAlike
    intro choices quiet
    have reported := (truthful choices quiet).2 json node rest options shape decoded
    rw [shape, dispatch_isAttached decoded, reporting_run] at reported
    refine Option.map_injective ?_ reported
    intro left right same
    exact Returned.volume.inj (Ending.result.inj same)
  · intro alike choices quiet
    constructor
    · intro op rest command shape selected query diskId
      have unchanged : ((dispatch host provider args).run Account.answer choices
          account).state = account := by
        by_cases asked : command = .isAttached
        · have name := Command.name_of_ofName selected
          rw [asked] at name
          have whole : args = "isattached" :: rest := by rw [shape, ← name]; rfl
          exact isAttached_unchanged alike whole quiet
        · have performed : dispatch host provider args = perform host provider command rest := by
            rw [shape, dispatch, selected]
          rw [performed]
          exact (readOnly_perform host provider query asked rest).run quiet account
      rw [unchanged]
    · intro json node rest options shape decoded
      rw [shape, dispatch_isAttached decoded, reporting_run,
        ← (givesUpAlike_run (alike json node rest options shape decoded) quiet).1]

def firstDiskText : String := "\x7b\"diskId\":\"d-1\"\x7d"

def firstDiskHost : Host where
  program := "aliyun-flexv"
  decodeOptions := fun text => if text = firstDiskText then some (forDisk "d-1") else none
  showOptions := fun _ => "map[diskId:d-1]"
  mountDevice := fun _ _ _ => volumeSuccess
  unmountDevice := fun _ => volumeSuccess

/-- Asking whether the disk of the second node is attached to the first node
starts to detach it from the second. -/
theorem isattached_detaches :
    placement twoDisks "d-1" = some (.inUse, "i-2") ∧
    placement ((dispatch firstDiskHost twoNodes ["isattached", firstDiskText, "node-a"]).run
      Account.answer (fun _ => serving fun _ => false) twoDisks).state "d-1" =
        some (.detaching, "i-2") ∧
    ¬QueriesTruthfully firstDiskHost twoNodes twoDisks
      ["isattached", firstDiskText, "node-a"] := by
  have before : placement twoDisks "d-1" = some (.inUse, "i-2") := by decide
  have after : placement ((dispatch firstDiskHost twoNodes
      ["isattached", firstDiskText, "node-a"]).run Account.answer
      (fun _ => serving fun _ => false) twoDisks).state "d-1" =
        some (.detaching, "i-2") := by
    decide
  refine ⟨before, after, ?_⟩
  intro truthful
  have kept := (truthful (fun _ => serving fun _ => false) (fun _ _ => rfl)).1
    "isattached" [firstDiskText, "node-a"] .isAttached rfl rfl trivial "d-1"
  rw [before, after] at kept
  exact absurd (Option.some.inj kept) (by decide)

end KubeAliyun.Flexv
