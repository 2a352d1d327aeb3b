import KubeAliyun.Provider.Volume
import KubeAliyun.Remote.Logic

/-!
# Lookups of nodes and disks

What one lookup returns, as a function of the service's choice and the state it
answers from, and which disk descriptions a run has read.
-/

namespace KubeAliyun.Volume

open KubeAliyun.Cloud KubeAliyun.Provider KubeAliyun.Remote

/-- The account after the transitions that a choice completes. -/
def settledFor (choice : Choice) (account : Account) : Account :=
  { account with ecs := account.ecs.settle choice.settles }

theorem settledFor_quiet {choice : Choice} (account : Account)
    (nothing : ∀ diskId, choice.settles diskId = false) :
    settledFor choice account = account := by
  simp only [settledFor, account.ecs.settle_none nothing]

/-! ## Nodes -/

/-- The outcome of `getInstanceByNodeName` on one answered call. -/
def lookupNode (provider : AliyunProvider) (choice : Choice) (ecs : Ecs)
    (node : String) : Except GoError InstanceAttributes :=
  if choice.fate = .served then
    instanceByNodeName provider.nodeNameType ecs.visible node
  else .error (.api choice.error)

/-- The answer to a page query of the inventory. -/
theorem answer_instances (choice : Choice) (account : Account)
    (args : DescribeInstancesArgs) :
    Account.answer choice account (.ecs (.describeInstances args)) =
      (choice.read (some (paginate account.ecs.defaultPageSize args.pagination
        account.ecs.instances)), settledFor choice account) := rfl

/-- What a read of the inventory returns. -/
def inventoryFor (choice : Choice) (ecs : Ecs) : Except ApiError (List InstanceAttributes) :=
  if choice.fate = .served then .ok ecs.visible else .error choice.error

theorem getInstances_run (provider : AliyunProvider) (choices : Nat → Choice)
    (account : Account) :
    ∃ event, (getInstances provider).run Account.answer choices account =
      ⟨some (inventoryFor (choices 0) account.ecs), [event], settledFor (choices 0) account,
        later choices⟩ := by
  have answered := answer_instances (choices 0) account
    ⟨provider.region, provider.vpcID, ⟨0, 0⟩⟩
  by_cases served : (choices 0).fate = .served
  · rw [(Choice.read_ok_iff _ _ _).mpr ⟨served, rfl⟩] at answered
    rw [inventoryFor, if_pos served]
    exact ⟨_, Prog.run_ask_of_answer answered⟩
  · rw [Choice.read_unserved _ _ served] at answered
    rw [inventoryFor, if_neg served]
    exact ⟨_, Prog.run_ask_of_answer answered⟩

theorem getInstanceByNodeName_run (provider : AliyunProvider) (node : String)
    (choices : Nat → Choice) (account : Account) :
    ∃ event, (getInstanceByNodeName provider node).run Account.answer choices account =
      ⟨some (lookupNode provider (choices 0) account.ecs node), [event],
        settledFor (choices 0) account, later choices⟩ := by
  obtain ⟨event, read⟩ := getInstances_run provider choices account
  refine ⟨event, ?_⟩
  unfold getInstanceByNodeName
  rw [Prog.run_bind_of_run read, inventoryFor, lookupNode]
  by_cases served : (choices 0).fate = .served
  · rw [if_pos served, if_pos served]
    rfl
  · rw [if_neg served, if_neg served]
    rfl

/-! ## Disks -/

def foundDisk (diskId : String) : Option DiskItem → Except GoError DiskItem
  | some disk => .ok disk
  | none => .error (diskNotFound diskId)

def lookupDisk (choice : Choice) (ecs : Ecs) (diskId : String) :
    Except GoError DiskItem :=
  if choice.fate = .served then foundDisk diskId (ecs.disk? diskId)
  else .error (.api choice.error)

/-- The disk description that an answered call has read. -/
def description : Event Account Call Reply → Option DiskItem
  | ⟨_, .ecs (.describeDisks _), .ok (disk :: _, _), _⟩ => some disk
  | _ => none

def lastDescription (log : List (Event Account Call Reply)) : Option DiskItem :=
  (log.filterMap description).getLast?

theorem lastDescription_concat (log : List (Event Account Call Reply))
    {event : Event Account Call Reply} {disk : DiskItem}
    (read : description event = some disk) :
    lastDescription (log ++ [event]) = some disk := by
  simp [lastDescription, read]

theorem lastDescription_append (log : List (Event Account Call Reply))
    {more : List (Event Account Call Reply)} {disk : DiskItem}
    (read : lastDescription more = some disk) :
    lastDescription (log ++ more) = some disk := by
  unfold lastDescription at read ⊢
  rw [List.filterMap_append, List.getLast?_append, read]
  rfl

def firstDisk (diskId : String) :
    Except ApiError (List DiskItem × PaginationResult) → Except GoError DiskItem
  | .error failure => .error (.api failure)
  | .ok (disk :: _, _) => .ok disk
  | .ok ([], _) => .error (diskNotFound diskId)

theorem description_described (diskId : String) (before after : Account)
    (args : DescribeDisksArgs) (reply : Except ApiError (List DiskItem × PaginationResult)) :
    description ⟨before, .ecs (.describeDisks args), reply, after⟩ =
      (firstDisk diskId reply).toOption := by
  match reply with
  | .error failure => rfl
  | .ok (disk :: others, counters) => rfl
  | .ok ([], counters) => rfl

theorem firstDisk_page {diskId : String} {found : Option DiskItem}
    {page : List DiskItem × PaginationResult} (one : page.1 = found.toList) :
    firstDisk diskId (.ok page) = foundDisk diskId found := by
  obtain ⟨disks, counters⟩ := page
  cases found with
  | none =>
      have empty : disks = [] := one
      rw [empty]
      rfl
  | some disk =>
      have single : disks = [disk] := one
      rw [single]
      rfl

/-- A request for one disk is answered with that disk, on a page of any size. -/
theorem describeDisks_run (region diskId : String) (size : Nat)
    (choices : Nat → Choice) (account : Account) :
    ∃ reply event, (describeDisks ⟨region, [diskId], "", ⟨0, size⟩⟩).run Account.answer
        choices account =
        ⟨some reply, [event], settledFor (choices 0) account, later choices⟩ ∧
      firstDisk diskId reply =
        lookupDisk (choices 0) (settledFor (choices 0) account).ecs diskId ∧
      description event = (firstDisk diskId reply).toOption := by
  refine ⟨(choices 0).read (some (paginate _ _ _)), _, rfl, ?_,
    description_described diskId _ _ _ _⟩
  have page := Ecs.paginate_describedDisks (settledFor (choices 0) account).ecs region
    diskId size
  by_cases served : (choices 0).fate = .served
  · rw [(Choice.read_ok_iff _ _ _).mpr ⟨served, rfl⟩, lookupDisk, if_pos served]
    exact firstDisk_page page
  · rw [Choice.read_unserved _ _ served, lookupDisk, if_neg served]
    rfl

theorem getDiskById_run (provider : AliyunProvider) (diskId : String)
    (choices : Nat → Choice) (account : Account) :
    ∃ event, (getDiskById provider diskId).run Account.answer choices account =
        ⟨some (lookupDisk (choices 0) (settledFor (choices 0) account).ecs diskId),
          [event], settledFor (choices 0) account, later choices⟩ ∧
      description event =
        (lookupDisk (choices 0) (settledFor (choices 0) account).ecs diskId).toOption := by
  obtain ⟨reply, event, described, looked, read⟩ :=
    describeDisks_run provider.region diskId 50 choices account
  refine ⟨event, ?_, by rw [read, looked]⟩
  rw [getDiskById, Prog.run_bind_of_run described, ← looked]
  match reply with
  | .error failure => rfl
  | .ok (disk :: others, counters) => rfl
  | .ok ([], counters) => rfl

/-! ## Waiting -/

section Waiting

variable {σ : Type} {contract : Contract σ Call Reply} {state : σ}

/-- A wait makes describing calls only: where these keep the state, it does. -/
theorem pollDisk_keeps
    (describes : ∀ args, contract.permit state (.ecs (.describeDisks args)) ∧
      ∀ reply after, contract.step state (.ecs (.describeDisks args)) reply after →
        contract.event state (.ecs (.describeDisks args)) reply after ∧ after = state)
    (region diskId : String) (status : DiskStatus) (left : Nat) :
    (pollDisk region diskId status left).Yields contract
      (fun _ after => after = state) state := by
  induction left with
  | zero => exact Prog.Yields.done rfl
  | succ left ih =>
      obtain ⟨permitted, answers⟩ := describes ⟨region, [diskId], "", ⟨0, 0⟩⟩
      refine Prog.Yields.ask permitted ?_
      intro reply after step
      obtain ⟨event, same⟩ := answers reply after step
      subst same
      refine ⟨event, ?_⟩
      match reply with
      | .error failure => exact Prog.Yields.done rfl
      | .ok ([], counters) => exact Prog.Yields.done rfl
      | .ok (disk :: others, counters) =>
          by_cases reached : disk.status = status
          · simp only [Prog.bind, if_pos reached]
            exact Prog.Yields.done rfl
          · simp only [Prog.bind, if_neg reached]
            exact ih

theorem waitForDisk_keeps
    (describes : ∀ args, contract.permit state (.ecs (.describeDisks args)) ∧
      ∀ reply after, contract.step state (.ecs (.describeDisks args)) reply after →
        contract.event state (.ecs (.describeDisks args)) reply after ∧ after = state)
    (region diskId : String) (status : DiskStatus) (timeout : Nat) :
    (waitForDisk region diskId status timeout).Yields contract
      (fun _ after => after = state) state := by
  unfold waitForDisk
  exact pollDisk_keeps describes region diskId status _

end Waiting

/-! ## The instance of a node -/

def resolvedNode (provider : AliyunProvider) (choice : Choice) (ecs : Ecs)
    (node : String) : Except VolumeError String :=
  match lookupNode provider choice ecs node with
  | .error failure => .error (unresolvedNode node failure)
  | .ok found => requireInstance found.instanceId

theorem resolveInstance_run_named (provider : AliyunProvider) {node : String}
    (named : node ≠ "") (choices : Nat → Choice) (account : Account) :
    ∃ log, (resolveInstance provider node).run Account.answer choices account =
      ⟨some (resolvedNode provider (choices 0) account.ecs node), log,
        settledFor (choices 0) account, later choices⟩ := by
  obtain ⟨event, looked⟩ := getInstanceByNodeName_run provider node choices account
  refine ⟨[event], ?_⟩
  rw [resolveInstance, if_pos named, Prog.run_bind_of_run looked, resolvedNode]
  cases lookupNode provider (choices 0) account.ecs node with
  | error failure => rfl
  | ok found => rfl

theorem resolveInstance_run_default (provider : AliyunProvider)
    (choices : Nat → Choice) (account : Account) :
    (resolveInstance provider "").run Account.answer choices account =
      ⟨some (requireInstance provider.defaultInstance), [], account, choices⟩ := rfl

section Attach

variable {provider : AliyunProvider} {options : VolumeOptions} {node : String}
  {choices rest : Nat → Choice} {account after : Account}
  {log : List (Event Account Call Reply)}

/-- `Attach` returns what the lookup of the instance reports. -/
theorem attach_unresolved {failure : VolumeError}
    (resolved : (resolveInstance provider node).run Account.answer choices account =
      ⟨some (.error failure), log, after, rest⟩) :
    (attach provider options node).run Account.answer choices account =
      ⟨some failure, (log ++ []) ++ [], after, rest⟩ := by
  have requested : (requestAttachment provider options node).run Account.answer
      choices account = ⟨some (.error failure), log ++ [], after, rest⟩ := by
    rw [requestAttachment, Prog.run_bind_of_run resolved]
    rfl
  rw [attach, Prog.run_bind_of_run requested]
  rfl

theorem attach_without_disk {instanceId : String}
    (resolved : (resolveInstance provider node).run Account.answer choices account =
      ⟨some (.ok instanceId), log, after, rest⟩) (missing : options.diskId = "") :
    (attach provider options node).run Account.answer choices account =
      ⟨some missingDiskId, (log ++ []) ++ [], after, rest⟩ := by
  have requested : (requestAttachment provider options node).run Account.answer
      choices account = ⟨some (.error missingDiskId), log ++ [], after, rest⟩ := by
    rw [requestAttachment, Prog.run_bind_of_run resolved]
    simp only [missing, if_true]
    rfl
  rw [attach, Prog.run_bind_of_run requested]
  rfl

/-- When the first look at the disk fails, `Attach` reports that. -/
theorem attach_unread {instanceId : String} {failure : GoError}
    (resolved : (resolveInstance provider node).run Account.answer choices account =
      ⟨some (.ok instanceId), log, after, rest⟩) (present : options.diskId ≠ "")
    (unread : lookupDisk (rest 0) (settledFor (rest 0) after).ecs options.diskId =
      .error failure) :
    ((attach provider options node).run Account.answer choices account).outcome =
      some (newVolumeErrorf ("Unable to get disk. " ++ failure.text)) := by
  obtain ⟨event, looked, -⟩ := getDiskById_run provider options.diskId rest after
  rw [unread] at looked
  have released : (releaseDisk provider instanceId options.diskId).run Account.answer
      rest after =
      ⟨some (some (newVolumeErrorf ("Unable to get disk. " ++ failure.text))),
        [event] ++ [], settledFor (rest 0) after, later rest⟩ := by
    rw [releaseDisk, Prog.run_bind_of_run looked]
    rfl
  have requested : (requestAttachment provider options node).run Account.answer
      choices account =
      ⟨some (.error (newVolumeErrorf ("Unable to get disk. " ++ failure.text))),
        log ++ (([event] ++ []) ++ []), settledFor (rest 0) after, later rest⟩ := by
    rw [requestAttachment, Prog.run_bind_of_run resolved]
    simp only [if_neg present, Prog.run_bind_of_run released]
    rfl
  rw [attach, Prog.run_bind_of_run requested]
  rfl

end Attach

/-! ## The query -/

/-- The name `IsAttached` looks a node up by. -/
def queriedNode (provider : AliyunProvider) (node : String) : String :=
  if node = "localhost" then provider.hostname else node

/-- What `IsAttached` reports for an instance once the disk has been looked up. -/
def attachedReport (found : InstanceAttributes) :
    Except GoError DiskItem → VolumeError
  | .error failure => newVolumeError failure.text
  | .ok disk =>
      { newVolumeSuccess with
        attached := disk.instanceId = found.instanceId ∧ disk.status = .inUse }

theorem isAttached_unresolved {provider : AliyunProvider} (options : VolumeOptions)
    {node : String} {choices : Nat → Choice} {account : Account} {failure : GoError}
    (authorized : provider.authorized)
    (unknown : lookupNode provider (choices 0) account.ecs (queriedNode provider node) =
      .error failure) :
    ((isAttached provider options node).run Account.answer choices account).outcome =
      some (unresolvedNode (queriedNode provider node) failure) := by
  obtain ⟨log, looked⟩ :=
    getInstanceByNodeName_run provider (queriedNode provider node) choices account
  rw [unknown] at looked
  have program : isAttached provider options node =
      getInstanceByNodeName provider (queriedNode provider node) >>= _ := if_pos authorized
  rw [program, Prog.run_bind_of_run looked]
  rfl

theorem isAttached_resolved {provider : AliyunProvider} (options : VolumeOptions)
    {node : String} {choices : Nat → Choice} {account : Account}
    {found : InstanceAttributes} (authorized : provider.authorized)
    (known : lookupNode provider (choices 0) account.ecs (queriedNode provider node) =
      .ok found) :
    ((isAttached provider options node).run Account.answer choices account).outcome =
      some (if options.diskId = "" then missingDiskId
        else attachedReport found (lookupDisk (choices 1)
          (settledFor (choices 1) (settledFor (choices 0) account)).ecs
          options.diskId)) := by
  obtain ⟨log, looked⟩ :=
    getInstanceByNodeName_run provider (queriedNode provider node) choices account
  rw [known] at looked
  have program : isAttached provider options node =
      getInstanceByNodeName provider (queriedNode provider node) >>= _ := if_pos authorized
  rw [program, Prog.run_bind_of_run looked]
  by_cases missing : options.diskId = ""
  · simp only [if_pos missing]
    rfl
  · obtain ⟨event, seen, -⟩ := getDiskById_run provider options.diskId (later choices)
      (settledFor (choices 0) account)
    have second : choices 1 = later choices 0 := rfl
    simp only [if_neg missing]
    rw [Prog.run_bind_of_run seen, second]
    cases lookupDisk (later choices 0)
        (settledFor (later choices 0) (settledFor (choices 0) account)).ecs
        options.diskId with
    | error failure => rfl
    | ok disk => rfl

/-! ## Calls -/

/-- The node name stands for this instance in the inventory. -/
def Resolves (provider : AliyunProvider) (inventory : List InstanceAttributes)
    (node instanceId : String) : Prop :=
  ∃ found, instanceByNodeName provider.nodeNameType inventory node = .ok found ∧
    found.instanceId = instanceId

inductive DiskCall where
  | attach (options : VolumeOptions) (node : String)
  | detach (volume node : String)
  | isAttached (options : VolumeOptions) (node : String)

namespace DiskCall

def node : DiskCall → String
  | .attach _ node => node
  | .detach _ node => node
  | .isAttached _ node => node

def program (provider : AliyunProvider) : DiskCall → Aliyun VolumeError
  | .attach options node => Provider.attach provider options node
  | .detach volume node => Provider.detach provider volume node
  | .isAttached options node => Provider.isAttached provider options node

end DiskCall

/-! ## A small account -/

/-- A provider with two nodes, on the first of which it runs. -/
def twoNodes : AliyunProvider :=
  ⟨"key", "secret", "cn-hangzhou", "vpc-1", "i-1", "node-a", .hostname⟩

/-- One disk in use on the second node, and a free one. -/
def twoDisks : Account where
  ecs :=
    { instances := [⟨"i-1", "node-a", ["10.0.0.1"]⟩, ⟨"i-2", "node-b", ["10.0.0.2"]⟩]
      disks := [⟨"d-1", .inUse, "i-2", "/dev/xvdb"⟩, ⟨"d-2", .available, "", ""⟩]
      defaultPageSize := 20
      idsDistinct := by decide
      defaultPageSize_pos := by decide }
  slb := ⟨[], by decide⟩

def forDisk (diskId : String) : VolumeOptions := fun key =>
  if key = "diskId" then some (.string diskId) else none

/-- A service that serves every call and completes the transitions it is told to. -/
def serving (settles : String → Bool) : Choice :=
  ⟨.served, ⟨"r", 400, "Throttling", "try again"⟩, settles, "/dev/xvdc", "", "",
    .stopped, false⟩

end KubeAliyun.Volume
