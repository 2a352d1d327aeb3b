import KubeAliyun.Provisioning.Operations

/-!
# The provision controller at work

The operations of the controller, the informers and the other clients of the API server as
one transition system over the disks of the account and the volumes of the cluster.  An
operation makes one call at a time, so that operations interleave, and the process may be
restarted at any point.  The lock that instances of the controller take on a claim is not
relied on: an operation starts whenever none of its name is running.
-/

namespace KubeAliyun.Provisioning

open KubeAliyun.Cloud KubeAliyun.Provider KubeAliyun.Remote KubeAliyun.Kube
  KubeAliyun.Controller

/-- An operation in its goroutine.  `made` is a note of the model: the disk that it has
created. -/
structure Job where
  operation : Operation
  program : Provisioned (Option GoError)
  made : Option String

def created (made : Option String) : (request : ProvisionCall) → ProvisionReply request →
    Option String
  | .inl (.createDisk _), .ok diskId => some diskId
  | .inl (.createDisk _), .error _ => made
  | .inl (.deleteDisk _), _ => made
  | .inr _, _ => made

/-- An event that an operation has recorded after it had created the disk. -/
structure Report where
  operation : Operation
  diskId : String
  event : RecordedEvent

/-- What an operation with a disk reports by a call. -/
def reported (operation : Operation) : ProvisionCall → Option String → List Report
  | .inr (.recordEvent event), some diskId => [⟨operation, diskId, event⟩]
  | _, _ => []

/-- The operation that provisions for a claim says of the claim that it could not delete the
disk which it had created. -/
structure Report.GivesUp (report : Report) (diskId : String) : Prop where
  disk : report.diskId = diskId
  reason : report.event.reason = cleanupFailed
  own : ∃ claim, report.operation = .provision claim ∧
    report.event.subject = claimToClaimKey claim

/-- The controller and its surroundings.  `running` is the map of goroutines, by the names of
their operations.  The other fields are notes of the model: `history` are the versions of
volumes that informers have been or will be told of, `issued` the ids of disks that are not
free for a new one, and `reports` what operations have recorded in the run. -/
structure System where
  inventory : Inventory
  running : String → Option Job
  failedClaimsStats : FailedClaims
  history : List V1Volume
  issued : List String
  reports : List Report

inductive Move where
  | claimEvent (claim : V1Claim) (cached : Option StorageClass)
  | lead (claim : V1Claim)
  | volumeEvent (volume : V1Volume)
  | call (opName : String) (choice : ProvisionChoice)
  | finish (opName : String)
  | edit (name : String) (change : V1Volume → V1Volume)
  | restart

namespace System

def disks (system : System) : List String := system.inventory.1.diskIds

def volume? (system : System) (name : String) : Option V1Volume :=
  system.inventory.2.volumes.lookup name

def events (system : System) : List RecordedEvent := system.inventory.2.events

def start (inventory : Inventory) : System where
  inventory := inventory
  running := fun _ => none
  failedClaimsStats := fun _ => none
  history := inventory.2.volumes.entries.map Sigma.snd
  issued := inventory.1.diskIds ++ inventory.2.volumes.entries.filterMap fun entry => entry.2.disk?
  reports := []

def become (system : System) (inventory : Inventory) : System :=
  { system with
    inventory
    history := system.history ++ inventory.2.volumes.entries.map Sigma.snd
    issued := system.issued ++ inventory.1.diskIds }

def schedule (ctrl : ProvisionController) (system : System) (operation : Operation) : System :=
  match system.running operation.opName with
  | some _ => system
  | none =>
      { system with
        running := Function.update system.running operation.opName
          (some ⟨operation, operation.program ctrl, none⟩) }

def call (system : System) (opName : String) (choice : ProvisionChoice) : System :=
  match system.running opName with
  | some ⟨operation, .ask request next, made⟩ =>
      let answer := Inventory.answer choice system.inventory request
      { system.become answer.2 with
        running := Function.update system.running opName
          (some ⟨operation, next answer.1, created made request answer.1⟩)
        reports := system.reports ++ reported operation request made }
  | _ => system

def stats (system : System) (err : Option GoError) : Operation → FailedClaims
  | .provision claim => updateStats system.failedClaimsStats claim err
  | .delete _ => system.failedClaimsStats

def finish (system : System) (opName : String) : System :=
  match system.running opName with
  | some ⟨operation, .done err, _⟩ =>
      { system with
        running := Function.update system.running opName none
        failedClaimsStats := system.stats err operation }
  | _ => system

/-- Another client writes a volume. -/
def edit (system : System) (name : String) (change : V1Volume → V1Volume) : System :=
  match system.volume? name with
  | none => system
  | some volume =>
      system.become (system.inventory.1,
        { system.inventory.2 with
          volumes := system.inventory.2.volumes.insert name (change volume) })

def move (ctrl : ProvisionController) (system : System) : Move → System
  | .claimEvent claim cached =>
      if shouldProvision ctrl system.failedClaimsStats cached claim then
        system.schedule ctrl (.provision claim)
      else system
  | .lead claim => system.schedule ctrl (.provision claim)
  | .volumeEvent volume =>
      if shouldDelete ctrl volume then system.schedule ctrl (.delete volume) else system
  | .call opName choice => system.call opName choice
  | .finish opName => system.finish opName
  | .edit name change => system.edit name change
  | .restart => { system with running := fun _ => none, failedClaimsStats := fun _ => none }

def run (ctrl : ProvisionController) (system : System) (moves : List Move) : System :=
  moves.foldl (move ctrl) system

def request? (system : System) (opName : String) : Option ProvisionCall :=
  match system.running opName with
  | some ⟨_, .ask request _, _⟩ => some request
  | _ => none

end System

/-- A volume is live until it is released or has failed. -/
def live (volume : V1Volume) : Bool :=
  !(volume.phase == .released || volume.phase == .failed)

/-- What clients other than the controller do to a volume: its name and its source do not
change, and a volume that is released or has failed does not become live again. -/
structure Revises (change : V1Volume → V1Volume) : Prop where
  name : ∀ volume, (change volume).name = volume.name
  source : ∀ volume, (change volume).flexVolume = volume.flexVolume
  stays : ∀ volume, live volume = false → live (change volume) = false

/-- Informers hand out versions there have been, ids of disks are not used again, and the
creation of a volume is answered. -/
def Lawful (system : System) : Move → Prop
  | .volumeEvent volume => volume ∈ system.history
  | .call opName choice => choice.newDiskId ∉ system.issued ∧
      ∀ volume, system.request? opName = some (.inr (.createVolume volume)) →
        choice.kubeFate ≠ .unanswered
  | .edit _ change => Revises change
  | _ => True

/-- The storage minds when a disk that is to be deleted does not exist. -/
def Refusing : Move → Prop
  | .call _ choice => choice.ignoresMissing = false
  | _ => True

/-- A run all of whose moves keep to a law. -/
def Along (ctrl : ProvisionController) (law : System → Move → Prop) : System → List Move → Prop
  | _, [] => True
  | system, move :: rest => law system move ∧ Along ctrl law (system.move ctrl move) rest

end KubeAliyun.Provisioning
