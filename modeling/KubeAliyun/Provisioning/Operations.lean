import KubeAliyun.Controller.ProvisionController
import KubeAliyun.Custody.Ledger

/-!
# What an operation has in its hands

Between two calls an operation of the provision controller is responsible for at most one
disk.  Which calls it makes depends on what it has in its hands, and every answer says what
it has in them next.
-/

namespace KubeAliyun.Provisioning

open KubeAliyun.Cloud KubeAliyun.Provider KubeAliyun.Remote KubeAliyun.Kube
  KubeAliyun.Controller

/-- Operations are responsible for disks; records are volumes, by their names. -/
abbrev Hand : Type := Custody.Hand String String

inductive Operation where
  | provision (claim : V1Claim)
  | delete (volume : V1Volume)

namespace Operation

def program (ctrl : ProvisionController) : Operation → Provisioned (Option GoError)
  | .provision claim => provisionClaimOperation ctrl claim
  | .delete volume => deleteVolumeOperation ctrl volume

def opName : Operation → String
  | .provision claim => provisionOpName claim
  | .delete volume => deleteOpName volume

end Operation

/-- The reason of the event for a disk that could not be deleted. -/
def cleanupFailed : String := "ProvisioningCleanupFailed"

def keepsDropping : Hand → Hand
  | .holds diskId => .dropping diskId
  | hand => hand

def provisioning (hand : Hand) : (request : ProvisionCall) → ProvisionReply request → Hand
  | .inl (.createDisk _), .ok diskId => .holds diskId
  | .inl (.createDisk _), .error _ => hand
  | .inl (.deleteDisk _), none => .empty
  | .inl (.deleteDisk _), some _ => keepsDropping hand
  | .inr (.createVolume _), none => .empty
  | .inr (.createVolume _), some _ => hand
  | .inr (.recordEvent event), _ => if event.reason = cleanupFailed then .empty else hand
  | .inr (.lookupClass _), _ => hand
  | .inr (.getVolume _), _ => hand
  | .inr (.deleteVolume _), _ => hand

/-- The hand of a deletion that the stored volume allows. -/
def clearedFor (volume : V1Volume) : Hand :=
  volume.disk?.elim .empty (.cleared volume.name)

def deleting (ctrl : ProvisionController) (volume : V1Volume) (hand : Hand) :
    (request : ProvisionCall) → ProvisionReply request → Hand
  | .inl (.createDisk _), _ => hand
  | .inl (.deleteDisk diskId), none => .wiped volume.name diskId
  | .inl (.deleteDisk _), some _ => .empty
  | .inr (.getVolume _), .ok stored =>
      if shouldDelete ctrl stored then clearedFor volume else .empty
  | .inr (.getVolume _), .error _ => .empty
  | .inr (.deleteVolume _), _ => .empty
  | .inr (.createVolume _), _ => hand
  | .inr (.recordEvent _), _ => hand
  | .inr (.lookupClass _), _ => hand

def Operation.hand (ctrl : ProvisionController) : Operation → Hand →
    (request : ProvisionCall) → ProvisionReply request → Hand
  | .provision _, hand, request, reply => provisioning hand request reply
  | .delete volume, hand, request, reply => deleting ctrl volume hand request reply

def Operation.Permits : Operation → Hand → ProvisionCall → Prop
  | .provision _, hand, .inl (.createDisk _) => hand = .empty
  | .provision _, hand, .inl (.deleteDisk diskId) =>
      hand = .holds diskId ∨ hand = .dropping diskId
  | .provision _, hand, .inr (.createVolume volume) =>
      ∃ diskId, volume.disk? = some diskId ∧ hand = .holds diskId
  | .provision _, _, .inr (.deleteVolume _) => False
  | .provision claim, hand, .inr (.recordEvent event) => event.reason = cleanupFailed →
      event.subject = claimToClaimKey claim ∧
        ∃ diskId, hand = .holds diskId ∨ hand = .dropping diskId
  | .provision _, _, _ => True
  | .delete _, _, .inl (.createDisk _) => False
  | .delete volume, hand, .inl (.deleteDisk diskId) => hand = .cleared volume.name diskId
  | .delete volume, hand, .inr (.getVolume name) => name = volume.name ∧ hand = .empty
  | .delete _, _, .inr (.createVolume _) => False
  | .delete volume, hand, .inr (.deleteVolume name) =>
      name = volume.name ∧ ∃ diskId, hand = .wiped name diskId
  | .delete _, _, .inr (.recordEvent event) => event.reason ≠ cleanupFailed
  | .delete _, _, .inr (.lookupClass _) => True

/-- An operation keeps to its calls, whatever the answers. -/
def custody (ctrl : ProvisionController) (operation : Operation) :
    Contract Hand ProvisionCall ProvisionReply where
  step hand request reply next := next = operation.hand ctrl hand request reply
  permit := operation.Permits
  event _ _ _ _ := True

/-- The operation has nothing left to do for a disk. -/
def Settled (hand : Hand) : Prop :=
  hand = .empty ∨ ∃ name diskId, hand = .cleared name diskId

def Finished (outcome : Option (Option GoError)) (hand : Hand) : Prop :=
  outcome.isSome ∧ Settled hand

theorem clearedFor_settled (volume : V1Volume) : Settled (clearedFor volume) := by
  unfold clearedFor
  cases volume.disk? with
  | none => exact Or.inl rfl
  | some diskId => exact Or.inr ⟨volume.name, diskId, rfl⟩

section Programs

variable {ctrl : ProvisionController} {operation : Operation} {hand : Hand} {α : Type}
  {post : Option α → Hand → Prop}

/-- One call of an operation. -/
theorem custody_ask {request : ProvisionCall} {next : ProvisionReply request → Provisioned α}
    (permitted : operation.Permits hand request)
    (answers : ∀ reply, (next reply).Ensures (custody ctrl operation) post
      (operation.hand ctrl hand request reply)) :
    (Prog.ask request next).Ensures (custody ctrl operation) post hand := by
  refine ⟨permitted, ?_⟩
  rintro reply after rfl
  exact ⟨trivial, answers reply⟩

/-! ## Provisioning -/

variable {claim : V1Claim}

theorem recordEvent_ensures {event : RecordedEvent} {next : Unit → Provisioned α}
    (harmless : event.reason ≠ cleanupFailed)
    (rest : (next ()).Ensures (custody ctrl (.provision claim)) post hand) :
    (recordEvent event >>= next).Ensures (custody ctrl (.provision claim)) post hand := by
  refine custody_ask (fun same => absurd same harmless) fun reply => ?_
  change Prog.Ensures _ _ (next ()) (if event.reason = cleanupFailed then .empty else hand)
  rw [if_neg harmless]
  exact rest

/-- A volume is saved, or its disk is still in the hands of the operation. -/
theorem saveVolume_ensures {volume : V1Volume} {diskId : String}
    (names : volume.disk? = some diskId) (attempts : Nat) {failure : Option StatusError}
    (started : failure = none → 0 < attempts) :
    (saveVolume volume attempts failure).Ensures (custody ctrl (.provision claim))
      (fun outcome after => outcome = some none ∧ after = .empty ∨
        ∃ error, outcome = some (some error) ∧ after = .holds diskId) (.holds diskId) := by
  induction attempts generalizing failure with
  | zero =>
      cases failure with
      | none => exact absurd (started rfl) (Nat.lt_irrefl 0)
      | some error => exact Or.inr ⟨error, rfl, rfl⟩
  | succ attempts ih =>
      refine custody_ask ⟨diskId, names, rfl⟩ fun reply => ?_
      change Option StatusError at reply
      cases reply with
      | none => exact Or.inl ⟨rfl, rfl⟩
      | some error => exact ih fun impossible => by cases impossible

/-- `Delete` of the provisioner fails at once, or deletes the disk that the volume names. -/
theorem deleteAsset_cases (ctrl : ProvisionController) (volume : V1Volume) :
    (∃ error, deleteAsset ctrl volume = .done (some error)) ∨
      ∃ diskId, volume.disk? = some diskId ∧ deleteAsset ctrl volume =
        .ask (Sum.inl (.deleteDisk diskId) : ProvisionCall) fun reply : Option ApiError =>
          .done (reply.map fun failure => .plain ("Error deleting disk: " ++ failure.text)) := by
  unfold deleteAsset Provider.delete V1Volume.disk?
  cases volume.flexVolume with
  | none => exact Or.inl ⟨_, rfl⟩
  | some source =>
      dsimp only [Option.bind_some]
      cases source.options "diskId" with
      | none => exact Or.inl ⟨_, rfl⟩
      | some diskId =>
          by_cases blank : diskId = ""
          · rw [Option.getD_some, if_pos blank]
            exact Or.inl ⟨_, rfl⟩
          · rw [Option.getD_some, if_neg blank]
            refine Or.inr ⟨diskId, rfl, congrArg (Prog.ask _) (funext fun reply => ?_)⟩
            change Option ApiError at reply
            cases reply <;> rfl

/-- One attempt to delete the disk of a volume that is not saved. -/
theorem deleteAsset_drops {volume : V1Volume} {diskId : String}
    (names : volume.disk? = some diskId)
    (held : hand = .holds diskId ∨ hand = .dropping diskId) :
    (deleteAsset ctrl volume).Ensures (custody ctrl (.provision claim))
      (fun outcome after => outcome = some none ∧ after = .empty ∨
        ∃ error, outcome = some (some error) ∧
          (after = .holds diskId ∨ after = .dropping diskId)) hand := by
  rcases deleteAsset_cases ctrl volume with ⟨error, same⟩ | ⟨other, named, same⟩
  · rw [same]
    exact Or.inr ⟨error, rfl, held⟩
  · cases names.symm.trans named
    rw [same]
    refine custody_ask held fun reply => ?_
    change Option ApiError at reply
    cases reply with
    | none => exact Or.inl ⟨rfl, rfl⟩
    | some failure =>
        refine Or.inr ⟨_, rfl, Or.inr ?_⟩
        rcases held with rfl | rfl <;> rfl

theorem cleanVolume_ensures {volume : V1Volume} {diskId : String}
    (names : volume.disk? = some diskId) (attempts : Nat) {failure : Option GoError}
    (failed : failure ≠ none) (held : hand = .holds diskId ∨ hand = .dropping diskId) :
    (cleanVolume ctrl volume attempts failure).Ensures (custody ctrl (.provision claim))
      (fun outcome after => outcome = some none ∧ after = .empty ∨
        ∃ error, outcome = some (some error) ∧
          (after = .holds diskId ∨ after = .dropping diskId)) hand := by
  induction attempts generalizing failure hand with
  | zero =>
      cases failure with
      | none => exact absurd rfl failed
      | some error => exact Or.inr ⟨error, rfl, held⟩
  | succ attempts ih =>
      refine Prog.Ensures.bind (deleteAsset_drops names held) ?_ ?_
      · rintro result after (⟨same, rfl⟩ | ⟨error, same, kept⟩)
        · cases same
          exact Or.inl ⟨rfl, rfl⟩
        · cases same
          exact ih (by simp) kept
      · rintro after (⟨impossible, -⟩ | ⟨_, impossible, -⟩)
        · cases impossible
        · cases impossible

/-- An operation that could not save its volume deletes the disk or reports it. -/
theorem cleanUp_ensures {volume : V1Volume} {diskId : String}
    (names : volume.disk? = some diskId) (failure : StatusError) :
    (cleanUp ctrl claim volume failure).Ensures (custody ctrl (.provision claim)) Finished
      (.holds diskId) := by
  refine recordEvent_ensures (by simp [cleanupFailed]) ?_
  refine Prog.Ensures.bind
    (cleanVolume_ensures names _ (by simp) (Or.inl rfl)) ?_ ?_
  · rintro result after (⟨same, rfl⟩ | ⟨error, same, kept⟩)
    · cases same
      exact ⟨rfl, Or.inl rfl⟩
    · cases same
      exact custody_ask (fun _ => ⟨rfl, diskId, kept⟩) fun reply => ⟨rfl, Or.inl rfl⟩
  · rintro after (⟨impossible, -⟩ | ⟨_, impossible, -⟩)
    · cases impossible
    · cases impossible

theorem saveProvisioned_ensures {volume : V1Volume} {diskId : String}
    (names : volume.disk? = some diskId) :
    (saveProvisioned ctrl claim volume).Ensures (custody ctrl (.provision claim)) Finished
      (.holds diskId) := by
  refine Prog.Ensures.bind (saveVolume_ensures names _ fun _ => by decide) ?_ ?_
  · rintro result after (⟨same, rfl⟩ | ⟨error, same, rfl⟩)
    · cases same
      exact recordEvent_ensures (by simp [cleanupFailed]) ⟨rfl, Or.inl rfl⟩
    · cases same
      exact cleanUp_ensures names error
  · rintro after (⟨impossible, -⟩ | ⟨_, impossible, -⟩)
    · cases impossible
    · cases impossible

/-- The new asset is in the hands of the operation, and the volume names it. -/
theorem provision_ensures (outOfRange : Nat → Int64) (provider : ProvisioningProvider)
    (options : ProvisionerOptions) :
    ((provision outOfRange provider options).lift : Provisioned _).Ensures
      (custody ctrl (.provision claim))
      (fun outcome after => (∃ failure, outcome = some (.error failure) ∧ after = .empty) ∨
        ∃ size diskId, outcome = some (.ok (volumeOn options size diskId)) ∧
          after = .holds diskId) .empty := by
  unfold provision
  cases checkClaim options with
  | error failure => exact Or.inl ⟨failure, rfl, rfl⟩
  | ok storageOptions =>
      refine custody_ask rfl fun reply => ?_
      change Except ApiError String at reply
      cases reply with
      | error failure => exact Or.inl ⟨_, rfl, rfl⟩
      | ok diskId => exact Or.inr ⟨_, diskId, rfl, rfl⟩

theorem provisionClaimOperation_ensures (claim : V1Claim) :
    (provisionClaimOperation ctrl claim).Ensures (custody ctrl (.provision claim)) Finished
      .empty := by
  refine custody_ask trivial fun reply => ?_
  change Except StatusError V1Volume at reply
  cases reply with
  | ok volume => exact ⟨rfl, Or.inl rfl⟩
  | error failure =>
      refine custody_ask trivial fun cached => ?_
      change Option StorageClass at cached
      dsimp only [Prog.bind]
      cases getStorageClass ctrl (getClaimClass claim) cached with
      | error failure => exact ⟨rfl, Or.inl rfl⟩
      | ok storageClass =>
          refine recordEvent_ensures (by simp [cleanupFailed]) ?_
          refine Prog.Ensures.bind (provision_ensures _ _ _) ?_ ?_
          · rintro result after (⟨failure, same, rfl⟩ | ⟨size, diskId, same, rfl⟩)
            · cases same
              exact recordEvent_ensures (by simp [cleanupFailed]) ⟨rfl, Or.inl rfl⟩
            · cases same
              exact saveProvisioned_ensures rfl
          · rintro after (⟨_, impossible, -⟩ | ⟨_, _, impossible, -⟩)
            · cases impossible
            · cases impossible

/-! ## Deletion -/

theorem deleteVolumeOperation_ensures (volume : V1Volume) :
    (deleteVolumeOperation ctrl volume).Ensures (custody ctrl (.delete volume)) Finished
      .empty := by
  refine custody_ask ⟨rfl, rfl⟩ fun reply => ?_
  change Except StatusError V1Volume at reply
  cases reply with
  | error failure => exact ⟨rfl, Or.inl rfl⟩
  | ok newVolume =>
      change Prog.Ensures (custody ctrl (.delete volume)) Finished
        (if shouldDelete ctrl newVolume = true then _ else _)
        (if shouldDelete ctrl newVolume = true then clearedFor volume else .empty)
      split
      · rcases deleteAsset_cases ctrl volume with ⟨error, same⟩ | ⟨diskId, named, same⟩
        · rw [same]
          exact custody_ask (by simp [Operation.Permits, cleanupFailed]) fun reply =>
            ⟨rfl, clearedFor_settled volume⟩
        · have cleared : clearedFor volume = .cleared volume.name diskId := by
            rw [clearedFor, named]
            rfl
          rw [same, cleared]
          refine custody_ask rfl fun reply => ?_
          change Option ApiError at reply
          cases reply with
          | none => exact custody_ask ⟨rfl, diskId, rfl⟩ fun reply => ⟨rfl, Or.inl rfl⟩
          | some failure =>
              refine custody_ask (by simp [Operation.Permits, cleanupFailed]) fun reply => ?_
              exact ⟨rfl, Or.inl rfl⟩
      · exact ⟨rfl, Or.inl rfl⟩

theorem program_ensures (ctrl : ProvisionController) (operation : Operation) :
    (operation.program ctrl).Ensures (custody ctrl operation) Finished .empty := by
  cases operation with
  | provision claim => exact provisionClaimOperation_ensures claim
  | delete volume => exact deleteVolumeOperation_ensures volume

end Programs

end KubeAliyun.Provisioning
