import KubeAliyun.Provisioning.Keeping
import KubeAliyun.Volume.Provisioning

/-!
# What the controller leaves behind

The ledger of a tidy start is sound, and every lawful run keeps it so.  A volume that is live
keeps its disk whatever operations run beside each other; as long as the storage minds when a
disk does not exist, a disk is left without a volume only where an answer of the storage was
lost, the process was restarted or its operation has recorded that it gives the disk up, and
a volume whose disk is gone is never removed.
-/

namespace KubeAliyun.Provisioning

open KubeAliyun.Cloud KubeAliyun.Provider KubeAliyun.Remote KubeAliyun.Kube
  KubeAliyun.Controller KubeAliyun.Custody KubeAliyun.Volume

section Runs

variable {ctrl : ProvisionController} {inventory : Inventory}

/-- A system whose operations keep a sound ledger, of which more may be known. -/
def Kept (ctrl : ProvisionController) (more : Ledger String String String → Prop)
    (system : System) : Prop :=
  ∃ hands, Tracks ctrl system hands ∧ (system.ledger hands).Sound ∧ more (system.ledger hands)

variable {system : System} {more : Ledger String String String → Prop}

/-- What steps keep of sound ledgers, and leaks and slips where they are excused, a lawful move
keeps. -/
theorem Kept.move {move : Move} (lawful : Lawful system move)
    (steps : ∀ ledger next, ledger.Sound → more ledger → Ledger.Step ledger next → more next)
    (leaks : Strays system move → ∀ ledger next, ledger.Sound → more ledger →
      Ledger.Leak ledger next → more next)
    (slips : ¬Refusing move → ∀ ledger next, ledger.Sound → more ledger →
      Ledger.Slip ledger next → more next)
    (kept : Kept ctrl more system) : Kept ctrl more (system.move ctrl move) := by
  obtain ⟨hands, tracks, sound, holds⟩ := kept
  obtain ⟨nextHands, nextTracks, step | ⟨leak, strays⟩ | ⟨slip, ignored⟩⟩ :=
    move_carries tracks lawful
  · exact ⟨nextHands, nextTracks, step.sound sound, steps _ _ sound holds step⟩
  · exact ⟨nextHands, nextTracks, leak.sound sound, leaks strays _ _ sound holds leak⟩
  · exact ⟨nextHands, nextTracks, slip.sound sound, slips ignored _ _ sound holds slip⟩

/-- What every move of a law keeps, every run along the law keeps. -/
theorem Along.keeps {law : System → Move → Prop} {holds : System → Prop}
    (keeps : ∀ system move, holds system → law system move → holds (system.move ctrl move))
    {moves : List Move} (along : Along ctrl law system moves) (first : holds system) :
    holds (system.run ctrl moves) := by
  induction moves generalizing system with
  | nil => exact first
  | cons move rest ih => exact ih along.2 (keeps system move first along.1)

end Runs

def sampleController : ProvisionController where
  provisionerName := "kubeup.com/aliyun"
  is1dot4 := false
  failedRetryThreshold := 15
  provisioner := zoned
  outOfRange := fun _ => 0
  quoted := id
  showVolume := fun _ => ""
  showSource := fun _ => ""

def ssdClass : StorageClass := ⟨"ssd", "kubeup.com/aliyun", some ssdParameters⟩

def sampleClaim : V1Claim where
  nameSpace := "default"
  name := "data"
  uid := "7"
  annotations := fun _ => none
  volumeName := ""
  spec := ⟨false, [.readWriteOnce], fun _ => some ⟨⟨30, 9⟩, none⟩, some "ssd"⟩

def helpful (diskId : String) : ProvisionChoice where
  toStorageChoice := ⟨serving fun _ => false, diskId⟩
  ignoresMissing := false
  kubeFate := .served
  kubeError := ⟨.other, "the server is busy"⟩
  newUid := "v-7"
  storageClass := some ssdClass

def unclaimed : Inventory := (twoDisks.ecs, ⟨∅, []⟩)

section Events

variable {ctrl : ProvisionController} {system : System}

theorem commit_events {choice : ProvisionChoice} {store : VolumeStore}
    {attempt : Option VolumeStore}
    (kept : ∀ next, attempt = some next → next.events = store.events) :
    (store.commit choice attempt).2.events = store.events := by
  cases attempt with
  | none => cases fate : choice.kubeFate <;> simp only [VolumeStore.commit, fate]
  | some next =>
      cases fate : choice.kubeFate <;> simp only [VolumeStore.commit, fate, kept next rfl]

/-- Only the call for an event writes one. -/
theorem answer_events (choice : ProvisionChoice) (inventory : Inventory)
    (request : ProvisionCall) :
    ∃ more, (Inventory.answer choice inventory request).2.2.events =
        inventory.2.events ++ more ∧
      ∀ event, request = .inr (.recordEvent event) → event ∈ more := by
  rcases request with request | ⟨name⟩ | ⟨name⟩ | ⟨volume⟩ | ⟨name⟩ | ⟨other⟩
  · exact ⟨[], (List.append_nil _).symm, fun _ impossible => by cases impossible⟩
  · exact ⟨[], (List.append_nil _).symm, fun _ impossible => by cases impossible⟩
  · exact ⟨[], (List.append_nil _).symm, fun _ impossible => by cases impossible⟩
  · refine ⟨[], ?_, fun _ impossible => by cases impossible⟩
    rw [List.append_nil]
    refine commit_events fun next created => ?_
    unfold VolumeStore.create at created
    split at created
    · cases created
    · cases created
      rfl
  · refine ⟨[], ?_, fun _ impossible => by cases impossible⟩
    rw [List.append_nil]
    refine commit_events fun next deleted => ?_
    unfold VolumeStore.delete at deleted
    split at deleted
    · cases deleted
    · cases deleted
      rfl
  · refine ⟨[other], rfl, ?_⟩
    rintro event ⟨⟩
    exact List.mem_singleton_self other

/-- Events are only added, and what the operations have reported is among them. -/
def Recorded (earlier : List RecordedEvent) (system : System) : Prop :=
  ∃ recorded, system.events = earlier ++ recorded ∧
    ∀ report ∈ system.reports, report.event ∈ recorded

theorem Recorded.same {earlier : List RecordedEvent} {next : System}
    (recorded : Recorded earlier system) (events : next.events = system.events)
    (reports : next.reports = system.reports) : Recorded earlier next := by
  obtain ⟨added, whole, reported⟩ := recorded
  exact ⟨added, events.trans whole, reports ▸ reported⟩

theorem Recorded.schedule {earlier : List RecordedEvent} (recorded : Recorded earlier system)
    (operation : Operation) : Recorded earlier (system.schedule ctrl operation) := by
  refine recorded.same ?_ ?_
  all_goals
    unfold System.schedule
    split <;> rfl

theorem Recorded.call {earlier : List RecordedEvent} (recorded : Recorded earlier system)
    (opName : String) (choice : ProvisionChoice) :
    Recorded earlier (system.call opName choice) := by
  obtain ⟨added, whole, old⟩ := recorded
  unfold System.call
  split
  · rename_i operation request next made found
    obtain ⟨more, events, written⟩ := answer_events choice system.inventory request
    refine ⟨added ++ more, ?_, fun report member => ?_⟩
    · rw [← List.append_assoc, ← whole]
      exact events
    · rcases List.mem_append.mp member with before | new
      · exact List.mem_append_left _ (old report before)
      · refine List.mem_append_right _ (written report.event ?_)
        unfold reported at new
        split at new
        · cases List.mem_singleton.mp new
          rfl
        · cases new
  · exact ⟨added, whole, old⟩

theorem Recorded.move {earlier : List RecordedEvent} (recorded : Recorded earlier system)
    (move : Move) : Recorded earlier (system.move ctrl move) := by
  cases move with
  | claimEvent claim cached =>
      dsimp only [System.move]
      split
      · exact recorded.schedule _
      · exact recorded
  | lead claim => exact recorded.schedule _
  | volumeEvent volume =>
      dsimp only [System.move]
      split
      · exact recorded.schedule _
      · exact recorded
  | call opName choice => exact recorded.call opName choice
  | finish opName =>
      dsimp only [System.move, System.finish]
      split
      · exact recorded.same rfl rfl
      · exact recorded
  | edit name change =>
      dsimp only [System.move, System.edit]
      split
      · exact recorded
      · exact recorded.same rfl rfl
  | restart => exact recorded.same rfl rfl

end Events

/-! ## Responsibility -/

section Responsibility

variable {ctrl : ProvisionController} {system : System}

/-- With no operation running, nobody has a disk in hand. -/
theorem Tracks.unheld {hands : String → Hand} (tracks : Tracks ctrl system hands)
    (idle : ∀ opName, system.running opName = none) (opName diskId : String) :
    ¬(system.ledger hands).InHand opName diskId := by
  have empty : (system.ledger hands).hand opName = .empty := tracks.idle opName (idle opName)
  simp [Ledger.InHand, empty]

end Responsibility

/-- The object is not stored, and the disk is not deleted. -/
def stubborn (diskId : String) : ProvisionChoice :=
  { helpful diskId with fate := .refused, kubeFate := .refused }

/-- A disk is created for the claim, neither saved nor deleted, and given up. -/
def givenUp : List Move :=
  [.lead sampleClaim] ++
  List.replicate 4 (.call (provisionOpName sampleClaim) (helpful "d-3")) ++
  List.replicate 12 (.call (provisionOpName sampleClaim) (stubborn "d-4")) ++
  [.finish (provisionOpName sampleClaim)]

section Minding

variable {ctrl : ProvisionController} {system : System}

/-- A volume whose disk is gone is stuck once no operation is running. -/
theorem Tracks.stuck {hands : String → Hand} (tracks : Tracks ctrl system hands)
    (idle : ∀ opName, system.running opName = none) {name diskId : String} {volume : V1Volume}
    (stored : system.volume? name = some volume) (names : volume.disk? = some diskId)
    (gone : diskId ∉ system.disks) : (system.ledger hands).Stuck name diskId := by
  refine ⟨⟨⟨volume.disk?, live volume⟩, ?_, names⟩, gone, fun opName wiped held => ?_⟩
  · exact Option.map_eq_some_iff.mpr ⟨volume, stored, rfl⟩
  · have empty := tracks.idle opName (idle opName)
    exact absurd (empty.symm.trans held) (by simp)

end Minding

end KubeAliyun.Provisioning
