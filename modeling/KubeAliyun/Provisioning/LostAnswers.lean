import KubeAliyun.Provisioning.Outcomes
import KubeAliyun.Remote.Exact

/-!
# A volume whose creation was not answered

When the object of a new volume is stored but the answer is lost, every retry fails since the
object exists, and the clean-up deletes the disk under it.  Which of the later calls are
served makes no difference.
-/

namespace KubeAliyun.Provisioning

open KubeAliyun.Cloud KubeAliyun.Provider KubeAliyun.Remote KubeAliyun.Kube
  KubeAliyun.Controller

abbrev anyAnswers : Contract Inventory ProvisionCall ProvisionReply :=
  Contract.ofService Inventory.answer fun _ => True

theorem anyAnswers_run {α : Type} {post : Option α → Inventory → Prop} {program : Provisioned α}
    {inventory : Inventory} (ensured : program.Ensures anyAnswers post inventory)
    (choices : Nat → ProvisionChoice) :
    post (program.run Inventory.answer choices inventory).outcome
      (program.run Inventory.answer choices inventory).state :=
  ensured.run_ofService choices fun _ => trivial

section Retries

variable {ctrl : ProvisionController} {ecs : Ecs} {store : VolumeStore} {volume other : V1Volume}

/-- No attempt succeeds where the name is taken. -/
theorem saveVolume_taken (taken : store.volumes.lookup volume.name = some other) (attempts : Nat)
    (failure : StatusError) :
    (saveVolume volume attempts (some failure)).Ensures anyAnswers
      (fun outcome after => (∃ last, outcome = some (some last)) ∧ after = (ecs, store))
      (ecs, store) := by
  induction attempts generalizing failure with
  | zero => exact ⟨⟨failure, rfl⟩, rfl⟩
  | succ attempts ih =>
      refine Prog.Ensures.call_ofService fun choice _ => ⟨some choice.kubeError, (ecs, store), ?_,
        ih choice.kubeError⟩
      simp only [Inventory.answer, Service.beside, VolumeStore.answer, VolumeStore.create, taken,
        VolumeStore.commit]
      cases choice.kubeFate <;> rfl

theorem deleteAsset_gone {diskId : String} (names : volume.disk? = some diskId) :
    (deleteAsset ctrl volume).Ensures anyAnswers
      (fun outcome after => after.2 = store ∧
        (outcome = some none ∧ diskId ∉ after.1.diskIds ∨ ∃ failure, outcome = some (some failure)))
      (ecs, store) := by
  rcases deleteAsset_cases ctrl volume with ⟨error, same⟩ | ⟨named, naming, same⟩
  · rw [same]
    exact ⟨rfl, Or.inr ⟨error, rfl⟩⟩
  · cases naming.symm.trans names
    rw [same]
    refine Prog.Ensures.call_ofService fun choice _ => ?_
    rcases answer_deleteDisk choice ecs store diskId with
      ⟨next, answered, -, ids⟩ | ⟨next, error, answered, -⟩
    · refine ⟨_, _, answered, rfl, Or.inl ⟨rfl, ?_⟩⟩
      simp [ids]
    · exact ⟨_, _, answered, rfl, Or.inr ⟨_, rfl⟩⟩

theorem cleanVolume_gone {diskId : String} (names : volume.disk? = some diskId) (attempts : Nat)
    (failure : GoError) :
    (cleanVolume ctrl volume attempts (some failure)).Ensures anyAnswers
      (fun outcome after => after.2 = store ∧
        (outcome = some none ∧ diskId ∉ after.1.diskIds ∨ ∃ failure, outcome = some (some failure)))
      (ecs, store) := by
  induction attempts generalizing failure ecs with
  | zero => exact ⟨rfl, Or.inr ⟨failure, rfl⟩⟩
  | succ attempts ih =>
      refine Prog.Ensures.bind (deleteAsset_gone names) ?_ ?_
      · rintro result ⟨next, found⟩ ⟨rfl, ⟨⟨⟩, gone⟩ | ⟨last, ⟨⟩⟩⟩
        · exact ⟨rfl, Or.inl ⟨rfl, gone⟩⟩
        · exact ih last
      · rintro after ⟨-, ⟨⟨⟩, -⟩ | ⟨last, ⟨⟩⟩⟩

theorem recordEvent_any {α : Type} {post : Option α → Inventory → Prop} {event : RecordedEvent}
    {next : Unit → Provisioned α}
    (rest : (next ()).Ensures anyAnswers post
      (ecs, { store with events := store.events ++ [event] })) :
    (recordEvent event >>= next).Ensures anyAnswers post (ecs, store) :=
  Prog.Ensures.call_ofService fun _ _ => ⟨(), _, rfl, rest⟩

/-- Among the events since some earlier ones is one that gives up the clean-up for a claim. -/
def GivenUp (claim : V1Claim) (earlier events : List RecordedEvent) : Prop :=
  ∃ recorded, events = earlier ++ recorded ∧
    ∃ event ∈ recorded, event.reason = cleanupFailed ∧ event.subject = claimToClaimKey claim

theorem GivenUp.since {claim : V1Claim} {earlier between events : List RecordedEvent}
    (givenUp : GivenUp claim (earlier ++ between) events) : GivenUp claim earlier events := by
  obtain ⟨recorded, rfl, event, member, failed⟩ := givenUp
  exact ⟨between ++ recorded, List.append_assoc .., event, List.mem_append_right _ member, failed⟩

/-- What a clean-up comes to: the volumes are as before, and the disk is deleted or the
clean-up has been given up. -/
def Cleaned (claim : V1Claim) (store : VolumeStore) (diskId : String)
    (outcome : Option (Option GoError)) (after : Inventory) : Prop :=
  outcome = some none ∧ after.2.volumes = store.volumes ∧
    (diskId ∉ after.1.diskIds ∨ GivenUp claim store.events after.2.events)

theorem cleanUp_gone {diskId : String} (names : volume.disk? = some diskId) (claim : V1Claim)
    (failure : StatusError) :
    (cleanUp ctrl claim volume failure).Ensures anyAnswers (Cleaned claim store diskId)
      (ecs, store) := by
  refine recordEvent_any (Prog.Ensures.bind (cleanVolume_gone names _ _) ?_ ?_)
  · rintro result ⟨next, found⟩ ⟨rfl, ⟨⟨⟩, gone⟩ | ⟨last, ⟨⟩⟩⟩
    · exact ⟨rfl, rfl, Or.inl gone⟩
    · refine recordEvent_any ⟨rfl, rfl, Or.inr ⟨[_, _], List.append_assoc .., ?_⟩⟩
      exact ⟨_, List.mem_cons_of_mem _ (List.mem_singleton_self _), rfl, rfl⟩
  · rintro after ⟨-, ⟨⟨⟩, -⟩ | ⟨last, ⟨⟩⟩⟩

/-- Once the object is stored without an answer, no attempt saves it and the clean-up comes. -/
theorem saveProvisioned_lost {diskId : String} (names : volume.disk? = some diskId)
    (claim : V1Claim) (choices : Nat → ProvisionChoice)
    (absent : store.volumes.lookup volume.name = none)
    (lost : (choices 0).kubeFate = .unanswered) :
    let stored := { store with
      volumes := store.volumes.insert volume.name (volume.admitted (choices 0).newUid) }
    let run := (saveProvisioned ctrl claim volume).run Inventory.answer choices (ecs, store)
    Cleaned claim stored diskId run.outcome run.state := by
  intro stored run
  have answered : Inventory.answer (choices 0) (ecs, store) (.inr (.createVolume volume)) =
      ((some (choices 0).kubeError : Option StatusError), (ecs, stored)) := by
    simp only [Inventory.answer, Service.beside, VolumeStore.answer, VolumeStore.create, absent,
      VolumeStore.commit, lost]
    rfl
  have taken : stored.volumes.lookup volume.name = some (volume.admitted (choices 0).newUid) :=
    AList.lookup_insert ..
  refine Prog.run_ask_post answered (anyAnswers_run ?_ _)
  refine Prog.Ensures.bind (saveVolume_taken taken 4 (choices 0).kubeError) ?_ ?_
  · rintro result _ ⟨⟨last, ⟨⟩⟩, rfl⟩
    exact cleanUp_gone names claim last
  · rintro after ⟨⟨last, ⟨⟩⟩, -⟩

end Retries

/-- The live volume of a claim whose disk is deleted, unless an event for the claim that was not
there earlier says that the disk is left over. -/
structure Dangling (claim : V1Claim) (earlier : List RecordedEvent) (diskId : String)
    (inventory : Inventory) : Prop where
  stored : ∃ volume,
    inventory.2.volumes.lookup (getProvisionedVolumeNameForClaim claim) = some volume ∧
      volume.disk? = some diskId ∧ live volume = true
  torn : diskId ∉ inventory.1.diskIds ∨ GivenUp claim earlier inventory.2.events

theorem Cleaned.dangling {claim : V1Claim} {stored : VolumeStore} {diskId : String}
    {volume : V1Volume} {outcome : Option (Option GoError)} {after : Inventory}
    {earlier between : List RecordedEvent} (cleaned : Cleaned claim stored diskId outcome after)
    (events : stored.events = earlier ++ between)
    (present : stored.volumes.lookup (getProvisionedVolumeNameForClaim claim) = some volume)
    (names : volume.disk? = some diskId) (alive : live volume = true) :
    outcome = some none ∧ Dangling claim earlier diskId after := by
  obtain ⟨done, volumes, torn⟩ := cleaned
  refine ⟨done, ⟨volume, volumes ▸ present, names, alive⟩, torn.imp_right fun givenUp => ?_⟩
  rw [events] at givenUp
  exact givenUp.since

theorem answer_getVolume_absent (choice : ProvisionChoice) (ecs : Ecs) {store : VolumeStore}
    {name : String} (absent : store.volumes.lookup name = none) :
    Inventory.answer choice (ecs, store) (.inr (.getVolume name)) =
      ((.error choice.kubeError : Except StatusError V1Volume), (ecs, store)) := by
  simp only [Inventory.answer, Service.beside, VolumeStore.answer, VolumeStore.get, absent]
  cases choice.kubeFate <;> rfl

theorem answer_created {choice : ProvisionChoice} {ecs next : Ecs} (store : VolumeStore)
    (args : CreateDiskArgs) (served : choice.fate = .served)
    (created : (ecs.settle choice.settles).create choice.newDiskId = some next) :
    Inventory.answer choice (ecs, store) (.inl (.createDisk args)) =
      ((.ok choice.newDiskId : Except ApiError String), (next, store)) := by
  simp only [Inventory.answer, Service.beside, diskAnswer, Ecs.storage_created args served created]
  rfl

/-- A provision operation that loses the answer to the first creation of its object ends with
a live volume on a deleted disk, without an error and whatever is answered later. -/
theorem lost_answer_dangles (ctrl : ProvisionController) (claim : V1Claim) {ecs : Ecs}
    {store : VolumeStore} (choices : Nat → ProvisionChoice)
    (absent : store.volumes.lookup (getProvisionedVolumeNameForClaim claim) = none)
    {storageClass : StorageClass} (found : getStorageClass ctrl (getClaimClass claim)
      (choices 1).storageClass = .ok storageClass)
    {options : StorageOptions}
    (accepted : checkClaim (provisionerOptions claim storageClass) = .ok options)
    (served : (choices 3).fate = .served) (fresh : (choices 3).newDiskId ∉ ecs.diskIds)
    (lost : (choices 4).kubeFate = .unanswered) :
    let run := (provisionClaimOperation ctrl claim).run Inventory.answer choices (ecs, store)
    run.outcome = some none ∧
      Dangling claim store.events (choices 3).newDiskId run.state := by
  intro run
  let post : Option (Option GoError) → Inventory → Prop := fun outcome after =>
    outcome = some none ∧ Dangling claim store.events (choices 3).newDiskId after
  change post run.outcome run.state
  obtain ⟨next, created⟩ := Ecs.create_of_fresh
    ((Ecs.settle_diskIds ecs (choices 3).settles).symm ▸ fresh)
  refine Prog.run_ask_post (answer_getVolume_absent _ _ absent) ?_
  refine Prog.run_ask_post (rfl : _ = ((choices 1).storageClass, (ecs, store))) ?_
  dsimp only [Prog.bind]
  rw [found]
  refine Prog.run_ask_post (rfl : _ = ((), _)) ?_
  dsimp only [Prog.bind]
  unfold provision
  rw [accepted]
  refine Prog.run_ask_post (answer_created _ _ served created) ?_
  exact (saveProvisioned_lost rfl claim _ absent lost).dangling rfl (AList.lookup_insert ..) rfl
    rfl

/-- The fifth call is not answered. -/
def losingOne (index : Nat) : ProvisionChoice :=
  if index = 4 then { helpful "d-3" with kubeFate := .unanswered } else helpful "d-3"

theorem lost_answer_dangles_sample :
    (losingOne 4).kubeFate = .unanswered ∧
      let run := (provisionClaimOperation sampleController sampleClaim).run Inventory.answer
        losingOne unclaimed
      run.outcome = some none ∧ Dangling sampleClaim [] "d-3" run.state := by
  have found : getStorageClass sampleController (getClaimClass sampleClaim)
      (losingOne 1).storageClass = .ok ssdClass := rfl
  have accepted : checkClaim (provisionerOptions sampleClaim ssdClass) =
      .ok ⟨"ext4", "cloud_ssd"⟩ := rfl
  exact ⟨rfl, lost_answer_dangles sampleController sampleClaim losingOne rfl found accepted rfl
    (by decide) rfl⟩

end KubeAliyun.Provisioning
