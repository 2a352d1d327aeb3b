import KubeAliyun.Provisioning.System

/-!
# The controller keeps a ledger

Every move of the system is a step of the ledger of disks and volumes, with the hands that
the operations have at the time; a lost answer of the storage and a restart are leaks, and a
missing disk that the storage reports as deleted is a slip.
-/

namespace KubeAliyun.Provisioning

open KubeAliyun.Cloud KubeAliyun.Provider KubeAliyun.Remote KubeAliyun.Kube
  KubeAliyun.Controller KubeAliyun.Custody

/-! ## What a call does -/

section Calls

variable (choice : ProvisionChoice) (ecs : Ecs) (store : VolumeStore)

theorem answer_createDisk (args : CreateDiskArgs) :
    (∃ next, Inventory.answer choice (ecs, store) (.inl (.createDisk args)) =
        ((.ok choice.newDiskId : Except ApiError String), (next, store)) ∧
      next.diskIds = ecs.diskIds ++ [choice.newDiskId]) ∨
    ∃ next error, Inventory.answer choice (ecs, store) (.inl (.createDisk args)) =
        ((.error error : Except ApiError String), (next, store)) ∧
      (next.diskIds = ecs.diskIds ∨
        choice.fate = .unanswered ∧ next.diskIds = ecs.diskIds ++ [choice.newDiskId]) := by
  rcases choice.commit_cases (ecs.settle choice.settles)
    ((ecs.settle choice.settles).create choice.newDiskId) with
    ⟨next, created, -, same⟩ | ⟨next, created, lost, same⟩ | same
  · refine Or.inl ⟨next, ?_, by rw [Ecs.create_diskIds created, Ecs.settle_diskIds]⟩
    simp only [Inventory.answer, Service.beside, diskAnswer, Ecs.storage, same]
    rfl
  · refine Or.inr ⟨next, choice.error, ?_,
      Or.inr ⟨lost, by rw [Ecs.create_diskIds created, Ecs.settle_diskIds]⟩⟩
    simp only [Inventory.answer, Service.beside, diskAnswer, Ecs.storage, same]
    rfl
  · refine Or.inr ⟨ecs.settle choice.settles, choice.error, ?_,
      Or.inl (Ecs.settle_diskIds ..)⟩
    simp only [Inventory.answer, Service.beside, diskAnswer, Ecs.storage, same]
    rfl

theorem answer_deleteDisk (diskId : String) :
    (∃ next, Inventory.answer choice (ecs, store) (.inl (.deleteDisk diskId)) =
        ((none : Option ApiError), (next, store)) ∧
      (diskId ∈ ecs.diskIds ∨ choice.ignoresMissing = true) ∧
      next.diskIds = ecs.diskIds.filter fun other => other ≠ diskId) ∨
    ∃ next error, Inventory.answer choice (ecs, store) (.inl (.deleteDisk diskId)) =
        ((some error : Option ApiError), (next, store)) ∧
      (next.diskIds = ecs.diskIds ∨
        next.diskIds = ecs.diskIds.filter fun other => other ≠ diskId) := by
  have beside : Inventory.answer choice (ecs, store) (.inl (.deleteDisk diskId)) =
      (((diskAnswer choice ecs (.deleteDisk diskId)).1 : Option ApiError),
        ((diskAnswer choice ecs (.deleteDisk diskId)).2, store)) := rfl
  rw [beside]
  by_cases ignored : (choice.ignoresMissing && (ecs.disk? diskId).isNone) = true
  · have missing : diskId ∉ ecs.diskIds := by
      refine (ecs.disk?_eq_none_iff diskId).mp (Option.isNone_iff_eq_none.mp ?_)
      exact (Bool.and_eq_true_iff.mp ignored).2
    simp only [diskAnswer, ignored, if_true]
    refine Or.inl ⟨_, rfl, Or.inr (Bool.and_eq_true_iff.mp ignored).1, ?_⟩
    rw [Ecs.settle_diskIds, List.filter_eq_self.mpr]
    intro other member
    exact decide_eq_true fun same => missing (same ▸ member)
  · simp only [diskAnswer, ignored, Bool.false_eq_true, Ecs.storage]
    rcases choice.commit_cases (ecs.settle choice.settles)
      ((ecs.settle choice.settles).delete diskId) with
      ⟨next, deleted, -, same⟩ | ⟨next, deleted, -, same⟩ | same
    · obtain ⟨member, ids⟩ := Ecs.delete_some deleted
      rw [Ecs.settle_diskIds] at member ids
      rw [same]
      exact Or.inl ⟨next, rfl, Or.inl member, ids⟩
    · obtain ⟨-, ids⟩ := Ecs.delete_some deleted
      rw [Ecs.settle_diskIds] at ids
      rw [same]
      exact Or.inr ⟨next, choice.error, rfl, Or.inr ids⟩
    · rw [same]
      exact Or.inr ⟨_, choice.error, rfl, Or.inl (Ecs.settle_diskIds ..)⟩

theorem answer_createVolume (volume : V1Volume) (answered : choice.kubeFate ≠ .unanswered) :
    (store.volumes.lookup volume.name = none ∧
      Inventory.answer choice (ecs, store) (.inr (.createVolume volume)) =
        ((none : Option StatusError), (ecs, { store with
          volumes := store.volumes.insert volume.name (volume.admitted choice.newUid) }))) ∨
    ∃ error, Inventory.answer choice (ecs, store) (.inr (.createVolume volume)) =
      ((some error : Option StatusError), (ecs, store)) := by
  cases present : store.volumes.lookup volume.name with
  | some other =>
      refine Or.inr ⟨choice.kubeError, ?_⟩
      simp only [Inventory.answer, Service.beside, VolumeStore.answer, VolumeStore.create, present,
        VolumeStore.commit]
      cases choice.kubeFate <;> rfl
  | none =>
      cases fate : choice.kubeFate with
      | served =>
          refine Or.inl ⟨rfl, ?_⟩
          simp only [Inventory.answer, Service.beside, VolumeStore.answer, VolumeStore.create,
            present, VolumeStore.commit, fate]
          rfl
      | refused =>
          refine Or.inr ⟨choice.kubeError, ?_⟩
          simp only [Inventory.answer, Service.beside, VolumeStore.answer, VolumeStore.create,
            present, VolumeStore.commit, fate]
          rfl
      | unanswered => exact absurd fate answered

theorem answer_deleteVolume (name : String) :
    ∃ reply volumes, Inventory.answer choice (ecs, store) (.inr (.deleteVolume name)) =
        ((reply : Option StatusError), (ecs, { store with volumes })) ∧
      (volumes = store.volumes ∨ volumes = store.volumes.erase name) := by
  have committed : Inventory.answer choice (ecs, store) (.inr (.deleteVolume name)) =
      (((store.commit choice (store.delete name)).1 : Option StatusError),
        (ecs, (store.commit choice (store.delete name)).2)) := rfl
  rw [committed]
  unfold VolumeStore.commit VolumeStore.delete
  cases store.volumes.lookup name with
  | none => cases choice.kubeFate <;> exact ⟨_, store.volumes, rfl, Or.inl rfl⟩
  | some volume =>
      cases choice.kubeFate with
      | refused => exact ⟨_, store.volumes, rfl, Or.inl rfl⟩
      | served => exact ⟨_, _, rfl, Or.inr rfl⟩
      | unanswered => exact ⟨_, _, rfl, Or.inr rfl⟩

theorem answer_getVolume (name : String) :
    (∃ volume, store.volumes.lookup name = some volume ∧
      Inventory.answer choice (ecs, store) (.inr (.getVolume name)) =
        ((.ok volume : Except StatusError V1Volume), (ecs, store))) ∨
    ∃ error, Inventory.answer choice (ecs, store) (.inr (.getVolume name)) =
      ((.error error : Except StatusError V1Volume), (ecs, store)) := by
  have looked : Inventory.answer choice (ecs, store) (.inr (.getVolume name)) =
      ((store.get choice name : Except StatusError V1Volume), (ecs, store)) := rfl
  rw [looked]
  unfold VolumeStore.get
  cases present : store.volumes.lookup name with
  | none => cases choice.kubeFate <;> exact Or.inr ⟨_, rfl⟩
  | some volume =>
      cases choice.kubeFate with
      | served => exact Or.inl ⟨volume, rfl, rfl⟩
      | refused => exact Or.inr ⟨_, rfl⟩
      | unanswered => exact Or.inr ⟨_, rfl⟩

end Calls

/-! ## The ledger -/

def System.ledger (system : System) (hands : String → Hand) : Ledger String String String where
  assets := {diskId | diskId ∈ system.disks}
  issued := {diskId | diskId ∈ system.issued}
  record name := (system.volume? name).map fun volume => ⟨volume.disk?, live volume⟩
  filed name := {diskId | ∃ volume ∈ system.history,
    volume.name = name ∧ volume.disk? = some diskId}
  reported := {diskId | ∃ report ∈ system.reports, report.GivesUp diskId}
  hand := hands

/-- The hands are those of the operations. -/
structure Tracks (ctrl : ProvisionController) (system : System) (hands : String → Hand) :
    Prop where
  stored : ∀ name volume, system.volume? name = some volume →
    volume.name = name ∧ volume ∈ system.history
  ids : ∀ diskId ∈ system.disks, diskId ∈ system.issued
  idle : ∀ opName, system.running opName = none → hands opName = .empty
  jobs : ∀ opName job, system.running opName = some job →
    job.program.Ensures (custody ctrl job.operation) Finished (hands opName)
  asked : ∀ opName job volume, system.running opName = some job →
    job.operation = .delete volume → volume ∈ system.history
  made : ∀ opName job diskId, system.running opName = some job →
    hands opName = .holds diskId ∨ hands opName = .dropping diskId → job.made = some diskId

theorem mem_versions {volumes : AList fun _ : String => V1Volume} {volume : V1Volume} :
    volume ∈ volumes.entries.map Sigma.snd ↔ ∃ name, volumes.lookup name = some volume := by
  rw [List.mem_map]
  constructor
  · rintro ⟨⟨name, found⟩, member, rfl⟩
    exact ⟨name, AList.mem_lookup_iff.mpr member⟩
  · rintro ⟨name, found⟩
    exact ⟨⟨name, volume⟩, AList.mem_lookup_iff.mp found, rfl⟩

section Ledgers

variable {ctrl : ProvisionController} {system : System} {hands : String → Hand}

theorem mem_become_history {inventory : Inventory} {volume : V1Volume} :
    volume ∈ (system.become inventory).history ↔
      volume ∈ system.history ∨ ∃ name, inventory.2.volumes.lookup name = some volume := by
  rw [System.become, List.mem_append, mem_versions]

theorem mem_become_issued {inventory : Inventory} {diskId : String} :
    diskId ∈ (system.become inventory).issued ↔
      diskId ∈ system.issued ∨ diskId ∈ inventory.1.diskIds := by
  rw [System.become, List.mem_append]

theorem mem_filed_become (hands : String → Hand) {inventory : Inventory}
    {next : String → Hand} {name diskId : String} :
    diskId ∈ ((system.become inventory).ledger next).filed name ↔
      diskId ∈ (system.ledger hands).filed name ∨
        ∃ key volume, inventory.2.volumes.lookup key = some volume ∧ volume.name = name ∧
          volume.disk? = some diskId := by
  constructor
  · rintro ⟨volume, member, named, disk⟩
    rcases mem_become_history.mp member with old | ⟨key, found⟩
    · exact Or.inl ⟨volume, old, named, disk⟩
    · exact Or.inr ⟨key, volume, found, named, disk⟩
  · rintro (⟨volume, member, named, disk⟩ | ⟨key, volume, found, named, disk⟩)
    · exact ⟨volume, mem_become_history.mpr (Or.inl member), named, disk⟩
    · exact ⟨volume, mem_become_history.mpr (Or.inr ⟨key, found⟩), named, disk⟩

/-- Volumes that name the disks of stored ones add nothing to what has been filed. -/
theorem filed_become (tracks : Tracks ctrl system hands) {inventory : Inventory}
    (known : ∀ key volume, inventory.2.volumes.lookup key = some volume →
      ∃ old, system.volume? key = some old ∧ volume.name = old.name ∧ volume.disk? = old.disk?)
    (next : String → Hand) :
    ((system.become inventory).ledger next).filed = (system.ledger hands).filed := by
  funext name
  ext diskId
  rw [mem_filed_become hands]
  refine ⟨fun member => member.elim id ?_, Or.inl⟩
  rintro ⟨key, volume, found, named, disk⟩
  obtain ⟨old, stored, sameName, sameDisk⟩ := known key volume found
  exact ⟨old, (tracks.stored key old stored).2, sameName.symm.trans named,
    sameDisk.symm.trans disk⟩

/-- The disks change, and the volumes do not. -/
theorem become_disks (tracks : Tracks ctrl system hands) {ecs : Ecs} {store : VolumeStore}
    (same : store.volumes = system.inventory.2.volumes) (next : String → Hand) :
    (system.become (ecs, store)).ledger next =
      { system.ledger hands with
        assets := {diskId | diskId ∈ ecs.diskIds}
        issued := {diskId | diskId ∈ system.issued ∨ diskId ∈ ecs.diskIds}
        hand := next } := by
  refine Ledger.ext rfl (Set.ext fun diskId => mem_become_issued) (funext fun name => ?_) ?_ rfl rfl
  · simp only [System.ledger, System.volume?, System.become, same]
  · refine filed_become tracks (fun name volume found => ?_) next
    rw [same] at found
    exact ⟨volume, found, rfl, rfl⟩

/-- Nothing changes that the ledger shows. -/
theorem become_quiet (tracks : Tracks ctrl system hands) {ecs : Ecs} {store : VolumeStore}
    (same : store.volumes = system.inventory.2.volumes)
    (disks : ecs.diskIds = system.disks) (next : String → Hand) :
    (system.become (ecs, store)).ledger next = { system.ledger hands with hand := next } := by
  rw [become_disks tracks same, disks]
  refine Ledger.ext rfl (Set.ext fun diskId => ?_) rfl rfl rfl rfl
  exact ⟨fun member => member.elim id (tracks.ids diskId), Or.inl⟩

theorem become_created (tracks : Tracks ctrl system hands) {ecs : Ecs} {store : VolumeStore}
    {diskId : String} (same : store.volumes = system.inventory.2.volumes)
    (disks : ecs.diskIds = system.disks ++ [diskId]) (next : String → Hand) :
    (system.become (ecs, store)).ledger next =
      { system.ledger hands with
        assets := insert diskId (system.ledger hands).assets
        issued := insert diskId (system.ledger hands).issued
        hand := next } := by
  rw [become_disks tracks same, disks]
  refine Ledger.ext (Set.ext fun other => ?_) (Set.ext fun other => ?_) rfl rfl rfl rfl
  · simp [System.ledger, or_comm]
  · have known := tracks.ids other
    simp only [System.ledger, Set.mem_ofPred_eq, List.mem_append, List.mem_singleton,
      Set.mem_insert_iff]
    tauto

theorem become_deleted (tracks : Tracks ctrl system hands) {ecs : Ecs} {store : VolumeStore}
    {diskId : String} (same : store.volumes = system.inventory.2.volumes)
    (disks : ecs.diskIds = system.disks.filter fun other => other ≠ diskId)
    (next : String → Hand) :
    (system.become (ecs, store)).ledger next =
      { system.ledger hands with
        assets := (system.ledger hands).assets \ {diskId}
        hand := next } := by
  rw [become_disks tracks same, disks]
  refine Ledger.ext (Set.ext fun other => ?_) (Set.ext fun other => ?_) rfl rfl rfl rfl
  · simp [System.ledger]
  · have known := tracks.ids other
    simp only [System.ledger, Set.mem_ofPred_eq, List.mem_filter, decide_eq_true_eq]
    tauto

/-- The records after a volume has been stored under its name. -/
theorem record_become {store : VolumeStore} {name : String} {volume : V1Volume}
    (inserted : store.volumes = system.inventory.2.volumes.insert name volume)
    (next : String → Hand) :
    ((system.become (system.inventory.1, store)).ledger next).record =
      Function.update (system.ledger hands).record name (some ⟨volume.disk?, live volume⟩) := by
  funext other
  simp only [System.ledger, System.volume?, System.become, inserted]
  by_cases same : other = name
  · subst same
    rw [AList.lookup_insert, Function.update_self]
    rfl
  · rw [AList.lookup_insert_ne same, Function.update_of_ne same]

theorem issued_become (tracks : Tracks ctrl system hands) (store : VolumeStore)
    (next : String → Hand) :
    ((system.become (system.inventory.1, store)).ledger next).issued =
      (system.ledger hands).issued := by
  ext diskId
  exact mem_become_issued.trans ⟨fun member => member.elim id (tracks.ids diskId), Or.inl⟩

/-- A new volume is stored. -/
theorem become_saved (tracks : Tracks ctrl system hands) {store : VolumeStore}
    {volume : V1Volume} {diskId : String} (disk : volume.disk? = some diskId)
    (inserted : store.volumes = system.inventory.2.volumes.insert volume.name volume)
    (next : String → Hand) :
    (system.become (system.inventory.1, store)).ledger next =
      { system.ledger hands with
        record := Function.update (system.ledger hands).record volume.name
          (some ⟨some diskId, live volume⟩)
        filed := Function.update (system.ledger hands).filed volume.name
          (insert diskId ((system.ledger hands).filed volume.name))
        hand := next } := by
  refine Ledger.ext rfl (issued_become tracks store next)
    ((record_become inserted next).trans (by rw [disk]))
    (funext fun name => Set.ext fun other => ?_) rfl rfl
  refine ((mem_filed_become hands).trans ?_).trans Ledger.mem_update_insert.symm
  constructor
  · rintro (old | ⟨key, found, present, named, names⟩)
    · exact Or.inl old
    · by_cases same : key = volume.name
      · rw [inserted, same, AList.lookup_insert] at present
        cases present
        exact Or.inr ⟨named.symm, Option.some.inj (names.symm.trans disk)⟩
      · rw [inserted, AList.lookup_insert_ne same] at present
        exact Or.inl ⟨found, (tracks.stored key found present).2, named, names⟩
  · rintro (old | ⟨rfl, rfl⟩)
    · exact Or.inl old
    · refine Or.inr ⟨volume.name, volume, ?_, rfl, disk⟩
      rw [inserted, AList.lookup_insert]

/-- Another version of a volume is stored. -/
theorem become_revised (tracks : Tracks ctrl system hands) {store : VolumeStore} {name : String}
    {old new : V1Volume} (stored : system.volume? name = some old) (sameName : new.name = old.name)
    (sameDisk : new.disk? = old.disk?)
    (inserted : store.volumes = system.inventory.2.volumes.insert name new)
    (next : String → Hand) :
    (system.become (system.inventory.1, store)).ledger next =
      { system.ledger hands with
        record := Function.update (system.ledger hands).record name (some ⟨new.disk?, live new⟩)
        hand := next } := by
  refine Ledger.ext rfl (issued_become tracks store next) (record_become inserted next)
    (filed_become tracks (fun key volume found => ?_) next) rfl rfl
  by_cases same : key = name
  · rw [inserted, same, AList.lookup_insert] at found
    cases found
    exact ⟨old, same ▸ stored, sameName, sameDisk⟩
  · rw [inserted, AList.lookup_insert_ne same] at found
    exact ⟨volume, found, rfl, rfl⟩

/-- The records after a volume has been erased. -/
theorem record_erased {store : VolumeStore} {name : String}
    (erased : store.volumes = system.inventory.2.volumes.erase name) (next : String → Hand) :
    ((system.become (system.inventory.1, store)).ledger next).record =
      Function.update (system.ledger hands).record name none := by
  funext other
  simp only [System.ledger, System.volume?, System.become, erased]
  by_cases same : other = name
  · subst same
    rw [AList.lookup_erase, Function.update_self]
    rfl
  · rw [AList.lookup_erase_ne same, Function.update_of_ne same]

/-- A volume is erased. -/
theorem become_erased (tracks : Tracks ctrl system hands) {store : VolumeStore} {name : String}
    (erased : store.volumes = system.inventory.2.volumes.erase name) (next : String → Hand) :
    (system.become (system.inventory.1, store)).ledger next =
      { system.ledger hands with
        record := Function.update (system.ledger hands).record name none
        hand := next } := by
  refine Ledger.ext rfl (issued_become tracks store next) (record_erased erased next)
    (filed_become tracks (fun key volume found => ?_) next) rfl rfl
  by_cases same : key = name
  · rw [erased, same, AList.lookup_erase] at found
    cases found
  · rw [erased, AList.lookup_erase_ne same] at found
    exact ⟨volume, found, rfl, rfl⟩

/-- Reports that give nothing up. -/
theorem ledger_quiet (system : System) (hands : String → Hand) {more : List Report}
    (quiet : ∀ report ∈ more, ∀ diskId, ¬report.GivesUp diskId) :
    { system with reports := system.reports ++ more }.ledger hands = system.ledger hands := by
  refine Ledger.ext rfl rfl rfl rfl (Set.ext fun diskId => ?_) rfl
  constructor
  · rintro ⟨report, member, gives⟩
    rcases List.mem_append.mp member with old | new
    · exact ⟨report, old, gives⟩
    · exact absurd gives (quiet report new diskId)
  · rintro ⟨report, member, gives⟩
    exact ⟨report, List.mem_append_left _ member, gives⟩

/-- A report that gives up a disk. -/
theorem ledger_given (system : System) (hands : String → Hand) {report : Report}
    {diskId : String} (gives : report.GivesUp diskId) :
    { system with reports := system.reports ++ [report] }.ledger hands =
      { system.ledger hands with
        reported := insert diskId (system.ledger hands).reported } := by
  refine Ledger.ext rfl rfl rfl rfl (Set.ext fun other => ?_) rfl
  constructor
  · rintro ⟨found, member, givesFound⟩
    rcases List.mem_append.mp member with old | new
    · exact Or.inr ⟨found, old, givesFound⟩
    · cases List.mem_singleton.mp new
      exact Or.inl (givesFound.disk.symm.trans gives.disk)
  · rintro (rfl | ⟨found, member, givesFound⟩)
    · exact ⟨report, List.mem_append_right _ (List.mem_singleton_self _), gives⟩
    · exact ⟨found, List.mem_append_left _ member, givesFound⟩

end Ledgers

/-! ## Calls are steps -/

/-- The answer of the storage to the creation of a disk is lost, or the process restarts. -/
def Strays (system : System) : Move → Prop
  | .call opName choice => choice.fate = .unanswered ∧
      ∃ args, system.request? opName = some (.inl (.createDisk args))
  | .restart => True
  | _ => False

/-- The next ledger follows by a step, or with its excuse by a leak or a slip. -/
def Goes (strays ignored : Prop) (ledger next : Ledger String String String) : Prop :=
  Ledger.Step ledger next ∨ Ledger.Leak ledger next ∧ strays ∨ Ledger.Slip ledger next ∧ ignored

def Carries (ctrl : ProvisionController) (system : System) (hands : String → Hand)
    (strays ignored : Prop) (next : System) : Prop :=
  ∃ nextHands, Tracks ctrl next nextHands ∧
    Goes strays ignored (system.ledger hands) (next.ledger nextHands)

section Carrying

variable {ctrl : ProvisionController} {system : System} {hands : String → Hand}
  {strays ignored : Prop}

/-- A system that shows the same ledger. -/
theorem Carries.same {next : System} (tracks : Tracks ctrl next hands)
    (same : next.ledger hands = system.ledger hands) :
    Carries ctrl system hands strays ignored next := by
  refine ⟨hands, tracks, Or.inl ?_⟩
  have still := Ledger.Step.rest (Ledger.Rests.still ((system.ledger hands).hand ""))
  rw [same]
  rwa [Ledger.withHand, Function.update_eq_self] at still

theorem Tracks.become (tracks : Tracks ctrl system hands) {inventory : Inventory}
    (named : ∀ name volume, inventory.2.volumes.lookup name = some volume → volume.name = name) :
    Tracks ctrl (system.become inventory) hands where
  stored name volume stored :=
    ⟨named name volume stored, mem_become_history.mpr (Or.inr ⟨name, stored⟩)⟩
  ids _ member := mem_become_issued.mpr (Or.inr member)
  idle := tracks.idle
  jobs := tracks.jobs
  asked opName job volume running deletes :=
    mem_become_history.mpr (Or.inl (tracks.asked opName job volume running deletes))
  made := tracks.made

/-- The goroutine of a name changes, and with it the hand. -/
theorem Tracks.withJob (tracks : Tracks ctrl system hands) {opName : String} {job? : Option Job}
    {hand : Hand} (stats : FailedClaims) (idle : job? = none → hand = .empty)
    (ensured : ∀ job, job? = some job →
      job.program.Ensures (custody ctrl job.operation) Finished hand)
    (asked : ∀ job volume, job? = some job → job.operation = .delete volume →
      volume ∈ system.history)
    (made : ∀ job diskId, job? = some job → hand = .holds diskId ∨ hand = .dropping diskId →
      job.made = some diskId) (reports : List Report) :
    Tracks ctrl { system with
      running := Function.update system.running opName job?
      failedClaimsStats := stats
      reports := reports } (Function.update hands opName hand) := by
  refine ⟨tracks.stored, tracks.ids, fun other => ?_, fun other => ?_, fun other => ?_,
    fun other => ?_⟩
  all_goals by_cases same : other = opName
  · dsimp only
    rw [same, Function.update_self, Function.update_self]
    exact idle
  · dsimp only
    rw [Function.update_of_ne same, Function.update_of_ne same]
    exact tracks.idle other
  · dsimp only
    rw [same, Function.update_self, Function.update_self]
    exact ensured
  · dsimp only
    rw [Function.update_of_ne same, Function.update_of_ne same]
    exact tracks.jobs other
  · dsimp only
    rw [same, Function.update_self]
    exact asked
  · dsimp only
    rw [Function.update_of_ne same]
    exact tracks.asked other
  · dsimp only
    rw [same, Function.update_self, Function.update_self]
    exact made
  · dsimp only
    rw [Function.update_of_ne same, Function.update_of_ne same]
    exact tracks.made other

/-- The hand that a call leaves has the disk in it that the hand before had. -/
theorem inHand_of_keepsDropping {hand : Hand} {diskId : String}
    (held : keepsDropping hand = .holds diskId ∨ keepsDropping hand = .dropping diskId) :
    hand = .holds diskId ∨ hand = .dropping diskId := by
  cases hand <;> simp_all [keepsDropping]

/-- An operation has only the disk in its hands that it has created. -/
theorem provisioning_made {hand : Hand} {made : Option String} {diskId : String}
    (known : hand = .holds diskId ∨ hand = .dropping diskId → made = some diskId)
    (request : ProvisionCall) (reply : ProvisionReply request)
    (held : provisioning hand request reply = .holds diskId ∨
      provisioning hand request reply = .dropping diskId) :
    created made request reply = some diskId := by
  rcases request with (args | other) | server
  · change Except ApiError String at reply
    cases reply with
    | ok newId =>
        rcases held with same | same <;> cases same
        rfl
    | error failure => exact known held
  · change Option ApiError at reply
    cases reply with
    | none => rcases held with same | same <;> cases same
    | some failure => exact known (inHand_of_keepsDropping held)
  · refine known ?_
    cases server with
    | lookupClass name => exact held
    | getVolume name => exact held
    | deleteVolume name => exact held
    | createVolume volume =>
        change Option StatusError at reply
        cases reply with
        | none => rcases held with same | same <;> cases same
        | some failure => exact held
    | recordEvent event =>
        dsimp only [provisioning] at held
        split at held
        · rcases held with same | same <;> cases same
        · exact held

theorem deleting_made {volume : V1Volume} {hand : Hand} {made : Option String} {diskId : String}
    (known : hand = .holds diskId ∨ hand = .dropping diskId → made = some diskId)
    {request : ProvisionCall} (permitted : Operation.Permits (.delete volume) hand request)
    (reply : ProvisionReply request)
    (held : deleting ctrl volume hand request reply = .holds diskId ∨
      deleting ctrl volume hand request reply = .dropping diskId) :
    created made request reply = some diskId := by
  rcases request with (args | other) | server
  · exact permitted.elim
  · change Option ApiError at reply
    cases reply with
    | none => rcases held with same | same <;> cases same
    | some failure => rcases held with same | same <;> cases same
  · refine known ?_
    cases server with
    | lookupClass name => exact held
    | createVolume other => exact permitted.elim
    | deleteVolume name => rcases held with same | same <;> cases same
    | recordEvent event => exact held
    | getVolume name =>
        change Except StatusError V1Volume at reply
        cases reply with
        | error failure => rcases held with same | same <;> cases same
        | ok stored =>
            dsimp only [deleting] at held
            split at held
            · rcases clearedFor_settled volume with empty | ⟨name, named, cleared⟩
              · rw [empty] at held
                rcases held with same | same <;> cases same
              · rw [cleared] at held
                rcases held with same | same <;> cases same
            · rcases held with same | same <;> cases same

structure Called (system : System) (opName : String) (choice : ProvisionChoice)
    (operation : Operation) (made : Option String) (request : ProvisionCall)
    (next : ProvisionReply request → Provisioned (Option GoError))
    (reply : ProvisionReply request) (inventory : Inventory) : Prop where
  found : system.running opName = some ⟨operation, .ask request next, made⟩
  answered : Inventory.answer choice system.inventory request = (reply, inventory)
  named : ∀ name volume, inventory.2.volumes.lookup name = some volume → volume.name = name

section Called

variable {opName : String} {choice : ProvisionChoice} {operation : Operation}
  {made : Option String} {request : ProvisionCall}
  {next : ProvisionReply request → Provisioned (Option GoError)} {reply : ProvisionReply request}
  {inventory : Inventory}

/-- A call carries the ledger to that of the new inventory and the new reports, with the new
hand. -/
theorem Called.carries_noted
    (called : Called system opName choice operation made request next reply inventory)
    (tracks : Tracks ctrl system hands)
    (carried : Goes strays ignored (system.ledger hands)
      ({ system.become inventory with
        reports := system.reports ++ reported operation request made }.ledger
          (Function.update hands opName (operation.hand ctrl (hands opName) request reply)))) :
    Carries ctrl system hands strays ignored (system.call opName choice) := by
  obtain ⟨permitted, answers⟩ := tracks.jobs opName _ called.found
  have same : system.call opName choice =
      { system.become inventory with
        running := Function.update system.running opName
          (some ⟨operation, next reply, created made request reply⟩)
        reports := system.reports ++ reported operation request made } := by
    simp only [System.call, called.found, called.answered]
  rw [same]
  refine ⟨_, ?_, carried⟩
  refine (tracks.become called.named).withJob system.failedClaimsStats ?_ ?_ ?_ ?_ _
  · exact fun impossible => by cases impossible
  · rintro job ⟨⟩
    exact (answers reply _ rfl).2
  · rintro job volume ⟨⟩ deletes
    exact mem_become_history.mpr (Or.inl (tracks.asked opName _ volume called.found deletes))
  · rintro job diskId ⟨⟩ held
    have known := tracks.made opName _ diskId called.found
    cases operation with
    | provision claim => exact provisioning_made known request reply held
    | delete volume => exact deleting_made known permitted reply held

/-- A call that reports no disk. -/
theorem Called.carries
    (called : Called system opName choice operation made request next reply inventory)
    (tracks : Tracks ctrl system hands)
    (quiet : ∀ report ∈ reported operation request made, ∀ diskId, ¬report.GivesUp diskId)
    (carried : Goes strays ignored (system.ledger hands) ((system.become inventory).ledger
      (Function.update hands opName (operation.hand ctrl (hands opName) request reply)))) :
    Carries ctrl system hands strays ignored (system.call opName choice) := by
  refine called.carries_noted tracks ?_
  rw [← ledger_quiet (system.become inventory) _ quiet] at carried
  exact carried

end Called

/-! ### Provisioning -/

/-- The hand that a call leaves as it is. -/
theorem rest_step (tracks : Tracks ctrl system hands) {ecs : Ecs} {store : VolumeStore}
    (volumes : store.volumes = system.inventory.2.volumes)
    (disks : ecs.diskIds = system.disks) {opName : String} {hand : Hand}
    (rests : Ledger.Rests (hands opName) hand) :
    Ledger.Step (system.ledger hands)
      ((system.become (ecs, store)).ledger (Function.update hands opName hand)) := by
  rw [become_quiet tracks volumes disks]
  exact .rest rests

/-- A call that gives the disk in the hand up. -/
theorem given_step (tracks : Tracks ctrl system hands) {ecs : Ecs} {store : VolumeStore}
    (volumes : store.volumes = system.inventory.2.volumes)
    (disks : ecs.diskIds = system.disks) {report : Report} {diskId opName : String}
    (gives : report.GivesUp diskId)
    (held : hands opName = .holds diskId ∨ hands opName = .dropping diskId) :
    Ledger.Step (system.ledger hands)
      ({ system.become (ecs, store) with reports := system.reports ++ [report] }.ledger
        (Function.update hands opName .empty)) := by
  have noted := ledger_given (system.become (ecs, store)) (Function.update hands opName .empty)
    gives
  rw [become_quiet tracks volumes disks] at noted
  exact noted.symm ▸ .report held

theorem named_of_same (tracks : Tracks ctrl system hands) {volumes : AList fun _ => V1Volume}
    (same : volumes = system.inventory.2.volumes) :
    ∀ name volume, volumes.lookup name = some volume → volume.name = name := by
  intro name volume found
  rw [same] at found
  exact (tracks.stored name volume found).1

section Provision

variable {opName : String} {choice : ProvisionChoice} {claim : V1Claim} {made : Option String}

theorem createDisk_carries {args : CreateDiskArgs}
    {next : Except ApiError String → Provisioned (Option GoError)}
    (tracks : Tracks ctrl system hands)
    (found : system.running opName =
      some ⟨.provision claim, .ask (Sum.inl (.createDisk args) : ProvisionCall) next, made⟩)
    (fresh : choice.newDiskId ∉ system.issued) (excuse : choice.fate = .unanswered → strays) :
    Carries ctrl system hands strays ignored (system.call opName choice) := by
  have free : hands opName = .empty := (tracks.jobs opName _ found).1
  rcases answer_createDisk choice system.inventory.1 system.inventory.2 args with
    ⟨ecs, answered, disks⟩ | ⟨ecs, error, answered, disks⟩
  · refine Called.carries ⟨found, answered, named_of_same tracks rfl⟩ tracks
      (fun report none => by cases none) (Or.inl ?_)
    rw [become_created tracks rfl disks]
    exact .create fresh free
  · refine Called.carries ⟨found, answered, named_of_same tracks rfl⟩ tracks
      (fun report none => by cases none) ?_
    rcases disks with same | ⟨lost, more⟩
    · exact Or.inl (rest_step tracks rfl same (.still _))
    · refine Or.inr (Or.inl ⟨?_, excuse lost⟩)
      rw [become_created tracks rfl more]
      have still : Function.update hands opName (hands opName) = hands :=
        Function.update_eq_self ..
      change Ledger.Leak _ { system.ledger hands with
        assets := _, issued := _, hand := Function.update hands opName (hands opName) }
      rw [still]
      exact .stray fresh

theorem dropDisk_carries {diskId : String}
    {next : Option ApiError → Provisioned (Option GoError)} (tracks : Tracks ctrl system hands)
    (found : system.running opName =
      some ⟨.provision claim, .ask (Sum.inl (.deleteDisk diskId) : ProvisionCall) next, made⟩) :
    Carries ctrl system hands strays ignored (system.call opName choice) := by
  have held : hands opName = .holds diskId ∨ hands opName = .dropping diskId :=
    (tracks.jobs opName _ found).1
  have dropping : keepsDropping (hands opName) = .dropping diskId := by
    rcases held with same | same <;> rw [same] <;> rfl
  rcases answer_deleteDisk choice system.inventory.1 system.inventory.2 diskId with
    ⟨ecs, answered, -, disks⟩ | ⟨ecs, error, answered, disks⟩
  · refine Called.carries ⟨found, answered, named_of_same tracks rfl⟩ tracks
      (fun report none => by cases none) (Or.inl ?_)
    rw [become_deleted tracks rfl disks]
    exact .drop held (Or.inl rfl)
  · refine Called.carries ⟨found, answered, named_of_same tracks rfl⟩ tracks
      (fun report none => by cases none) (Or.inl ?_)
    change Ledger.Step _ ((system.become (ecs, _)).ledger
      (Function.update hands opName (keepsDropping (hands opName))))
    rw [dropping]
    rcases disks with same | fewer
    · refine rest_step tracks rfl same ?_
      rcases held with same | same <;> rw [same]
      · exact .drop diskId
      · exact .still _
    · rw [become_deleted tracks rfl fewer]
      exact .drop held (Or.inr rfl)

theorem saveVolume_carries {volume : V1Volume}
    {next : Option StatusError → Provisioned (Option GoError)} (tracks : Tracks ctrl system hands)
    (found : system.running opName =
      some ⟨.provision claim, .ask (Sum.inr (.createVolume volume) : ProvisionCall) next, made⟩)
    (answers : choice.kubeFate ≠ .unanswered) :
    Carries ctrl system hands strays ignored (system.call opName choice) := by
  obtain ⟨diskId, disk, held⟩ : ∃ diskId, volume.disk? = some diskId ∧
      hands opName = .holds diskId := (tracks.jobs opName _ found).1
  rcases answer_createVolume choice system.inventory.1 system.inventory.2 volume answers with
    ⟨absent, answered⟩ | ⟨error, answered⟩
  · refine Called.carries ⟨found, answered, fun name other present => ?_⟩ tracks
      (fun report none => by cases none) (Or.inl ?_)
    · by_cases same : name = volume.name
      · subst same
        rw [AList.lookup_insert] at present
        cases present
        rfl
      · rw [AList.lookup_insert_ne same] at present
        exact (tracks.stored name other present).1
    · have named : (volume.admitted choice.newUid).disk? = some diskId := disk
      rw [become_saved tracks named rfl]
      refine .file held ?_
      simp only [System.ledger, System.volume?, V1Volume.admitted, absent]
      rfl
  · refine Called.carries ⟨found, answered, named_of_same tracks rfl⟩ tracks
      (fun report none => by cases none) (Or.inl ?_)
    exact rest_step tracks rfl rfl (.still _)

/-- A call that only reads, or whose effect the ledger does not show. -/
theorem quiet_carries {operation : Operation} {request : ProvisionCall}
    {next : ProvisionReply request → Provisioned (Option GoError)}
    {reply : ProvisionReply request} {store : VolumeStore} (tracks : Tracks ctrl system hands)
    (found : system.running opName = some ⟨operation, .ask request next, made⟩)
    (answered : Inventory.answer choice system.inventory request =
      (reply, (system.inventory.1, store)))
    (volumes : store.volumes = system.inventory.2.volumes)
    (quiet : ∀ report ∈ reported operation request made, ∀ diskId, ¬report.GivesUp diskId)
    (rests : Ledger.Rests (hands opName) (operation.hand ctrl (hands opName) request reply)) :
    Carries ctrl system hands strays ignored (system.call opName choice) :=
  Called.carries ⟨found, answered, named_of_same tracks volumes⟩ tracks quiet
    (Or.inl (rest_step tracks volumes rfl rests))

/-- The event of an operation that gives its disk up is about its claim. -/
theorem recordEvent_carries {event : RecordedEvent}
    {next : Unit → Provisioned (Option GoError)} (tracks : Tracks ctrl system hands)
    (found : system.running opName =
      some ⟨.provision claim, .ask (Sum.inr (.recordEvent event) : ProvisionCall) next, made⟩) :
    Carries ctrl system hands strays ignored (system.call opName choice) := by
  have hand : Operation.hand ctrl (.provision claim) (hands opName) (.inr (.recordEvent event)) () =
      if event.reason = cleanupFailed then .empty else hands opName := rfl
  have answered : Inventory.answer choice system.inventory (.inr (.recordEvent event)) =
      ((() : Unit), (system.inventory.1, { system.inventory.2 with
        events := system.inventory.2.events ++ [event] })) := rfl
  by_cases failed : event.reason = cleanupFailed
  · obtain ⟨subject, diskId, held⟩ : event.subject = claimToClaimKey claim ∧
        ∃ diskId, hands opName = .holds diskId ∨ hands opName = .dropping diskId :=
      (tracks.jobs opName _ found).1 failed
    obtain rfl : made = some diskId := tracks.made opName _ diskId found held
    refine Called.carries_noted ⟨found, answered, named_of_same tracks rfl⟩ tracks (Or.inl ?_)
    have gives : Report.GivesUp ⟨.provision claim, diskId, event⟩ diskId :=
      ⟨rfl, failed, claim, rfl, subject⟩
    rw [hand, if_pos failed]
    exact given_step tracks rfl rfl gives held
  · refine quiet_carries tracks found answered rfl ?_ ?_
    · intro report member diskId gives
      cases made with
      | none => cases member
      | some known =>
          cases List.mem_singleton.mp member
          exact failed gives.reason
    · rw [hand, if_neg failed]
      exact .still _

theorem provision_carries {request : ProvisionCall}
    {next : ProvisionReply request → Provisioned (Option GoError)}
    (tracks : Tracks ctrl system hands)
    (found : system.running opName = some ⟨.provision claim, .ask request next, made⟩)
    (lawful : Lawful system (.call opName choice))
    (excuse : Strays system (.call opName choice) → strays) :
    Carries ctrl system hands strays ignored (system.call opName choice) := by
  have permitted := (tracks.jobs opName _ found).1
  have asks : system.request? opName = some request := by
    simp only [System.request?, found]
  cases request with
  | inl storage =>
      cases storage with
      | createDisk args =>
          exact createDisk_carries tracks found lawful.1 fun lost => excuse ⟨lost, args, asks⟩
      | deleteDisk diskId => exact dropDisk_carries tracks found
  | inr server =>
      cases server with
      | lookupClass name =>
          exact quiet_carries tracks found rfl rfl (fun report none => by cases none) (.still _)
      | getVolume name =>
          exact quiet_carries tracks found rfl rfl (fun report none => by cases none) (.still _)
      | createVolume volume => exact saveVolume_carries tracks found (lawful.2 volume asks)
      | deleteVolume name => exact permitted.elim
      | recordEvent event => exact recordEvent_carries tracks found

end Provision

/-! ### Deletion -/

section Delete

variable {opName : String} {choice : ProvisionChoice} {volume : V1Volume} {made : Option String}

theorem live_of_shouldDelete {stored : V1Volume} (deletes : shouldDelete ctrl stored = true) :
    live stored = false := by
  unfold shouldDelete at deletes
  unfold live
  cases phase : stored.phase <;> simp_all

theorem check_carries {name : String}
    {next : Except StatusError V1Volume → Provisioned (Option GoError)}
    (tracks : Tracks ctrl system hands)
    (found : system.running opName =
      some ⟨.delete volume, .ask (Sum.inr (.getVolume name) : ProvisionCall) next, made⟩) :
    Carries ctrl system hands strays ignored (system.call opName choice) := by
  obtain ⟨named, free⟩ : name = volume.name ∧ hands opName = .empty :=
    (tracks.jobs opName _ found).1
  have rests : Ledger.Rests (hands opName) .empty := by
    rw [free]
    exact .still _
  rcases answer_getVolume choice system.inventory.1 system.inventory.2 name with
    ⟨stored, present, answered⟩ | ⟨error, answered⟩
  · have hand : Operation.hand ctrl (.delete volume) (hands opName) (.inr (.getVolume name))
        (.ok stored : Except StatusError V1Volume) =
        if shouldDelete ctrl stored then clearedFor volume else .empty := rfl
    by_cases deletes : shouldDelete ctrl stored = true
    · rw [if_pos deletes, clearedFor] at hand
      cases disk : volume.disk? with
      | none =>
          rw [disk] at hand
          refine quiet_carries tracks found answered rfl (fun report none => by cases none) ?_
          rw [hand]
          exact rests
      | some diskId =>
          rw [disk] at hand
          refine Called.carries ⟨found, answered, named_of_same tracks rfl⟩ tracks
            (fun report none => by cases none) (Or.inl ?_)
          rw [become_quiet tracks rfl rfl, hand]
          rw [named] at present
          refine .check (?_ : (system.ledger hands).record volume.name =
            some ⟨stored.disk?, live stored⟩) (live_of_shouldDelete deletes)
            ⟨volume, tracks.asked opName _ volume found rfl, rfl, disk⟩ free
          simp only [System.ledger, System.volume?, present, Option.map_some]
    · rw [if_neg deletes] at hand
      refine quiet_carries tracks found answered rfl (fun report none => by cases none) ?_
      rw [hand]
      exact rests
  · exact quiet_carries tracks found answered rfl (fun report none => by cases none) rests

theorem wipeDisk_carries {diskId : String}
    {next : Option ApiError → Provisioned (Option GoError)} (tracks : Tracks ctrl system hands)
    (found : system.running opName =
      some ⟨.delete volume, .ask (Sum.inl (.deleteDisk diskId) : ProvisionCall) next, made⟩)
    (excuse : choice.ignoresMissing = true → ignored) :
    Carries ctrl system hands strays ignored (system.call opName choice) := by
  have cleared : hands opName = .cleared volume.name diskId := (tracks.jobs opName _ found).1
  rcases answer_deleteDisk choice system.inventory.1 system.inventory.2 diskId with
    ⟨ecs, answered, there, disks⟩ | ⟨ecs, error, answered, disks⟩
  · refine Called.carries ⟨found, answered, named_of_same tracks rfl⟩ tracks
      (fun report none => by cases none) ?_
    rw [become_deleted tracks rfl disks]
    rcases there with there | missing
    · exact Or.inl (.wipe cleared there)
    · exact Or.inr (Or.inr ⟨.pass cleared, excuse missing⟩)
  · refine Called.carries ⟨found, answered, named_of_same tracks rfl⟩ tracks
      (fun report none => by cases none) (Or.inl ?_)
    rcases disks with same | fewer
    · refine rest_step tracks rfl same ?_
      rw [cleared]
      exact .uncleared _ _
    · rw [become_deleted tracks rfl fewer]
      exact .wipeUnseen cleared

theorem eraseVolume_carries {name : String}
    {next : Option StatusError → Provisioned (Option GoError)} (tracks : Tracks ctrl system hands)
    (found : system.running opName =
      some ⟨.delete volume, .ask (Sum.inr (.deleteVolume name) : ProvisionCall) next, made⟩) :
    Carries ctrl system hands strays ignored (system.call opName choice) := by
  obtain ⟨named, diskId, wiped⟩ : name = volume.name ∧
      ∃ diskId, hands opName = .wiped name diskId := (tracks.jobs opName _ found).1
  obtain ⟨reply, volumes, answered, kept | erased⟩ :=
    answer_deleteVolume choice system.inventory.1 system.inventory.2 name
  · refine quiet_carries tracks found answered kept (fun report none => by cases none) ?_
    rw [wiped]
    exact .unwiped _ _
  · refine Called.carries ⟨found, answered, fun other stored present => ?_⟩ tracks
      (fun report none => by cases none) (Or.inl ?_)
    · dsimp only at present
      by_cases same : other = name
      · rw [erased, same, AList.lookup_erase] at present
        cases present
      · rw [erased, AList.lookup_erase_ne same] at present
        exact (tracks.stored other stored present).1
    · rw [become_erased tracks erased]
      exact .erase wiped

theorem delete_carries {request : ProvisionCall}
    {next : ProvisionReply request → Provisioned (Option GoError)}
    (tracks : Tracks ctrl system hands)
    (found : system.running opName = some ⟨.delete volume, .ask request next, made⟩)
    (excuse : choice.ignoresMissing = true → ignored) :
    Carries ctrl system hands strays ignored (system.call opName choice) := by
  have permitted := (tracks.jobs opName _ found).1
  cases request with
  | inl storage =>
      cases storage with
      | createDisk args => exact permitted.elim
      | deleteDisk diskId => exact wipeDisk_carries tracks found excuse
  | inr server =>
      cases server with
      | lookupClass name =>
          exact quiet_carries tracks found rfl rfl (fun report none => by cases none) (.still _)
      | getVolume name => exact check_carries tracks found
      | createVolume volume => exact permitted.elim
      | deleteVolume name => exact eraseVolume_carries tracks found
      | recordEvent event =>
          have answered : Inventory.answer choice system.inventory (.inr (.recordEvent event)) =
              ((() : Unit), (system.inventory.1, { system.inventory.2 with
                events := system.inventory.2.events ++ [event] })) := rfl
          refine quiet_carries tracks found answered rfl ?_ (.still _)
          intro report member diskId gives
          cases made with
          | none => cases member
          | some known =>
              cases List.mem_singleton.mp member
              exact permitted gives.reason

end Delete

theorem call_carries {opName : String} {choice : ProvisionChoice}
    (tracks : Tracks ctrl system hands) (lawful : Lawful system (.call opName choice))
    (excuse : Strays system (.call opName choice) → strays)
    (ignores : choice.ignoresMissing = true → ignored) :
    Carries ctrl system hands strays ignored (system.call opName choice) := by
  cases found : system.running opName with
  | none =>
      refine Carries.same ?_ ?_ <;> simp only [System.call, found]
      exact tracks
  | some job =>
      obtain ⟨operation, program, made⟩ := job
      cases program with
      | done err =>
          refine Carries.same ?_ ?_ <;> simp only [System.call, found]
          exact tracks
      | crash =>
          refine Carries.same ?_ ?_ <;> simp only [System.call, found]
          exact tracks
      | ask request next =>
          cases operation with
          | provision claim => exact provision_carries tracks found lawful excuse
          | delete volume => exact delete_carries tracks found ignores

/-! ## Every move -/

theorem schedule_carries (tracks : Tracks ctrl system hands) {operation : Operation}
    (known : ∀ volume, operation = .delete volume → volume ∈ system.history) :
    Carries ctrl system hands strays ignored (system.schedule ctrl operation) := by
  unfold System.schedule
  cases found : system.running operation.opName with
  | some job => exact Carries.same tracks rfl
  | none =>
      have free := tracks.idle _ found
      refine ⟨Function.update hands operation.opName .empty,
        tracks.withJob system.failedClaimsStats (fun impossible => by cases impossible)
          ?_ ?_ (fun job diskId _ held => by rcases held with h | h <;> cases h) _, Or.inl ?_⟩
      · rintro job ⟨⟩
        exact program_ensures ctrl operation
      · rintro job volume ⟨⟩ deletes
        exact known volume deletes
      · refine Ledger.Step.rest ?_
        change Ledger.Rests (hands operation.opName) .empty
        rw [free]
        exact .still _

theorem finish_carries (tracks : Tracks ctrl system hands) (opName : String) :
    Carries ctrl system hands strays ignored (system.finish opName) := by
  cases found : system.running opName with
  | none =>
      refine Carries.same ?_ ?_ <;> simp only [System.finish, found]
      exact tracks
  | some job =>
      obtain ⟨operation, program, made⟩ := job
      cases program with
      | ask request next =>
          refine Carries.same ?_ ?_ <;> simp only [System.finish, found]
          exact tracks
      | crash =>
          refine Carries.same ?_ ?_ <;> simp only [System.finish, found]
          exact tracks
      | done err =>
          obtain ⟨-, settled⟩ : Finished (some err) (hands opName) := tracks.jobs opName _ found
          simp only [System.finish, found]
          refine ⟨Function.update hands opName .empty,
            tracks.withJob (system.stats err operation) (fun _ => rfl)
              (fun job impossible => by cases impossible)
              (fun job volume impossible => by cases impossible)
              (fun job diskId impossible => by cases impossible) _, Or.inl (.rest ?_)⟩
          change Ledger.Rests (hands opName) .empty
          rcases settled with empty | ⟨name, diskId, cleared⟩
          · rw [empty]
            exact .still _
          · rw [cleared]
            exact .uncleared _ _

theorem edit_carries (tracks : Tracks ctrl system hands) {name : String}
    {change : V1Volume → V1Volume} (revises : Revises change) :
    Carries ctrl system hands strays ignored (system.edit name change) := by
  unfold System.edit
  cases stored : system.volume? name with
  | none => exact Carries.same tracks rfl
  | some old =>
      have disk : (change old).disk? = old.disk? := by
        rw [V1Volume.disk?, V1Volume.disk?, revises.source]
      have record : (system.ledger hands).record name = some ⟨old.disk?, live old⟩ := by
        simp only [System.ledger, stored, Option.map_some]
      refine ⟨hands, tracks.become (fun other found present => ?_), Or.inl ?_⟩
      · dsimp only at present
        by_cases same : other = name
        · rw [same, AList.lookup_insert] at present
          cases present
          rw [same, revises.name]
          exact (tracks.stored name old stored).1
        · rw [AList.lookup_insert_ne same] at present
          exact (tracks.stored other found present).1
      · rw [become_revised tracks stored (revises.name old) disk rfl]
        exact .revise record disk (revises.stays old)

theorem restart_carries (tracks : Tracks ctrl system hands) (excuse : strays) :
    Carries ctrl system hands strays ignored (system.move ctrl .restart) := by
  refine ⟨fun _ => .empty, ⟨tracks.stored, tracks.ids, fun _ _ => rfl, ?_, ?_, ?_⟩,
    Or.inr (Or.inl ⟨.forget fun _ => Or.inr rfl, excuse⟩)⟩
  · exact fun opName job impossible => by cases impossible
  · exact fun opName job volume impossible => by cases impossible
  · exact fun opName job diskId impossible => by cases impossible

/-- Every lawful move keeps the ledger; only a lost answer or a restart excuses a leak, and only
a missing disk that the storage does not mind a slip. -/
theorem move_carries (tracks : Tracks ctrl system hands) {move : Move}
    (lawful : Lawful system move) :
    Carries ctrl system hands (Strays system move) (¬Refusing move) (system.move ctrl move) := by
  cases move with
  | claimEvent claim cached =>
      dsimp only [System.move]
      split
      · exact schedule_carries tracks fun volume impossible => by cases impossible
      · exact Carries.same tracks rfl
  | lead claim => exact schedule_carries tracks fun volume impossible => by cases impossible
  | volumeEvent volume =>
      dsimp only [System.move]
      split
      · refine schedule_carries tracks ?_
        rintro other ⟨⟩
        exact lawful
      · exact Carries.same tracks rfl
  | call opName choice =>
      refine call_carries tracks lawful id fun ignores refusing => ?_
      cases ignores.symm.trans refusing
  | finish opName => exact finish_carries tracks opName
  | edit name change => exact edit_carries tracks lawful
  | restart => exact restart_carries tracks trivial

end Carrying

end KubeAliyun.Provisioning
