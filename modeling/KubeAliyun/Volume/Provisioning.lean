import KubeAliyun.Provider.Provision
import KubeAliyun.Remote.Trace
import KubeAliyun.Resource.Scaling
import KubeAliyun.Structs.Filling
import KubeAliyun.Volume.Reads

/-!
# Provisioned volumes

What `Provision` accepts, what it asks the service for, and how the volume that it
returns compares with the claim: its size and its access modes.
-/

namespace KubeAliyun.Volume

open KubeAliyun.Cloud KubeAliyun.Provider KubeAliyun.Remote KubeAliyun.Resource

/-! ## The storage class -/

def parameter (parameters : Option (String → Option String)) (key : String) :
    Option String :=
  parameters.bind fun entries => entries key

/-- Both options are texts, so `MapToStruct` takes whatever the parameters hold. -/
theorem ofParameters_eq (parameters : Option (String → Option String)) :
    StorageOptions.ofParameters parameters =
      ⟨(parameter parameters "fsType").getD defaultFSType,
        (parameter parameters "diskCategory").getD ""⟩ := by
  cases parameters with
  | none => rfl
  | some entries =>
      have noPrefix : ∀ key : String, "" ++ key = key := fun key => by simp
      simp only [StorageOptions.ofParameters, StorageOptions.fields, Util.mapToStruct,
        Util.fillFields, Util.parseField, noPrefix, parameter, Option.bind_some]
      cases entries "fsType" <;> cases entries "diskCategory" <;> rfl

structure Accepted (options : ProvisionerOptions) : Prop where
  unselected : options.pvc.hasSelector = false
  writable : .readWriteOnce ∈ options.pvc.accessModes
  categorised : (StorageOptions.ofParameters options.parameters).category ≠ ""

theorem checkClaim_of_accepted {options : ProvisionerOptions} (accepted : Accepted options) :
    checkClaim options = .ok (StorageOptions.ofParameters options.parameters) := by
  have found : options.pvc.accessModes.any (· == .readWriteOnce) = true :=
    List.any_eq_true.mpr ⟨_, accepted.writable, beq_self_eq_true _⟩
  rw [checkClaim, accepted.unselected, found, if_neg Bool.false_ne_true,
    if_neg (by decide)]
  exact if_neg accepted.categorised

theorem checkClaim_of_refused {options : ProvisionerOptions} (refused : ¬ Accepted options) :
    ∃ failure, checkClaim options = .error failure := by
  simp only [checkClaim]
  split_ifs with selected unfound uncategorised
  · exact ⟨_, rfl⟩
  · exact ⟨_, rfl⟩
  · exact ⟨_, rfl⟩
  · have found : options.pvc.accessModes.any (· == .readWriteOnce) = true := by
      simpa using unfound
    obtain ⟨mode, member, same⟩ := List.any_eq_true.mp found
    have writable : mode = .readWriteOnce := beq_iff_eq.mp same
    rw [writable] at member
    exact absurd ⟨Bool.eq_false_iff.mpr selected, member, uncategorised⟩ refused

/-! ## Runs -/

section Runs

variable {ω σ : Type} (outOfRange : Nat → Int64) (provider : ProvisioningProvider)
  (options : ProvisionerOptions) (service : Service ω σ StorageCall StorageReply)
  (choices : Nat → ω) (state : σ)

def category : String := (StorageOptions.ofParameters options.parameters).category

def askedSize : Int64 := diskSize outOfRange options.request (category options)

def askedDisk : CreateDiskArgs :=
  ⟨provider.region, provider.zone, category options, options.pvName,
    askedSize outOfRange options⟩

variable {options}

theorem provision_refused (refused : ¬ Accepted options) :
    ∃ failure, (provision outOfRange provider options).run service choices state =
      ⟨some (.error failure), [], state, choices⟩ := by
  obtain ⟨failure, checked⟩ := checkClaim_of_refused refused
  refine ⟨failure, ?_⟩
  rw [provision, checked]
  rfl

variable {service choices state}

theorem provision_created (accepted : Accepted options) {diskId : String} {after : σ}
    (answered : service (choices 0) state
      (.createDisk (askedDisk outOfRange provider options)) = (.ok diskId, after)) :
    (provision outOfRange provider options).run service choices state =
      ⟨some (.ok (volumeOn options (askedSize outOfRange options) diskId)),
        [⟨state, .createDisk (askedDisk outOfRange provider options), .ok diskId, after⟩],
        after, later choices⟩ := by
  rw [provision, checkClaim_of_accepted accepted]
  exact Prog.run_ask_of_answer answered

theorem provision_failed (accepted : Accepted options) {failure : ApiError} {after : σ}
    (answered : service (choices 0) state
      (.createDisk (askedDisk outOfRange provider options)) = (.error failure, after)) :
    (provision outOfRange provider options).run service choices state =
      ⟨some (.error (.plain ("Failed to call Aliyun CreateDisk: " ++ failure.text))),
        [⟨state, .createDisk (askedDisk outOfRange provider options), .error failure, after⟩],
        after, later choices⟩ := by
  rw [provision, checkClaim_of_accepted accepted]
  exact Prog.run_ask_of_answer answered

/-- A call that returns a volume has created one disk for an accepted claim. -/
theorem provision_ok {volume : PersistentVolume}
    (returned : ((provision outOfRange provider options).run service choices state).outcome =
      some (.ok volume)) :
    Accepted options ∧ ∃ diskId after,
      service (choices 0) state (.createDisk (askedDisk outOfRange provider options)) =
        (.ok diskId, after) ∧
      volume = volumeOn options (askedSize outOfRange options) diskId := by
  by_cases accepted : Accepted options
  · refine ⟨accepted, ?_⟩
    rcases answered : service (choices 0) state
      (.createDisk (askedDisk outOfRange provider options)) with ⟨reply, after⟩
    cases reply with
    | error failure =>
        rw [provision_failed outOfRange provider accepted answered] at returned
        cases returned
    | ok diskId =>
        rw [provision_created outOfRange provider accepted answered] at returned
        cases returned
        exact ⟨diskId, after, rfl, rfl⟩
  · obtain ⟨failure, run⟩ :=
      provision_refused outOfRange provider service choices state accepted
    rw [run] at returned
    cases returned

end Runs

/-! ## Sizes -/

theorem minSize_ge (category : String) : 5 ≤ (minSize category).toInt := by
  unfold minSize minSizeTable
  split <;> decide

theorem diskSize_toInt (outOfRange : Nat → Int64) (request : Quantity) (category : String) :
    (diskSize outOfRange request category).toInt =
      max (minSize category).toInt (request.scaledValue outOfRange giga).toInt := by
  rw [diskSize]
  split
  case isTrue less =>
    rw [max_eq_left (Int64.lt_iff_toInt_lt.mp less).le]
  case isFalse enough =>
    rw [max_eq_right (not_lt.mp fun less => enough (Int64.lt_iff_toInt_lt.mpr less))]

/-- The size of a disk in GiB and the capacity of its volume are right for a request. -/
structure SizedFor (request : Quantity) (category : String) (size : Int64)
    (capacity : Quantity) : Prop where
  least : (minSize category).toInt ≤ size.toInt
  rounded : size.toInt = max (minSize category).toInt request.gigas
  capacity_eq : capacity.amount = size.toInt * 10 ^ 9
  covers : request.amount ≤ capacity.amount
  within : capacity.amount ≤ size.toInt * 2 ^ 30

/-- The request can be represented in 64 bits, and with a scale too far from giga the
mantissa that takes its place is not more than the least size. -/
structure Representable (request : Quantity) (least : Int) : Prop where
  fits : request.gigas < 2 ^ 63
  small : request.Distant → request.i.value.toInt ≤ least

/-- The right size is the one thing that can go wrong. -/
theorem sizedFor_iff {request : Quantity} {category : String} {size : Int64}
    (least : (minSize category).toInt ≤ size.toInt) :
    SizedFor request category size (Quantity.setScaled size giga) ↔
      size.toInt = max (minSize category).toInt request.gigas := by
  constructor
  · intro sized
    exact sized.rounded
  · intro rounded
    have positive : (0 : ℚ) ≤ size.toInt := by
      have five := minSize_ge category
      exact_mod_cast (by omega : (0 : Int) ≤ size.toInt)
    have capacity : (Quantity.setScaled size giga).amount = size.toInt * 10 ^ 9 := rfl
    have reached : (request.gigas : ℚ) ≤ size.toInt := by
      exact_mod_cast rounded ▸ le_max_right (minSize category).toInt request.gigas
    have rounding : request.amount / 10 ^ 9 ≤ request.gigas := Int.le_ceil _
    refine ⟨least, rounded, capacity, ?_, ?_⟩
    · rw [capacity, ← div_le_iff₀ (by norm_num)]
      exact rounding.trans reached
    · rw [capacity]
      nlinarith

/-- The size is right exactly for a request that can be represented. -/
theorem rounded_iff (outOfRange : Nat → Int64) {request : Quantity}
    (nonnegative : 0 ≤ request.amount) (category : String) :
    (diskSize outOfRange request category).toInt =
        max (minSize category).toInt request.gigas ↔
      Representable request (minSize category).toInt := by
  have five := minSize_ge category
  constructor
  · intro rounded
    have bound := (diskSize outOfRange request category).toInt_lt
    constructor
    · omega
    · intro distant
      have below := Quantity.gigas_distant nonnegative distant
      rw [diskSize_toInt, Quantity.scaledValue_distant outOfRange distant] at rounded
      omega
  · rintro ⟨fits, small⟩
    rw [diskSize_toInt]
    by_cases distant : request.Distant
    · have below := Quantity.gigas_distant nonnegative distant
      have mantissa := small distant
      rw [Quantity.scaledValue_distant outOfRange distant]
      omega
    · rw [Quantity.scaledValue_giga outOfRange nonnegative distant fits]

/-- Whatever the service answers: a volume that is returned has the right size, and a
request that is too large is refused. -/
def NeverSmaller (outOfRange : Nat → Int64) (provider : ProvisioningProvider)
    (options : ProvisionerOptions) : Prop :=
  ∀ (ω σ : Type) (service : Service ω σ StorageCall StorageReply) (choices : Nat → ω)
    (state : σ),
    let run := (provision outOfRange provider options).run service choices state
    (∀ volume, run.outcome = some (.ok volume) → ∃ args diskId,
      run.trace = [⟨.createDisk args, .ok diskId⟩] ∧
        SizedFor options.request (category options) args.size volume.capacity) ∧
    (2 ^ 63 ≤ options.request.gigas → ∃ failure, run.outcome = some (.error failure))

def granting (diskId : String) : Nat → StorageChoice :=
  fun _ => ⟨serving fun _ => false, diskId⟩

theorem granting_answered (diskId : String) (index : Nat) :
    (granting diskId index).fate ≠ .unanswered := by
  intro unanswered
  cases unanswered

/-- An accepted claim gets its disk from such a service, which has two others. -/
theorem provision_granted (outOfRange : Nat → Int64) (provider : ProvisioningProvider)
    {options : ProvisionerOptions} (accepted : Accepted options) :
    ∃ after, (provision outOfRange provider options).run Ecs.storage (granting "d-3")
        twoDisks.ecs =
      ⟨some (.ok (volumeOn options (askedSize outOfRange options) "d-3")),
        [⟨twoDisks.ecs, .createDisk (askedDisk outOfRange provider options), .ok "d-3", after⟩],
        after, later (granting "d-3")⟩ := by
  have still : "d-3" ∉ (twoDisks.ecs.settle fun _ => false).diskIds := by
    rw [Ecs.settle_diskIds]
    decide
  obtain ⟨after, created⟩ := Ecs.create_of_fresh still
  exact ⟨after, provision_created outOfRange provider accepted
    (Ecs.storage_created _ rfl created)⟩

theorem askedSize_least (outOfRange : Nat → Int64) (options : ProvisionerOptions) :
    (minSize (category options)).toInt ≤ (askedSize outOfRange options).toInt := by
  rw [askedSize, diskSize_toInt]
  exact le_max_left _ _

/-- The promise, for the disk that this service creates. -/
theorem NeverSmaller.sizedFor {outOfRange : Nat → Int64} {provider : ProvisioningProvider}
    {options : ProvisionerOptions} (sized : NeverSmaller outOfRange provider options)
    (accepted : Accepted options) :
    SizedFor options.request (category options) (askedSize outOfRange options)
      (Quantity.setScaled (askedSize outOfRange options) giga) := by
  obtain ⟨after, run⟩ := provision_granted outOfRange provider accepted
  have promise := (sized _ _ Ecs.storage (granting "d-3") twoDisks.ecs).1
  rw [run] at promise
  obtain ⟨args, diskId, trace, right⟩ := promise _ rfl
  cases trace
  exact right

/-- A provisioned volume has the size its claim needs if and only if the claim is
refused or its request can be represented. -/
theorem never_smaller_iff (outOfRange : Nat → Int64) (provider : ProvisioningProvider)
    (options : ProvisionerOptions) (nonnegative : 0 ≤ options.request.amount) :
    NeverSmaller outOfRange provider options ↔
      (Accepted options →
        Representable options.request (minSize (category options)).toInt) := by
  constructor
  · intro sized accepted
    exact (rounded_iff outOfRange nonnegative _).mp (sized.sizedFor accepted).rounded
  · intro representable ω σ service choices state
    constructor
    · intro volume returned
      obtain ⟨accepted, diskId, after, answered, rfl⟩ :=
        provision_ok outOfRange provider returned
      have rounded := (rounded_iff outOfRange nonnegative _).mpr (representable accepted)
      rw [provision_created outOfRange provider accepted answered]
      exact ⟨_, diskId, rfl, (sizedFor_iff (askedSize_least outOfRange options)).mpr rounded⟩
    · intro large
      have refused : ¬ Accepted options := fun accepted =>
        absurd (representable accepted).fits (not_lt.mpr large)
      obtain ⟨failure, run⟩ :=
        provision_refused outOfRange provider service choices state refused
      exact ⟨failure, by rw [run]⟩

/-! A provider and claims for fast disks. -/

def zoned : ProvisioningProvider := ⟨twoNodes, "cn-hangzhou-b"⟩

def ssdParameters (key : String) : Option String :=
  if key = "diskCategory" then some "cloud_ssd" else none

def claiming (accessModes : List AccessMode) (request : Quantity) : ProvisionerOptions where
  reclaimPolicy := "Delete"
  pvName := "pv-1"
  pvc := ⟨false, accessModes, fun _ => some request, none⟩
  parameters := some ssdParameters

theorem claiming_accepted {accessModes : List AccessMode} (request : Quantity)
    (writable : .readWriteOnce ∈ accessModes) : Accepted (claiming accessModes request) where
  unselected := rfl
  writable := writable
  categorised := by
    rw [ofParameters_eq]
    exact (by decide : (parameter (some ssdParameters) "diskCategory").getD "" ≠ "")

/-- Eight gigabytes are less than the smallest disk. -/
theorem never_smaller_iff_small :
    0 ≤ (claiming [.readWriteOnce] ⟨⟨8, 9⟩, none⟩).request.amount ∧
      NeverSmaller (fun _ => 0) zoned (claiming [.readWriteOnce] ⟨⟨8, 9⟩, none⟩) := by
  have amount : (claiming [.readWriteOnce] ⟨⟨8, 9⟩, none⟩).request.amount = 8 * 10 ^ 9 := rfl
  have nonnegative : 0 ≤ (claiming [.readWriteOnce] ⟨⟨8, 9⟩, none⟩).request.amount := by
    rw [amount]
    norm_num
  refine ⟨nonnegative, (never_smaller_iff _ _ _ nonnegative).mpr fun _ => ⟨?_, ?_⟩⟩
  · rw [Quantity.gigas, amount]
    norm_num
  · rintro ⟨-, scale⟩
    exact absurd scale (by decide)

/-- A request of `10 ^ 30` bytes overflows to zero, and the smallest disk is created
for it. -/
theorem huge_request_shrinks :
    (∃ volume, ((provision (fun _ => 0) zoned
        (claiming [.readWriteOnce] ⟨⟨1, 30⟩, none⟩)).run Ecs.storage (granting "d-3")
          twoDisks.ecs).outcome = some (.ok volume) ∧
        volume.capacity = Quantity.setScaled 20 giga) ∧
      ¬ NeverSmaller (fun _ => 0) zoned (claiming [.readWriteOnce] ⟨⟨1, 30⟩, none⟩) := by
  have size : askedSize (fun _ => 0) (claiming [.readWriteOnce] ⟨⟨1, 30⟩, none⟩) = 20 := by
    decide
  have accepted : Accepted (claiming [.readWriteOnce] ⟨⟨1, 30⟩, none⟩) :=
    claiming_accepted ⟨⟨1, 30⟩, none⟩ (List.mem_singleton.mpr rfl)
  obtain ⟨after, run⟩ := provision_granted (fun _ => 0) zoned accepted
  constructor
  · refine ⟨_, by rw [run], ?_⟩
    rw [size]
    rfl
  · intro sized
    have right := sized.sizedFor accepted
    have covers := right.covers
    rw [right.capacity_eq, size] at covers
    have amount : (claiming [.readWriteOnce] ⟨⟨1, 30⟩, none⟩).request.amount = 1 * 10 ^ 30 := rfl
    have twenty : (20 : Int64).toInt = 20 := rfl
    rw [amount, twenty] at covers
    norm_num at covers

/-! ## Access modes -/

/-- With a service whose errors mean that nothing was done: a volume offers the modes
of its claim and stands on the one disk that was created, and an error leaves no disk
behind. -/
def OffersModes (outOfRange : Nat → Int64) (provider : ProvisioningProvider)
    (options : ProvisionerOptions) : Prop :=
  ∀ (choices : Nat → StorageChoice) (ecs : Ecs),
    (∀ index, (choices index).fate ≠ .unanswered) →
    let run := (provision outOfRange provider options).run Ecs.storage choices ecs
    (∀ volume, run.outcome = some (.ok volume) →
      (∀ mode ∈ options.pvc.accessModes, mode ∈ volume.accessModes) ∧
      ∃ source diskId, volume.flexVolume = some source ∧
        source.options "diskId" = some diskId ∧ diskId ∉ ecs.diskIds ∧
        run.state.diskIds = ecs.diskIds ++ [diskId]) ∧
    (∀ failure, run.outcome = some (.error failure) → run.state.diskIds = ecs.diskIds)

/-- The disk part of this holds for every claim. -/
theorem provision_diskIds (outOfRange : Nat → Int64) (provider : ProvisioningProvider)
    (options : ProvisionerOptions) (choices : Nat → StorageChoice) (ecs : Ecs)
    (answered : (choices 0).fate ≠ .unanswered) :
    let run := (provision outOfRange provider options).run Ecs.storage choices ecs
    (∃ diskId, run.outcome =
        some (.ok (volumeOn options (askedSize outOfRange options) diskId)) ∧
      diskId ∉ ecs.diskIds ∧ run.state.diskIds = ecs.diskIds ++ [diskId]) ∨
    (∃ failure, run.outcome = some (.error failure)) ∧ run.state.diskIds = ecs.diskIds := by
  by_cases accepted : Accepted options
  · rcases Ecs.storage_createDisk ecs (askedDisk outOfRange provider options) answered with
      ⟨next, created, reply⟩ | reply
    · left
      have fresh := (Ecs.create_some created).1
      rw [Ecs.settle_diskIds] at fresh
      refine ⟨(choices 0).newDiskId, ?_, fresh, ?_⟩
      · rw [provision_created outOfRange provider accepted reply]
      · rw [provision_created outOfRange provider accepted reply, Ecs.create_diskIds created,
          Ecs.settle_diskIds]
    · right
      rw [provision_failed outOfRange provider accepted reply]
      exact ⟨⟨_, rfl⟩, Ecs.settle_diskIds _ _⟩
  · right
    obtain ⟨failure, run⟩ :=
      provision_refused outOfRange provider Ecs.storage choices ecs accepted
    rw [run]
    exact ⟨⟨failure, rfl⟩, rfl⟩

/-- The promise, for the volume on the disk of a granting service. -/
theorem OffersModes.single {outOfRange : Nat → Int64} {provider : ProvisioningProvider}
    {options : ProvisionerOptions} (offers : OffersModes outOfRange provider options)
    (accepted : Accepted options) :
    ∀ mode ∈ options.pvc.accessModes, mode = .readWriteOnce := by
  intro mode member
  obtain ⟨after, run⟩ := provision_granted outOfRange provider accepted
  have promise := (offers (granting "d-3") twoDisks.ecs (granting_answered _)).1
  rw [run] at promise
  exact List.mem_singleton.mp ((promise _ rfl).1 mode member)

/-- A volume offers what its claim asks for if and only if the claim is refused or asks
for `ReadWriteOnce` only. -/
theorem offers_modes_iff (outOfRange : Nat → Int64) (provider : ProvisioningProvider)
    (options : ProvisionerOptions) :
    OffersModes outOfRange provider options ↔
      (Accepted options → ∀ mode ∈ options.pvc.accessModes, mode = .readWriteOnce) := by
  constructor
  · intro offers
    exact offers.single
  · intro single choices ecs answered
    constructor
    · intro volume returned
      obtain ⟨accepted, -⟩ := provision_ok outOfRange provider returned
      rcases provision_diskIds outOfRange provider options choices ecs (answered 0) with
        ⟨diskId, outcome, fresh, ids⟩ | ⟨⟨failure, outcome⟩, -⟩
      · rw [outcome] at returned
        cases returned
        refine ⟨fun mode member => ?_, _, diskId, rfl, rfl, fresh, ids⟩
        rw [single accepted mode member]
        exact List.mem_singleton.mpr rfl
      · rw [outcome] at returned
        cases returned
    · intro failure returned
      rcases provision_diskIds outOfRange provider options choices ecs (answered 0) with
        ⟨diskId, outcome, -, -⟩ | ⟨-, ids⟩
      · rw [outcome] at returned
        cases returned
      · exact ids

/-- A claim for two modes is accepted and gets a volume with one of them. -/
theorem mixed_modes_accepted :
    (∃ volume, ((provision (fun _ => 0) zoned
        (claiming [.readWriteOnce, .readWriteMany] ⟨⟨30, 9⟩, none⟩)).run Ecs.storage
          (granting "d-3") twoDisks.ecs).outcome = some (.ok volume) ∧
        volume.accessModes = [.readWriteOnce]) ∧
      ¬ OffersModes (fun _ => 0) zoned
        (claiming [.readWriteOnce, .readWriteMany] ⟨⟨30, 9⟩, none⟩) := by
  have accepted : Accepted (claiming [.readWriteOnce, .readWriteMany] ⟨⟨30, 9⟩, none⟩) :=
    claiming_accepted ⟨⟨30, 9⟩, none⟩ List.mem_cons_self
  obtain ⟨after, run⟩ := provision_granted (fun _ => 0) zoned accepted
  constructor
  · exact ⟨_, by rw [run], rfl⟩
  · intro offers
    cases offers.single accepted .readWriteMany (List.mem_cons_of_mem _ List.mem_cons_self)

/-! ## Deleting -/

/-- The disk of a volume is named in its source. -/
theorem delete_run {ω σ : Type} (shownVolume shownSource : String)
    (options : ProvisionerOptions) (size : Int64) {diskId : String} (named : diskId ≠ "")
    {service : Service ω σ StorageCall StorageReply} {choices : Nat → ω} {state after : σ}
    (answered : service (choices 0) state (.deleteDisk diskId) =
      ((none : Option ApiError), after)) :
    (delete shownVolume shownSource (volumeOn options size diskId)).run service choices state =
      ⟨some none, [⟨state, .deleteDisk diskId, (none : Option ApiError), after⟩], after,
        later choices⟩ := by
  simp only [delete, volumeOn, if_true, Option.getD_some, if_neg named]
  exact Prog.run_ask_of_answer answered

/-- `Delete` gives back what `Provision` has created. -/
theorem delete_provisioned (outOfRange : Nat → Int64) (provider : ProvisioningProvider)
    (options : ProvisionerOptions) {choices laterChoices : Nat → StorageChoice} {ecs : Ecs}
    {volume : PersistentVolume} (answered : (choices 0).fate ≠ .unanswered)
    (returned : ((provision outOfRange provider options).run Ecs.storage choices ecs).outcome =
      some (.ok volume))
    (named : (choices 0).newDiskId ≠ "") (served : (laterChoices 0).fate = .served)
    (shownVolume shownSource : String) :
    let deleted := (delete shownVolume shownSource volume).run Ecs.storage laterChoices
      ((provision outOfRange provider options).run Ecs.storage choices ecs).state
    deleted.outcome = some none ∧ deleted.state.diskIds = ecs.diskIds := by
  obtain ⟨accepted, diskId, after, answer, rfl⟩ := provision_ok outOfRange provider returned
  rw [provision_created outOfRange provider accepted answer]
  rcases Ecs.storage_createDisk ecs (askedDisk outOfRange provider options) answered with
    ⟨next, created, reply⟩ | reply
  · cases answer.symm.trans reply
    have fresh := (Ecs.create_some created).1
    rw [Ecs.settle_diskIds] at fresh
    -- the new disk is free and stays so while other disks settle
    have found : (after.settle (laterChoices 0).settles).disk? (choices 0).newDiskId =
        some ⟨(choices 0).newDiskId, .available, "", ""⟩ := by
      rw [Ecs.settle_disk?, Ecs.create_disk? created, Option.map_some]
      split <;> rfl
    obtain ⟨last, deleted, ids⟩ := Ecs.delete_of_available found rfl
    rw [delete_run shownVolume shownSource options _ named (Ecs.storage_deleted served deleted)]
    refine ⟨rfl, ?_⟩
    rw [ids, Ecs.settle_diskIds, Ecs.create_diskIds created, Ecs.settle_diskIds,
      List.filter_append, List.filter_eq_self.mpr]
    · simp
    · intro other member
      exact decide_eq_true fun same => fresh (same ▸ member)
  · cases answer.symm.trans reply

end KubeAliyun.Volume
