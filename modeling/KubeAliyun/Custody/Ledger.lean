import Mathlib.Data.Set.Insert
import Mathlib.Logic.Function.Basic

/-!
# Assets and the records that name them

Workers create assets, file a record under a name for each of them, and delete the asset
of a record that is no longer live before they erase the record.  Records are unique by
name, so that several workers may try to file for the same name.  The ledger says which
worker is responsible for which asset; its rules are what the workers may do next to each
other.
-/

namespace KubeAliyun.Custody

/-- What a worker is responsible for.  It holds an asset it has created, and drops or reports
the asset when it cannot be filed; to erase a record it is cleared by a look at it, and wipes
the asset first. -/
inductive Hand (Name Asset : Type) where
  | empty
  | holds (asset : Asset)
  | dropping (asset : Asset)
  | cleared (name : Name) (asset : Asset)
  | wiped (name : Name) (asset : Asset)

structure Record (Asset : Type) where
  asset : Option Asset
  live : Bool

/-- `issued` are the assets there have ever been, `filed` those that a record of the name has
ever named, and `reported` those that a worker has reported instead of filing them. -/
@[ext]
structure Ledger (Worker Name Asset : Type) where
  assets : Set Asset
  issued : Set Asset
  record : Name → Option (Record Asset)
  filed : Name → Set Asset
  reported : Set Asset
  hand : Worker → Hand Name Asset

variable {Worker Name Asset : Type}

namespace Ledger

/-! ## Soundness -/

/-- The asset is in the hands of the worker, in this ledger not yet filed. -/
def InHand (ledger : Ledger Worker Name Asset) (worker : Worker) (asset : Asset) : Prop :=
  ledger.hand worker = .holds asset ∨ ledger.hand worker = .dropping asset

/-- What holds of every ledger that workers keep. -/
structure Sound (ledger : Ledger Worker Name Asset) : Prop where
  assets : ∀ asset ∈ ledger.assets, asset ∈ ledger.issued
  filed : ∀ name, ∀ asset ∈ ledger.filed name, asset ∈ ledger.issued
  single : ∀ first second asset, asset ∈ ledger.filed first → asset ∈ ledger.filed second →
    first = second
  current : ∀ name record asset, ledger.record name = some record →
    record.asset = some asset → asset ∈ ledger.filed name
  holding : ∀ worker asset, ledger.hand worker = .holds asset → asset ∈ ledger.assets
  unfiled : ∀ worker asset, ledger.InHand worker asset →
    asset ∈ ledger.issued ∧ ∀ name, asset ∉ ledger.filed name
  sole : ∀ first second asset, ledger.InHand first asset → ledger.InHand second asset →
    first = second
  backed : ∀ name record asset, ledger.record name = some record →
    record.asset = some asset → record.live = true → asset ∈ ledger.assets
  cleared : ∀ worker name asset, ledger.hand worker = .cleared name asset →
    asset ∈ ledger.filed name ∧ ∀ record, ledger.record name = some record →
      record.asset = some asset → record.live = false

/-- What holds of every sound ledger as long as no worker takes a missing asset for one that it
has wiped: a filed asset that is there has its record, and a worker that has wiped an asset is
the only one to erase the record. -/
structure Consistent (ledger : Ledger Worker Name Asset) : Prop where
  present : ∀ name, ∀ asset ∈ ledger.filed name, asset ∈ ledger.assets →
    ∃ record, ledger.record name = some record ∧ record.asset = some asset
  wiped : ∀ worker name asset, ledger.hand worker = .wiped name asset →
    ∃ record, ledger.record name = some record ∧
      ∀ named, record.asset = some named → named ∉ ledger.assets
  alone : ∀ first second name one two, ledger.hand first = .wiped name one →
    ledger.hand second = .wiped name two → first = second

/-- The record names an asset that is gone, and no worker is about to erase it. -/
structure Stuck (ledger : Ledger Worker Name Asset) (name : Name) (asset : Asset) : Prop where
  recorded : ∃ record, ledger.record name = some record ∧ record.asset = some asset
  gone : asset ∉ ledger.assets
  unerased : ∀ worker wiped, ledger.hand worker ≠ .wiped name wiped

section Soundness

variable {ledger : Ledger Worker Name Asset}

/-- An asset appears. -/
theorem Sound.add (sound : ledger.Sound) (asset : Asset) :
    Sound { ledger with
      assets := insert asset ledger.assets
      issued := insert asset ledger.issued } where
  assets other member := member.imp id (sound.assets other)
  filed name other member := Or.inr (sound.filed name other member)
  single := sound.single
  current := sound.current
  holding worker other held := Or.inr (sound.holding worker other held)
  unfiled worker other held :=
    ⟨Or.inr (sound.unfiled worker other held).1, (sound.unfiled worker other held).2⟩
  sole := sound.sole
  backed name record other stored names live :=
    Or.inr (sound.backed name record other stored names live)
  cleared := sound.cleared

theorem Consistent.add (consistent : ledger.Consistent) (sound : ledger.Sound) {asset : Asset}
    (fresh : asset ∉ ledger.issued) :
    Consistent { ledger with
      assets := insert asset ledger.assets
      issued := insert asset ledger.issued } where
  present name other filed member := by
    refine consistent.present name other filed (member.resolve_left fun same => fresh ?_)
    exact same ▸ sound.filed name other filed
  wiped worker name other held := by
    obtain ⟨record, stored, gone⟩ := consistent.wiped worker name other held
    refine ⟨record, stored, fun named names => ?_⟩
    rintro (same | member)
    · exact fresh (same ▸ sound.filed name named (sound.current name record named stored names))
    · exact gone named names member
  alone := consistent.alone

/-- An asset disappears that no worker holds and no live record names. -/
theorem Sound.remove (sound : ledger.Sound) {asset : Asset}
    (unheld : ∀ worker, ledger.hand worker ≠ .holds asset)
    (dead : ∀ name record, ledger.record name = some record → record.asset = some asset →
      record.live = false) :
    Sound { ledger with assets := ledger.assets \ {asset} } where
  assets other member := sound.assets other member.1
  filed := sound.filed
  single := sound.single
  current := sound.current
  holding worker other held :=
    ⟨sound.holding worker other held, fun same => unheld worker (same ▸ held)⟩
  unfiled := sound.unfiled
  sole := sound.sole
  backed name record other stored names live := by
    refine ⟨sound.backed name record other stored names live, fun same => ?_⟩
    rw [Set.mem_singleton_iff] at same
    rw [same] at names
    rw [dead name record stored names] at live
    cases live
  cleared := sound.cleared

theorem Consistent.remove (consistent : ledger.Consistent) (asset : Asset) :
    Consistent { ledger with assets := ledger.assets \ {asset} } where
  present name other filed member := consistent.present name other filed member.1
  wiped worker name other held := by
    obtain ⟨record, stored, gone⟩ := consistent.wiped worker name other held
    exact ⟨record, stored, fun named names member => gone named names member.1⟩
  alone := consistent.alone

structure Fits (ledger : Ledger Worker Name Asset) (worker : Worker) (hand : Hand Name Asset) :
    Prop where
  holding : ∀ asset, hand = .holds asset → asset ∈ ledger.assets
  unfiled : ∀ asset, hand = .holds asset ∨ hand = .dropping asset →
    asset ∈ ledger.issued ∧ (∀ name, asset ∉ ledger.filed name) ∧
      ∀ other, ledger.InHand other asset → other = worker
  cleared : ∀ name asset, hand = .cleared name asset →
    asset ∈ ledger.filed name ∧ ∀ record, ledger.record name = some record →
      record.asset = some asset → record.live = false

def FitsErasing (ledger : Ledger Worker Name Asset) (worker : Worker) (hand : Hand Name Asset) :
    Prop :=
  ∀ name asset, hand = .wiped name asset →
    (∃ record, ledger.record name = some record ∧
      ∀ named, record.asset = some named → named ∉ ledger.assets) ∧
      ∀ other named, ledger.hand other = .wiped name named → other = worker

theorem fits_empty (ledger : Ledger Worker Name Asset) (worker : Worker) :
    ledger.Fits worker .empty :=
  ⟨by simp, by simp, by simp⟩

theorem fits_wiped (ledger : Ledger Worker Name Asset) (worker : Worker) (name : Name)
    (asset : Asset) : ledger.Fits worker (.wiped name asset) :=
  ⟨by simp, by simp, by simp⟩

theorem hand_of_forgets {hand : Worker → Hand Name Asset}
    (forgets : ∀ worker, hand worker = ledger.hand worker ∨ hand worker = .empty)
    {worker : Worker} {held : Hand Name Asset} (same : hand worker = held) (busy : held ≠ .empty) :
    ledger.hand worker = held := by
  rcases forgets worker with before | empty
  · exact before.symm.trans same
  · exact absurd (same.symm.trans empty) busy

theorem Consistent.forget (consistent : ledger.Consistent) {hand : Worker → Hand Name Asset}
    (forgets : ∀ worker, hand worker = ledger.hand worker ∨ hand worker = .empty) :
    Consistent { ledger with hand } where
  present := consistent.present
  wiped worker name asset held :=
    consistent.wiped worker name asset (hand_of_forgets forgets held (by simp))
  alone first second name one two firstHeld secondHeld :=
    consistent.alone first second name one two (hand_of_forgets forgets firstHeld (by simp))
      (hand_of_forgets forgets secondHeld (by simp))

/-- Workers may forget what they are responsible for. -/
theorem Sound.forget (sound : ledger.Sound) {hand : Worker → Hand Name Asset}
    (forgets : ∀ worker, hand worker = ledger.hand worker ∨ hand worker = .empty) :
    Sound { ledger with hand } := by
  have kept : ∀ worker held, hand worker = held → held ≠ .empty → ledger.hand worker = held :=
    fun worker held => hand_of_forgets forgets
  have inHand : ∀ worker asset, InHand { ledger with hand } worker asset →
      ledger.InHand worker asset := fun worker asset held =>
    held.imp (fun same => kept worker _ same (by simp)) fun same => kept worker _ same (by simp)
  exact
    { assets := sound.assets
      filed := sound.filed
      single := sound.single
      current := sound.current
      holding := fun worker asset held => sound.holding worker asset (kept worker _ held (by simp))
      unfiled := fun worker asset held => sound.unfiled worker asset (inHand worker asset held)
      sole := fun first second asset one two =>
        sound.sole first second asset (inHand first asset one) (inHand second asset two)
      backed := sound.backed
      cleared := fun worker name asset held =>
        sound.cleared worker name asset (kept worker _ held (by simp)) }

section Hands

variable [DecidableEq Worker]

def withHand (ledger : Ledger Worker Name Asset) (worker : Worker) (hand : Hand Name Asset) :
    Ledger Worker Name Asset :=
  { ledger with hand := Function.update ledger.hand worker hand }

@[simp] theorem withHand_self (worker : Worker) (hand : Hand Name Asset) :
    (ledger.withHand worker hand).hand worker = hand :=
  Function.update_self ..

theorem withHand_other {worker other : Worker} (different : other ≠ worker)
    (hand : Hand Name Asset) : (ledger.withHand worker hand).hand other = ledger.hand other :=
  Function.update_of_ne different ..

/-- A worker takes another hand that fits. -/
theorem Sound.withHand (sound : ledger.Sound) {worker : Worker} {hand : Hand Name Asset}
    (fits : ledger.Fits worker hand) : (ledger.withHand worker hand).Sound where
  assets := sound.assets
  filed := sound.filed
  single := sound.single
  current := sound.current
  backed := sound.backed
  holding other asset held := by
    by_cases same : other = worker
    · subst same
      rw [withHand_self] at held
      exact fits.holding asset held
    · rw [withHand_other same] at held
      exact sound.holding other asset held
  unfiled other asset held := by
    unfold InHand at held
    by_cases same : other = worker
    · subst same
      rw [withHand_self] at held
      exact ⟨(fits.unfiled asset held).1, (fits.unfiled asset held).2.1⟩
    · rw [withHand_other same] at held
      exact sound.unfiled other asset held
  sole first second asset one two := by
    unfold InHand at one two
    by_cases firstSame : first = worker
    · by_cases secondSame : second = worker
      · rw [firstSame, secondSame]
      · subst firstSame
        rw [withHand_self] at one
        rw [withHand_other secondSame] at two
        exact ((fits.unfiled asset one).2.2 second two).symm
    · rw [withHand_other firstSame] at one
      by_cases secondSame : second = worker
      · subst secondSame
        rw [withHand_self] at two
        exact (fits.unfiled asset two).2.2 first one
      · rw [withHand_other secondSame] at two
        exact sound.sole first second asset one two
  cleared other name asset held := by
    by_cases same : other = worker
    · subst same
      rw [withHand_self] at held
      exact fits.cleared name asset held
    · rw [withHand_other same] at held
      exact sound.cleared other name asset held

theorem Consistent.withHand (consistent : ledger.Consistent) {worker : Worker}
    {hand : Hand Name Asset} (fits : ledger.FitsErasing worker hand) :
    (ledger.withHand worker hand).Consistent where
  present := consistent.present
  wiped other name asset held := by
    by_cases same : other = worker
    · subst same
      rw [withHand_self] at held
      exact (fits name asset held).1
    · rw [withHand_other same] at held
      exact consistent.wiped other name asset held
  alone first second name one two firstHeld secondHeld := by
    by_cases firstSame : first = worker
    · by_cases secondSame : second = worker
      · rw [firstSame, secondSame]
      · subst firstSame
        rw [withHand_self] at firstHeld
        rw [withHand_other secondSame] at secondHeld
        exact ((fits name one firstHeld).2 second two secondHeld).symm
    · rw [withHand_other firstSame] at firstHeld
      by_cases secondSame : second = worker
      · subst secondSame
        rw [withHand_self] at secondHeld
        exact (fits name two secondHeld).2 first one firstHeld
      · rw [withHand_other secondSame] at secondHeld
        exact consistent.alone first second name one two firstHeld secondHeld

/-- A worker that does not have the asset in its hands takes another hand. -/
theorem InHand.withHand {worker other : Worker} {asset : Asset} {hand : Hand Name Asset}
    (held : ledger.InHand other asset) (free : ¬ledger.InHand worker asset) :
    (ledger.withHand worker hand).InHand other asset := by
  have different : other ≠ worker := by
    rintro rfl
    exact free held
  unfold InHand at *
  rw [withHand_other different]
  exact held

end Hands

section Records

variable [DecidableEq Name]

theorem mem_update_insert {filed : Name → Set Asset} {name other : Name} {asset member : Asset} :
    member ∈ Function.update filed name (insert asset (filed name)) other ↔
      member ∈ filed other ∨ other = name ∧ member = asset := by
  by_cases same : other = name
  · subst same
    simp [or_comm]
  · simp [same]

/-- A record is filed for an asset that nobody has in hand any more. -/
theorem Sound.file (sound : ledger.Sound) {name : Name} {asset : Asset} (live : Bool)
    (there : asset ∈ ledger.assets) (new : ∀ other, asset ∉ ledger.filed other)
    (unheld : ∀ worker, ¬ledger.InHand worker asset) (free : ledger.record name = none) :
    Sound { ledger with
      record := Function.update ledger.record name (some ⟨some asset, live⟩)
      filed := Function.update ledger.filed name (insert asset (ledger.filed name)) } := by
  have recorded : ∀ {other record},
      Function.update ledger.record name (some ⟨some asset, live⟩) other = some record →
        ledger.record other = some record ∨ other = name ∧ record = ⟨some asset, live⟩ := by
    intro other record stored
    by_cases same : other = name
    · subst same
      rw [Function.update_self] at stored
      exact Or.inr ⟨rfl, (Option.some.inj stored).symm⟩
    · rw [Function.update_of_ne same] at stored
      exact Or.inl stored
  exact
    { assets := sound.assets
      filed := by
        intro other member entry
        rcases mem_update_insert.mp entry with old | ⟨-, rfl⟩
        · exact sound.filed other member old
        · exact sound.assets member there
      single := by
        intro first second member one two
        rcases mem_update_insert.mp one with oldFirst | ⟨rfl, rfl⟩
        · rcases mem_update_insert.mp two with oldSecond | ⟨-, rfl⟩
          · exact sound.single first second member oldFirst oldSecond
          · exact absurd oldFirst (new first)
        · rcases mem_update_insert.mp two with oldSecond | ⟨rfl, -⟩
          · exact absurd oldSecond (new second)
          · rfl
      current := by
        intro other record member stored names
        refine mem_update_insert.mpr ?_
        rcases recorded stored with old | ⟨rfl, rfl⟩
        · exact Or.inl (sound.current other record member old names)
        · exact Or.inr ⟨rfl, (Option.some.inj names).symm⟩
      holding := sound.holding
      unfiled := by
        intro worker member held
        refine ⟨(sound.unfiled worker member held).1, fun other entry => ?_⟩
        rcases mem_update_insert.mp entry with old | ⟨-, rfl⟩
        · exact (sound.unfiled worker member held).2 other old
        · exact unheld worker held
      sole := sound.sole
      backed := by
        intro other record member stored names alive
        rcases recorded stored with old | ⟨rfl, rfl⟩
        · exact sound.backed other record member old names alive
        · cases names
          exact there
      cleared := by
        intro worker other member held
        obtain ⟨filed, dead⟩ := sound.cleared worker other member held
        refine ⟨mem_update_insert.mpr (Or.inl filed), fun record stored names => ?_⟩
        rcases recorded stored with old | ⟨rfl, rfl⟩
        · exact dead record old names
        · cases names
          exact absurd filed (new other) }

theorem Consistent.file (consistent : ledger.Consistent) {name : Name} {asset : Asset}
    (live : Bool) (free : ledger.record name = none) :
    Consistent { ledger with
      record := Function.update ledger.record name (some ⟨some asset, live⟩)
      filed := Function.update ledger.filed name (insert asset (ledger.filed name)) } := by
  have kept : ∀ {other record}, ledger.record other = some record →
      Function.update ledger.record name (some ⟨some asset, live⟩) other = some record := by
    intro other record stored
    rw [Function.update_of_ne, stored]
    rintro rfl
    rw [free] at stored
    cases stored
  refine ⟨fun other member entry alive => ?_, fun worker other member held => ?_,
    consistent.alone⟩
  · rcases mem_update_insert.mp entry with old | ⟨rfl, rfl⟩
    · obtain ⟨record, stored, names⟩ := consistent.present other member old alive
      exact ⟨record, kept stored, names⟩
    · exact ⟨_, Function.update_self .., rfl⟩
  · obtain ⟨record, stored, gone⟩ := consistent.wiped worker other member held
    exact ⟨record, kept stored, gone⟩

/-- A record is erased. -/
theorem Sound.erase (sound : ledger.Sound) (name : Name) :
    Sound { ledger with record := Function.update ledger.record name none } := by
  have old : ∀ {other record}, Function.update ledger.record name none other = some record →
      ledger.record other = some record := by
    intro other record stored
    by_cases same : other = name
    · subst same
      rw [Function.update_self] at stored
      cases stored
    · rw [Function.update_of_ne same] at stored
      exact stored
  exact
    { assets := sound.assets
      filed := sound.filed
      single := sound.single
      current := fun other record asset stored => sound.current other record asset (old stored)
      holding := sound.holding
      unfiled := sound.unfiled
      sole := sound.sole
      backed := fun other record asset stored => sound.backed other record asset (old stored)
      cleared := fun worker other asset held =>
        ⟨(sound.cleared worker other asset held).1, fun record stored =>
          (sound.cleared worker other asset held).2 record (old stored)⟩ }

/-- A record is erased after its asset. -/
theorem Consistent.erase (consistent : ledger.Consistent) {name : Name}
    (gone : ∀ record asset, ledger.record name = some record → record.asset = some asset →
      asset ∉ ledger.assets)
    (last : ∀ worker asset, ledger.hand worker ≠ .wiped name asset) :
    Consistent { ledger with record := Function.update ledger.record name none } := by
  have kept : ∀ {other record}, other ≠ name → ledger.record other = some record →
      Function.update ledger.record name none other = some record := by
    intro other record different stored
    rw [Function.update_of_ne different, stored]
  refine ⟨fun other asset filed there => ?_, fun worker other asset held => ?_,
    consistent.alone⟩
  · obtain ⟨record, stored, names⟩ := consistent.present other asset filed there
    refine ⟨record, kept ?_ stored, names⟩
    rintro rfl
    exact gone record asset stored names there
  · obtain ⟨record, stored, missing⟩ := consistent.wiped worker other asset held
    refine ⟨record, kept ?_ stored, missing⟩
    rintro rfl
    exact last worker asset held

/-- A record is revised: it keeps its asset, and does not come to life again. -/
theorem Sound.revise (sound : ledger.Sound) {name : Name} {old new : Record Asset}
    (stored : ledger.record name = some old) (same : new.asset = old.asset)
    (dies : old.live = false → new.live = false) :
    Sound { ledger with record := Function.update ledger.record name (some new) } := by
  have revised : ∀ {other record},
      Function.update ledger.record name (some new) other = some record →
        ∃ before, ledger.record other = some before ∧ record.asset = before.asset ∧
          (before.live = false → record.live = false) := by
    intro other record found
    by_cases own : other = name
    · subst own
      rw [Function.update_self] at found
      cases found
      exact ⟨old, stored, same, dies⟩
    · rw [Function.update_of_ne own] at found
      exact ⟨record, found, rfl, id⟩
  exact
    { assets := sound.assets
      filed := sound.filed
      single := sound.single
      current := by
        intro other record asset found names
        obtain ⟨before, there, alike, -⟩ := revised found
        exact sound.current other before asset there (alike ▸ names)
      holding := sound.holding
      unfiled := sound.unfiled
      sole := sound.sole
      backed := by
        intro other record asset found names alive
        obtain ⟨before, there, alike, dead⟩ := revised found
        refine sound.backed other before asset there (alike ▸ names) ?_
        by_contra notLive
        rw [dead (Bool.eq_false_of_not_eq_true notLive)] at alive
        cases alive
      cleared := by
        intro worker other asset held
        refine ⟨(sound.cleared worker other asset held).1, fun record found names => ?_⟩
        obtain ⟨before, there, alike, dead⟩ := revised found
        exact dead ((sound.cleared worker other asset held).2 before there (alike ▸ names)) }

theorem Consistent.revise (consistent : ledger.Consistent) {name : Name} {old new : Record Asset}
    (stored : ledger.record name = some old) (same : new.asset = old.asset) :
    Consistent { ledger with record := Function.update ledger.record name (some new) } := by
  have kept : ∀ {other record}, ledger.record other = some record →
      ∃ after, Function.update ledger.record name (some new) other = some after ∧
        after.asset = record.asset := by
    intro other record found
    by_cases own : other = name
    · subst own
      cases stored.symm.trans found
      exact ⟨new, Function.update_self .., same⟩
    · exact ⟨record, (Function.update_of_ne own ..).trans found, rfl⟩
  refine ⟨fun other asset filed there => ?_, fun worker other asset held => ?_,
    consistent.alone⟩
  · obtain ⟨record, found, names⟩ := consistent.present other asset filed there
    obtain ⟨after, now, alike⟩ := kept found
    exact ⟨after, now, alike.trans names⟩
  · obtain ⟨record, found, gone⟩ := consistent.wiped worker other asset held
    obtain ⟨after, now, alike⟩ := kept found
    exact ⟨after, now, fun named names => gone named (alike ▸ names)⟩

end Records

end Soundness

/-! ## Steps -/

/-- A worker changes what it is responsible for without an effect on anything else. -/
inductive Rests : Hand Name Asset → Hand Name Asset → Prop
  | still (hand : Hand Name Asset) : Rests hand hand
  | drop (asset : Asset) : Rests (.holds asset) (.dropping asset)
  | uncleared (name : Name) (asset : Asset) : Rests (.cleared name asset) .empty
  | unwiped (name : Name) (asset : Asset) : Rests (.wiped name asset) .empty

section Resting

variable {ledger next : Ledger Worker Name Asset}

theorem fits_rest (sound : ledger.Sound) {worker : Worker} {hand : Hand Name Asset}
    (rests : Rests (ledger.hand worker) hand) : ledger.Fits worker hand := by
  generalize held : ledger.hand worker = before at rests
  cases rests with
  | still =>
      refine ⟨fun asset same => sound.holding worker asset (held.trans same), ?_,
        fun name asset same => sound.cleared worker name asset (held.trans same)⟩
      intro asset same
      have inHand : ledger.InHand worker asset := by rw [InHand, held]; exact same
      exact ⟨(sound.unfiled worker asset inHand).1, (sound.unfiled worker asset inHand).2,
        fun other has => sound.sole other worker asset has inHand⟩
  | drop asset =>
      have inHand : ledger.InHand worker asset := Or.inl held
      refine ⟨by simp, ?_, by simp⟩
      rintro other (impossible | same)
      · cases impossible
      · cases same
        exact ⟨(sound.unfiled worker asset inHand).1, (sound.unfiled worker asset inHand).2,
          fun someone has => sound.sole someone worker asset has inHand⟩
  | uncleared name asset => exact fits_empty ledger worker
  | unwiped name asset => exact fits_empty ledger worker

theorem fitsErasing_rest (consistent : ledger.Consistent) {worker : Worker}
    {hand : Hand Name Asset} (rests : Rests (ledger.hand worker) hand) :
    ledger.FitsErasing worker hand := by
  rintro name asset rfl
  generalize held : ledger.hand worker = before at rests
  cases rests
  exact ⟨consistent.wiped worker name asset held, fun other named wiped =>
    consistent.alone other worker name named asset wiped held⟩

/-- The asset of a cleared worker has no live record and is in nobody's hands. -/
theorem Sound.wipeable (sound : ledger.Sound) {worker : Worker} {name : Name} {asset : Asset}
    (cleared : ledger.hand worker = .cleared name asset) :
    Sound { ledger with assets := ledger.assets \ {asset} } := by
  obtain ⟨filed, dead⟩ := sound.cleared worker name asset cleared
  refine sound.remove ?_ ?_
  · intro other held
    exact (sound.unfiled other asset (Or.inl held)).2 name filed
  · intro other record stored names
    cases sound.single other name asset (sound.current other record asset stored names) filed
    exact dead record stored names

/-- What can go wrong: an asset appears that no worker knows of, or workers forget theirs. -/
inductive Leak (ledger : Ledger Worker Name Asset) : Ledger Worker Name Asset → Prop
  | stray {asset : Asset} (fresh : asset ∉ ledger.issued) :
      Leak ledger { ledger with
        assets := insert asset ledger.assets
        issued := insert asset ledger.issued }
  | forget {hand : Worker → Hand Name Asset}
      (forgets : ∀ worker, hand worker = ledger.hand worker ∨ hand worker = .empty) :
      Leak ledger { ledger with hand }

theorem Leak.sound (sound : ledger.Sound) (leak : Leak ledger next) : next.Sound := by
  cases leak with
  | stray fresh => exact sound.add _
  | forget forgets => exact sound.forget forgets

theorem Leak.consistent (sound : ledger.Sound) (consistent : ledger.Consistent)
    (leak : Leak ledger next) : next.Consistent := by
  cases leak with
  | stray fresh => exact consistent.add sound fresh
  | forget forgets => exact consistent.forget forgets

theorem Rests.inHand {before after : Hand Name Asset} (rests : Rests before after)
    {asset : Asset} (held : before = .holds asset ∨ before = .dropping asset) :
    after = .holds asset ∨ after = .dropping asset := by
  cases rests with
  | still => exact held
  | drop other =>
      rcases held with same | same <;> cases same
      exact Or.inr rfl
  | uncleared name other => rcases held with same | same <;> cases same
  | unwiped name other => rcases held with same | same <;> cases same

theorem Leak.stuck {name : Name} {asset : Asset} (sound : ledger.Sound)
    (stuck : ledger.Stuck name asset) (leak : Leak ledger next) : next.Stuck name asset := by
  obtain ⟨⟨record, stored, names⟩, gone, unerased⟩ := stuck
  cases leak with
  | stray fresh =>
      refine ⟨⟨record, stored, names⟩, ?_, unerased⟩
      rintro (rfl | there)
      · exact fresh (sound.filed name asset (sound.current name record asset stored names))
      · exact gone there
  | forget forgets =>
      refine ⟨⟨record, stored, names⟩, gone, fun worker wiped held => ?_⟩
      rcases forgets worker with same | empty
      · exact unerased worker wiped (same.symm.trans held)
      · cases empty.symm.trans held

end Resting

section Steps

variable [DecidableEq Worker] [DecidableEq Name]

/-- What the workers do. -/
inductive Step (ledger : Ledger Worker Name Asset) : Ledger Worker Name Asset → Prop
  | rest {worker : Worker} {hand : Hand Name Asset} (rests : Rests (ledger.hand worker) hand) :
      Step ledger (ledger.withHand worker hand)
  | create {worker : Worker} {asset : Asset} (fresh : asset ∉ ledger.issued)
      (free : ledger.hand worker = .empty) :
      Step ledger ({ ledger with
        assets := insert asset ledger.assets
        issued := insert asset ledger.issued }.withHand worker (.holds asset))
  | drop {worker : Worker} {asset : Asset} {hand : Hand Name Asset}
      (held : ledger.hand worker = .holds asset ∨ ledger.hand worker = .dropping asset)
      (next : hand = .empty ∨ hand = .dropping asset) :
      Step ledger ({ ledger with assets := ledger.assets \ {asset} }.withHand worker hand)
  | report {worker : Worker} {asset : Asset}
      (held : ledger.hand worker = .holds asset ∨ ledger.hand worker = .dropping asset) :
      Step ledger ({ ledger with reported := insert asset ledger.reported }.withHand worker
        .empty)
  | file {worker : Worker} {name : Name} {asset : Asset} {live : Bool}
      (held : ledger.hand worker = .holds asset) (free : ledger.record name = none) :
      Step ledger ({ ledger with
        record := Function.update ledger.record name (some ⟨some asset, live⟩)
        filed := Function.update ledger.filed name (insert asset (ledger.filed name)) }.withHand
          worker .empty)
  | check {worker : Worker} {name : Name} {asset : Asset} {record : Record Asset}
      (stored : ledger.record name = some record) (dead : record.live = false)
      (filed : asset ∈ ledger.filed name) (free : ledger.hand worker = .empty) :
      Step ledger (ledger.withHand worker (.cleared name asset))
  | wipe {worker : Worker} {name : Name} {asset : Asset}
      (cleared : ledger.hand worker = .cleared name asset) (there : asset ∈ ledger.assets) :
      Step ledger ({ ledger with assets := ledger.assets \ {asset} }.withHand worker
        (.wiped name asset))
  | wipeUnseen {worker : Worker} {name : Name} {asset : Asset}
      (cleared : ledger.hand worker = .cleared name asset) :
      Step ledger ({ ledger with assets := ledger.assets \ {asset} }.withHand worker .empty)
  | erase {worker : Worker} {name : Name} {asset : Asset}
      (wiped : ledger.hand worker = .wiped name asset) :
      Step ledger ({ ledger with
        record := Function.update ledger.record name none }.withHand worker .empty)
  | revise {name : Name} {old new : Record Asset} (stored : ledger.record name = some old)
      (same : new.asset = old.asset) (dies : old.live = false → new.live = false) :
      Step ledger { ledger with record := Function.update ledger.record name (some new) }

/-- A worker takes an asset for wiped that need not have been there. -/
inductive Slip (ledger : Ledger Worker Name Asset) : Ledger Worker Name Asset → Prop
  | pass {worker : Worker} {name : Name} {asset : Asset}
      (cleared : ledger.hand worker = .cleared name asset) :
      Slip ledger ({ ledger with assets := ledger.assets \ {asset} }.withHand worker
        (.wiped name asset))

variable {ledger next : Ledger Worker Name Asset}

omit [DecidableEq Name] in
theorem Slip.sound (sound : ledger.Sound) (slip : Slip ledger next) : next.Sound := by
  cases slip with
  | pass cleared => exact (sound.wipeable cleared).withHand (fits_wiped _ _ _ _)

/-- Every step keeps the ledger sound. -/
theorem Step.sound (sound : ledger.Sound) (step : Step ledger next) : next.Sound := by
  cases step with
  | rest rests => exact sound.withHand (fits_rest sound rests)
  | @create worker asset fresh free =>
      refine (sound.add asset).withHand ⟨?_, ?_, by simp⟩
      · rintro _ ⟨⟩
        exact Set.mem_insert _ _
      · rintro other (same | impossible)
        · cases same
          refine ⟨Set.mem_insert _ _, fun name filed => fresh (sound.filed name asset filed), ?_⟩
          exact fun someone held => absurd (sound.unfiled someone asset held).1 fresh
        · cases impossible
  | @drop worker asset hand held nextHand =>
      have unfiled := sound.unfiled worker asset held
      have fits : ledger.Fits worker hand := by
        rcases nextHand with rfl | rfl
        · exact fits_empty ledger worker
        · refine ⟨by simp, ?_, by simp⟩
          rintro other (impossible | same)
          · cases impossible
          · cases same
            exact ⟨unfiled.1, unfiled.2,
              fun someone has => sound.sole someone worker asset has held⟩
      refine (sound.withHand fits).remove ?_ ?_
      · intro other holds
        by_cases same : other = worker
        · subst same
          rw [withHand_self] at holds
          rcases nextHand with rfl | rfl <;> cases holds
        · rw [withHand_other same] at holds
          exact same (sound.sole other worker asset (Or.inl holds) held)
      · intro name record stored names
        exact absurd (sound.current name record asset stored names) (unfiled.2 name)
  | @report worker asset held =>
      have kept := sound.withHand (fits_empty ledger worker)
      exact { kept with }
  | @file worker name asset live held free =>
      have inHand : ledger.InHand worker asset := Or.inl held
      refine (sound.withHand (fits_empty ledger worker)).file live
        (sound.holding worker asset held) (sound.unfiled worker asset inHand).2 ?_ free
      intro other has
      unfold InHand at has
      by_cases same : other = worker
      · subst same
        rw [withHand_self] at has
        rcases has with impossible | impossible <;> cases impossible
      · rw [withHand_other same] at has
        exact same (sound.sole other worker asset has inHand)
  | @check worker name asset record stored dead filed free =>
      refine sound.withHand ⟨by simp, by simp, ?_⟩
      rintro _ _ ⟨⟩
      refine ⟨filed, fun other there _ => ?_⟩
      cases stored.symm.trans there
      exact dead
  | @wipe worker name asset cleared there =>
      exact (sound.wipeable cleared).withHand (fits_wiped _ _ _ _)
  | @wipeUnseen worker name asset cleared =>
      exact (sound.wipeable cleared).withHand (fits_empty _ worker)
  | @erase worker name asset wiped =>
      exact (sound.withHand (fits_empty ledger worker)).erase name
  | revise stored same dies => exact sound.revise stored same dies

/-- And consistent. -/
theorem Step.consistent (sound : ledger.Sound) (consistent : ledger.Consistent)
    (step : Step ledger next) : next.Consistent := by
  cases step with
  | rest rests => exact consistent.withHand (fitsErasing_rest consistent rests)
  | create fresh free => exact (consistent.add sound fresh).withHand fun _ _ same => by cases same
  | @drop worker asset hand held nextHand =>
      refine (consistent.remove asset).withHand fun _ _ same => ?_
      rcases nextHand with rfl | rfl <;> cases same
  | @report worker asset held =>
      have kept : (ledger.withHand worker .empty).Consistent :=
        consistent.withHand fun _ _ same => by cases same
      exact { kept with }
  | @file worker name asset live held free =>
      have kept : (ledger.withHand worker .empty).Consistent :=
        consistent.withHand fun _ _ same => by cases same
      exact kept.file live free
  | check stored dead filed free => exact consistent.withHand fun _ _ same => by cases same
  | @wipe worker name asset cleared there =>
      obtain ⟨filed, -⟩ := sound.cleared worker name asset cleared
      obtain ⟨record, stored, names⟩ := consistent.present name asset filed there
      refine (consistent.remove asset).withHand ?_
      rintro _ _ ⟨⟩
      refine ⟨⟨record, stored, fun named same => ?_⟩, fun other named wiped => ?_⟩
      · cases names.symm.trans same
        exact fun member => member.2 rfl
      · -- a worker that wiped the asset of this record would have left none to wipe
        obtain ⟨found, again, gone⟩ := consistent.wiped other name named wiped
        cases stored.symm.trans again
        exact absurd there (gone asset names)
  | @wipeUnseen worker name asset cleared =>
      exact (consistent.remove asset).withHand fun _ _ same => by cases same
  | @erase worker name asset wiped =>
      obtain ⟨record, stored, gone⟩ := consistent.wiped worker name asset wiped
      have kept : (ledger.withHand worker .empty).Consistent :=
        consistent.withHand fun _ _ same => by cases same
      refine kept.erase ?_ ?_
      · intro found named again names
        cases stored.symm.trans again
        exact gone named names
      · intro other named again
        by_cases same : other = worker
        · subst same
          rw [withHand_self] at again
          cases again
        · rw [withHand_other same] at again
          exact same (consistent.alone other worker name named asset again wiped)
  | revise stored same dies => exact consistent.revise stored same

/-! ## No asset is lost -/

/-- No step erases such a record. -/
theorem Step.stuck {name : Name} {asset : Asset} (sound : ledger.Sound)
    (consistent : ledger.Consistent) (stuck : ledger.Stuck name asset)
    (step : Step ledger next) : next.Stuck name asset := by
  obtain ⟨⟨record, stored, names⟩, gone, unerased⟩ := stuck
  have stays : ∀ {worker hand}, (∀ wiped, hand ≠ .wiped name wiped) →
      ∀ other wiped, (ledger.withHand worker hand).hand other ≠ .wiped name wiped := by
    intro worker hand harmless other wiped held
    by_cases same : other = worker
    · subst same
      rw [withHand_self] at held
      exact harmless wiped held
    · rw [withHand_other same] at held
      exact unerased other wiped held
  cases step with
  | @rest worker hand rests =>
      refine ⟨⟨record, stored, names⟩, gone, stays fun wiped same => ?_⟩
      subst same
      generalize held : ledger.hand worker = before at rests
      cases rests
      exact unerased worker wiped held
  | create fresh free =>
      refine ⟨⟨record, stored, names⟩, ?_, stays (by simp)⟩
      rintro (rfl | there)
      · exact fresh (sound.filed name asset (sound.current name record asset stored names))
      · exact gone there
  | drop held nextHand =>
      refine ⟨⟨record, stored, names⟩, fun there => gone there.1, stays ?_⟩
      rcases nextHand with rfl | rfl <;> simp
  | report held => exact ⟨⟨record, stored, names⟩, gone, stays (by simp)⟩
  | @file worker filed _ _ held free =>
      refine ⟨⟨record, (Function.update_of_ne ?_ ..).trans stored, names⟩, gone, stays (by simp)⟩
      rintro rfl
      cases free.symm.trans stored
  | check found dead filed free => exact ⟨⟨record, stored, names⟩, gone, stays (by simp)⟩
  | @wipe worker other wiped cleared there =>
      refine ⟨⟨record, stored, names⟩, fun present => gone present.1, stays fun named same => ?_⟩
      cases same
      obtain ⟨filed, -⟩ := sound.cleared worker name wiped cleared
      obtain ⟨found, again, other⟩ := consistent.present name wiped filed there
      cases stored.symm.trans again
      cases names.symm.trans other
      exact gone there
  | wipeUnseen cleared =>
      exact ⟨⟨record, stored, names⟩, fun present => gone present.1, stays (by simp)⟩
  | @erase worker erased wiped held =>
      refine ⟨⟨record, (Function.update_of_ne ?_ ..).trans stored, names⟩, gone, stays (by simp)⟩
      rintro rfl
      exact unerased worker wiped held
  | @revise known old new found same dies =>
      refine ⟨?_, gone, unerased⟩
      by_cases own : name = known
      · subst own
        cases found.symm.trans stored
        exact ⟨new, Function.update_self .., same.trans names⟩
      · exact ⟨record, (Function.update_of_ne own ..).trans stored, names⟩

end Steps

end Ledger

end KubeAliyun.Custody
