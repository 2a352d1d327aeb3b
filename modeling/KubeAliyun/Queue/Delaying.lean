import KubeAliyun.Queue.WorkQueue
import KubeAliyun.Util.Search
import Mathlib.Logic.Function.Basic

/-!
# The delaying queue

The work queue with `AddAfter` (`client-go/util/workqueue/delaying_queue.go`).  A
delayed item goes through a channel to a loop, which keeps the waiting items in a
list ordered by time and adds each one when its time has come.
-/

namespace KubeAliyun.Queue

/-- `waitFor`; times are instants of one clock. -/
structure WaitFor (α : Type) where
  data : α
  readyAt : Int
deriving DecidableEq, Repr

section Entries

variable {α : Type} {entries : List (WaitFor α)} {knownEntries : α → Option Int}

abbrev Sorted (entries : List (WaitFor α)) : Prop :=
  entries.Pairwise fun first second => first.readyAt ≤ second.readyAt

/-- The end of `insert`: the place of an entry is behind the entries of its time. -/
def placeEntry (entries : List (WaitFor α)) (entry : WaitFor α) : List (WaitFor α) :=
  let insertionIndex :=
    Util.search (fun other => decide (entry.readyAt < other.readyAt)) entries
  entries.take insertionIndex ++ entry :: entries.drop insertionIndex

theorem placeEntry_perm (entries : List (WaitFor α)) (entry : WaitFor α) :
    (placeEntry entries entry).Perm (entry :: entries) := by
  unfold placeEntry
  refine List.perm_middle.trans (List.Perm.cons entry ?_)
  rw [List.take_append_drop]

theorem placeEntry_sorted (sorted : Sorted entries) (entry : WaitFor α) :
    Sorted (placeEntry entries entry) := by
  have rises : entries.Pairwise fun first second =>
      decide (entry.readyAt < first.readyAt) = true →
        decide (entry.readyAt < second.readyAt) = true := by
    refine sorted.imp fun ordered hit => ?_
    rw [decide_eq_true_eq] at hit ⊢
    omega
  obtain ⟨before, behind⟩ := Util.search_spec rises
  simp only [decide_eq_false_iff_not, decide_eq_true_eq] at before behind
  have parts := sorted
  rw [← List.take_append_drop
    (Util.search (fun other => decide (entry.readyAt < other.readyAt)) entries) entries,
    Sorted, List.pairwise_append] at parts
  obtain ⟨front, back, across⟩ := parts
  refine List.pairwise_append.mpr ⟨front, List.pairwise_cons.mpr ⟨?_, back⟩, ?_⟩
  · intro other member
    have later := behind other member
    omega
  · intro first earlier second member
    rcases List.mem_cons.mp member with rfl | later
    · have sooner := before first earlier
      omega
    · exact across first earlier second later

variable [DecidableEq α]

def findEntryIndex (entries : List (WaitFor α)) (existingTime : Int) (data : α) : Nat :=
  let index := Util.search (fun entry =>
    decide (existingTime < entry.readyAt) || decide (existingTime = entry.readyAt)) entries
  index + (entries.drop index).findIdx fun entry => entry.data = data

def insertEntry (entries : List (WaitFor α)) (knownEntries : α → Option Int)
    (entry : WaitFor α) : List (WaitFor α) × (α → Option Int) :=
  match knownEntries entry.data with
  | some existingTime =>
      if existingTime < entry.readyAt then (entries, knownEntries)
      else
        (placeEntry (entries.eraseIdx (findEntryIndex entries existingTime entry.data)) entry,
          Function.update knownEntries entry.data (some entry.readyAt))
  | none =>
      (placeEntry entries entry,
        Function.update knownEntries entry.data (some entry.readyAt))

/-- The waiting entries are ordered by time, no item waits twice and the map holds the
time of each. -/
structure Agenda (entries : List (WaitFor α)) (knownEntries : α → Option Int) : Prop where
  sorted : Sorted entries
  distinct : (entries.map WaitFor.data).Nodup
  known : ∀ item time, knownEntries item = some time ↔ ⟨item, time⟩ ∈ entries

/-- `findEntryIndex` finds the entry of an item that waits. -/
theorem findEntryIndex_spec (agenda : Agenda entries knownEntries) {entry : WaitFor α}
    (member : entry ∈ entries) :
    ∃ inside : findEntryIndex entries entry.readyAt entry.data < entries.length,
      entries.get ⟨findEntryIndex entries entry.readyAt entry.data, inside⟩ = entry := by
  have rises : entries.Pairwise fun first second =>
      (decide (entry.readyAt < first.readyAt) || decide (entry.readyAt = first.readyAt)) =
          true →
        (decide (entry.readyAt < second.readyAt) ||
          decide (entry.readyAt = second.readyAt)) = true := by
    refine agenda.sorted.imp fun ordered hit => ?_
    rw [Bool.or_eq_true, decide_eq_true_eq, decide_eq_true_eq] at hit ⊢
    omega
  obtain ⟨before, -⟩ := Util.search_spec rises
  unfold findEntryIndex
  dsimp only
  generalize Util.search _ entries = start at before
  -- the entry is not among those of earlier times, so the scan from there meets it
  have ahead : entry ∈ entries.drop start := by
    rw [← List.take_append_drop start entries] at member
    refine (List.mem_append.mp member).resolve_left fun earlier => ?_
    simpa using before entry earlier
  have found : (entries.drop start).findIdx (fun other => other.data = entry.data) <
      (entries.drop start).length :=
    List.findIdx_lt_length_of_exists ⟨entry, ahead, by simp⟩
  have hit := @List.findIdx_getElem _ (fun other : WaitFor α =>
    decide (other.data = entry.data)) _ found
  rw [decide_eq_true_eq, List.getElem_drop] at hit
  rw [List.length_drop] at found
  refine ⟨by omega, ?_⟩
  exact List.inj_on_of_nodup_map agenda.distinct (List.get_mem _ _) member hit

/-- What `insert` does: it leaves an item that waits for an earlier time, and otherwise
the entry takes the place of the item's former entry. -/
theorem insertEntry_cases (agenda : Agenda entries knownEntries) (entry : WaitFor α) :
    (∃ time, time < entry.readyAt ∧ ⟨entry.data, time⟩ ∈ entries ∧
        insertEntry entries knownEntries entry = (entries, knownEntries)) ∨
      ∃ rest, rest.Sublist entries ∧
        (∀ other, other ∈ rest ↔ other ∈ entries ∧ other.data ≠ entry.data) ∧
        (∀ other ∈ entries, other.data = entry.data → entry.readyAt ≤ other.readyAt) ∧
        insertEntry entries knownEntries entry =
          (placeEntry rest entry,
            Function.update knownEntries entry.data (some entry.readyAt)) := by
  unfold insertEntry
  cases existing : knownEntries entry.data with
  | none =>
      have absent : ∀ other ∈ entries, other.data ≠ entry.data := by
        intro other member same
        have known := (agenda.known other.data other.readyAt).mpr member
        rw [same, existing] at known
        cases known
      refine Or.inr ⟨entries, List.Sublist.refl _, fun other => ?_, ?_, rfl⟩
      · exact ⟨fun member => ⟨member, absent other member⟩, And.left⟩
      · exact fun other member same => absurd same (absent other member)
  | some time =>
      have member := (agenda.known entry.data time).mp existing
      by_cases earlier : time < entry.readyAt
      · exact Or.inl ⟨time, earlier, member, by simp [earlier]⟩
      · obtain ⟨inside, itself⟩ := findEntryIndex_spec agenda member
        have removed := List.getElem_cons_eraseIdx_perm inside
        have own : entries[findEntryIndex entries time entry.data] = ⟨entry.data, time⟩ := itself
        rw [own] at removed
        have distinct := (removed.map WaitFor.data).nodup_iff.mpr agenda.distinct
        rw [List.map_cons, List.nodup_cons] at distinct
        refine Or.inr ⟨entries.eraseIdx (findEntryIndex entries time entry.data),
          List.eraseIdx_sublist _ _, fun other => ?_, fun other present same => ?_,
          by simp [earlier]⟩
        · rw [← removed.mem_iff, List.mem_cons]
          constructor
          · intro kept
            refine ⟨Or.inr kept, fun same => distinct.1 ?_⟩
            exact List.mem_map.mpr ⟨other, kept, same⟩
          · rintro ⟨rfl | kept, different⟩
            · exact absurd rfl different
            · exact kept
        · have equal := List.inj_on_of_nodup_map agenda.distinct present member same
          rw [equal]
          exact Int.not_lt.mp earlier

theorem Agenda.insert (agenda : Agenda entries knownEntries) (entry : WaitFor α) :
    Agenda (insertEntry entries knownEntries entry).1
      (insertEntry entries knownEntries entry).2 := by
  rcases insertEntry_cases agenda entry with ⟨time, -, -, same⟩ | ⟨rest, sub, kept, -, same⟩
  · rw [same]
    exact agenda
  · rw [same]
    have placed := placeEntry_perm rest entry
    refine ⟨placeEntry_sorted (agenda.sorted.sublist sub) entry, ?_, fun item time => ?_⟩
    · rw [(placed.map WaitFor.data).nodup_iff, List.map_cons, List.nodup_cons]
      refine ⟨fun member => ?_, agenda.distinct.sublist (sub.map WaitFor.data)⟩
      obtain ⟨other, present, clash⟩ := List.mem_map.mp member
      exact ((kept other).mp present).2 clash
    · simp only [placed.mem_iff, List.mem_cons, kept]
      by_cases own : item = entry.data
      · subst own
        rw [Function.update_self, Option.some.injEq]
        constructor
        · rintro rfl
          exact Or.inl rfl
        · rintro (same | ⟨-, different⟩)
          · rw [← same]
          · exact absurd rfl different
      · rw [Function.update_of_ne own, agenda.known]
        constructor
        · intro member
          exact Or.inr ⟨member, own⟩
        · rintro (same | ⟨member, -⟩)
          · exact absurd (congrArg WaitFor.data same) own
          · exact member

/-- The item of a new entry waits for no longer than the entry asks; other entries stay. -/
theorem exists_insertEntry (agenda : Agenda entries knownEntries) (entry : WaitFor α) :
    (∃ own ∈ (insertEntry entries knownEntries entry).1,
        own.data = entry.data ∧ own.readyAt ≤ entry.readyAt) ∧
      ∀ other ∈ entries, ∃ same ∈ (insertEntry entries knownEntries entry).1,
        same.data = other.data ∧ same.readyAt ≤ other.readyAt := by
  rcases insertEntry_cases agenda entry with
    ⟨time, earlier, waits, same⟩ | ⟨rest, -, kept, later, same⟩
  · rw [same]
    exact ⟨⟨_, waits, rfl, Int.le_of_lt earlier⟩,
      fun other member => ⟨other, member, rfl, Int.le_refl _⟩⟩
  · rw [same]
    have placed := placeEntry_perm rest entry
    have own : entry ∈ placeEntry rest entry := placed.mem_iff.mpr List.mem_cons_self
    refine ⟨⟨entry, own, rfl, Int.le_refl _⟩, fun other member => ?_⟩
    by_cases clash : other.data = entry.data
    · exact ⟨entry, own, clash.symm, later other member clash⟩
    · exact ⟨other, placed.mem_iff.mpr (List.mem_cons_of_mem _ ((kept other).mpr
        ⟨member, clash⟩)), rfl, Int.le_refl _⟩

/-- Nothing is made up: an entry of the list was there before or is the new one. -/
theorem mem_insertEntry (agenda : Agenda entries knownEntries) {entry other : WaitFor α}
    (member : other ∈ (insertEntry entries knownEntries entry).1) :
    other = entry ∨ other ∈ entries := by
  rcases insertEntry_cases agenda entry with ⟨time, -, -, same⟩ | ⟨rest, -, kept, -, same⟩
  · rw [same] at member
    exact Or.inr member
  · rw [same] at member
    rcases List.mem_cons.mp ((placeEntry_perm rest entry).mem_iff.mp member) with own | there
    · exact Or.inl own
    · exact Or.inr ((kept other).mp there).1

end Entries

/-- `delayingType`; `stopped` says that `waitingLoop` has returned. -/
structure Delaying (α : Type) where
  inner : WorkQueue α
  waitingForAdd : List (WaitFor α)
  waitingTimeByEntry : α → Option Int
  waitingForAddCh : List (WaitFor α)
  stopped : Bool

namespace Delaying

variable {α : Type}

def new : Delaying α := ⟨.new, [], fun _ => none, [], false⟩

variable [DecidableEq α]

/-- `AddAfter`: `none` while the caller is blocked on the full channel. -/
def addAfter (delaying : Delaying α) (item : α) (duration now : Int) :
    Option (Delaying α) :=
  if delaying.inner.shuttingDown then some delaying
  else if duration ≤ 0 then some { delaying with inner := delaying.inner.add item }
  else if delaying.waitingForAddCh.length < 1000 then
    some { delaying with
      waitingForAddCh := delaying.waitingForAddCh ++ [⟨item, now + duration⟩] }
  else none

/-- The top of `waitingLoop` in a queue that is shut down: waiting entries are dropped. -/
def halt (delaying : Delaying α) : Delaying α :=
  if delaying.inner.shuttingDown then
    { delaying with waitingForAdd := [], waitingTimeByEntry := fun _ => none, stopped := true }
  else delaying

/-- One turn of the loop over the waiting entries: the first one is added when it is
ready. -/
def promote (delaying : Delaying α) (now : Int) : Delaying α :=
  if delaying.stopped then delaying
  else
    match delaying.waitingForAdd with
    | [] => delaying
    | entry :: rest =>
        if now < entry.readyAt then delaying
        else
          { delaying with
            inner := delaying.inner.add entry.data
            waitingForAdd := rest
            waitingTimeByEntry := Function.update delaying.waitingTimeByEntry entry.data none }

/-- One receipt of `waitingLoop` from the channel. -/
def receive (delaying : Delaying α) (now : Int) : Delaying α :=
  if delaying.stopped then delaying
  else
    match delaying.waitingForAddCh with
    | [] => delaying
    | entry :: rest =>
        if now < entry.readyAt then
          let inserted :=
            insertEntry delaying.waitingForAdd delaying.waitingTimeByEntry entry
          { delaying with
            waitingForAdd := inserted.1
            waitingTimeByEntry := inserted.2
            waitingForAddCh := rest }
        else
          { delaying with inner := delaying.inner.add entry.data, waitingForAddCh := rest }

structure Sound (delaying : Delaying α) : Prop where
  inner : delaying.inner.Sound
  agenda : Agenda delaying.waitingForAdd delaying.waitingTimeByEntry

/-- The item needs processing, or its entry asks for no later than the time. -/
def Due (delaying : Delaying α) (item : α) (time : Int) : Prop :=
  item ∈ delaying.inner.dirty ∨
    ∃ entry, (entry ∈ delaying.waitingForAddCh ∨ entry ∈ delaying.waitingForAdd) ∧
      entry.data = item ∧ entry.readyAt ≤ time

/-- The item needs no processing and no entry of it asks for an earlier time. -/
def Early (delaying : Delaying α) (item : α) (time : Int) : Prop :=
  item ∉ delaying.inner.dirty ∧
    ∀ entry, (entry ∈ delaying.waitingForAddCh ∨ entry ∈ delaying.waitingForAdd) →
      entry.data = item → time ≤ entry.readyAt

variable {delaying : Delaying α}

omit [DecidableEq α] in
theorem new_sound : (new : Delaying α).Sound :=
  ⟨WorkQueue.new_sound, List.Pairwise.nil, List.nodup_nil, fun _ _ => by simp [new]⟩

/-! ## One operation of the loop -/

/-- The list without its first entry. -/
theorem Agenda.tail {entry : WaitFor α} {rest : List (WaitFor α)}
    {knownEntries : α → Option Int} (agenda : Agenda (entry :: rest) knownEntries) :
    Agenda rest (Function.update knownEntries entry.data none) := by
  have distinct := agenda.distinct
  rw [List.map_cons, List.nodup_cons] at distinct
  refine ⟨(List.pairwise_cons.mp agenda.sorted).2, distinct.2, fun item time => ?_⟩
  by_cases own : item = entry.data
  · subst own
    rw [Function.update_self]
    constructor
    · intro impossible
      cases impossible
    · intro member
      exact absurd (List.mem_map_of_mem member) distinct.1
  · rw [Function.update_of_ne own, agenda.known, List.mem_cons]
    constructor
    · rintro (same | member)
      · exact absurd (congrArg WaitFor.data same) own
      · exact member
    · exact Or.inr

theorem Sound.promote (sound : delaying.Sound) (now : Int) : (delaying.promote now).Sound := by
  obtain ⟨inner, waitingForAdd, known, channel, stopped⟩ := delaying
  unfold Delaying.promote
  split
  · exact sound
  · cases waitingForAdd with
    | nil => exact sound
    | cons entry rest =>
        dsimp only
        split
        · exact sound
        · exact ⟨sound.inner.add entry.data, Agenda.tail sound.agenda⟩

theorem Sound.receive (sound : delaying.Sound) (now : Int) : (delaying.receive now).Sound := by
  obtain ⟨inner, waitingForAdd, known, channel, stopped⟩ := delaying
  unfold Delaying.receive
  split
  · exact sound
  · cases channel with
    | nil => exact sound
    | cons entry rest =>
        dsimp only
        split
        · exact ⟨sound.inner, sound.agenda.insert entry⟩
        · exact ⟨sound.inner.add entry.data, sound.agenda⟩

/-- An entry that asks for no later than a time. -/
theorem Due.promote {item : α} {time : Int} (due : delaying.Due item time)
    (running : delaying.inner.shuttingDown = false) (now : Int) :
    (delaying.promote now).Due item time := by
  obtain ⟨inner, waitingForAdd, known, channel, stopped⟩ := delaying
  unfold Delaying.promote
  split
  · exact due
  · cases waitingForAdd with
    | nil => exact due
    | cons entry rest =>
        dsimp only
        split
        · exact due
        · rcases due with dirty | ⟨own, place, same, soon⟩
          · exact Or.inl ((WorkQueue.mem_dirty_add _ _).mpr (Or.inl dirty))
          · rcases place with sent | waits
            · exact Or.inr ⟨own, Or.inl sent, same, soon⟩
            · rcases List.mem_cons.mp waits with rfl | later
              · exact Or.inl ((WorkQueue.mem_dirty_add _ _).mpr
                  (Or.inr ⟨running, same.symm⟩))
              · exact Or.inr ⟨own, Or.inr later, same, soon⟩

theorem Due.receive {item : α} {time : Int} (due : delaying.Due item time)
    (sound : delaying.Sound) (running : delaying.inner.shuttingDown = false) (now : Int) :
    (delaying.receive now).Due item time := by
  obtain ⟨inner, waitingForAdd, known, channel, stopped⟩ := delaying
  unfold Delaying.receive
  split
  · exact due
  · cases channel with
    | nil => exact due
    | cons entry rest =>
        dsimp only
        obtain ⟨own, others⟩ := exists_insertEntry sound.agenda entry
        split
        · rcases due with dirty | ⟨promised, place, same, soon⟩
          · exact Or.inl dirty
          · rcases place with sent | waits
            · rcases List.mem_cons.mp sent with rfl | later
              · obtain ⟨placed, member, sameToo, sooner⟩ := own
                exact Or.inr ⟨placed, Or.inr member, sameToo.trans same,
                  Int.le_trans sooner soon⟩
              · exact Or.inr ⟨promised, Or.inl later, same, soon⟩
            · obtain ⟨placed, member, sameToo, sooner⟩ := others promised waits
              exact Or.inr ⟨placed, Or.inr member, sameToo.trans same,
                Int.le_trans sooner soon⟩
        · rcases due with dirty | ⟨promised, place, same, soon⟩
          · exact Or.inl ((WorkQueue.mem_dirty_add _ _).mpr (Or.inl dirty))
          · rcases place with sent | waits
            · rcases List.mem_cons.mp sent with rfl | later
              · exact Or.inl ((WorkQueue.mem_dirty_add _ _).mpr
                  (Or.inr ⟨running, same.symm⟩))
              · exact Or.inr ⟨promised, Or.inl later, same, soon⟩
            · exact Or.inr ⟨promised, Or.inr waits, same, soon⟩

theorem Early.promote {item : α} {time now : Int} (early : delaying.Early item time)
    (before : now < time) : (delaying.promote now).Early item time := by
  obtain ⟨inner, waitingForAdd, known, channel, stopped⟩ := delaying
  unfold Delaying.promote
  split
  · exact early
  · cases waitingForAdd with
    | nil => exact early
    | cons entry rest =>
        dsimp only
        split
        · exact early
        · rename_i ready
          have other : item ≠ entry.data := by
            intro same
            have later := early.2 entry (Or.inr List.mem_cons_self) same.symm
            omega
          refine ⟨fun dirty => ?_, fun waiting place => ?_⟩
          · rcases (WorkQueue.mem_dirty_add _ _).mp dirty with already | ⟨-, same⟩
            · exact early.1 already
            · exact other same
          · exact early.2 waiting (place.imp id (List.mem_cons_of_mem _))

theorem Early.receive {item : α} {time now : Int} (early : delaying.Early item time)
    (sound : delaying.Sound) (before : now < time) :
    (delaying.receive now).Early item time := by
  obtain ⟨inner, waitingForAdd, known, channel, stopped⟩ := delaying
  unfold Delaying.receive
  split
  · exact early
  · cases channel with
    | nil => exact early
    | cons entry rest =>
        dsimp only
        split
        · refine ⟨early.1, fun waiting place => ?_⟩
          rcases place with sent | waits
          · exact early.2 waiting (Or.inl (List.mem_cons_of_mem _ sent))
          · rcases mem_insertEntry sound.agenda waits with rfl | there
            · exact early.2 waiting (Or.inl List.mem_cons_self)
            · exact early.2 waiting (Or.inr there)
        · rename_i ready
          have other : item ≠ entry.data := by
            intro same
            have later := early.2 entry (Or.inl List.mem_cons_self) same.symm
            omega
          refine ⟨fun dirty => ?_, fun waiting place => ?_⟩
          · rcases (WorkQueue.mem_dirty_add _ _).mp dirty with already | ⟨-, same⟩
            · exact early.1 already
            · exact other same
          · exact early.2 waiting (place.imp (List.mem_cons_of_mem _) id)

end Delaying

end KubeAliyun.Queue
