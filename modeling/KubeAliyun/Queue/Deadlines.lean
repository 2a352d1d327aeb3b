import KubeAliyun.Queue.Delaying

/-!
# Runs of the delaying queue

Any number of goroutines add items, take them and are done with them while the
loop promotes what is ready, in any order.  An item is in the hands of one worker
at a time, a promised item is neither lost nor put off, and none is handed out
before its time.
-/

namespace KubeAliyun.Queue

variable {α : Type} [DecidableEq α]

/-- What a goroutine does with the queue next; the clock is read where the source reads
it. -/
inductive Op (α : Type) where
  | add (item : α)
  | get
  | done (item : α)
  | addAfter (item : α) (duration now : Int)
  | promote (now : Int)
  | receive (now : Int)
  | shutDown
  | halt
deriving DecidableEq

namespace Delaying

/-- One operation; a blocked caller leaves the queue as it is. -/
def step (delaying : Delaying α) : Op α → Delaying α
  | .add item => { delaying with inner := delaying.inner.add item }
  | .get => { delaying with inner := (delaying.inner.get.map Prod.snd).getD delaying.inner }
  | .done item => { delaying with inner := delaying.inner.done item }
  | .addAfter item duration now => (delaying.addAfter item duration now).getD delaying
  | .promote now => delaying.promote now
  | .receive now => delaying.receive now
  | .shutDown => { delaying with inner := delaying.inner.shutDown }
  | .halt => delaying.halt

def hands (delaying : Delaying α) : Op α → Option α
  | .get => delaying.inner.get.map Prod.fst
  | _ => none

/-- Only `Get` hands anything out. -/
theorem get_of_hands {delaying : Delaying α} {op : Op α} {item : α}
    (handed : delaying.hands op = some item) : op = .get := by
  cases op with
  | get => rfl
  | add item => cases handed
  | done item => cases handed
  | addAfter item duration now => cases handed
  | promote now => cases handed
  | receive now => cases handed
  | shutDown => cases handed
  | halt => cases handed

def run (delaying : Delaying α) (ops : List (Op α)) : Delaying α := ops.foldl step delaying

def handedOut : Delaying α → List (Op α) → List α
  | _, [] => []
  | delaying, op :: rest => (delaying.hands op).toList ++ (delaying.step op).handedOut rest

/-- Workers are done only with items they hold. -/
def Disciplined : Delaying α → List (Op α) → Prop
  | _, [] => True
  | delaying, op :: rest =>
      (∀ item, op = .done item → item ∈ delaying.inner.processing) ∧
        (delaying.step op).Disciplined rest

variable {delaying : Delaying α}

theorem run_cons (delaying : Delaying α) (op : Op α) (rest : List (Op α)) :
    delaying.run (op :: rest) = (delaying.step op).run rest := rfl

theorem run_append (delaying : Delaying α) (before after : List (Op α)) :
    delaying.run (before ++ after) = (delaying.run before).run after :=
  List.foldl_append

/-! ## One operation -/

inductive Grows (before : WorkQueue α) : WorkQueue α → Prop
  | same : Grows before before
  | add (item : α) : Grows before (before.add item)

theorem promote_grows (now : Int) : Grows delaying.inner (delaying.promote now).inner := by
  unfold promote
  split
  · exact .same
  · split
    · exact .same
    · split
      · exact .same
      · exact .add _

theorem receive_grows (now : Int) : Grows delaying.inner (delaying.receive now).inner := by
  unfold receive
  split
  · exact .same
  · split
    · exact .same
    · split
      · exact .same
      · exact .add _

theorem addAfter_grows (item : α) (duration now : Int) :
    Grows delaying.inner ((delaying.addAfter item duration now).getD delaying).inner := by
  unfold addAfter
  split_ifs
  · exact .same
  · exact .add item
  · exact .same
  · exact .same

omit [DecidableEq α] in
theorem halt_inner : delaying.halt.inner = delaying.inner := by
  unfold halt
  split <;> rfl

inductive Acts (delaying : Delaying α) : Op α → Option α → WorkQueue α → Prop
  | get {item : α} {after : WorkQueue α} (taken : delaying.inner.get = some (item, after)) :
      Acts delaying .get (some item) after
  | done (item : α) : Acts delaying (.done item) none (delaying.inner.done item)
  | shutDown : Acts delaying .shutDown none delaying.inner.shutDown
  | grows {op : Op α} {after : WorkQueue α} (notDone : ∀ item, op ≠ .done item)
      (grows : Grows delaying.inner after) : Acts delaying op none after

theorem step_acts (delaying : Delaying α) (op : Op α) :
    Acts delaying op (delaying.hands op) (delaying.step op).inner := by
  cases op with
  | add item => exact .grows (by simp) (.add item)
  | get =>
      cases taken : delaying.inner.get with
      | none =>
          simp only [hands, step, taken]
          exact .grows (by simp) .same
      | some pair =>
          simp only [hands, step, taken]
          exact .get taken
  | done item => exact .done item
  | addAfter item duration now => exact .grows (by simp) (addAfter_grows item duration now)
  | promote now => exact .grows (by simp) (promote_grows now)
  | receive now => exact .grows (by simp) (receive_grows now)
  | shutDown => exact .shutDown
  | halt =>
      rw [step, halt_inner]
      exact .grows (by simp) .same

theorem Grows.sound {before after : WorkQueue α} (grows : Grows before after)
    (sound : before.Sound) : after.Sound := by
  cases grows with
  | same => exact sound
  | add item => exact sound.add item

theorem Grows.processing {before after : WorkQueue α} (grows : Grows before after) :
    after.processing = before.processing := by
  cases grows with
  | same => rfl
  | add item => exact WorkQueue.add_processing item

theorem Grows.dirty {before after : WorkQueue α} (grows : Grows before after) {item : α}
    (dirty : item ∈ before.dirty) : item ∈ after.dirty := by
  cases grows with
  | same => exact dirty
  | add other => exact (WorkQueue.mem_dirty_add other item).mpr (Or.inl dirty)

theorem Grows.shuttingDown {before after : WorkQueue α} (grows : Grows before after) :
    after.shuttingDown = before.shuttingDown := by
  cases grows with
  | same => rfl
  | add item => exact WorkQueue.add_shuttingDown item

theorem step_agenda (sound : delaying.Sound) (op : Op α) :
    Agenda (delaying.step op).waitingForAdd (delaying.step op).waitingTimeByEntry := by
  cases op with
  | add item => exact sound.agenda
  | get => exact sound.agenda
  | done item => exact sound.agenda
  | addAfter item duration now =>
      simp only [step, addAfter]
      split_ifs <;> exact sound.agenda
  | promote now => exact (sound.promote now).agenda
  | receive now => exact (sound.receive now).agenda
  | shutDown => exact sound.agenda
  | halt =>
      simp only [step, halt]
      split_ifs
      · exact new_sound.agenda
      · exact sound.agenda

theorem Sound.step (sound : delaying.Sound) {op : Op α}
    (held : ∀ item, op = .done item → item ∈ delaying.inner.processing) :
    (delaying.step op).Sound := by
  refine ⟨?_, step_agenda sound op⟩
  have acts := step_acts delaying op
  generalize delaying.hands op = handed, (delaying.step op).inner = after at acts
  cases acts with
  | get taken => exact (WorkQueue.get_spec sound.inner taken).2.2.1
  | done item => exact sound.inner.done (held item rfl)
  | shutDown => exact sound.inner.shutDown
  | grows _ grows => exact grows.sound sound.inner

/-- Only `ShutDown` shuts the queue down. -/
theorem step_running (sound : delaying.Sound) {op : Op α} (stays : op ≠ .shutDown)
    (running : delaying.inner.shuttingDown = false) :
    (delaying.step op).inner.shuttingDown = false := by
  have acts := step_acts delaying op
  generalize delaying.hands op = handed, (delaying.step op).inner = after at acts
  cases acts with
  | get taken => rw [(WorkQueue.get_spec sound.inner taken).2.2.2.2.2, running]
  | done item => rw [WorkQueue.done_shuttingDown, running]
  | shutDown => exact absurd rfl stays
  | grows _ grows => rw [grows.shuttingDown, running]

/-- Only `Get` and `Done` change what is being processed. -/
theorem step_processing {op : Op α} (notGet : op ≠ .get) (notDone : ∀ item, op ≠ .done item) :
    (delaying.step op).inner.processing = delaying.inner.processing := by
  have acts := step_acts delaying op
  generalize delaying.hands op = handed, (delaying.step op).inner = after at acts
  cases acts with
  | get taken => exact absurd rfl notGet
  | done item => exact absurd rfl (notDone item)
  | shutDown => rfl
  | grows _ grows => exact grows.processing

/-- A dirty item stays dirty until it is handed out. -/
theorem step_dirty (sound : delaying.Sound) (op : Op α) {item : α}
    (dirty : item ∈ delaying.inner.dirty) :
    delaying.hands op = some item ∨ item ∈ (delaying.step op).inner.dirty := by
  have acts := step_acts delaying op
  generalize delaying.hands op = handed, (delaying.step op).inner = after at acts
  cases acts with
  | @get taken after got =>
      rw [(WorkQueue.get_spec sound.inner got).2.2.2.1, Finset.mem_erase]
      by_cases own : item = taken
      · exact Or.inl (congrArg some own.symm)
      · exact Or.inr ⟨own, dirty⟩
  | done finished =>
      rw [WorkQueue.done_dirty]
      exact Or.inr dirty
  | shutDown => exact Or.inr dirty
  | grows _ grows => exact Or.inr (grows.dirty dirty)

/-! ## One worker for each item -/

theorem Sound.run (sound : delaying.Sound) {ops : List (Op α)}
    (disciplined : delaying.Disciplined ops) : (delaying.run ops).Sound := by
  induction ops generalizing delaying with
  | nil => exact sound
  | cons op rest ih => exact ih (sound.step disciplined.1) disciplined.2

/-- The hands an item is in: one for a worker that holds it, none otherwise. -/
def holders (delaying : Delaying α) (item : α) : Nat :=
  if item ∈ delaying.inner.processing then 1 else 0

theorem step_holders (sound : delaying.Sound) {op : Op α}
    (held : ∀ item, op = .done item → item ∈ delaying.inner.processing) (item : α) :
    (delaying.hands op).toList.count item + delaying.holders item =
      (if op = .done item then 1 else 0) + (delaying.step op).holders item := by
  unfold holders
  have acts := step_acts delaying op
  generalize delaying.hands op = handed, (delaying.step op).inner = after at acts
  cases acts with
  | @get taken after got =>
      obtain ⟨-, idle, -, -, processing, -⟩ := WorkQueue.get_spec sound.inner got
      rw [processing]
      by_cases own : taken = item
      · subst own
        simp [idle]
      · simp [own, Ne.symm own]
  | done finished =>
      rw [WorkQueue.done_processing]
      by_cases own : finished = item
      · subst own
        simp [held finished rfl]
      · simp [own, Ne.symm own]
  | shutDown =>
      simp only [Option.toList_none, List.count_nil, reduceCtorEq, if_false]
      rfl
  | grows notDone grows =>
      rw [grows.processing, if_neg (notDone item)]
      simp

theorem handedOut_holders (sound : delaying.Sound) {ops : List (Op α)}
    (disciplined : delaying.Disciplined ops) (item : α) :
    (delaying.handedOut ops).count item + delaying.holders item =
      ops.count (.done item) + (delaying.run ops).holders item := by
  induction ops generalizing delaying with
  | nil => simp [handedOut, run]
  | cons op rest ih =>
      have here := step_holders sound disciplined.1 item
      have later := ih (sound.step disciplined.1) disciplined.2
      rw [handedOut, List.count_append, run_cons, List.count_cons]
      simp only [beq_iff_eq]
      omega

/-- However the goroutines interleave, an item is handed out once for each time that a
worker was done with it, and once more while a worker holds it. -/
theorem handedOut_count {ops : List (Op α)} (disciplined : (new : Delaying α).Disciplined ops)
    (item : α) :
    (handedOut new ops).count item =
      ops.count (.done item) + ((new : Delaying α).run ops).holders item := by
  have whole := handedOut_holders new_sound disciplined item
  simpa [holders, new, WorkQueue.new] using whole

/-- Two goroutines ask for one item while a worker holds it. -/
def contended : List (Op String) :=
  [.add "a", .get, .addAfter "a" 5 0, .receive 1, .add "a", .done "a", .get, .promote 5]

theorem contended_disciplined : (new : Delaying String).Disciplined contended :=
  ⟨by simp, by simp, by simp, by simp, by simp,
    ⟨by rintro item ⟨⟩; decide, by simp, by simp, trivial⟩⟩

theorem handedOut_count_contended :
    (new : Delaying String).Disciplined contended ∧
      (handedOut new contended).count "a" =
        contended.count (.done "a") + ((new : Delaying String).run contended).holders "a" :=
  ⟨contended_disciplined, handedOut_count contended_disciplined "a"⟩

/-! ## Promises -/

/-- Outside the loop, an operation leaves every entry where it is. -/
theorem step_entries (running : delaying.inner.shuttingDown = false) {op : Op α}
    (outside : ∀ now, op ≠ .promote now ∧ op ≠ .receive now) {entry : WaitFor α}
    (place : entry ∈ delaying.waitingForAddCh ∨ entry ∈ delaying.waitingForAdd) :
    entry ∈ (delaying.step op).waitingForAddCh ∨ entry ∈ (delaying.step op).waitingForAdd := by
  cases op with
  | add other => exact place
  | get => exact place
  | done other => exact place
  | addAfter other duration now =>
      simp only [step, addAfter]
      split_ifs
      · exact place
      · exact place
      · exact place.imp (List.mem_append_left _) id
      · exact place
  | promote now => exact absurd rfl (outside now).1
  | receive now => exact absurd rfl (outside now).2
  | shutDown => exact place
  | halt =>
      rw [step, halt, running]
      exact place

theorem Due.step {item : α} {time : Int} (due : delaying.Due item time)
    (sound : delaying.Sound) (running : delaying.inner.shuttingDown = false) (op : Op α) :
    delaying.hands op = some item ∨ (delaying.step op).Due item time := by
  have elsewhere (outside : ∀ now, op ≠ .promote now ∧ op ≠ .receive now) :
      delaying.hands op = some item ∨ (delaying.step op).Due item time := by
    rcases due with dirty | ⟨entry, place, same, soon⟩
    · exact (step_dirty sound op dirty).imp id Or.inl
    · exact Or.inr (Or.inr ⟨entry, step_entries running outside place, same, soon⟩)
  cases op with
  | promote now => exact Or.inr (due.promote running now)
  | receive now => exact Or.inr (due.receive sound running now)
  | add other => exact elsewhere (by simp)
  | get => exact elsewhere (by simp)
  | done other => exact elsewhere (by simp)
  | addAfter other duration now => exact elsewhere (by simp)
  | shutDown => exact elsewhere (by simp)
  | halt => exact elsewhere (by simp)

theorem Due.run {item : α} {time : Int} (due : delaying.Due item time)
    (sound : delaying.Sound) (running : delaying.inner.shuttingDown = false)
    {ops : List (Op α)} (disciplined : delaying.Disciplined ops) (stays : .shutDown ∉ ops) :
    item ∈ delaying.handedOut ops ∨ (delaying.run ops).Due item time := by
  induction ops generalizing delaying with
  | nil => exact Or.inr due
  | cons op rest ih =>
      obtain ⟨first, others⟩ := not_or.mp (fun either => stays (List.mem_cons.mpr either))
      rw [handedOut, run_cons, List.mem_append]
      rcases due.step sound running op with handed | due
      · exact Or.inl (Or.inl (by simp [handed]))
      · rcases ih due (sound.step disciplined.1)
          (step_running sound (Ne.symm first) running) disciplined.2 others with later | still
        · exact Or.inl (Or.inr later)
        · exact Or.inr still

/-- An accepted `AddAfter` makes its item due. -/
theorem addAfter_due {item : α} {duration now : Int}
    (running : delaying.inner.shuttingDown = false) {after : Delaying α}
    (accepted : delaying.addAfter item duration now = some after) :
    after.Due item (now + duration) := by
  unfold addAfter at accepted
  rw [running, if_neg (by simp)] at accepted
  split_ifs at accepted
  · cases accepted
    exact Or.inl ((WorkQueue.mem_dirty_add item item).mpr (Or.inr ⟨running, rfl⟩))
  · cases accepted
    exact Or.inr ⟨⟨item, now + duration⟩,
      Or.inl (List.mem_append_right _ List.mem_cons_self), rfl, Int.le_refl _⟩

theorem disciplined_append {before after : List (Op α)}
    (disciplined : delaying.Disciplined (before ++ after)) :
    delaying.Disciplined before ∧ (delaying.run before).Disciplined after := by
  induction before generalizing delaying with
  | nil => exact ⟨trivial, disciplined⟩
  | cons op rest ih =>
      obtain ⟨kept, later⟩ := ih disciplined.2
      exact ⟨⟨disciplined.1, kept⟩, later⟩

/-! ## The loop catches up -/

/-- The loop runs on a sound queue that is open. -/
structure Running (delaying : Delaying α) : Prop where
  sound : delaying.Sound
  opened : delaying.inner.shuttingDown = false
  awake : delaying.stopped = false

/-- What the loop does from one wait to the next: it empties the channel and promotes the
entries that are ready. -/
def turn (delaying : Delaying α) (now : Int) : List (Op α) :=
  List.replicate delaying.waitingForAddCh.length (.receive now) ++
    List.replicate (delaying.waitingForAddCh.length + delaying.waitingForAdd.length)
      (.promote now)

theorem insertEntry_length (entries : List (WaitFor α)) (knownEntries : α → Option Int)
    (entry : WaitFor α) :
    (insertEntry entries knownEntries entry).1.length ≤ entries.length + 1 := by
  unfold insertEntry
  split
  · split
    · exact Nat.le_succ _
    · rw [(placeEntry_perm _ _).length_eq, List.length_cons]
      exact Nat.succ_le_succ (List.eraseIdx_sublist _ _).length_le
  · rw [(placeEntry_perm _ _).length_eq, List.length_cons]

theorem step_stopped (opened : delaying.inner.shuttingDown = false) (op : Op α) :
    (delaying.step op).stopped = delaying.stopped := by
  cases op with
  | add item => rfl
  | get => rfl
  | done item => rfl
  | addAfter item duration now =>
      simp only [step, addAfter]
      split_ifs <;> rfl
  | promote now =>
      simp only [step, promote]
      split
      · rfl
      · split
        · rfl
        · split <;> rfl
  | receive now =>
      simp only [step, receive]
      split
      · rfl
      · split
        · rfl
        · split <;> rfl
  | shutDown => rfl
  | halt =>
      rw [step, halt, opened]
      rfl

theorem Running.step (running : delaying.Running) {op : Op α} (stays : op ≠ .shutDown)
    (held : ∀ item, op = .done item → item ∈ delaying.inner.processing) :
    (delaying.step op).Running :=
  ⟨running.sound.step held, step_running running.sound stays running.opened,
    (step_stopped running.opened op).trans running.awake⟩

theorem Running.run (running : delaying.Running) {ops : List (Op α)}
    (disciplined : delaying.Disciplined ops) (stays : .shutDown ∉ ops) :
    (delaying.run ops).Running := by
  induction ops generalizing delaying with
  | nil => exact running
  | cons op rest ih =>
      obtain ⟨first, others⟩ := not_or.mp (fun either => stays (List.mem_cons.mpr either))
      exact ih (running.step (Ne.symm first) disciplined.1) disciplined.2 others

/-- A receipt takes the first entry from the channel. -/
theorem receive_lengths (awake : delaying.stopped = false) (now : Int) :
    (delaying.receive now).waitingForAddCh = delaying.waitingForAddCh.tail ∧
      (delaying.receive now).waitingForAdd.length ≤ delaying.waitingForAdd.length + 1 := by
  obtain ⟨inner, waitingForAdd, known, channel, stopped⟩ := delaying
  cases awake
  unfold receive
  cases channel with
  | nil => exact ⟨rfl, Nat.le_succ _⟩
  | cons entry rest =>
      rw [if_neg (by simp)]
      dsimp only
      split
      · exact ⟨rfl, insertEntry_length _ _ _⟩
      · exact ⟨rfl, Nat.le_succ _⟩

/-- Receiving empties the channel. -/
theorem run_receives (running : delaying.Running) (now : Int) {item : α} {time : Int}
    (due : delaying.Due item time) {count : Nat}
    (length : delaying.waitingForAddCh.length = count) :
    let after := delaying.run (List.replicate count (.receive now))
    after.Running ∧ after.Due item time ∧ after.waitingForAddCh = [] ∧
      after.waitingForAdd.length ≤ count + delaying.waitingForAdd.length := by
  induction count generalizing delaying with
  | zero =>
      refine ⟨running, due, List.eq_nil_of_length_eq_zero length, ?_⟩
      simp [Delaying.run]
  | succ count ih =>
      obtain ⟨shorter, longer⟩ := receive_lengths running.awake now
      have next : (delaying.step (.receive now)).Running :=
        running.step (by simp) (by simp)
      have fewer : (delaying.step (.receive now)).waitingForAddCh.length = count := by
        rw [step, shorter, List.length_tail, length]
        rfl
      obtain ⟨last, stillDue, empty, bound⟩ :=
        ih next (due.receive running.sound running.opened now) fewer
      rw [List.replicate_succ, run_cons]
      refine ⟨last, stillDue, empty, Nat.le_trans bound ?_⟩
      have grown : (delaying.step (.receive now)).waitingForAdd.length ≤
          delaying.waitingForAdd.length + 1 := longer
      omega

theorem promotes_dirty {item : α} (dirty : item ∈ delaying.inner.dirty) (now : Int)
    (count : Nat) :
    item ∈ (delaying.run (List.replicate count (.promote now))).inner.dirty := by
  induction count generalizing delaying with
  | zero => exact dirty
  | succ count ih =>
      rw [List.replicate_succ, run_cons]
      exact ih ((promote_grows now).dirty dirty)

/-- Promoting reaches every entry that is ready. -/
theorem run_promotes (running : delaying.Running) {entry : WaitFor α} {now : Int}
    (waits : entry ∈ delaying.waitingForAdd) (reached : entry.readyAt ≤ now) {count : Nat}
    (bound : delaying.waitingForAdd.length ≤ count) :
    entry.data ∈ (delaying.run (List.replicate count (.promote now))).inner.dirty := by
  induction count generalizing delaying with
  | zero =>
      rw [List.eq_nil_of_length_eq_zero (Nat.le_zero.mp bound)] at waits
      cases waits
  | succ count ih =>
      rw [List.replicate_succ, run_cons]
      have next : (delaying.step (.promote now)).Running :=
        running.step (by simp) (by simp)
      obtain ⟨inner, waitingForAdd, known, channel, stopped⟩ := delaying
      cases running.awake
      cases waitingForAdd with
      | nil => cases waits
      | cons head rest =>
          -- the list is ordered, so its head is ready with the entry
          have first : head.readyAt ≤ entry.readyAt := by
            rcases List.mem_cons.mp waits with rfl | behind
            · exact Int.le_refl _
            · exact (List.pairwise_cons.mp running.sound.agenda.sorted).1 entry behind
          have ready : ¬ now < head.readyAt := by omega
          have shape : Delaying.step ⟨inner, head :: rest, known, channel, false⟩
              (.promote now) = ⟨inner.add head.data, rest,
                Function.update known head.data none, channel, false⟩ := by
            simp [Delaying.step, promote, ready]
          rw [shape] at next ⊢
          rcases List.mem_cons.mp waits with rfl | behind
          · refine promotes_dirty ?_ now count
            exact (WorkQueue.mem_dirty_add _ _).mpr (Or.inr ⟨running.opened, rfl⟩)
          · exact ih next behind (Nat.le_of_succ_le_succ bound)

/-- Once the clock has reached its time, a turn of the loop makes a due item dirty. -/
theorem Due.ripens {item : α} {time now : Int} (due : delaying.Due item time)
    (running : delaying.Running) (reached : time ≤ now) :
    item ∈ (delaying.run (delaying.turn now)).inner.dirty := by
  obtain ⟨last, stillDue, empty, bound⟩ := run_receives running now due rfl
  rw [turn, run_append]
  rcases stillDue with dirty | ⟨entry, sent | waits, rfl, soon⟩
  · exact promotes_dirty dirty now _
  · rw [empty] at sent
    cases sent
  · exact run_promotes last waits (Int.le_trans soon reached) bound

/-- A promise is kept: from an accepted `AddAfter` on, whatever else happens to the queue,
the item is handed out, or the next turn of the loop at its time makes it dirty. -/
theorem promise_kept {before after : List (Op α)} {item : α} {duration now : Int}
    (disciplined : (new : Delaying α).Disciplined (before ++ .addAfter item duration now :: after))
    (stays : .shutDown ∉ before ++ .addAfter item duration now :: after)
    (accepted : (((new : Delaying α).run before).addAfter item duration now).isSome) :
    item ∈ (((new : Delaying α).run before).step (.addAfter item duration now)).handedOut after ∨
      ∀ later, now + duration ≤ later →
        let left := (new : Delaying α).run (before ++ .addAfter item duration now :: after)
        item ∈ (left.run (left.turn later)).inner.dirty := by
  obtain ⟨earlier, following⟩ := disciplined_append disciplined
  have running : ((new : Delaying α).run before).Running :=
    Running.run ⟨new_sound, rfl, rfl⟩ earlier fun member =>
      stays (List.mem_append_left _ member)
  have stepped : (((new : Delaying α).run before).step (.addAfter item duration now)).Running :=
    running.step (by simp) following.1
  have others : .shutDown ∉ after := fun member =>
    stays (List.mem_append_right _ (List.mem_cons_of_mem _ member))
  obtain ⟨promised, known⟩ := Option.isSome_iff_exists.mp accepted
  have due := addAfter_due running.opened known
  have same : ((new : Delaying α).run before).step (.addAfter item duration now) = promised := by
    rw [step, known]
    rfl
  rw [← same] at due
  rw [run_append, run_cons]
  refine (due.run stepped.sound stepped.opened following.2 others).imp id ?_
  intro still later reached
  exact still.ripens (stepped.run following.2 others) reached

theorem promise_kept_contended :
    "a" ∈ (((new : Delaying String).run [.add "a", .get]).step (.addAfter "a" 5 0)).handedOut
        [.receive 1, .add "a", .done "a", .get, .promote 5] ∨
      ∀ later, 0 + 5 ≤ later →
        let left := (new : Delaying String).run contended
        "a" ∈ (left.run (left.turn later)).inner.dirty :=
  @promise_kept String _ [.add "a", .get] [.receive 1, .add "a", .done "a", .get, .promote 5]
    "a" 5 0 contended_disciplined (by decide) rfl

/-! ## No item before its time -/

/-- What an operation may do while an item has to wait: nothing adds it at once, nobody
asks for an earlier time and the clock has not reached the time. -/
def Patient (item : α) (time : Int) (op : Op α) : Prop :=
  op ≠ .add item ∧
    (∀ duration now, op = .addAfter item duration now → 0 < duration ∧ time ≤ now + duration) ∧
    ∀ now, op = .promote now ∨ op = .receive now → now < time

theorem Early.step {item : α} {time : Int} (early : delaying.Early item time)
    (sound : delaying.Sound) {op : Op α} (patient : Patient item time op) :
    (delaying.step op).Early item time := by
  obtain ⟨notAdded, notSooner, clock⟩ := patient
  cases op with
  | add other =>
      refine ⟨fun dirty => ?_, early.2⟩
      rcases (WorkQueue.mem_dirty_add other item).mp dirty with already | ⟨-, same⟩
      · exact early.1 already
      · exact notAdded (congrArg Op.add same.symm)
  | get =>
      refine ⟨fun dirty => early.1 ?_, early.2⟩
      simp only [Delaying.step] at dirty
      cases taken : delaying.inner.get with
      | none =>
          rw [taken] at dirty
          exact dirty
      | some pair =>
          rw [taken] at dirty
          have left : item ∈ pair.2.dirty := dirty
          rw [(WorkQueue.get_spec sound.inner taken).2.2.2.1] at left
          exact Finset.mem_of_mem_erase left
  | done other =>
      refine ⟨fun dirty => early.1 ?_, early.2⟩
      simpa [Delaying.step] using dirty
  | addAfter other duration now =>
      simp only [Delaying.step, addAfter]
      split_ifs with down instant room
      · exact early
      · refine ⟨fun dirty => ?_, early.2⟩
        rcases (WorkQueue.mem_dirty_add other item).mp dirty with already | ⟨-, same⟩
        · exact early.1 already
        · subst same
          have positive := (notSooner duration now rfl).1
          omega
      · refine ⟨early.1, fun entry place same => ?_⟩
        rcases place with sent | waits
        · rcases List.mem_append.mp sent with before | last
          · exact early.2 entry (Or.inl before) same
          · rw [List.mem_singleton.mp last] at same ⊢
            subst same
            exact (notSooner duration now rfl).2
        · exact early.2 entry (Or.inr waits) same
      · exact early
  | promote now => exact early.promote (clock now (Or.inl rfl))
  | receive now => exact early.receive sound (clock now (Or.inr rfl))
  | shutDown => exact early
  | halt =>
      simp only [Delaying.step, halt]
      split_ifs
      · exact ⟨early.1, fun entry place same =>
          early.2 entry (place.imp id fun none => absurd none List.not_mem_nil) same⟩
      · exact early

/-- What is handed out was dirty. -/
theorem dirty_of_hands (sound : delaying.Sound) {op : Op α} {item : α}
    (handed : delaying.hands op = some item) : item ∈ delaying.inner.dirty := by
  have acts := step_acts delaying op
  rw [handed] at acts
  cases acts with
  | get taken => exact (WorkQueue.get_spec sound.inner taken).1

/-- Nobody has asked for the item. -/
def Unasked (delaying : Delaying α) (item : α) : Prop := ∀ time, delaying.Early item time

omit [DecidableEq α] in
theorem unasked_iff {item : α} : delaying.Unasked item ↔ ¬∃ time, delaying.Due item time := by
  constructor
  · rintro early ⟨time, dirty | ⟨entry, place, same, ready⟩⟩
    · exact (early 0).1 dirty
    · have later := (early (entry.readyAt + 1)).2 entry place same
      omega
  · intro absent time
    refine ⟨fun dirty => absent ⟨0, Or.inl dirty⟩, fun entry place same => ?_⟩
    exact absurd ⟨entry.readyAt, Or.inr ⟨entry, place, same, Int.le_refl _⟩⟩ absent

/-- Only a request for the item puts it on its way. -/
theorem Unasked.step {item : α} (unasked : delaying.Unasked item) (sound : delaying.Sound)
    {op : Op α} (notAdded : op ≠ .add item)
    (notCalled : ∀ duration now, op ≠ .addAfter item duration now) :
    (delaying.step op).Unasked item := by
  intro time
  have patient : ∃ later, time ≤ later ∧ Patient item later op := by
    cases op with
    | promote now =>
        refine ⟨max time (now + 1), Int.le_max_left .., by simp, by simp, ?_⟩
        rintro _ (⟨⟨⟩⟩ | ⟨⟨⟩⟩)
        omega
    | receive now =>
        refine ⟨max time (now + 1), Int.le_max_left .., by simp, by simp, ?_⟩
        rintro _ (⟨⟨⟩⟩ | ⟨⟨⟩⟩)
        omega
    | add other => exact ⟨time, Int.le_refl _, notAdded, by simp, by simp⟩
    | addAfter other duration now =>
        refine ⟨time, Int.le_refl _, by simp, ?_, by simp⟩
        rintro duration now ⟨⟩
        exact absurd rfl (notCalled duration now)
    | get => exact ⟨time, Int.le_refl _, by simp, by simp, by simp⟩
    | done other => exact ⟨time, Int.le_refl _, by simp, by simp, by simp⟩
    | halt => exact ⟨time, Int.le_refl _, by simp, by simp, by simp⟩
    | shutDown => exact ⟨time, Int.le_refl _, by simp, by simp, by simp⟩
  obtain ⟨later, sooner, patient⟩ := patient
  obtain ⟨clean, apart⟩ := (unasked later).step sound patient
  exact ⟨clean, fun entry place same => Int.le_trans sooner (apart entry place same)⟩

theorem Early.run {item : α} {time : Int} (early : delaying.Early item time)
    (sound : delaying.Sound) {ops : List (Op α)} (disciplined : delaying.Disciplined ops)
    (patient : ∀ op ∈ ops, Patient item time op) : item ∉ delaying.handedOut ops := by
  induction ops generalizing delaying with
  | nil => exact List.not_mem_nil
  | cons op rest ih =>
      have later := ih (early.step sound (patient op List.mem_cons_self))
        (sound.step disciplined.1) disciplined.2
        fun other member => patient other (List.mem_cons_of_mem _ member)
      rw [handedOut, List.mem_append, not_or]
      refine ⟨fun handed => early.1 ?_, later⟩
      exact dirty_of_hands sound (Option.mem_toList.mp handed)

/-- No item is handed out before the earliest time that anyone asked for. -/
theorem never_early {ops : List (Op α)} (disciplined : (new : Delaying α).Disciplined ops)
    {item : α} {time : Int} (patient : ∀ op ∈ ops, Patient item time op) :
    item ∉ (new : Delaying α).handedOut ops := by
  refine Early.run ⟨by simp [new, WorkQueue.new], ?_⟩ new_sound disciplined patient
  rintro entry (none | none) same
  · exact absurd none List.not_mem_nil
  · exact absurd none List.not_mem_nil

/-- A worker fails and asks twice for a later time. -/
def postponed : List (Op String) :=
  [.addAfter "a" 5 0, .addAfter "a" 9 0, .receive 1, .receive 2, .promote 4, .get]

theorem never_early_postponed :
    (new : Delaying String).Disciplined postponed ∧
      (∀ op ∈ postponed, Patient "a" 5 op) ∧
      "a" ∉ (new : Delaying String).handedOut postponed := by
  have disciplined : (new : Delaying String).Disciplined postponed :=
    ⟨by simp, by simp, by simp, by simp, by simp, by simp, trivial⟩
  have patient : ∀ op ∈ postponed, Patient "a" 5 op := by
    simp [postponed, Patient]
  exact ⟨disciplined, patient, never_early disciplined patient⟩

end Delaying

end KubeAliyun.Queue
