import Mathlib.Data.Finset.Basic

/-!
# The work queue

The queue that feeds the workers of a controller (`client-go/util/workqueue`):
items wait in order, an item waits at most once, and an item that is added while
it is being processed waits until its worker is done with it.
-/

namespace KubeAliyun.Queue

structure WorkQueue (α : Type) where
  queue : List α
  dirty : Finset α
  processing : Finset α
  shuttingDown : Bool

namespace WorkQueue

variable {α : Type}

def new : WorkQueue α := ⟨[], ∅, ∅, false⟩

variable [DecidableEq α]

def add (work : WorkQueue α) (item : α) : WorkQueue α :=
  if work.shuttingDown then work
  else if item ∈ work.dirty then work
  else if item ∈ work.processing then { work with dirty := insert item work.dirty }
  else { work with queue := work.queue ++ [item], dirty := insert item work.dirty }

/-- `Get`: `none` where the caller blocks or, in a queue that is shut down, is told to
end. -/
def get (work : WorkQueue α) : Option (α × WorkQueue α) :=
  match work.queue with
  | [] => none
  | item :: rest =>
      some (item, { work with
        queue := rest
        processing := insert item work.processing
        dirty := work.dirty.erase item })

def done (work : WorkQueue α) (item : α) : WorkQueue α :=
  if item ∈ work.dirty then
    { work with processing := work.processing.erase item, queue := work.queue ++ [item] }
  else { work with processing := work.processing.erase item }

def shutDown (work : WorkQueue α) : WorkQueue α := { work with shuttingDown := true }

/-- The items in the queue are those that need processing and are not being
processed; none waits twice. -/
structure Sound (work : WorkQueue α) : Prop where
  distinct : work.queue.Nodup
  waiting : ∀ item, item ∈ work.queue ↔ item ∈ work.dirty ∧ item ∉ work.processing

variable {work : WorkQueue α}

omit [DecidableEq α] in
theorem new_sound : (new : WorkQueue α).Sound :=
  ⟨List.nodup_nil, fun item => by simp [new]⟩

/-- Adding an item makes it dirty, unless the queue is shut down; nothing else
becomes dirty and no worker is affected. -/
theorem mem_dirty_add (item other : α) :
    other ∈ (work.add item).dirty ↔
      other ∈ work.dirty ∨ (work.shuttingDown = false ∧ other = item) := by
  unfold add
  split_ifs with down known busy
  · simp [down]
  · simp only [down, true_and]
    refine ⟨Or.inl, fun either => either.elim id fun same => same ▸ known⟩
  · simp [down, or_comm]
  · simp [down, or_comm]

@[simp] theorem add_processing (item : α) : (work.add item).processing = work.processing := by
  unfold add
  split_ifs <;> rfl

@[simp] theorem add_shuttingDown (item : α) :
    (work.add item).shuttingDown = work.shuttingDown := by
  unfold add
  split_ifs <;> rfl

theorem Sound.add (sound : work.Sound) (item : α) : (work.add item).Sound := by
  unfold WorkQueue.add
  split_ifs with down known busy
  · exact sound
  · exact sound
  · refine ⟨sound.distinct, fun other => ?_⟩
    rw [sound.waiting other]
    simp only [Finset.mem_insert]
    constructor
    · rintro ⟨dirty, idle⟩
      exact ⟨Or.inr dirty, idle⟩
    · rintro ⟨rfl | dirty, idle⟩
      · exact absurd busy idle
      · exact ⟨dirty, idle⟩
  · have absent : item ∉ work.queue := fun member => known ((sound.waiting item).mp member).1
    refine ⟨?_, fun other => ?_⟩
    · rw [List.nodup_append]
      refine ⟨sound.distinct, List.nodup_singleton item, ?_⟩
      rintro first member second last rfl
      exact absent (List.mem_singleton.mp last ▸ member)
    · simp only [List.mem_append, List.mem_singleton, Finset.mem_insert, sound.waiting other]
      constructor
      · rintro (⟨dirty, idle⟩ | rfl)
        · exact ⟨Or.inr dirty, idle⟩
        · exact ⟨Or.inl rfl, busy⟩
      · rintro ⟨rfl | dirty, idle⟩
        · exact Or.inr rfl
        · exact Or.inl ⟨dirty, idle⟩

/-- What `Get` hands out was waiting and is not being processed by anyone; afterwards it
is, and it is no longer dirty. -/
theorem get_spec {item : α} {after : WorkQueue α} (sound : work.Sound)
    (taken : work.get = some (item, after)) :
    item ∈ work.dirty ∧ item ∉ work.processing ∧ after.Sound ∧
      after.dirty = work.dirty.erase item ∧
      after.processing = insert item work.processing ∧
      after.shuttingDown = work.shuttingDown := by
  unfold get at taken
  cases shape : work.queue with
  | nil => simp [shape] at taken
  | cons head rest =>
      simp only [shape, Option.some.injEq, Prod.mk.injEq] at taken
      obtain ⟨rfl, rfl⟩ := taken
      have distinct := sound.distinct
      rw [shape, List.nodup_cons] at distinct
      obtain ⟨dirty, idle⟩ := (sound.waiting head).mp (by rw [shape]; exact List.mem_cons_self)
      refine ⟨dirty, idle, ⟨distinct.2, fun other => ?_⟩, rfl, rfl, rfl⟩
      have waiting := sound.waiting other
      rw [shape, List.mem_cons] at waiting
      simp only [Finset.mem_erase, Finset.mem_insert, not_or, ne_eq]
      constructor
      · intro member
        have different : other ≠ head := fun same => distinct.1 (same ▸ member)
        exact ⟨⟨different, (waiting.mp (Or.inr member)).1⟩, different,
          (waiting.mp (Or.inr member)).2⟩
      · rintro ⟨⟨different, dirtyToo⟩, -, idleToo⟩
        exact (waiting.mpr ⟨dirtyToo, idleToo⟩).resolve_left different

@[simp] theorem done_dirty (item : α) : (work.done item).dirty = work.dirty := by
  unfold done
  split_ifs <;> rfl

@[simp] theorem done_processing (item : α) :
    (work.done item).processing = work.processing.erase item := by
  unfold done
  split_ifs <;> rfl

@[simp] theorem done_shuttingDown (item : α) :
    (work.done item).shuttingDown = work.shuttingDown := by
  unfold done
  split_ifs <;> rfl

/-- The worker of an item is done with it; an item that became dirty meanwhile waits
again. -/
theorem Sound.done {item : α} (sound : work.Sound) (held : item ∈ work.processing) :
    (work.done item).Sound := by
  have absent : item ∉ work.queue := fun member => ((sound.waiting item).mp member).2 held
  unfold WorkQueue.done
  split_ifs with dirty
  · refine ⟨?_, fun other => ?_⟩
    · rw [List.nodup_append]
      refine ⟨sound.distinct, List.nodup_singleton item, ?_⟩
      rintro first member second last rfl
      exact absent (List.mem_singleton.mp last ▸ member)
    · simp only [List.mem_append, List.mem_singleton, sound.waiting other, Finset.mem_erase,
        ne_eq, not_and]
      constructor
      · rintro (⟨dirtyToo, idle⟩ | rfl)
        · exact ⟨dirtyToo, fun _ busy => absurd busy idle⟩
        · exact ⟨dirty, fun different => absurd rfl different⟩
      · rintro ⟨dirtyToo, idle⟩
        by_cases same : other = item
        · exact Or.inr same
        · exact Or.inl ⟨dirtyToo, idle same⟩
  · refine ⟨sound.distinct, fun other => ?_⟩
    simp only [sound.waiting other, Finset.mem_erase, ne_eq, not_and]
    constructor
    · rintro ⟨dirtyToo, idle⟩
      exact ⟨dirtyToo, fun _ => idle⟩
    · rintro ⟨dirtyToo, idle⟩
      exact ⟨dirtyToo, idle fun same => dirty (same ▸ dirtyToo)⟩

omit [DecidableEq α] in
theorem Sound.shutDown (sound : work.Sound) : work.shutDown.Sound :=
  ⟨sound.distinct, sound.waiting⟩

end WorkQueue

end KubeAliyun.Queue
