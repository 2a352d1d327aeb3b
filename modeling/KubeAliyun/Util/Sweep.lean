import Mathlib.Data.List.Forall2

/-!
# Sweeps

A loop that rewrites the items of a list in place, from the first on, and stops at
the first item whose step fails.
-/

namespace KubeAliyun.Util

variable {α ε : Type}

/-- The items after the loop and the failure that stopped it. -/
def sweep (step : α → Except ε α) : List α → List α × Option ε
  | [] => ([], none)
  | item :: rest =>
      match step item with
      | .error failure => (item :: rest, some failure)
      | .ok next => (next :: (sweep step rest).1, (sweep step rest).2)

section Steps

variable {step : α → Except ε α} {item next : α} {rest : List α} {failure : ε}

theorem sweep_cons_ok (stepped : step item = .ok next) :
    sweep step (item :: rest) = (next :: (sweep step rest).1, (sweep step rest).2) := by
  rw [sweep, stepped]

theorem sweep_cons_error (stepped : step item = .error failure) :
    sweep step (item :: rest) = (item :: rest, some failure) := by
  rw [sweep, stepped]

end Steps

/-- Only the steps of the items at hand matter. -/
theorem sweep_congr {step other : α → Except ε α} {items : List α}
    (same : ∀ item ∈ items, step item = other item) : sweep step items = sweep other items := by
  induction items with
  | nil => rfl
  | cons item rest ih =>
      obtain ⟨first, others⟩ := List.forall_mem_cons.mp same
      rw [sweep, sweep, first, ih others]

/-- Without a failure every item has been rewritten. -/
theorem sweep_done {step : α → Except ε α} {items : List α}
    (done : (sweep step items).2 = none) :
    List.Forall₂ (fun item next => step item = .ok next) items (sweep step items).1 := by
  induction items with
  | nil => exact .nil
  | cons item rest ih =>
      cases stepped : step item with
      | error failure =>
          rw [sweep_cons_error stepped] at done
          cases done
      | ok next =>
          rw [sweep_cons_ok stepped] at done ⊢
          exact .cons stepped (ih done)

theorem sweep_done_iff (step : α → Except ε α) (items : List α) :
    (sweep step items).2 = none ↔ ∀ item ∈ items, ∃ next, step item = .ok next := by
  induction items with
  | nil => simp [sweep]
  | cons item rest ih =>
      rw [List.forall_mem_cons]
      cases stepped : step item with
      | error failure =>
          rw [sweep_cons_error stepped]
          simp
      | ok next =>
          rw [sweep_cons_ok stepped, ih]
          simp

/-- With a failure the items before it have been rewritten, and no others. -/
theorem sweep_stopped {step : α → Except ε α} {items : List α} {failure : ε}
    (stopped : (sweep step items).2 = some failure) :
    ∃ front item back nexts, items = front ++ item :: back ∧
      List.Forall₂ (fun item next => step item = .ok next) front nexts ∧
      step item = .error failure ∧ (sweep step items).1 = nexts ++ item :: back := by
  induction items with
  | nil => cases stopped
  | cons item rest ih =>
      cases stepped : step item with
      | error reason =>
          rw [sweep_cons_error stepped] at stopped ⊢
          cases stopped
          exact ⟨[], item, rest, [], rfl, .nil, stepped, rfl⟩
      | ok next =>
          rw [sweep_cons_ok stepped] at stopped ⊢
          obtain ⟨front, failing, back, nexts, split, rewritten, failed, after⟩ := ih stopped
          exact ⟨item :: front, failing, back, next :: nexts, by rw [split]; rfl,
            .cons stepped rewritten, failed, by rw [after]; rfl⟩

/-- Items that all have a next version, with those versions. -/
theorem exists_nexts_iff (step : α → Except ε α) (items : List α) :
    (∃ nexts, List.Forall₂ (fun item next => step item = .ok next) items nexts) ↔
      ∀ item ∈ items, ∃ next, step item = .ok next := by
  constructor
  · rintro ⟨nexts, rewritten⟩
    induction rewritten with
    | nil => exact fun _ member => absurd member List.not_mem_nil
    | cons stepped _ ih => exact List.forall_mem_cons.mpr ⟨⟨_, stepped⟩, ih⟩
  · intro accepted
    exact ⟨_, sweep_done ((sweep_done_iff step items).mpr accepted)⟩

/-- Known next versions are the result. -/
theorem sweep_of_nexts {step : α → Except ε α} {items nexts : List α}
    (rewritten : List.Forall₂ (fun item next => step item = .ok next) items nexts) :
    sweep step items = (nexts, none) := by
  induction rewritten with
  | nil => rfl
  | cons stepped _ ih => rw [sweep_cons_ok stepped, ih]

/-- A failure behind such items stops the sweep there. -/
theorem sweep_append_error {step : α → Except ε α} {front nexts back : List α} {item : α}
    {failure : ε}
    (rewritten : List.Forall₂ (fun item next => step item = .ok next) front nexts)
    (failed : step item = .error failure) :
    sweep step (front ++ item :: back) = (nexts ++ item :: back, some failure) := by
  induction rewritten with
  | nil => exact sweep_cons_error failed
  | cons stepped _ ih =>
      rw [List.cons_append, sweep_cons_ok stepped, ih]
      rfl

/-- A sweep that fails leaves the items as they were if and only if no step before
the first failing one changes its item. -/
theorem sweep_untouched_iff (step : α → Except ε α) (items : List α) :
    ((sweep step items).2 ≠ none → (sweep step items).1 = items) ↔
      ∀ front item back failure, items = front ++ item :: back →
        (∀ earlier ∈ front, ∃ next, step earlier = .ok next) →
        step item = .error failure → ∀ earlier ∈ front, step earlier = .ok earlier := by
  constructor
  · intro untouched front item back failure split accepted failed
    obtain ⟨nexts, rewritten⟩ := (exists_nexts_iff step front).mpr accepted
    rw [split, sweep_append_error rewritten failed] at untouched
    have same := List.append_cancel_right (untouched (Option.some_ne_none _))
    rw [same] at rewritten
    exact List.forall₂_same.mp rewritten
  · intro kept failed
    obtain ⟨failure, stopped⟩ := Option.ne_none_iff_exists'.mp failed
    obtain ⟨front, item, back, nexts, split, rewritten, failing, after⟩ :=
      sweep_stopped stopped
    have accepted := (exists_nexts_iff step front).mp ⟨nexts, rewritten⟩
    have unchanged : List.Forall₂ (fun item next => step item = .ok next) front front :=
      List.forall₂_same.mpr (kept front item back failure split accepted failing)
    have same : nexts = front := by
      refine List.right_unique_forall₂' ?_ rewritten unchanged
      intro earlier first second one two
      exact Except.ok.inj (one.symm.trans two)
    rw [after, split, same]

end KubeAliyun.Util
