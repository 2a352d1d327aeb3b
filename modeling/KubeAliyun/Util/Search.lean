import Mathlib.Data.List.InsertIdx
import Mathlib.Data.List.Basic

/-!
# Binary search

The search of Go's `sort` package: the least index at which a predicate holds,
provided that it holds from some index on.  On a list that is ordered by a key,
it splits the list at the key.
-/

namespace KubeAliyun.Util

/-- The search between two bounds, as `sort.Search` halves them. -/
def searchBetween (holds : Nat → Bool) (low high : Nat) : Nat :=
  if low < high then
    if holds (low + (high - low) / 2) then searchBetween holds low (low + (high - low) / 2)
    else searchBetween holds (low + (high - low) / 2 + 1) high
  else low
termination_by high - low

/-- `sort.Search` over the elements of a list. -/
def search {α : Type} (holds : α → Bool) (items : List α) : Nat :=
  searchBetween (fun index => items[index]?.any holds) 0 items.length

/-- The predicate fails below the index that is found and holds from there on. -/
theorem searchBetween_spec {holds : Nat → Bool} {low high : Nat} (ordered : low ≤ high)
    (rises : ∀ first second, first ≤ second → second < high → holds first = true →
      holds second = true) :
    searchBetween holds low high ≤ high ∧
      (∀ index, low ≤ index → index < searchBetween holds low high → holds index = false) ∧
      ∀ index, searchBetween holds low high ≤ index → index < high → holds index = true := by
  fun_induction searchBetween holds low high with
  | case1 low high active found ih =>
      have bound : low + (high - low) / 2 < high := by omega
      obtain ⟨below, fails, succeeds⟩ := ih (by omega) fun first second before inside =>
        rises first second before (by omega)
      refine ⟨by omega, fails, fun index reached inside => ?_⟩
      by_cases early : index < low + (high - low) / 2
      · exact succeeds index reached early
      · exact rises _ index (by omega) inside found
  | case2 low high active missed ih =>
      obtain ⟨below, fails, succeeds⟩ := ih (by omega) rises
      refine ⟨below, fun index reached inside => ?_, succeeds⟩
      by_cases late : low + (high - low) / 2 + 1 ≤ index
      · exact fails index late inside
      · -- a hit at or below the middle would be a hit in the middle
        cases hit : holds index with
        | false => rfl
        | true => exact absurd (rises index _ (by omega) (by omega) hit) missed
  | case3 low high stuck =>
      exact ⟨ordered, fun index reached inside => by omega,
        fun index reached inside => by omega⟩

section Lists

variable {α : Type} {holds : α → Bool} {items : List α}

/-- A predicate that rises along a list rises along its indices. -/
theorem any_rises
    (rises : items.Pairwise fun first second => holds first = true → holds second = true)
    (first second : Nat) (before : first ≤ second) (inside : second < items.length)
    (hit : items[first]?.any holds = true) : items[second]?.any holds = true := by
  rcases Nat.eq_or_lt_of_le before with rfl | earlier
  · exact hit
  · rw [List.getElem?_eq_getElem (by omega)] at hit ⊢
    exact List.pairwise_iff_getElem.mp rises first second (by omega) inside earlier hit

/-- The search splits a list along which the predicate rises. -/
theorem search_spec
    (rises : items.Pairwise fun first second => holds first = true → holds second = true) :
    (∀ item ∈ items.take (search holds items), holds item = false) ∧
      ∀ item ∈ items.drop (search holds items), holds item = true := by
  obtain ⟨-, fails, succeeds⟩ :=
    searchBetween_spec (Nat.zero_le items.length) (any_rises rises)
  refine ⟨fun item member => ?_, fun item member => ?_⟩
  · obtain ⟨index, inside, rfl⟩ := List.mem_iff_getElem.mp member
    rw [List.length_take] at inside
    have missed := fails index (Nat.zero_le index) (by unfold search at inside; omega)
    rw [List.getElem?_eq_getElem (by omega)] at missed
    rw [List.getElem_take]
    exact missed
  · obtain ⟨index, inside, rfl⟩ := List.mem_iff_getElem.mp member
    rw [List.length_drop] at inside
    have found := succeeds (search holds items + index) (by unfold search; omega) (by omega)
    rw [List.getElem?_eq_getElem (by omega)] at found
    rw [List.getElem_drop]
    exact found

end Lists

end KubeAliyun.Util
