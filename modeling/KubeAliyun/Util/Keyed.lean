import Mathlib.Data.List.Nodup

/-!
# Lists with distinct keys

A service lists its resources and addresses them by a key that no two of them
share.
-/

namespace KubeAliyun.Util.Keyed

variable {α κ : Type} [DecidableEq κ] {key : α → κ} {items : List α}

def find (key : α → κ) (items : List α) (wanted : κ) : Option α :=
  items.find? fun item => key item = wanted

/-- Put a new version of an item in the place of the old one. -/
def put (key : α → κ) (items : List α) (next : α) : List α :=
  items.map fun item => if key item = key next then next else item

theorem find_key {wanted : κ} {item : α} (found : find key items wanted = some item) :
    item ∈ items ∧ key item = wanted :=
  ⟨List.mem_of_find?_eq_some found, by simpa using List.find?_some found⟩

theorem find_eq_none_iff (wanted : κ) :
    find key items wanted = none ↔ wanted ∉ items.map key := by
  rw [find, List.find?_eq_none, List.mem_map, not_exists]
  simp

/-- Distinct keys leave at most one item under each key. -/
theorem filter_eq (distinct : (items.map key).Nodup) (wanted : κ) :
    items.filter (fun item => decide (key item = wanted)) =
      (find key items wanted).toList := by
  unfold find
  induction items with
  | nil => rfl
  | cons item rest ih =>
      obtain ⟨fresh, tail⟩ := List.nodup_cons.mp distinct
      by_cases same : key item = wanted
      · have none : rest.filter (fun other => decide (key other = wanted)) = [] := by
          rw [List.filter_eq_nil_iff]
          intro other member
          have apart : key other ≠ wanted := by
            intro equal
            exact fresh (List.mem_map.mpr ⟨other, member, equal.trans same.symm⟩)
          simpa using apart
        simp [same, none]
      · simp [same, ih tail]

theorem find_eq_some_iff (distinct : (items.map key).Nodup) (wanted : κ) (item : α) :
    find key items wanted = some item ↔ item ∈ items ∧ key item = wanted := by
  constructor
  · exact find_key
  · rintro ⟨member, same⟩
    have listed : item ∈ (find key items wanted).toList := by
      rw [← filter_eq distinct]
      exact List.mem_filter.mpr ⟨member, by simpa using same⟩
    simpa using listed

/-- A change that keeps the keys is seen at every key. -/
theorem find_map {change : α → α} (keeps : ∀ item, key (change item) = key item)
    (wanted : κ) :
    find key (items.map change) wanted = (find key items wanted).map change := by
  unfold find
  induction items with
  | nil => rfl
  | cons item rest ih =>
      simp only [List.map_cons, List.find?_cons, keeps]
      cases decide (key item = wanted) with
      | true => rfl
      | false => exact ih

theorem put_keeps (next : α) (item : α) :
    key (if key item = key next then next else item) = key item := by
  split
  · rename_i same
    exact same.symm
  · rfl

theorem map_key_put (items : List α) (next : α) :
    (put key items next).map key = items.map key := by
  rw [put, List.map_map]
  exact List.map_congr_left fun item _ => put_keeps next item

theorem find_put_self {wanted : κ} {old next : α} (found : find key items wanted = some old)
    (same : key next = wanted) : find key (put key items next) wanted = some next := by
  rw [put, find_map (put_keeps next), found]
  simp [(find_key found).2, same]

theorem find_put_other {wanted : κ} {next : α} (other : key next ≠ wanted) :
    find key (put key items next) wanted = find key items wanted := by
  rw [put, find_map (put_keeps next)]
  cases found : find key items wanted with
  | none => rfl
  | some item =>
      have own : key item = wanted := (find_key found).2
      have apart : key item ≠ key next := by
        rw [own]
        exact fun same => other same.symm
      rw [Option.map_some, if_neg apart]

end KubeAliyun.Util.Keyed
