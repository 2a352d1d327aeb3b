import KubeAliyun.Structs.Filling

/-!
# Copying a struct through a map

`StructToMap` writes the tagged fields of a struct into a map, from which
`MapToStruct` fills another struct of the same type.
-/

namespace KubeAliyun.Structs

open KubeAliyun.Util

variable {X : Type}

/-- The values of the plain types; an `int` has 64 bits. -/
inductive Typed : FieldKind → FieldValue X → Prop
  | int {number : Int} (lower : -2 ^ 63 ≤ number) (upper : number < 2 ^ 63) :
      Typed .int (.int number)
  | bool (value : Bool) : Typed .bool (.bool value)
  | string (text : String) : Typed .string (.string text)

/-- Two values of one field of a struct type. -/
structure SameField (field other : Util.Field X) : Prop where
  name : other.name = field.name
  tag : other.tag = field.tag
  kind : other.kind = field.kind
  assignable : other.assignable = field.assignable

/-! ## Writing the map -/

section Writing

variable (formats : Formats X) (keyPrefix : String)

/-- Keys that are no field's key are left alone. -/
theorem writeFields_frame (fields : List (StructField X)) (out : String → Option String)
    {key : String}
    (other : ∀ field ∈ fields, field.tag ≠ "" → key ≠ keyPrefix ++ field.tag) :
    (writeFields formats keyPrefix fields out).1 key = out key := by
  induction fields generalizing out with
  | nil => rfl
  | cons field rest ih =>
      obtain ⟨otherFirst, otherRest⟩ := List.forall_mem_cons.mp other
      rw [writeFields]
      by_cases untagged : field.tag = ""
      · rw [if_pos untagged]
        exact ih out otherRest
      · rw [if_neg untagged]
        cases field.exported with
        | false => rfl
        | true =>
            rw [if_pos rfl, ih _ otherRest]
            exact Function.update_of_ne (otherFirst untagged) _ _

/-- No panic when every tagged field is exported. -/
theorem writeFields_done (fields : List (StructField X)) (out : String → Option String)
    (exported : ∀ field ∈ fields, field.tag ≠ "" → field.exported = true) :
    (writeFields formats keyPrefix fields out).2 = none := by
  induction fields generalizing out with
  | nil => rfl
  | cons field rest ih =>
      obtain ⟨exportedFirst, exportedRest⟩ := List.forall_mem_cons.mp exported
      rw [writeFields]
      by_cases untagged : field.tag = ""
      · rw [if_pos untagged]
        exact ih out exportedRest
      · rw [if_neg untagged, if_pos (exportedFirst untagged)]
        exact ih _ exportedRest

/-- With distinct tags each field's text stays in the map. -/
theorem writeFields_holds {fields : List (StructField X)} (out : String → Option String)
    (exported : ∀ field ∈ fields, field.tag ≠ "" → field.exported = true)
    (distinct : fields.Pairwise fun field other => field.tag ≠ "" → field.tag ≠ other.tag) :
    ∀ field ∈ fields, field.tag ≠ "" →
      (writeFields formats keyPrefix fields out).1 (keyPrefix ++ field.tag) =
        some (formatValue formats field.toField) := by
  induction distinct generalizing out with
  | nil => exact fun _ member => absurd member List.not_mem_nil
  | @cons first rest apart _ ih =>
      obtain ⟨exportedFirst, exportedRest⟩ := List.forall_mem_cons.mp exported
      rw [writeFields]
      intro field member tagged
      by_cases untagged : first.tag = ""
      · rw [if_pos untagged]
        rcases List.mem_cons.mp member with rfl | later
        · exact absurd untagged tagged
        · exact ih out exportedRest field later tagged
      · rw [if_neg untagged, if_pos (exportedFirst untagged)]
        rcases List.mem_cons.mp member with rfl | later
        -- the first field's text is not overwritten by the rest
        · rw [writeFields_frame, Function.update_self]
          intro other among _ same
          exact apart other among tagged ((String.append_right_inj keyPrefix).mp same)
        · exact ih _ exportedRest field later tagged

end Writing

/-! ## Reading it back -/

/-- The text of a plain value is parsed to that value. -/
theorem parseField_formatValue (conversions : Conversions X) (formats : Formats X)
    {field : Util.Field X} (assignable : field.assignable = true)
    (typed : Typed field.kind field.value) :
    parseField conversions field.kind (formatValue formats field) = .ok field.value := by
  rw [formatValue, if_pos assignable]
  generalize field.kind = kind at typed ⊢
  generalize field.value = value at typed ⊢
  cases typed with
  | int lower upper =>
      rw [parseField_int_iff]
      exact ⟨_, atoi_toString lower upper, rfl⟩
  | bool value => cases value <;> rfl
  | string text => rfl

section Reading

variable (conversions : Conversions X) (formats : Formats X) {keyPrefix : String}
  {entries : String → Option String}

/-- One field of the other struct receives the value written for it. -/
theorem setField_written {field old : Util.Field X} (same : SameField field old)
    (plain : field.tag ≠ "" → Plain field ∧ Typed field.kind field.value)
    (written : field.tag ≠ "" →
      entries (keyPrefix ++ field.tag) = some (formatValue formats field)) :
    setField conversions entries keyPrefix old =
      .ok (if field.tag = "" then old else field) := by
  by_cases untagged : field.tag = ""
  · rw [if_pos untagged]
    apply setField_of_absent
    rw [namedText, same.tag, if_pos untagged]
  · obtain ⟨plainField, typed⟩ := plain untagged
    have named : namedText entries keyPrefix old = some (formatValue formats field) := by
      rw [namedText, same.tag, if_neg untagged, written untagged]
    rw [if_neg untagged, setField_of_named named]
    refine ⟨field.value, ?_, same.assignable.trans plainField.assignable, ?_⟩
    · rw [same.kind]
      exact parseField_formatValue conversions formats plainField.assignable typed
    · rw [same.name, same.tag, same.kind, same.assignable]

theorem fillFields_written {fields : List (StructField X)} {olds : List (Util.Field X)}
    (same : List.Forall₂ (fun field old => SameField field.toField old) fields olds)
    (plain : ∀ field ∈ fields, field.tag ≠ "" →
      Plain field.toField ∧ Typed field.kind field.value)
    (written : ∀ field ∈ fields, field.tag ≠ "" →
      entries (keyPrefix ++ field.tag) = some (formatValue formats field.toField)) :
    fillFields conversions entries keyPrefix olds =
      (List.zipWith (fun field old => if field.tag = "" then old else field.toField)
        fields olds, none) := by
  rw [fillFields_eq_sweep]
  apply sweep_of_nexts
  induction same with
  | nil => exact .nil
  | cons first _ ih =>
      obtain ⟨plainFirst, plainRest⟩ := List.forall_mem_cons.mp plain
      obtain ⟨writtenFirst, writtenRest⟩ := List.forall_mem_cons.mp written
      exact .cons (setField_written conversions formats first plainFirst writtenFirst)
        (ih plainRest writtenRest)

end Reading

/-- `StructToMap` succeeds and changes the keys of the fields only; `MapToStruct` of
its result makes any struct of the same type equal to the original on the tagged
fields and keeps the others. -/
theorem mapToStruct_structToMap (conversions : Conversions X) (formats : Formats X)
    (fields : List (StructField X))
    (plain : ∀ field ∈ fields, field.tag ≠ "" →
      Plain field.toField ∧ Typed field.kind field.value)
    (distinct : fields.Pairwise fun field other => field.tag ≠ "" → field.tag ≠ other.tag)
    (entries : String → Option String) (keyPrefix : String) (olds : List (Util.Field X))
    (same : List.Forall₂ (fun field old => SameField field.toField old) fields olds) :
    ∃ after, structToMap formats fields (some entries) keyPrefix = (some after, none) ∧
      (∀ key, (∀ field ∈ fields, field.tag ≠ "" → key ≠ keyPrefix ++ field.tag) →
        after key = entries key) ∧
      mapToStruct conversions (some after) olds keyPrefix =
        (List.zipWith (fun field old => if field.tag = "" then old else field.toField)
          fields olds, none) := by
  have exported : ∀ field ∈ fields, field.tag ≠ "" → field.exported = true := by
    intro field member tagged
    exact field.exported_of_assignable (plain field member tagged).1.assignable
  refine ⟨(writeFields formats keyPrefix fields entries).1, ?_, ?_, ?_⟩
  · rw [structToMap, writeFields_done formats keyPrefix fields entries exported]
  · exact fun key other => writeFields_frame formats keyPrefix fields entries other
  · exact fillFields_written conversions formats same plain
      (writeFields_holds formats keyPrefix entries exported distinct)

/-- A struct with a number, a flag, a text and an untagged text. -/
def record (number : Int) (flag : Bool) (text note : String) : List (StructField Empty) :=
  [⟨⟨"Number", "number", .int, true, .int number⟩, true, fun _ => rfl⟩,
    ⟨⟨"Flag", "flag", .bool, true, .bool flag⟩, true, fun _ => rfl⟩,
    ⟨⟨"Text", "text", .string, true, .string text⟩, true, fun _ => rfl⟩,
    ⟨⟨"note", "", .string, false, .string note⟩, false, fun same => same⟩]

/-- The least number and a text that looks like a key. -/
theorem mapToStruct_structToMap_least :
    ∃ after, structToMap ⟨fun _ => "", fun _ => "", id⟩
        (record (-2 ^ 63) true "x/number" "here") (some fun _ => some "old") "x/" =
          (some after, none) ∧
      after "number" = some "old" ∧
      mapToStruct ⟨fun _ _ => none, fun _ text => text, id⟩ (some after)
          ((record 0 false "" "there").map StructField.toField) "x/" =
        ((record (-2 ^ 63) true "x/number" "there").map StructField.toField, none) := by
  obtain ⟨after, succeeded, others, readBack⟩ :=
    mapToStruct_structToMap ⟨fun _ _ => none, fun _ text => text, id⟩
      ⟨fun _ => "", fun _ => "", id⟩ (record (-2 ^ 63) true "x/number" "here")
      (by
        simp only [record, List.forall_mem_cons, List.not_mem_nil]
        exact ⟨fun _ => ⟨⟨rfl, by simp⟩, .int (by decide) (by decide)⟩,
          fun _ => ⟨⟨rfl, by simp⟩, .bool _⟩, fun _ => ⟨⟨rfl, by simp⟩, .string _⟩,
          fun tagged => absurd rfl tagged, by simp⟩)
      (by simp [record]) (fun _ => some "old") "x/"
      ((record 0 false "" "there").map StructField.toField)
      (.cons ⟨rfl, rfl, rfl, rfl⟩ (.cons ⟨rfl, rfl, rfl, rfl⟩ (.cons ⟨rfl, rfl, rfl, rfl⟩
        (.cons ⟨rfl, rfl, rfl, rfl⟩ .nil))))
  refine ⟨after, succeeded, others "number" ?_, readBack⟩
  simp [record]

end KubeAliyun.Structs
