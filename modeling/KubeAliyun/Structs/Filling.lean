import KubeAliyun.Provider.LoadBalancer
import KubeAliyun.Structs.Numerals
import KubeAliyun.Util.Sweep

/-!
# Filling a struct from a map

`MapToStruct` sets the fields that the map names, one after the other, and stops at
the first text or field it cannot use.  What it sets is what the map says; what it
has set before it stops stays set.
-/

namespace KubeAliyun.Structs

open KubeAliyun.Util

variable {X : Type}

def namedText (entries : String → Option String) (keyPrefix : String)
    (field : Util.Field X) : Option String :=
  if field.tag = "" then none else entries (keyPrefix ++ field.tag)

/-! ## One field -/

/-- One iteration of the loop of `MapToStruct`. -/
def setField (conversions : Conversions X) (entries : String → Option String)
    (keyPrefix : String) (field : Util.Field X) : Except String (Util.Field X) :=
  match namedText entries keyPrefix field with
  | none => .ok field
  | some text =>
      match parseField conversions field.kind text with
      | .error reason => .error ("Unmatch type of field " ++ field.name ++ ": " ++ reason)
      | .ok value =>
          if field.assignable then .ok { field with value }
          else .error ("Error: " ++ conversions.panic field.name)

/-- The loop is a sweep of its iterations. -/
theorem fillFields_eq_sweep (conversions : Conversions X)
    (entries : String → Option String) (keyPrefix : String) (fields : List (Util.Field X)) :
    fillFields conversions entries keyPrefix fields =
      sweep (setField conversions entries keyPrefix) fields := by
  induction fields with
  | nil => rfl
  | cons field rest ih =>
      rw [fillFields, ih, sweep, setField, namedText]
      by_cases untagged : field.tag = ""
      · simp only [if_pos untagged]
      · simp only [if_neg untagged]
        cases entries (keyPrefix ++ field.tag) with
        | none => rfl
        | some text =>
            dsimp only
            cases parseField conversions field.kind text with
            | error reason => rfl
            | ok value => cases assignable : field.assignable <;> simp

section OneField

variable {conversions : Conversions X} {entries : String → Option String}
  {keyPrefix : String} {field : Util.Field X}

theorem setField_of_absent (absent : namedText entries keyPrefix field = none) :
    setField conversions entries keyPrefix field = .ok field := by
  rw [setField, absent]

theorem setField_of_named {text : String}
    (named : namedText entries keyPrefix field = some text) (next : Util.Field X) :
    setField conversions entries keyPrefix field = .ok next ↔
      ∃ value, parseField conversions field.kind text = .ok value ∧
        field.assignable = true ∧ next = { field with value } := by
  rw [setField, named]
  cases parsed : parseField conversions field.kind text with
  | error reason => simp [parsed]
  | ok value =>
      cases assignable : field.assignable
      · simp [parsed]
      · simp [parsed, eq_comm]

/-- A field is read through its own key only. -/
theorem setField_congr {other : String → Option String}
    (same : namedText other keyPrefix field = namedText entries keyPrefix field) :
    setField conversions other keyPrefix field =
      setField conversions entries keyPrefix field := by
  rw [setField, setField, same]

end OneField

/-! ## The fields the map names -/

/-- Exported and of type `int`, `bool` or `string`. -/
structure Plain (field : Util.Field X) : Prop where
  assignable : field.assignable = true
  kind : field.kind = .int ∨ field.kind = .bool ∨ field.kind = .string

/-- The valid texts of the plain kinds and what they stand for. -/
inductive Reads : FieldKind → String → FieldValue X → Prop
  | int {text : String} {number : Int} (decimal : DecimalInt text number) :
      Reads .int text (.int number)
  | yes {text : String} (literal : text ∈ ["1", "t", "T", "TRUE", "true", "True"]) :
      Reads .bool text (.bool true)
  | no {text : String} (literal : text ∈ ["0", "f", "F", "FALSE", "false", "False"]) :
      Reads .bool text (.bool false)
  | string (text : String) : Reads .string text (.string text)

/-- A field after a call that succeeded. -/
structure Filled (entries : String → Option String) (keyPrefix : String)
    (field after : Util.Field X) : Prop where
  kept : namedText entries keyPrefix field = none → after = field
  set : ∀ text, namedText entries keyPrefix field = some text →
    ∃ value, Reads field.kind text value ∧ after = { field with value }

section Filled

variable {entries : String → Option String} {keyPrefix : String}
  {field after : Util.Field X}

theorem filled_of_absent (absent : namedText entries keyPrefix field = none) :
    Filled entries keyPrefix field after ↔ after = field := by
  constructor
  · intro filled
    exact filled.kept absent
  · intro same
    refine ⟨fun _ => same, fun text found => ?_⟩
    rw [absent] at found
    cases found

theorem filled_of_named {text : String} (named : namedText entries keyPrefix field = some text) :
    Filled entries keyPrefix field after ↔
      ∃ value, Reads field.kind text value ∧ after = { field with value } := by
  constructor
  · intro filled
    exact filled.set text named
  · intro set
    constructor
    · intro absent
      rw [named] at absent
      cases absent
    · intro other found
      rw [named] at found
      cases found
      exact set

end Filled

theorem parseBool_eq_some_iff (text : String) (value : FieldValue X) :
    (parseBool text).map FieldValue.bool = some value ↔ Reads .bool text value := by
  rw [parseBool]
  constructor
  · intro parsed
    split at parsed
    case isTrue literal =>
      cases parsed
      exact .yes literal
    case isFalse =>
      split at parsed
      case isTrue literal =>
        cases parsed
        exact .no literal
      case isFalse => cases parsed
  · intro reads
    cases reads with
    | yes literal => rw [if_pos literal]; rfl
    | no literal =>
        have noYes : text ∉ ["1", "t", "T", "TRUE", "true", "True"] := by
          revert literal
          simp only [List.mem_cons, List.not_mem_nil, or_false]
          rintro (rfl | rfl | rfl | rfl | rfl | rfl) <;> decide
        rw [if_neg noYes, if_pos literal]
        rfl

theorem parseField_int_iff (conversions : Conversions X) (text : String)
    (value : FieldValue X) :
    parseField conversions .int text = .ok value ↔
      ∃ number, atoi text = some number ∧ .int number = value := by
  unfold parseField
  cases atoi text <;> simp

theorem parseField_bool_iff (conversions : Conversions X) (text : String)
    (value : FieldValue X) :
    parseField conversions .bool text = .ok value ↔
      (parseBool text).map FieldValue.bool = some value := by
  unfold parseField
  cases parseBool text <;> simp

/-- The parsers of the plain kinds accept the valid texts. -/
theorem parseField_eq_ok_iff (conversions : Conversions X) {kind : FieldKind}
    (plain : kind = .int ∨ kind = .bool ∨ kind = .string) (text : String)
    (value : FieldValue X) :
    parseField conversions kind text = .ok value ↔ Reads kind text value := by
  obtain rfl | rfl | rfl := plain
  · rw [parseField_int_iff]
    constructor
    · rintro ⟨number, parsed, rfl⟩
      exact .int ((atoi_eq_some_iff _ _).mp parsed)
    · intro reads
      cases reads with
      | int decimal => exact ⟨_, (atoi_eq_some_iff _ _).mpr decimal, rfl⟩
  · exact (parseField_bool_iff conversions text value).trans (parseBool_eq_some_iff text value)
  · constructor
    · intro same
      cases same
      exact .string text
    · intro reads
      cases reads
      rfl

/-- One iteration on a plain field. -/
theorem setField_eq_ok_iff (conversions : Conversions X)
    (entries : String → Option String) (keyPrefix : String) {field : Util.Field X}
    (plain : field.tag ≠ "" → Plain field) (next : Util.Field X) :
    setField conversions entries keyPrefix field = .ok next ↔
      Filled entries keyPrefix field next := by
  cases named : namedText entries keyPrefix field with
  | none =>
      rw [setField_of_absent named, filled_of_absent named, Except.ok.injEq, eq_comm]
  | some text =>
      have tagged : field.tag ≠ "" := by
        intro untagged
        rw [namedText, if_pos untagged] at named
        cases named
      obtain ⟨assignable, kind⟩ := plain tagged
      rw [setField_of_named named, filled_of_named named]
      refine exists_congr fun value => ?_
      rw [parseField_eq_ok_iff conversions kind]
      simp only [assignable, true_and]

/-! ## What the map names -/

section Named

variable (conversions : Conversions X) (entries : String → Option String)
  (keyPrefix : String) {fields : List (Util.Field X)}

theorem fillFields_done_iff (plain : ∀ field ∈ fields, field.tag ≠ "" → Plain field) :
    (fillFields conversions entries keyPrefix fields).2 = none ↔
      ∀ field ∈ fields, ∀ text, namedText entries keyPrefix field = some text →
        ∃ value : FieldValue X, Reads field.kind text value := by
  rw [fillFields_eq_sweep, sweep_done_iff]
  refine forall₂_congr fun field member => ?_
  constructor
  · rintro ⟨next, stepped⟩ text named
    have filled :=
      (setField_eq_ok_iff conversions entries keyPrefix (plain field member) next).mp stepped
    obtain ⟨value, reads, -⟩ := filled.set text named
    exact ⟨value, reads⟩
  · intro valid
    cases named : namedText entries keyPrefix field with
    | none => exact ⟨field, setField_of_absent named⟩
    | some text =>
        obtain ⟨value, reads⟩ := valid text named
        have filled : Filled entries keyPrefix field { field with value } :=
          (filled_of_named named).mpr ⟨value, reads, rfl⟩
        exact ⟨_, (setField_eq_ok_iff conversions entries keyPrefix
          (plain field member) _).mpr filled⟩

theorem fillFields_filled (plain : ∀ field ∈ fields, field.tag ≠ "" → Plain field)
    (done : (fillFields conversions entries keyPrefix fields).2 = none) :
    List.Forall₂ (Filled entries keyPrefix) fields
      (fillFields conversions entries keyPrefix fields).1 := by
  rw [fillFields_eq_sweep] at done ⊢
  have stepped := (List.forall₂_and_left _ _).mpr ⟨plain, sweep_done done⟩
  refine stepped.imp ?_
  rintro field next ⟨plainField, step⟩
  exact (setField_eq_ok_iff conversions entries keyPrefix plainField next).mp step

/-- Entries under other keys have no effect. -/
theorem fillFields_congr {other : String → Option String}
    (same : ∀ field ∈ fields, field.tag ≠ "" →
      other (keyPrefix ++ field.tag) = entries (keyPrefix ++ field.tag)) :
    fillFields conversions other keyPrefix fields =
      fillFields conversions entries keyPrefix fields := by
  rw [fillFields_eq_sweep, fillFields_eq_sweep]
  refine sweep_congr fun field member => setField_congr ?_
  rw [namedText, namedText]
  by_cases untagged : field.tag = ""
  · rw [if_pos untagged, if_pos untagged]
  · rw [if_neg untagged, if_neg untagged, same field member untagged]

end Named

/-- `MapToStruct` succeeds if and only if every text named for a field is a valid
value of its type; it then sets these fields and keeps the others.  The keys of the
fields are all that it looks at. -/
theorem mapToStruct_sets_named (conversions : Conversions X) (fields : List (Util.Field X))
    (plain : ∀ field ∈ fields, field.tag ≠ "" → Plain field)
    (entries : String → Option String) (keyPrefix : String) :
    ((mapToStruct conversions (some entries) fields keyPrefix).2 = none ↔
      ∀ field ∈ fields, ∀ text, namedText entries keyPrefix field = some text →
        ∃ value : FieldValue X, Reads field.kind text value) ∧
    ((mapToStruct conversions (some entries) fields keyPrefix).2 = none →
      List.Forall₂ (Filled entries keyPrefix) fields
        (mapToStruct conversions (some entries) fields keyPrefix).1) ∧
    ∀ other : String → Option String,
      (∀ field ∈ fields, field.tag ≠ "" →
        other (keyPrefix ++ field.tag) = entries (keyPrefix ++ field.tag)) →
      mapToStruct conversions (some other) fields keyPrefix =
        mapToStruct conversions (some entries) fields keyPrefix := by
  refine ⟨?_, ?_, ?_⟩
  · exact fillFields_done_iff conversions entries keyPrefix plain
  · exact fillFields_filled conversions entries keyPrefix plain
  · exact fun other same => fillFields_congr conversions entries keyPrefix same

/-- Every option of a load balancer is plain. -/
theorem lbOptions_plain (options : Provider.AliyunLoadBalancerOptions) :
    ∀ field ∈ options.fields, field.tag ≠ "" → Plain field := by
  intro field member _
  simp only [Provider.AliyunLoadBalancerOptions.fields, List.mem_cons, List.not_mem_nil,
    or_false] at member
  rcases member with rfl | rfl | rfl | rfl | rfl | rfl <;> exact ⟨rfl, by simp⟩

def annotations (bandwidth threshold key : String) : Option String :=
  if key = "aliyun.archon.kubeup.com/bandwidth" then some bandwidth
  else if key = "aliyun.archon.kubeup.com/healthy-threshold" then some threshold
  else none

theorem mapToStruct_reads_annotations :
    List.Forall₂ (Filled (annotations "5" "+3") Provider.aliyunAnnotationPrefix)
      (Provider.AliyunLoadBalancerOptions.fields {})
      (mapToStruct ⟨fun _ _ => none, fun _ text => text, id⟩ (some (annotations "5" "+3"))
        (Provider.AliyunLoadBalancerOptions.fields {}) Provider.aliyunAnnotationPrefix).1 :=
  (mapToStruct_sets_named _ _ (lbOptions_plain {}) _ _).2.1 (by decide)

/-! ## Errors -/

/-- A failed call leaves every field as it was. -/
def UntouchedOnError (conversions : Conversions X)
    (input : Option (String → Option String)) (fields : List (Util.Field X))
    (keyPrefix : String) : Prop :=
  (mapToStruct conversions input fields keyPrefix).2 ≠ none →
    (mapToStruct conversions input fields keyPrefix).1 = fields

/-- The call gets past a field: the map does not name it, or the text can be parsed
and assigned. -/
def Accepts (conversions : Conversions X) (entries : String → Option String)
    (keyPrefix : String) (field : Util.Field X) : Prop :=
  ∀ text, namedText entries keyPrefix field = some text →
    field.assignable = true ∧ ∃ value, parseField conversions field.kind text = .ok value

/-- The map does not name the field, or names it with the value that it has. -/
def Agrees (conversions : Conversions X) (entries : String → Option String)
    (keyPrefix : String) (field : Util.Field X) : Prop :=
  ∀ text value, namedText entries keyPrefix field = some text →
    parseField conversions field.kind text = .ok value → value = field.value

section Step

variable (conversions : Conversions X) (entries : String → Option String)
  (keyPrefix : String) (field : Util.Field X)

theorem accepts_iff :
    Accepts conversions entries keyPrefix field ↔
      ∃ next, setField conversions entries keyPrefix field = .ok next := by
  rw [Accepts]
  cases named : namedText entries keyPrefix field with
  | none => simp [setField_of_absent named]
  | some text =>
      simp only [setField_of_named named, Option.some.injEq, forall_eq']
      constructor
      · rintro ⟨assignable, value, parsed⟩
        exact ⟨_, value, parsed, assignable, rfl⟩
      · rintro ⟨next, value, parsed, assignable, -⟩
        exact ⟨assignable, value, parsed⟩

theorem not_accepts_iff :
    ¬ Accepts conversions entries keyPrefix field ↔
      ∃ failure, setField conversions entries keyPrefix field = .error failure := by
  rw [accepts_iff]
  cases setField conversions entries keyPrefix field <;> simp

variable {conversions entries keyPrefix field}

theorem agrees_iff (accepted : Accepts conversions entries keyPrefix field) :
    Agrees conversions entries keyPrefix field ↔
      setField conversions entries keyPrefix field = .ok field := by
  rw [Agrees]
  cases named : namedText entries keyPrefix field with
  | none => simp [setField_of_absent named]
  | some text =>
      obtain ⟨assignable, value, parsed⟩ := accepted text named
      rw [setField_of_named named]
      constructor
      · intro same
        refine ⟨value, parsed, assignable, ?_⟩
        rw [same text value rfl parsed]
      · rintro ⟨set, read, -, same⟩ _ other ⟨⟩ again
        cases read.symm.trans again
        exact (congrArg Util.Field.value same).symm

end Step

/-- A failed call leaves the struct untouched if and only if no field that it would
change stands before the first field it fails at. -/
theorem mapToStruct_untouched_iff (conversions : Conversions X)
    (input : Option (String → Option String)) (fields : List (Util.Field X))
    (keyPrefix : String) :
    UntouchedOnError conversions input fields keyPrefix ↔
      ∀ entries, input = some entries →
        ∀ front failing back, fields = front ++ failing :: back →
          (∀ field ∈ front, Accepts conversions entries keyPrefix field) →
          ¬ Accepts conversions entries keyPrefix failing →
          ∀ field ∈ front, Agrees conversions entries keyPrefix field := by
  cases input with
  | none => simp [UntouchedOnError, mapToStruct]
  | some entries =>
      simp only [Option.some.injEq, forall_eq']
      rw [UntouchedOnError, mapToStruct, fillFields_eq_sweep, sweep_untouched_iff]
      constructor
      · intro kept front failing back split accepted failed field member
        obtain ⟨failure, stopped⟩ := (not_accepts_iff _ _ _ _).mp failed
        refine (agrees_iff (accepted field member)).mpr ?_
        exact kept front failing back failure split
          (fun earlier among => (accepts_iff _ _ _ _).mp (accepted earlier among)) stopped
          field member
      · intro kept front failing back failure split stepped stopped field member
        have accepted : ∀ earlier ∈ front, Accepts conversions entries keyPrefix earlier :=
          fun earlier among => (accepts_iff _ _ _ _).mpr (stepped earlier among)
        refine (agrees_iff (accepted field member)).mp ?_
        exact kept front failing back split accepted
          ((not_accepts_iff _ _ _ _).mpr ⟨failure, stopped⟩) field member

/-- A threshold that is no number leaves the bandwidth of the same annotations
applied, and the load balancer is created with it. -/
theorem mapToStruct_half_applied :
    ¬ UntouchedOnError ⟨fun _ _ => none, fun _ text => text, id⟩
        (some (annotations "5" "three")) (Provider.AliyunLoadBalancerOptions.fields {})
        Provider.aliyunAnnotationPrefix ∧
      Provider.lbOptions ⟨"uid", some (annotations "5" "three"), "", "", []⟩ =
        { bandwidth := 5 } := by
  refine ⟨fun untouched => ?_, by decide⟩
  revert untouched
  rw [UntouchedOnError]
  decide

end KubeAliyun.Structs
