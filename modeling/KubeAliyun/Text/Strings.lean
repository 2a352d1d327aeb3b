import Mathlib.Data.List.TakeDrop

/-!
# Text functions of the Go library

`strings.ToLower`, `strings.Replace` and `path.Base` on valid UTF-8 text, as
functions of its runes.
-/

namespace KubeAliyun.Text

/-! ## Lower case -/

/-- The lower-case mapping outside ASCII.  Unicode maps only the Kelvin sign and
the dotted capital I from there into ASCII, to `k` and `i`. -/
structure LowerTable where
  rune : Char → Char
  intoAscii : ∀ letter, 128 ≤ letter.toNat → (rune letter).toNat < 128 →
    rune letter = 'k' ∨ rune letter = 'i'

def LowerTable.identity : LowerTable where
  rune := id
  intoAscii := by
    intro letter outside inside
    simp only [id_eq] at inside
    omega

/-- `unicode.ToLower`: arithmetic on ASCII, the table elsewhere. -/
def lowerRune (table : LowerTable) (letter : Char) : Char :=
  if letter.toNat < 128 then letter.toLower else table.rune letter

def toLower (table : LowerTable) (text : String) : String :=
  String.ofList (text.toList.map (lowerRune table))

theorem toLower_TCP (table : LowerTable) : toLower table "TCP" = "tcp" := rfl

theorem toLower_UDP (table : LowerTable) : toLower table "UDP" = "udp" := rfl

theorem toLower_tcp (table : LowerTable) : toLower table "tcp" = "tcp" := rfl

theorem toLower_udp (table : LowerTable) : toLower table "udp" = "udp" := rfl

/-- A lower-cased text of ASCII letters other than `k` and `i` does not depend
on the table. -/
theorem toLower_of_plain {table : LowerTable} (other : LowerTable) {text result : String}
    (plain : ∀ letter ∈ result.toList,
      letter.toNat < 128 ∧ letter ≠ 'k' ∧ letter ≠ 'i')
    (lowered : toLower table text = result) : toLower other text = result := by
  subst lowered
  simp only [toLower, String.toList_ofList, List.mem_map, forall_exists_index, and_imp,
    forall_apply_eq_imp_iff₂] at plain
  unfold toLower
  congr 1
  apply List.map_congr_left
  intro letter member
  have ascii := plain letter member
  unfold lowerRune at ascii ⊢
  by_cases inside : letter.toNat < 128
  · rw [if_pos inside, if_pos inside]
  · rw [if_neg inside] at ascii
    rcases table.intoAscii letter (by omega) ascii.1 with k | i
    · exact absurd k ascii.2.1
    · exact absurd i ascii.2.2

/-! ## Bytes -/

def takeBytes : Nat → List Char → List Char
  | _, [] => []
  | limit, letter :: rest =>
      if letter.utf8Size ≤ limit then letter :: takeBytes (limit - letter.utf8Size) rest
      else []

/-- The slice `text[:limit]`.  Where it would end inside a rune, so that what Go is left with
is not UTF-8, the text ends before that rune. -/
def cutBytes (text : String) (limit : Nat) : String :=
  String.ofList (takeBytes limit text.toList)

theorem takeBytes_of_single {letters : List Char}
    (single : ∀ letter ∈ letters, letter.utf8Size = 1) (limit : Nat) :
    takeBytes limit letters = letters.take limit := by
  induction letters generalizing limit with
  | nil => rw [takeBytes, List.take_nil]
  | cons letter rest ih =>
      obtain ⟨one, others⟩ := List.forall_mem_cons.mp single
      rw [takeBytes, one]
      cases limit with
      | zero => rfl
      | succ limit => rw [if_pos (by omega), Nat.add_sub_cancel, ih others, List.take_succ_cons]

/-! ## Replacement -/

/-- Scan a text for `old`, replacing at most `limit` occurrences; `skip` counts
the runes of the current occurrence still to be dropped. -/
def replaceFrom (old new : List Char) : Nat → Nat → List Char → List Char
  | _, _, [] => []
  | limit, skip + 1, _ :: rest => replaceFrom old new limit skip rest
  | 0, 0, letter :: rest => letter :: rest
  | limit + 1, 0, letter :: rest =>
      if old.isPrefixOf (letter :: rest) then
        new ++ replaceFrom old new limit (old.length - 1) rest
      else letter :: replaceFrom old new (limit + 1) 0 rest

/-- `strings.Replace` with a non-empty `old` and a limit. -/
def replaceFirst (text old new : String) (limit : Nat) : String :=
  String.ofList (replaceFrom old.toList new.toList limit 0 text.toList)

/-- `strings.Replace` with a non-empty `old` and no limit. -/
def replaceAll (text old new : String) : String :=
  replaceFirst text old new text.length

@[simp] theorem replaceFrom_zero (old new letters : List Char) :
    replaceFrom old new 0 0 letters = letters := by
  cases letters <;> rfl

theorem replaceFrom_skip (old new : List Char) (limit : Nat) (dropped letters : List Char) :
    replaceFrom old new limit dropped.length (dropped ++ letters) =
      replaceFrom old new limit 0 letters := by
  induction dropped with
  | nil => rfl
  | cons letter rest ih =>
      rw [List.length_cons, List.cons_append, replaceFrom]
      exact ih

/-- One replacement at the start of a text. -/
theorem replaceFrom_start {old : List Char} (nonempty : old ≠ []) (new letters : List Char) :
    replaceFrom old new 1 0 (old ++ letters) = new ++ letters := by
  cases old with
  | nil => exact absurd rfl nonempty
  | cons first rest =>
      have starts : (first :: rest).isPrefixOf (first :: (rest ++ letters)) = true :=
        List.isPrefixOf_iff_prefix.mpr (List.prefix_append (first :: rest) letters)
      rw [List.cons_append, replaceFrom, if_pos starts, List.length_cons,
        Nat.add_sub_cancel, replaceFrom_skip, replaceFrom_zero]

/-- A text without the piece to be replaced stays as it is. -/
theorem replaceFrom_absent (old new : List Char) (limit : Nat) {letters : List Char}
    (absent : ¬ old <:+: letters) : replaceFrom old new limit 0 letters = letters := by
  induction letters with
  | nil => cases limit <;> rfl
  | cons letter rest ih =>
      cases limit with
      | zero => rfl
      | succ limit =>
          have elsewhere : ¬ old.isPrefixOf (letter :: rest) = true := fun starts =>
            absent (List.isPrefixOf_iff_prefix.mp starts).isInfix
          rw [replaceFrom, if_neg elsewhere, ih fun inside => absent (List.infix_cons inside)]

/-- Dropping every occurrence of one rune. -/
theorem replaceFrom_drop (separator : Char) {letters : List Char} {limit : Nat}
    (enough : letters.length ≤ limit) :
    replaceFrom [separator] [] limit 0 letters = letters.filter (· ≠ separator) := by
  induction letters generalizing limit with
  | nil => cases limit <;> rfl
  | cons letter rest ih =>
      cases limit with
      | zero => cases enough
      | succ limit =>
          have shorter : rest.length ≤ limit := Nat.le_of_succ_le_succ enough
          rw [replaceFrom]
          by_cases same : letter = separator
          · subst same
            rw [if_pos (by simp), List.nil_append, List.length_singleton, Nat.sub_self,
              ih shorter, List.filter_cons_of_neg (by simp)]
          · rw [if_neg (by simpa using Ne.symm same), ih (Nat.le_succ_of_le shorter),
              List.filter_cons_of_pos (by simpa using same)]

theorem replaceAll_drop (text : String) (separator : Char) :
    replaceAll text (String.singleton separator) "" =
      String.ofList (text.toList.filter (· ≠ separator)) := by
  unfold replaceAll replaceFirst
  rw [String.toList_singleton]
  exact congrArg String.ofList (replaceFrom_drop separator (Nat.le_of_eq String.length_toList))

/-! ## Splitting and trimming -/

/-- The pieces of a text between the separators, after the letters of the first one. -/
def splitFrom (separator : Char) : List Char → List Char → List String
  | piece, [] => [String.ofList piece.reverse]
  | piece, letter :: rest =>
      if letter = separator then String.ofList piece.reverse :: splitFrom separator [] rest
      else splitFrom separator (letter :: piece) rest

/-- `strings.Split` with a separator of one rune. -/
def split (text : String) (separator : Char) : List String :=
  splitFrom separator [] text.toList

def isSpace (letter : Char) : Bool :=
  let code := letter.toNat
  (9 ≤ code && code ≤ 13) || code == 32 || code == 0x85 || code == 0xA0 || code == 0x1680 ||
    (0x2000 ≤ code && code ≤ 0x200A) || code == 0x2028 || code == 0x2029 || code == 0x202F ||
    code == 0x205F || code == 0x3000

def trimSpace (text : String) : String :=
  String.ofList (((text.toList.dropWhile isSpace).reverse.dropWhile isSpace).reverse)

/-! ## Separators -/

/-- Texts joined by a separator that the first parts do not contain come apart
in one way only. -/
theorem separated_inj {separator : Char} {left right rest other : List Char}
    (leftFree : separator ∉ left) (rightFree : separator ∉ right)
    (same : left ++ separator :: rest = right ++ separator :: other) :
    left = right ∧ rest = other := by
  induction left generalizing right with
  | nil =>
      cases right with
      | nil => exact ⟨rfl, (List.cons.inj same).2⟩
      | cons head tail =>
          have first : separator = head := (List.cons.inj same).1
          exact absurd List.mem_cons_self (first ▸ rightFree)
  | cons letter front ih =>
      cases right with
      | nil =>
          have first : letter = separator := (List.cons.inj same).1
          exact absurd List.mem_cons_self (first ▸ leftFree)
      | cons head tail =>
          obtain ⟨first, later⟩ := List.cons.inj same
          obtain ⟨fronts, rests⟩ := ih
            (fun member => leftFree (List.mem_cons_of_mem _ member))
            (fun member => rightFree (List.mem_cons_of_mem _ member)) later
          exact ⟨by rw [first, fronts], rests⟩

/-! ## Decimal numbers -/

theorem isDigit_of_mem_repr {number : Nat} {letter : Char}
    (member : letter ∈ number.repr.toList) : letter.isDigit = true := by
  rw [Nat.toList_repr] at member
  exact Nat.isDigit_of_mem_toDigits (by decide) (by decide) member

/-- The digits of a natural number can be read back. -/
theorem repr_inj {first second : Nat} (same : first.repr = second.repr) :
    first = second := by
  have digits := congrArg String.toList same
  rw [Nat.toList_repr, Nat.toList_repr] at digits
  have values := congrArg (fun letters => Nat.ofDigitChars 10 letters 0) digits
  simpa using values

/-- A decimal holds digits and a sign only. -/
theorem not_mem_decimal {letter : Char} (noDigit : letter.isDigit = false)
    (noSign : letter ≠ '-') (number : Int) : letter ∉ (toString number).toList := by
  have digits : ∀ value : Nat, letter ∉ value.repr.toList := by
    intro value member
    rw [isDigit_of_mem_repr member] at noDigit
    cases noDigit
  have shown : toString number = number.repr := rfl
  rw [shown, Int.repr_eq_if]
  split
  · exact digits _
  · rw [String.toList_append, List.mem_append]
    rintro (sign | digit)
    · exact noSign (List.mem_singleton.mp sign)
    · exact digits _ digit

/-- Different numbers have different decimals. -/
theorem decimal_injective {first second : Int}
    (same : toString first = toString second) : first = second := by
  change first.repr = second.repr at same
  have signed : ∀ value other : Nat, "-" ++ value.repr ≠ other.repr := by
    intro value other equal
    have sign : '-' ∈ other.repr.toList := by
      rw [← equal, String.toList_append]
      exact List.mem_append_left _ List.mem_cons_self
    have digit := isDigit_of_mem_repr sign
    revert digit
    decide
  rw [Int.repr_eq_if, Int.repr_eq_if] at same
  by_cases one : 0 ≤ first
  · by_cases two : 0 ≤ second
    · rw [if_pos one, if_pos two] at same
      have values := repr_inj same
      omega
    · rw [if_pos one, if_neg two] at same
      exact absurd same.symm (signed _ _)
  · by_cases two : 0 ≤ second
    · rw [if_neg one, if_pos two] at same
      exact absurd same (signed _ _)
    · rw [if_neg one, if_neg two] at same
      have runes := congrArg String.toList same
      rw [String.toList_append, String.toList_append] at runes
      have digits := repr_inj (String.toList_inj.mp (List.append_cancel_left runes))
      omega

/-! ## Paths -/

def base (path : String) : String :=
  if path = "" then "."
  else
    let stripped := path.toList.reverse.dropWhile (· = '/')
    match (stripped.takeWhile (· ≠ '/')).reverse with
    | [] => "/"
    | last => String.ofList last

/-- The base of a path that ends in a slash and a name is the name. -/
theorem base_of_ends {path name : String} (nonempty : name ≠ "")
    (noSlash : '/' ∉ name.toList)
    (ends : path = name ∨ ∃ dir, path = dir ++ "/" ++ name) :
    base path = name := by
  have nameRunes : name.toList ≠ [] := by simpa using nonempty
  obtain ⟨last, front, reversed⟩ := List.exists_cons_of_ne_nil
    (show name.toList.reverse ≠ [] by simpa using nameRunes)
  have lastNotSlash : last ≠ '/' := by
    intro slash
    apply noSlash
    rw [← List.mem_reverse, reversed, slash]
    exact List.mem_cons_self
  -- Read backwards, the path is the name followed by nothing or by a slash.
  obtain ⟨tail, shape, stops⟩ : ∃ tail,
      path.toList.reverse = name.toList.reverse ++ tail ∧
        tail.takeWhile (· ≠ '/') = [] := by
    rcases ends with same | ⟨dir, split⟩
    · exact ⟨[], by simp [same], rfl⟩
    · refine ⟨'/' :: dir.toList.reverse, ?_, by simp⟩
      simp [split]
  have pathNonempty : path ≠ "" := by
    intro empty
    rw [empty, reversed] at shape
    simp at shape
  have runes : (path.toList.reverse.dropWhile (· = '/')).takeWhile (· ≠ '/') =
      name.toList.reverse := by
    have kept : path.toList.reverse.dropWhile (· = '/') =
        name.toList.reverse ++ tail := by
      rw [shape, reversed, List.cons_append, List.dropWhile_cons_of_neg]
      simpa using lastNotSlash
    rw [kept, List.takeWhile_append_of_pos, stops, List.append_nil]
    intro letter member
    have apart : letter ≠ '/' := by
      rintro rfl
      exact noSlash (List.mem_reverse.mp member)
    simpa using apart
  unfold base
  rw [if_neg pathNonempty]
  simp only [runes, List.reverse_reverse]
  exact String.ofList_toList

end KubeAliyun.Text
