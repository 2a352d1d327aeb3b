import KubeAliyun.Text.Strings

/-!
# JSON objects of texts and flags

How `encoding/json` writes a struct whose fields are strings and booleans, and a
reader for what it writes.  The reader returns the members that were written, so
distinct objects have distinct texts.
-/

namespace KubeAliyun.Text.Json

/-! ## Writing -/

def hexDigits : List Char :=
  ['0', '1', '2', '3', '4', '5', '6', '7', '8', '9', 'a', 'b', 'c', 'd', 'e', 'f']

def hexDigit (value : Nat) : Char := hexDigits.getD (value % 16) '0'

def unicodeEscape (code : Nat) : List Char :=
  ['\\', 'u', hexDigit (code / 4096), hexDigit (code / 256), hexDigit (code / 16),
    hexDigit code]

/-- The runes written as `\uXXXX`: control characters, the three that are unsafe
in HTML, and the two line separators that JavaScript does not allow. -/
def needsUnicode (rune : Char) : Bool :=
  rune.toNat < 32 || rune = '<' || rune = '>' || rune = '&' ||
    rune.toNat = 8232 || rune.toNat = 8233

def escapeRune (rune : Char) : List Char :=
  if rune = '"' ∨ rune = '\\' then ['\\', rune]
  else if rune = '\n' then ['\\', 'n']
  else if rune = '\r' then ['\\', 'r']
  else if rune = '\t' then ['\\', 't']
  else if needsUnicode rune then unicodeEscape rune.toNat
  else [rune]

/-- The inside of a string literal. -/
def escape (text : List Char) : List Char := text.flatMap escapeRune

def quote (text : String) : List Char := '"' :: escape text.toList ++ ['"']

inductive Scalar where
  | text (value : String)
  | flag (value : Bool)
deriving DecidableEq, Repr

def Scalar.encode : Scalar → List Char
  | .text value => quote value
  | .flag true => ['t', 'r', 'u', 'e']
  | .flag false => ['f', 'a', 'l', 's', 'e']

def encodeMembers : List (String × Scalar) → List Char
  | [] => ['}']
  | [(key, value)] => quote key ++ ':' :: value.encode ++ ['}']
  | (key, value) :: next :: rest =>
      quote key ++ ':' :: value.encode ++ ',' :: encodeMembers (next :: rest)

def encodeObject (members : List (String × Scalar)) : String :=
  String.ofList ('{' :: encodeMembers members)

/-! ## Reading -/

def hexValue (digit : Char) : Nat := hexDigits.idxOf digit

/-- A string literal after its opening quote: its text and what follows. -/
def readString : List Char → Option (List Char × List Char)
  | [] => none
  | '"' :: rest => some ([], rest)
  | '\\' :: 'u' :: a :: b :: c :: d :: rest =>
      let code := hexValue a * 4096 + hexValue b * 256 + hexValue c * 16 + hexValue d
      (readString rest).map fun found => (Char.ofNat code :: found.1, found.2)
  | '\\' :: 'n' :: rest => (readString rest).map fun found => ('\n' :: found.1, found.2)
  | '\\' :: 'r' :: rest => (readString rest).map fun found => ('\r' :: found.1, found.2)
  | '\\' :: 't' :: rest => (readString rest).map fun found => ('\t' :: found.1, found.2)
  | '\\' :: rune :: rest =>
      (readString rest).map fun found => (rune :: found.1, found.2)
  | rune :: rest => (readString rest).map fun found => (rune :: found.1, found.2)

def readScalar : List Char → Option (Scalar × List Char)
  | '"' :: rest =>
      (readString rest).map fun found => (.text (String.ofList found.1), found.2)
  | 't' :: 'r' :: 'u' :: 'e' :: rest => some (.flag true, rest)
  | 'f' :: 'a' :: 'l' :: 's' :: 'e' :: rest => some (.flag false, rest)
  | _ => none

def readMember : List Char → Option ((String × Scalar) × List Char)
  | '"' :: rest =>
      match readString rest with
      | some (key, ':' :: after) =>
          (readScalar after).map fun found =>
            ((String.ofList key, found.1), found.2)
      | _ => none
  | _ => none

/-- The members up to the closing brace; every member takes some fuel. -/
def readMembers : Nat → List Char → Option (List (String × Scalar))
  | _, ['}'] => some []
  | 0, _ => none
  | fuel + 1, text =>
      match readMember text with
      | some (first, ['}']) => some [first]
      | some (first, ',' :: rest) => (readMembers fuel rest).map (first :: ·)
      | _ => none

def decodeObject (text : String) : Option (List (String × Scalar)) :=
  match text.toList with
  | '{' :: rest => readMembers rest.length rest
  | _ => none

/-! ## Reading back -/

theorem hexValue_hexDigit (value : Nat) : hexValue (hexDigit value) = value % 16 := by
  have digits : ∀ index : Fin 16, hexDigits.idxOf (hexDigits.getD index.val '0') = index.val := by
    decide
  exact digits ⟨value % 16, Nat.mod_lt value (by decide)⟩

theorem readString_unicode (code : Nat) (small : code < 65536) (rest : List Char) :
    readString (unicodeEscape code ++ rest) =
      (readString rest).map fun found => (Char.ofNat code :: found.1, found.2) := by
  have digits : hexValue (hexDigit (code / 4096)) * 4096 +
      hexValue (hexDigit (code / 256)) * 256 + hexValue (hexDigit (code / 16)) * 16 +
      hexValue (hexDigit code) = code := by
    simp only [hexValue_hexDigit]
    omega
  simp only [unicodeEscape, List.cons_append, List.nil_append, readString, digits]

theorem needsUnicode_small {rune : Char} (needed : needsUnicode rune) :
    rune.toNat < 65536 := by
  simp only [needsUnicode, Bool.or_eq_true, decide_eq_true_eq] at needed
  rcases needed with ((((small | rfl) | rfl) | rfl) | line) | paragraph
  · omega
  · decide
  · decide
  · decide
  · omega
  · omega

theorem readString_plain {rune : Char} (notQuote : rune ≠ '"') (notSlash : rune ≠ '\\')
    (rest : List Char) :
    readString (rune :: rest) =
      (readString rest).map fun found => (rune :: found.1, found.2) := by
  rw [readString.eq_def]
  split <;> simp_all

theorem readString_escapeRune (rune : Char) (rest : List Char) :
    readString (escapeRune rune ++ rest) =
      (readString rest).map fun found => (rune :: found.1, found.2) := by
  unfold escapeRune
  by_cases special : rune = '"' ∨ rune = '\\'
  · rw [if_pos special]
    rcases special with rfl | rfl <;> rfl
  · rw [if_neg special]
    obtain ⟨notQuote, notSlash⟩ := not_or.mp special
    split
    · rename_i newline
      rw [newline]
      rfl
    · split
      · rename_i carriage
        rw [carriage]
        rfl
      · split
        · rename_i tab
          rw [tab]
          rfl
        · split
          · rename_i needed
            rw [readString_unicode _ (needsUnicode_small needed), Char.ofNat_toNat]
          · exact readString_plain notQuote notSlash rest

theorem readString_escape (text rest : List Char) :
    readString (escape text ++ '"' :: rest) = some (text, rest) := by
  induction text with
  | nil => rfl
  | cons rune others ih =>
      have split : escape (rune :: others) ++ '"' :: rest =
          escapeRune rune ++ (escape others ++ '"' :: rest) := by
        simp [escape]
      rw [split, readString_escapeRune, ih]
      rfl

/-- A string literal ends where its text ends. -/
theorem escape_quote_inj {left right after other : List Char}
    (same : escape left ++ '"' :: after = escape right ++ '"' :: other) :
    left = right ∧ after = other := by
  have read := congrArg readString same
  rw [readString_escape, readString_escape] at read
  exact Prod.mk.inj (Option.some.inj read)

/-- How an object goes on after the text of its first member. -/
theorem encodeMembers_text (key value : String) (others : List (String × Scalar)) :
    encodeMembers ((key, .text value) :: others) =
      quote key ++ ':' :: '"' :: (escape value.toList ++
        '"' :: (if others = [] then ['}'] else ',' :: encodeMembers others)) := by
  cases others with
  | nil => simp [encodeMembers, Scalar.encode, quote]
  | cons next rest => simp [encodeMembers, Scalar.encode, quote]

theorem readScalar_encode (value : Scalar) (rest : List Char) :
    readScalar (value.encode ++ rest) = some (value, rest) := by
  cases value with
  | text value =>
      have split : (Scalar.text value).encode ++ rest =
          '"' :: (escape value.toList ++ '"' :: rest) := by
        simp [Scalar.encode, quote]
      rw [split, readScalar, readString_escape]
      simp
  | flag value => cases value <;> rfl

theorem readMember_encode (key : String) (value : Scalar) (rest : List Char) :
    readMember (quote key ++ ':' :: value.encode ++ rest) = some ((key, value), rest) := by
  have split : quote key ++ ':' :: value.encode ++ rest =
      '"' :: (escape key.toList ++ '"' :: (':' :: (value.encode ++ rest))) := by
    simp [quote]
  rw [split, readMember, readString_escape]
  simp only [readScalar_encode]
  simp

theorem readMembers_encode {members : List (String × Scalar)} {fuel : Nat}
    (enough : members.length ≤ fuel) :
    readMembers fuel (encodeMembers members) = some members := by
  induction members generalizing fuel with
  | nil => cases fuel <;> rfl
  | cons first others ih =>
      obtain ⟨key, value⟩ := first
      cases fuel with
      | zero => simp at enough
      | succ fuel =>
          have opened : ∀ rest, quote key ++ ':' :: value.encode ++ rest ≠ ['}'] := by
            intro rest same
            exact absurd (List.cons.inj same).1 (by decide)
          cases others with
          | nil =>
              rw [encodeMembers, readMembers, readMember_encode]
              · rfl
              · exact opened _
          | cons next rest =>
              have tail := ih (show (next :: rest).length ≤ fuel by simpa using enough)
              rw [encodeMembers, readMembers, readMember_encode]
              · simp only [tail, Option.map_some]
              · exact opened _

theorem length_le_encodeMembers (members : List (String × Scalar)) :
    members.length ≤ (encodeMembers members).length := by
  induction members with
  | nil => simp
  | cons first others ih =>
      cases others with
      | nil =>
          simp only [encodeMembers, List.length_append, List.length_cons]
          omega
      | cons next rest =>
          simp only [encodeMembers, List.length_append, List.length_cons] at ih ⊢
          omega

/-- What is written as an object is read back as its members. -/
theorem decodeObject_encodeObject (members : List (String × Scalar)) :
    decodeObject (encodeObject members) = some members := by
  rw [decodeObject, encodeObject, String.toList_ofList]
  exact readMembers_encode (length_le_encodeMembers members)

/-! ## Runes of an encoded object -/

theorem mem_escapeRune_percent (rune : Char) : '%' ∈ escapeRune rune ↔ rune = '%' := by
  have digits : ∀ value, hexDigit value ≠ '%' := by
    intro value
    have all : ∀ index : Fin 16, hexDigits.getD index.val '0' ≠ '%' := by decide
    exact all ⟨value % 16, Nat.mod_lt value (by decide)⟩
  unfold escapeRune
  split_ifs with special newline carriage tab unicode
  · rcases special with rfl | rfl <;> decide
  · subst newline
    decide
  · subst carriage
    decide
  · subst tab
    decide
  · have other : rune ≠ '%' := by
      rintro rfl
      exact absurd unicode (by decide)
    simp [unicodeEscape, fun value => (digits value).symm, other]
  · simp [eq_comm]

theorem mem_escape_percent (text : List Char) : '%' ∈ escape text ↔ '%' ∈ text := by
  simp [escape, mem_escapeRune_percent]

theorem mem_quote_percent (text : String) : '%' ∈ quote text ↔ '%' ∈ text.toList := by
  simp [quote, mem_escape_percent]

/-- The text of a scalar that may hold a percent sign. -/
def Scalar.runes : Scalar → List Char
  | .text value => value.toList
  | .flag _ => []

theorem mem_encode_percent (value : Scalar) : '%' ∈ value.encode ↔ '%' ∈ value.runes := by
  cases value with
  | text value => exact mem_quote_percent value
  | flag value => cases value <;> decide

theorem mem_encodeMembers_percent (members : List (String × Scalar)) :
    '%' ∈ encodeMembers members ↔
      ∃ member ∈ members, '%' ∈ member.1.toList ∨ '%' ∈ member.2.runes := by
  induction members with
  | nil => simp [encodeMembers]
  | cons first others ih =>
      obtain ⟨key, value⟩ := first
      cases others with
      | nil => simp [encodeMembers, mem_quote_percent, mem_encode_percent]
      | cons next rest =>
          rw [encodeMembers, List.mem_append, List.mem_append, List.mem_cons, List.mem_cons, ih]
          simp only [mem_quote_percent, mem_encode_percent]
          simp [or_assoc]

theorem mem_encodeObject_percent (members : List (String × Scalar)) :
    '%' ∈ (encodeObject members).toList ↔
      ∃ member ∈ members, '%' ∈ member.1.toList ∨ '%' ∈ member.2.runes := by
  rw [encodeObject, String.toList_ofList, List.mem_cons, mem_encodeMembers_percent]
  simp

end KubeAliyun.Text.Json
