import Mathlib.Data.List.Infix
import KubeAliyun.Text.Strings

/-!
# Formatting without operands

What `fmt.Sprintf` and `fmt.Printf` make of a format string when no operands are
given.  Every directive is then malformed or `%%`; the text comes out as it went
in exactly when it has no percent sign.
-/

namespace KubeAliyun.Text

/-! ## Directives -/

def isFlag (letter : Char) : Bool :=
  letter = '#' || letter = '0' || letter = '+' || letter = '-' || letter = ' '

/-- `parsenum`: digits up to the first other rune; an overflow gives up on the
rest of the text. -/
def parseNum (number : Nat) (isNumber : Bool) : List Char → Bool × List Char
  | [] => (isNumber, [])
  | letter :: rest =>
      if letter.isDigit then
        if number > 1000000 then (false, [])
        else parseNum (number * 10 + (letter.toNat - '0'.toNat)) true rest
      else (isNumber, letter :: rest)

/-- What `argNumber` reports: whether an index was read, and the text after it.
Without operands no index is good. -/
structure ArgNumber where
  good : Bool
  found : Bool
  rest : List Char

def argNumber (good : Bool) : List Char → ArgNumber
  | '[' :: more =>
      if more.length < 2 ∨ ']' ∉ more then ⟨false, false, more⟩
      else
        let inside := more.takeWhile (· ≠ ']')
        let number := parseNum 0 false inside
        ⟨false, number.1 && number.2.isEmpty, (more.dropWhile (· ≠ ']')).drop 1⟩
  | text => ⟨good, false, text⟩

/-- A stage of a directive: what it has written, whether the argument number is
still good, whether an index was read last, and the text to come. -/
structure Stage where
  out : List Char
  good : Bool
  found : Bool
  rest : List Char

def readWidth (index : ArgNumber) : Stage :=
  match index.rest with
  | '*' :: more => ⟨"%!(BADWIDTH)".toList, index.good, false, more⟩
  | text =>
      let number := parseNum 0 false text
      ⟨[], index.good && !(index.found && number.1), index.found, number.2⟩

def readPrecision (stage : Stage) : Stage :=
  match stage.rest with
  | '.' :: letter :: more =>
      let index := argNumber (stage.good && !stage.found) (letter :: more)
      match index.rest with
      | '*' :: after => ⟨stage.out ++ "%!(BADPREC)".toList, index.good, false, after⟩
      | text => ⟨stage.out, index.good, index.found, (parseNum 0 false text).2⟩
  | _ => stage

def writeVerb (out : List Char) (good : Bool) : List Char → List Char × List Char
  | [] => (out ++ "%!(NOVERB)".toList, [])
  | verb :: rest =>
      if verb = '%' then (out ++ ['%'], rest)
      else if good then (out ++ '%' :: '!' :: verb :: "(MISSING)".toList, rest)
      else (out ++ '%' :: '!' :: verb :: "(BADINDEX)".toList, rest)

/-- One directive, read after its percent sign: its output and the text after
it. -/
def directive (text : List Char) : List Char × List Char :=
  let stage := readPrecision (readWidth (argNumber true (text.dropWhile isFlag)))
  if stage.found then writeVerb stage.out stage.good stage.rest
  else
    let index := argNumber stage.good stage.rest
    writeVerb stage.out index.good index.rest

/-- `doPrintf` without operands; every round consumes a rune. -/
def formatRunes : Nat → List Char → List Char
  | 0, _ => []
  | _ + 1, [] => []
  | fuel + 1, letter :: rest =>
      if letter = '%' then
        (directive rest).1 ++ formatRunes fuel (directive rest).2
      else letter :: formatRunes fuel rest

def format (text : List Char) : List Char := formatRunes text.length text

def sprintf (text : String) : String := String.ofList (format text.toList)

/-! ## What a directive consumes and writes -/

theorem parseNum_suffix (number : Nat) (isNumber : Bool) (text : List Char) :
    (parseNum number isNumber text).2 <:+ text := by
  induction text generalizing number isNumber with
  | nil => exact List.suffix_rfl
  | cons letter rest ih =>
      unfold parseNum
      split
      · split
        · exact List.nil_suffix
        · exact (ih _ _).trans (List.suffix_cons letter rest)
      · exact List.suffix_rfl

theorem argNumber_suffix (good : Bool) (text : List Char) :
    (argNumber good text).rest <:+ text := by
  unfold argNumber
  split
  · rename_i more
    split
    · exact List.suffix_cons _ more
    · exact ((List.drop_suffix 1 _).trans (List.dropWhile_suffix _)).trans
        (List.suffix_cons _ more)
  · exact List.suffix_rfl

theorem readWidth_suffix (index : ArgNumber) : (readWidth index).rest <:+ index.rest := by
  unfold readWidth
  split
  · rename_i more same
    rw [same]
    exact List.suffix_cons _ more
  · exact parseNum_suffix _ _ _

theorem readPrecision_suffix (stage : Stage) :
    (readPrecision stage).rest <:+ stage.rest := by
  unfold readPrecision
  split
  · rename_i letter more same
    have index : (argNumber (stage.good && !stage.found) (letter :: more)).rest <:+
        stage.rest := by
      rw [same]
      exact (argNumber_suffix _ _).trans (List.suffix_cons _ _)
    simp only
    split
    · rename_i after found
      rw [found] at index
      exact (List.suffix_cons _ after).trans index
    · exact (parseNum_suffix _ _ _).trans index
  · exact List.suffix_rfl

theorem readWidth_out (index : ArgNumber) :
    (readWidth index).out = [] ∨ (readWidth index).out = "%!(BADWIDTH)".toList := by
  unfold readWidth
  split
  · exact Or.inr rfl
  · exact Or.inl rfl

theorem readPrecision_out (stage : Stage) :
    (readPrecision stage).out = stage.out ∨
      (readPrecision stage).out = stage.out ++ "%!(BADPREC)".toList := by
  unfold readPrecision
  split
  · simp only
    split
    · exact Or.inr rfl
    · exact Or.inl rfl
  · exact Or.inl rfl

/-- Every percent sign stands at the end or before an exclamation mark. -/
def banged : List Char → Bool
  | [] => true
  | letter :: rest =>
      (letter != '%' || rest.isEmpty || rest.head? == some '!') && banged rest

theorem banged_percent {front back : List Char} {letter : Char}
    (all : banged (front ++ '%' :: letter :: back)) : letter = '!' := by
  induction front with
  | nil =>
      simp only [List.nil_append, banged, Bool.and_eq_true] at all
      simpa using all.1
  | cons first rest ih =>
      simp only [List.cons_append, banged, Bool.and_eq_true] at all
      exact ih all.2

/-- The output of a directive before its verb. -/
def Preamble (out : List Char) : Prop :=
  ∀ rest, banged (out ++ rest) = banged rest

theorem preamble_nil : Preamble [] := fun _ => rfl

theorem preamble_width : Preamble "%!(BADWIDTH)".toList := fun _ => rfl

theorem Preamble.precision {out : List Char} (before : Preamble out) :
    Preamble (out ++ "%!(BADPREC)".toList) := by
  intro rest
  rw [List.append_assoc, before]
  rfl

theorem preamble_stage (index : ArgNumber) :
    Preamble (readPrecision (readWidth index)).out := by
  have width : Preamble (readWidth index).out := by
    rcases readWidth_out index with same | same
    · rw [same]
      exact preamble_nil
    · rw [same]
      exact preamble_width
  rcases readPrecision_out (readWidth index) with same | same
  · rw [same]
    exact width
  · rw [same]
    exact width.precision

theorem writeVerb_banged {out : List Char} (before : Preamble out) (good : Bool)
    (text : List Char) : banged (writeVerb out good text).1 := by
  cases text with
  | nil =>
      simp only [writeVerb]
      rw [before]
      rfl
  | cons verb rest =>
      simp only [writeVerb]
      by_cases percent : verb = '%'
      · rw [if_pos percent, before]
        rfl
      · rw [if_neg percent]
        cases good <;>
          · simp only [if_true, Bool.false_eq_true, if_false]
            rw [before]
            simp [banged, percent]

theorem writeVerb_suffix (out : List Char) (good : Bool) (text : List Char) :
    (writeVerb out good text).2 <:+ text.tail := by
  cases text with
  | nil => exact List.suffix_rfl
  | cons verb rest =>
      simp only [writeVerb]
      split
      · exact List.suffix_rfl
      · split <;> exact List.suffix_rfl

theorem directive_banged (text : List Char) : banged (directive text).1 := by
  unfold directive
  simp only
  split <;> exact writeVerb_banged (preamble_stage _) _ _

/-- The rest of a directive is a suffix of the text after its first rune. -/
theorem directive_suffix (text : List Char) : (directive text).2 <:+ text.tail := by
  have stage := ((readPrecision_suffix (readWidth (argNumber true
    (text.dropWhile isFlag)))).trans ((readWidth_suffix _).trans
      (argNumber_suffix true _))).trans (List.dropWhile_suffix isFlag)
  have tails : ∀ {shorter : List Char}, shorter <:+ text → shorter.tail <:+ text.tail := by
    rintro shorter ⟨front, same⟩
    rw [← same]
    cases front with
    | nil => exact List.suffix_rfl
    | cons first rest => exact (List.tail_suffix _).trans (List.suffix_append rest _)
  unfold directive
  simp only
  split
  · exact (writeVerb_suffix _ _ _).trans (tails stage)
  · exact (writeVerb_suffix _ _ _).trans (tails ((argNumber_suffix _ _).trans stage))

theorem directive_bang (text : List Char) :
    directive ('!' :: text) = ("%!!(MISSING)".toList, text) := rfl

/-! ## The whole text -/

theorem formatRunes_enough {text : List Char} {fuel more : Nat}
    (enough : text.length ≤ fuel) (also : text.length ≤ more) :
    formatRunes fuel text = formatRunes more text := by
  induction fuel generalizing text more with
  | zero =>
      have empty : text = [] := List.length_eq_zero_iff.mp (by omega)
      subst empty
      cases more <;> rfl
  | succ fuel ih =>
      cases text with
      | nil => cases more <;> rfl
      | cons letter rest =>
          cases more with
          | zero => simp at also
          | succ more =>
              have shorter : (directive rest).2.length ≤ rest.length :=
                ((directive_suffix rest).trans (List.tail_suffix rest)).length_le
              simp only [List.length_cons] at enough also
              have after : formatRunes fuel (directive rest).2 =
                  formatRunes more (directive rest).2 := ih (by omega) (by omega)
              have plain : formatRunes fuel rest = formatRunes more rest :=
                ih (by omega) (by omega)
              simp only [formatRunes, after, plain]

theorem format_plain {letter : Char} (plain : letter ≠ '%') (rest : List Char) :
    format (letter :: rest) = letter :: format rest := by
  simp [format, formatRunes, plain]

theorem format_percent (rest : List Char) :
    format ('%' :: rest) = (directive rest).1 ++ format (directive rest).2 := by
  have shorter : (directive rest).2.length ≤ rest.length :=
    ((directive_suffix rest).trans (List.tail_suffix rest)).length_le
  simp only [format, List.length_cons, formatRunes, if_true]
  rw [formatRunes_enough shorter le_rfl]

theorem format_plain_append {front : List Char} (plain : '%' ∉ front)
    (rest : List Char) : format (front ++ rest) = front ++ format rest := by
  induction front with
  | nil => rfl
  | cons letter front ih =>
      have first : letter ≠ '%' := fun same => plain (by simp [same])
      have others : '%' ∉ front := fun member => plain (List.mem_cons_of_mem _ member)
      rw [List.cons_append, format_plain first, ih others, List.cons_append]

theorem format_of_plain {text : List Char} (plain : '%' ∉ text) : format text = text := by
  have whole := format_plain_append plain []
  simpa [format, formatRunes] using whole

/-- No text is its own output with something plain in front: the output would be
such a text again, and shorter. -/
theorem ne_plain_append_format {front : List Char} (plain : '%' ∉ front)
    (something : front ≠ []) (text : List Char) : text ≠ front ++ format text := by
  intro same
  induction size : text.length using Nat.strong_induction_on generalizing text with
  | _ length ih =>
      have positive : 0 < front.length := List.length_pos_iff.mpr something
      have sizes : text.length = front.length + (format text).length := by
        rw [← List.length_append, ← same]
      refine ih (format text).length (by omega) (format text) ?_ rfl
      conv => lhs; rw [same]
      exact format_plain_append plain (format text)

/-- The output for `%!` does not end in the text it was made from. -/
theorem missing_ne {rest : List Char}
    (shorter : ∀ {before : List Char}, format rest = before ++ rest → before = [])
    (before : List Char) :
    "%!!(MISSING)".toList ++ format rest ≠ before ++ '%' :: '!' :: rest := by
  intro same
  have regroup : before ++ '%' :: '!' :: rest = (before ++ ['%', '!']) ++ rest := by simp
  rw [regroup] at same
  rcases List.append_eq_append_iff.mp same with ⟨more, longer, output⟩ | ⟨more, longer, output⟩
  · have nothing := shorter output
    subst nothing
    have last := congrArg List.getLast? longer
    rw [List.getLast?_append, List.append_nil] at last
    exact absurd (show some '!' = some ')' from last) (by decide)
  · cases before with
    | nil =>
        have tail : more = "!(MISSING)".toList := by
          exact (List.append_cancel_left (show ['%', '!'] ++ "!(MISSING)".toList =
            ['%', '!'] ++ more from longer)).symm
        rw [tail] at output
        exact ne_plain_append_format (by decide) (by decide) rest output
    | cons first others =>
        have tail : "!!(MISSING)".toList = others ++ '%' :: '!' :: more := by
          have shifted : '%' :: "!!(MISSING)".toList =
              first :: (others ++ '%' :: '!' :: more) := by
            rw [← List.cons_append, show (first :: others) ++ '%' :: '!' :: more =
              ((first :: others) ++ ['%', '!']) ++ more by simp]
            exact longer
          exact (List.cons.inj shifted).2
        have member : '%' ∈ "!!(MISSING)".toList := by
          rw [tail]
          simp
        exact absurd member (by decide)

/-- A text that starts with a percent sign does not stand at the end of its own
output, provided shorter texts that do are plain. -/
theorem format_percent_ne {rest : List Char}
    (shorter : ∀ {text before : List Char}, text.length < rest.length + 1 →
      format text = before ++ text → before = [])
    (before : List Char) : format ('%' :: rest) ≠ before ++ '%' :: rest := by
  intro same
  rw [format_percent] at same
  cases rest with
  | nil =>
      have last := congrArg List.getLast? same
      have output : (directive []).1 ++ format (directive []).2 = "%!(NOVERB)".toList := rfl
      rw [output, List.getLast?_append] at last
      exact absurd (show some ')' = some '%' from last) (by decide)
  | cons letter rest =>
      by_cases bang : letter = '!'
      · subst bang
        rw [directive_bang] at same
        exact missing_ne (fun found => shorter (by simp only [List.length_cons]; omega) found)
          before same
      · -- the directive consumes the rune after its percent sign, and its output
        -- shows that rune after no percent sign
        obtain ⟨consumed, split⟩ := directive_suffix (letter :: rest)
        have whole : before ++ '%' :: letter :: rest =
            (before ++ '%' :: letter :: consumed) ++ (directive (letter :: rest)).2 := by
          rw [List.tail_cons] at split
          simp [split]
        have banged := directive_banged (letter :: rest)
        rw [whole] at same
        rcases List.append_eq_append_iff.mp same with
          ⟨more, longer, output⟩ | ⟨more, longer, -⟩
        · have size : (directive (letter :: rest)).2.length < (letter :: rest).length + 1 := by
            have bound := (directive_suffix (letter :: rest)).length_le
            simp only [List.tail_cons] at bound
            simp only [List.length_cons]
            omega
          have nothing := shorter size output
          subst nothing
          rw [List.append_nil] at longer
          rw [← longer] at banged
          exact bang (banged_percent banged)
        · rw [longer, List.append_assoc] at banged
          exact bang (banged_percent banged)

/-- Where the text stands at the end of its own output, nothing stands before it
and it has no percent sign. -/
theorem format_eq_append {text before : List Char}
    (same : format text = before ++ text) : before = [] ∧ '%' ∉ text := by
  induction size : text.length using Nat.strong_induction_on generalizing text before with
  | _ length ih =>
      subst size
      cases text with
      | nil =>
          have none : before ++ [] = [] := same.symm
          exact ⟨by simpa using none, by simp⟩
      | cons letter rest =>
          by_cases percent : letter = '%'
          · subst percent
            exact absurd same (format_percent_ne
              (fun shorter found => (ih _ shorter found rfl).1) before)
          · rw [format_plain percent] at same
            cases before with
            | nil =>
                have tail : format rest = [] ++ rest := (List.cons.inj same).2
                have plain := (ih rest.length (by simp) tail rfl).2
                exact ⟨rfl, by simp [Ne.symm percent, plain]⟩
            | cons first others =>
                have tail : format rest = (others ++ [letter]) ++ rest := by
                  simpa using (List.cons.inj same).2
                have impossible := (ih rest.length (by simp) tail rfl).1
                simp at impossible

/-- Formatting without operands returns a text unchanged exactly when the text
has no percent sign. -/
theorem sprintf_eq_iff (text : String) : sprintf text = text ↔ '%' ∉ text.toList := by
  have unpacked : sprintf text = text ↔ format text.toList = text.toList := by
    rw [← String.toList_inj, sprintf, String.toList_ofList]
  rw [unpacked]
  constructor
  · intro same
    exact (format_eq_append (show format text.toList = [] ++ text.toList from same)).2
  · intro plain
    exact format_of_plain plain

end KubeAliyun.Text
