import KubeAliyun.Text.Format
import KubeAliyun.Text.Json

/-!
# Formatting, encoding and formatting again

A text is formatted, written into a JSON literal, and the literal is formatted
once more.  The text comes out unchanged only if it has no percent sign: a second
round of formatting never repairs the first.
-/

namespace KubeAliyun.Text

open Json (escape escapeRune)

/-! ## Suffixes -/

/-- A suffix of a concatenation lies in its second part or reaches into the
first. -/
theorem suffix_append_cases {whole front back : List Char} (ending : whole <:+ front ++ back) :
    whole <:+ back ∨ ∃ part, part ≠ [] ∧ part <:+ front ∧ whole = part ++ back := by
  obtain ⟨before, same⟩ := ending
  rcases List.append_eq_append_iff.mp same with ⟨part, split, shape⟩ | ⟨part, -, shape⟩
  · by_cases empty : part = []
    · refine Or.inl ⟨[], ?_⟩
      rw [shape, empty]
      rfl
    · exact Or.inr ⟨part, empty, ⟨before, split.symm⟩, shape⟩
  · exact Or.inl ⟨part, shape.symm⟩

theorem banged_of_suffix {part whole : List Char} (ending : part <:+ whole)
    (all : banged whole) : banged part := by
  obtain ⟨before, rfl⟩ := ending
  induction before with
  | nil => exact all
  | cons letter before ih =>
      simp only [List.cons_append, banged, Bool.and_eq_true] at all
      exact ih all.2

/-- A percent sign stands alone or is followed by an exclamation mark. -/
theorem banged_cases {rest : List Char} (all : banged ('%' :: rest)) :
    rest = [] ∨ ∃ more, rest = '!' :: more := by
  cases rest with
  | nil => exact Or.inl rfl
  | cons letter more =>
      have bang : letter = '!' :=
        banged_percent (show banged ([] ++ '%' :: letter :: more) from all)
      exact Or.inr ⟨more, by rw [bang]⟩

/-! ## Escaped texts -/

theorem escape_cons (rune : Char) (text : List Char) :
    escape (rune :: text) = escapeRune rune ++ escape text := by
  simp [escape]

theorem escape_append (left right : List Char) :
    escape (left ++ right) = escape left ++ escape right := by
  simp [escape]

theorem banged_plain_append {front : List Char} (plain : '%' ∉ front) (rest : List Char) :
    banged (front ++ rest) = banged rest := by
  induction front with
  | nil => rfl
  | cons letter front ih =>
      have first : letter ≠ '%' := fun same => plain (by simp [same])
      have others : '%' ∉ front := fun member => plain (List.mem_cons_of_mem _ member)
      simp [banged, first, ih others]

theorem banged_escape {text : List Char} (all : banged text) : banged (escape text) := by
  induction text with
  | nil => rfl
  | cons rune rest ih =>
      have later : banged rest := banged_of_suffix (List.suffix_cons rune rest) all
      rw [escape_cons]
      by_cases percent : rune = '%'
      · subst percent
        rcases banged_cases all with rfl | ⟨more, rfl⟩
        · rfl
        · have kept := ih later
          rw [escape_cons] at kept ⊢
          exact kept
      · have plain : '%' ∉ escapeRune rune := by
          rw [Json.mem_escapeRune_percent]
          exact percent
        rw [banged_plain_append plain]
        exact ih later

/-- An escaped rune is the rune itself or starts with a backslash. -/
theorem escapeRune_cases (rune : Char) :
    escapeRune rune = [rune] ∨ ∃ more, escapeRune rune = '\\' :: more := by
  unfold escapeRune
  split_ifs
  · exact Or.inr ⟨_, rfl⟩
  · exact Or.inr ⟨_, rfl⟩
  · exact Or.inr ⟨_, rfl⟩
  · exact Or.inr ⟨_, rfl⟩
  · exact Or.inr ⟨_, rfl⟩
  · exact Or.inl rfl

/-- A rune at the start of an escaped text, if it is neither a backslash nor the
closing quote, is the first rune of the text. -/
theorem escape_starts {text ending rest : List Char} {rune : Char}
    (quoted : ∃ more, ending = '"' :: more) (notSlash : rune ≠ '\\') (notQuote : rune ≠ '"')
    (same : escape text ++ ending = rune :: rest) :
    ∃ others, text = rune :: others ∧ escape others ++ ending = rest := by
  cases text with
  | nil =>
      obtain ⟨more, rfl⟩ := quoted
      exact absurd (List.cons.inj same).1.symm notQuote
  | cons first others =>
      rw [escape_cons] at same
      rcases escapeRune_cases first with plain | ⟨more, slashed⟩
      · rw [plain] at same
        obtain ⟨equal, tail⟩ := List.cons.inj same
        exact ⟨others, by rw [equal], tail⟩
      · rw [slashed] at same
        exact absurd (List.cons.inj same).1.symm notSlash

theorem escape_starts_with {text ending rest word : List Char}
    (quoted : ∃ more, ending = '"' :: more) (ordinary : '\\' ∉ word ∧ '"' ∉ word)
    (same : escape text ++ ending = word ++ rest) :
    ∃ others, text = word ++ others ∧ escape others ++ ending = rest := by
  induction word generalizing text with
  | nil => exact ⟨text, rfl, same⟩
  | cons rune word ih =>
      have notSlash : rune ≠ '\\' := fun equal => ordinary.1 (by simp [equal])
      have notQuote : rune ≠ '"' := fun equal => ordinary.2 (by simp [equal])
      obtain ⟨others, rfl, tail⟩ := escape_starts quoted notSlash notQuote same
      obtain ⟨last, rfl, final⟩ := ih
        ⟨fun member => ordinary.1 (List.mem_cons_of_mem _ member),
          fun member => ordinary.2 (List.mem_cons_of_mem _ member)⟩ tail
      exact ⟨last, rfl, final⟩

/-! ## No way back -/

/-- The inside of a `%!!(MISSING)` after its first two runes. -/
def missing : List Char := "!(MISSING)".toList

section Cycle

variable {first second : List Char}

/-- Two texts cannot each start with what is missing and go on with the output
for the other: dropping it from both leaves two shorter texts of that kind. -/
theorem no_missing_pair (quoted : ∃ more, second = '"' :: more) (text : List Char) :
    escape text ++ second ≠
      missing ++ format (missing ++ (escape (format text) ++ first)) := by
  intro same
  induction size : text.length using Nat.strong_induction_on generalizing text with
  | _ length ih =>
      have plain : '%' ∉ missing := by decide
      obtain ⟨others, rfl, tail⟩ := escape_starts_with quoted (by decide) same
      have formatted : format (missing ++ others) = missing ++ format others :=
        format_plain_append plain others
      have escaped : escape missing = missing := rfl
      rw [formatted, escape_append, escaped, format_plain_append plain,
        List.append_assoc] at tail
      refine ih others.length ?_ others tail rfl
      have positive : 0 < missing.length := by decide
      rw [← size, List.length_append]
      omega

/-- Nothing that starts with a percent sign follows the first rune of
`%!!(MISSING)`. -/
theorem suffix_missing {part : List Char} (ending : '%' :: part <:+ '%' :: '!' :: missing) :
    part = '!' :: missing := by
  rcases List.suffix_cons_iff.mp ending with same | inside
  · exact (List.cons.inj same).2
  · have member : '%' ∈ '!' :: missing := inside.subset List.mem_cons_self
    exact absurd member (by decide)

theorem escape_suffix {part whole : List Char} (ending : part <:+ whole) (rest : List Char) :
    escape part ++ rest <:+ escape whole ++ rest := by
  obtain ⟨before, rfl⟩ := ending
  rw [escape_append, List.append_assoc]
  exact List.suffix_append _ _

/-- The text leads to the shown text by formatting and escaping, and the shown
text leads back by formatting, up to what stands before. -/
def Returns (first second text shown : List Char) : Prop :=
  shown <:+ escape (format text) ++ first ∧ escape text ++ second <:+ format shown

/-- A plain text is shown as it is. -/
theorem returns_of_plain {text shown : List Char} (firstPlain : '%' ∉ first)
    (size : first.length ≤ second.length) (plain : '%' ∉ text)
    (returns : Returns first second text shown) : shown = escape text ++ first := by
  obtain ⟨left, right⟩ := returns
  rw [format_of_plain plain] at left
  have shownPlain : '%' ∉ shown := by
    intro member
    rcases List.mem_append.mp (left.subset member) with inside | inside
    · exact plain ((Json.mem_escape_percent text).mp inside)
    · exact firstPlain inside
  rw [format_of_plain shownPlain] at right
  have upper := left.length_le
  have lower := right.length_le
  simp only [List.length_append] at upper lower
  exact left.eq_of_length_le (by simp only [List.length_append]; omega)

/-- A plain first rune can be dropped on both sides. -/
theorem returns_tail {rune : Char} {rest shown : List Char} (plain : rune ≠ '%')
    (returns : Returns first second (rune :: rest) shown) :
    Returns first second rest shown ∨
      Returns first second rest (escape (format rest) ++ first) ∧
        (escape (format rest) ++ first).length < shown.length := by
  obtain ⟨left, right⟩ := returns
  have unescaped : '%' ∉ escapeRune rune := by
    rw [Json.mem_escapeRune_percent]
    exact plain
  rw [format_plain plain, escape_cons, List.append_assoc] at left
  rw [escape_cons, List.append_assoc] at right
  rcases suffix_append_cases left with inside | ⟨part, something, inside, rfl⟩
  · exact Or.inl ⟨inside, (List.suffix_append _ _).trans right⟩
  · have partPlain : '%' ∉ part := fun member => unescaped (inside.subset member)
    have bound := right.length_le
    rw [format_plain_append partPlain] at right bound
    have partSize := inside.length_le
    have positive := List.length_pos_iff.mpr something
    simp only [List.length_append] at bound
    refine Or.inr ⟨⟨List.suffix_rfl, ?_⟩, ?_⟩
    · refine List.suffix_of_suffix_length_le ((List.suffix_append _ _).trans right)
        (List.suffix_append part _) ?_
      simp only [List.length_append]
      omega
    · simp only [List.length_append]
      omega

/-- Both directives write a single percent sign: what they leave is a smaller
pair, and it leaves no room for the rune the second directive has consumed. -/
theorem not_single_percents {rest shown : List Char}
    (firstQuoted : ∃ more, first = '"' :: more)
    (shownShape : shown = escape (format (directive rest).2) ++ first)
    (restShape : escape rest ++ second = format (directive shown).2)
    (smaller : ∀ {other view : List Char},
      other.length + view.length < rest.length + shown.length + 2 →
      Returns first second other view → '%' ∉ other ∧ view = escape other ++ first) :
    False := by
  have restEnds := (directive_suffix rest).trans (List.tail_suffix rest)
  have shownEnds := (directive_suffix shown).trans (List.tail_suffix shown)
  have restSize := restEnds.length_le
  have shownSize := shownEnds.length_le
  have returns : Returns first second (directive rest).2 (directive shown).2 := by
    refine ⟨?_, ?_⟩
    · rw [← shownShape]
      exact shownEnds
    · rw [← restShape]
      exact escape_suffix restEnds second
  obtain ⟨plain, same⟩ := smaller (by omega) returns
  rw [format_of_plain plain, ← same] at shownShape
  have shorter := (directive_suffix shown).length_le
  obtain ⟨more, rfl⟩ := firstQuoted
  have positive := congrArg List.length same
  rw [List.length_append, List.length_cons] at positive
  rw [List.length_tail, ← shownShape] at shorter
  have sizes := congrArg List.length shownShape
  omega

/-- Both texts start with a percent sign: then there is a smaller pair, or the
two directives contradict each other. -/
theorem not_returns_percents {rest shown : List Char}
    (firstPlain : '%' ∉ first) (firstQuoted : ∃ more, first = '"' :: more)
    (secondQuoted : ∃ more, second = '"' :: more)
    (smaller : ∀ {other view : List Char},
      other.length + view.length < rest.length + shown.length + 2 →
      Returns first second other view → '%' ∉ other ∧ view = escape other ++ first) :
    ¬Returns first second ('%' :: rest) ('%' :: shown) := by
  rintro ⟨left, right⟩
  rw [format_percent, escape_append, List.append_assoc] at left
  rw [show escape ('%' :: rest) = '%' :: escape rest from rfl, List.cons_append,
    format_percent] at right
  have restEnds := (directive_suffix rest).trans (List.tail_suffix rest)
  have shownEnds := (directive_suffix shown).trans (List.tail_suffix shown)
  have restSize := restEnds.length_le
  have shownSize := shownEnds.length_le
  rcases suffix_append_cases left with inside | ⟨part, something, inPart, shape⟩
  · -- the whole shown text comes from what the directive leaves
    have returns : Returns first second (directive rest).2 ('%' :: shown) := by
      refine ⟨inside, ?_⟩
      rw [format_percent]
      exact ((escape_suffix restEnds second).trans (List.suffix_cons _ _)).trans right
    obtain ⟨plain, same⟩ := smaller (by simp only [List.length_cons]; omega) returns
    have member : '%' ∈ escape (directive rest).2 ++ first := by
      rw [← same]
      exact List.mem_cons_self
    rcases List.mem_append.mp member with inText | inFirst
    · exact plain ((Json.mem_escape_percent _).mp inText)
    · exact firstPlain inFirst
  rcases suffix_append_cases right with inside | ⟨answer, nonempty, inAnswer, form⟩
  · -- the whole text comes back from what the second directive leaves
    have returns : Returns first second ('%' :: rest) (directive shown).2 := by
      refine ⟨?_, inside⟩
      rw [format_percent, escape_append, List.append_assoc]
      exact (shownEnds.trans (List.suffix_cons _ _)).trans left
    have plain := (smaller (by simp only [List.length_cons]; omega) returns).1
    exact plain List.mem_cons_self
  obtain ⟨percent, partRest, rfl⟩ := List.exists_cons_of_ne_nil something
  obtain ⟨rfl, shownShape⟩ : '%' = percent ∧
      shown = partRest ++ (escape (format (directive rest).2) ++ first) :=
    List.cons.inj shape
  obtain ⟨percent, answerRest, rfl⟩ := List.exists_cons_of_ne_nil nonempty
  obtain ⟨rfl, restShape⟩ : '%' = percent ∧
      escape rest ++ second = answerRest ++ format (directive shown).2 :=
    List.cons.inj form
  have escaped := banged_of_suffix inPart (banged_escape (directive_banged rest))
  have answered := banged_of_suffix inAnswer (directive_banged shown)
  rcases banged_cases escaped with rfl | ⟨more, rfl⟩
  · rcases banged_cases answered with rfl | ⟨more, rfl⟩
    · -- both directives write a single percent sign
      rw [List.nil_append] at shownShape restShape
      exact not_single_percents firstQuoted shownShape restShape smaller
    · -- the text would continue with an exclamation mark
      obtain ⟨others, rfl, -⟩ := escape_starts secondQuoted (by decide) (by decide) restShape
      rw [directive_bang] at inPart
      exact absurd (suffix_missing inPart) (by decide)
  · -- both directives are the one for an exclamation mark
    rw [List.cons_append] at shownShape
    subst shownShape
    rw [directive_bang] at inAnswer restShape
    have written := suffix_missing inAnswer
    subst written
    obtain ⟨others, rfl, tail⟩ := escape_starts secondQuoted (by decide) (by decide) restShape
    rw [directive_bang] at inPart tail
    have same := suffix_missing inPart
    cases same
    exact no_missing_pair secondQuoted others tail

/-- A text that comes back has no percent sign, and is shown as it is. -/
theorem returns_plain (firstPlain : '%' ∉ first) (size : first.length ≤ second.length)
    (firstQuoted : ∃ more, first = '"' :: more)
    (secondQuoted : ∃ more, second = '"' :: more) {text shown : List Char}
    (returns : Returns first second text shown) :
    '%' ∉ text ∧ shown = escape text ++ first := by
  induction total : text.length + shown.length using Nat.strong_induction_on
    generalizing text shown with
  | _ total ih =>
      subst total
      suffices plain : '%' ∉ text from ⟨plain, returns_of_plain firstPlain size plain returns⟩
      cases text with
      | nil => exact List.not_mem_nil
      | cons rune rest =>
          by_cases percent : rune = '%'
          · subst percent
            exfalso
            cases shown with
            | nil =>
                have none : escape ('%' :: rest) ++ second = [] :=
                  List.suffix_nil.mp returns.2
                cases none
            | cons letter others =>
                by_cases also : letter = '%'
                · subst also
                  refine not_returns_percents firstPlain firstQuoted secondQuoted ?_ returns
                  intro other view bound again
                  exact ih _ (by simp only [List.length_cons]; omega) again rfl
                · -- a plain rune is not where the text starts
                  obtain ⟨left, right⟩ := returns
                  rw [format_plain also] at right
                  rcases List.suffix_cons_iff.mp right with same | inside
                  · exact also (List.cons.inj same).1.symm
                  · have again : Returns first second ('%' :: rest) others :=
                      ⟨(List.suffix_cons letter others).trans left, inside⟩
                    have plain := (ih _ (by simp only [List.length_cons]; omega) again rfl).1
                    exact plain List.mem_cons_self
          · have tail : '%' ∉ rest := by
              rcases returns_tail percent returns with again | ⟨again, shorter⟩
              · exact (ih _ (by simp only [List.length_cons]; omega) again rfl).1
              · exact (ih _ (by simp only [List.length_cons]; omega) again rfl).1
            simp [Ne.symm percent, tail]

end Cycle

end KubeAliyun.Text
