/-!
# Cutting text

Three ways to cut a list of characters in two: at the first occurrence of a character, at its
last occurrence, and at the first occurrence of a word. The mark itself belongs to neither part,
so the two parts with the mark between them are the text again. White space is cut off at both
ends.
-/

namespace Footage.Text

set_option autoImplicit false

def cutFirst (mark : Char) : List Char → Option (List Char × List Char)
  | [] => none
  | char :: rest =>
      if char = mark then some ([], rest)
      else (cutFirst mark rest).map fun (before, after) => (char :: before, after)

def cutLast (mark : Char) : List Char → Option (List Char × List Char)
  | [] => none
  | char :: rest =>
      match cutLast mark rest with
      | some (before, after) => some (char :: before, after)
      | none => if char = mark then some ([], rest) else none

/-- The text after `word` when the text starts with it. -/
def afterWord : List Char → List Char → Option (List Char)
  | [], text => some text
  | _ :: _, [] => none
  | expected :: word, char :: text => if char = expected then afterWord word text else none

def cutWord (word : List Char) : List Char → Option (List Char × List Char)
  | [] => (afterWord word []).map fun after => ([], after)
  | char :: rest =>
      match afterWord word (char :: rest) with
      | some after => some ([], after)
      | none => (cutWord word rest).map fun (before, after) => (char :: before, after)

def pieces (mark : Char) : List Char → List (List Char)
  | [] => [[]]
  | char :: rest =>
      if char = mark then [] :: pieces mark rest
      else
        match pieces mark rest with
        | [] => [[char]]
        | piece :: others => (char :: piece) :: others

def isSpace (char : Char) : Bool :=
  let code := char.toNat
  (0x09 ≤ code && code ≤ 0x0D) || code == 0x20 || code == 0x85 || code == 0xA0 ||
    code == 0x1680 || (0x2000 ≤ code && code ≤ 0x200A) || code == 0x2028 || code == 0x2029 ||
    code == 0x202F || code == 0x205F || code == 0x3000

def trimmed (text : List Char) : List Char :=
  ((text.dropWhile isSpace).reverse.dropWhile isSpace).reverse

theorem cut_first_eq_some {mark : Char} {text before after : List Char}
    (found : cutFirst mark text = some (before, after)) :
    text = before ++ mark :: after ∧ mark ∉ before := by
  induction text generalizing before with
  | nil => simp [cutFirst] at found
  | cons char rest ih =>
      by_cases same : char = mark
      · simp [cutFirst, same] at found
        obtain ⟨rfl, rfl⟩ := found
        simp [same]
      · simp only [cutFirst, same, if_false, Option.map_eq_some_iff, Prod.exists,
          Prod.mk.injEq] at found
        obtain ⟨front, back, inner, rfl, rfl⟩ := found
        obtain ⟨joined, absent⟩ := ih inner
        simp [joined, absent, Ne.symm same]

theorem cut_first_mark {mark : Char} {before : List Char} (unmarked : mark ∉ before)
    (after : List Char) : cutFirst mark (before ++ mark :: after) = some (before, after) := by
  induction before with
  | nil => exact if_pos rfl
  | cons char before ih =>
      rw [List.mem_cons, not_or] at unmarked
      obtain ⟨differs, absent⟩ := unmarked
      rw [List.cons_append, cutFirst, if_neg (Ne.symm differs), ih absent]
      rfl

/-- What has no mark in front lies before the first one. -/
theorem unmarked_front {mark : Char} {front rest before after : List Char}
    (unmarked : mark ∉ front) (same : front ++ rest = before ++ mark :: after) :
    front <+: before := by
  rcases List.append_eq_append_iff.mp same with ⟨more, whole, -⟩ | ⟨more, whole, behind⟩
  · exact ⟨more, whole.symm⟩
  · cases more with
    | nil => exact ⟨[], by rw [whole, List.append_nil, List.append_nil]⟩
    | cons char more =>
        rw [List.cons_append] at behind
        have marked : mark ∈ front := by
          rw [whole, (List.cons.inj behind).1]
          simp
        exact absurd marked unmarked

theorem cut_last_eq_none {mark : Char} {text : List Char} :
    cutLast mark text = none ↔ mark ∉ text := by
  induction text with
  | nil => simp [cutLast]
  | cons char rest ih =>
      rw [List.mem_cons, not_or, ← ih]
      cases behind : cutLast mark rest with
      | some cut => simp [cutLast, behind]
      | none => simp [cutLast, behind, eq_comm]

theorem cut_last_eq_some {mark : Char} {text before after : List Char}
    (found : cutLast mark text = some (before, after)) :
    text = before ++ mark :: after ∧ mark ∉ after := by
  induction text generalizing before after with
  | nil => simp [cutLast] at found
  | cons char rest ih =>
      unfold cutLast at found
      split at found
      · next front back inner =>
          simp only [Option.some.injEq, Prod.mk.injEq] at found
          obtain ⟨rfl, rfl⟩ := found
          obtain ⟨joined, absent⟩ := ih inner
          exact ⟨by simp [joined], absent⟩
      · next absent =>
          split at found
          · next same =>
              simp only [Option.some.injEq, Prod.mk.injEq] at found
              obtain ⟨rfl, rfl⟩ := found
              exact ⟨by simp [same], cut_last_eq_none.mp absent⟩
          · simp at found

theorem cut_last_mark {mark : Char} (before : List Char) {after : List Char}
    (unmarked : mark ∉ after) : cutLast mark (before ++ mark :: after) = some (before, after) := by
  induction before with
  | nil =>
      rw [List.nil_append, cutLast, cut_last_eq_none.mpr unmarked]
      exact if_pos rfl
  | cons char before ih => rw [List.cons_append, cutLast, ih]

theorem exists_last_mark {mark : Char} {text : List Char} (member : mark ∈ text) :
    ∃ before after, text = before ++ mark :: after ∧ mark ∉ after := by
  cases cut : cutLast mark text with
  | none => exact absurd member (cut_last_eq_none.mp cut)
  | some parts => exact ⟨parts.1, parts.2, cut_last_eq_some cut⟩

theorem after_word_eq_some {word text after : List Char} :
    afterWord word text = some after ↔ text = word ++ after := by
  induction word generalizing text with
  | nil => simp [afterWord]
  | cons expected word ih =>
      cases text with
      | nil => simp [afterWord]
      | cons char text =>
          by_cases same : char = expected
          · simp [afterWord, same, ih]
          · simp [afterWord, same]

/-- A word is cut out where it occurs first. -/
theorem cut_word_eq_some {word text before after : List Char} (filled : word ≠ [])
    (found : cutWord word text = some (before, after)) :
    text = before ++ word ++ after ∧ ¬word <:+: before := by
  induction text generalizing before with
  | nil =>
      rw [cutWord, Option.map_eq_some_iff] at found
      obtain ⟨rest, nothing, same⟩ := found
      cases same
      refine ⟨after_word_eq_some.mp nothing, ?_⟩
      exact fun inside => filled (List.infix_nil.mp inside)
  | cons char rest ih =>
      unfold cutWord at found
      split at found
      · next later here =>
          cases found
          refine ⟨after_word_eq_some.mp here, ?_⟩
          exact fun inside => filled (List.infix_nil.mp inside)
      · next missing =>
          rw [Option.map_eq_some_iff] at found
          obtain ⟨⟨front, back⟩, inner, same⟩ := found
          cases same
          obtain ⟨joined, absent⟩ := ih inner
          refine ⟨by rw [joined]; rfl, ?_⟩
          intro inside
          rcases List.infix_cons_iff.mp inside with ⟨more, start⟩ | inside
          · have leads : char :: rest = word ++ (more ++ word ++ after) := by
              rw [joined, ← List.cons_append, ← List.cons_append, ← start]
              simp
            rw [after_word_eq_some.mpr leads] at missing
            cases missing
          · exact absent inside

/-- No end of the word is a beginning of it too, so that two occurrences never overlap. -/
def Unbordered (word : List Char) : Prop :=
  ∀ tail, tail <:+ word → tail <+: word → tail = [] ∨ tail = word

/-- The word cannot begin in the text before it and go on into the word itself. -/
theorem after_word_before {word before : List Char} (unbordered : Unbordered word)
    (some_before : before ≠ []) (absent : ¬word <:+: before) (after : List Char) :
    afterWord word (before ++ word ++ after) = none := by
  cases here : afterWord word (before ++ word ++ after) with
  | none => rfl
  | some found =>
      have same : before ++ (word ++ after) = word ++ found := by
        rw [← after_word_eq_some.mp here, List.append_assoc]
      rcases List.append_eq_append_iff.mp same with ⟨tail, whole, behind⟩ | ⟨more, whole, -⟩
      · have ends : tail <:+ word := ⟨before, whole.symm⟩
        have starts : tail <+: word :=
          List.prefix_of_prefix_length_le ⟨found, behind.symm⟩ (List.prefix_append word after)
            ends.length_le
        rcases unbordered tail ends starts with nothing | everything
        · rw [nothing, List.append_nil] at whole
          exact absurd (whole ▸ List.infix_rfl) absent
        · rw [everything] at whole
          exact absurd (List.self_eq_append_left.mp whole) some_before
      · exact absurd (whole ▸ (List.prefix_append word more).isInfix) absent

theorem cut_word_word {word before : List Char} (unbordered : Unbordered word)
    (filled : word ≠ []) (absent : ¬word <:+: before) (after : List Char) :
    cutWord word (before ++ word ++ after) = some (before, after) := by
  induction before with
  | nil =>
      obtain ⟨first, rest, rfl⟩ := List.exists_cons_of_ne_nil filled
      have leads : afterWord (first :: rest) (first :: (rest ++ after)) = some after :=
        after_word_eq_some.mpr rfl
      simp only [List.nil_append, List.cons_append, cutWord, leads]
  | cons char before ih =>
      have inner : ¬word <:+: before :=
        fun inside => absent (inside.trans (List.suffix_cons char before).isInfix)
      have missing := after_word_before unbordered (List.cons_ne_nil char before) absent after
      simp only [List.cons_append] at missing
      simp only [List.cons_append, cutWord, missing, ih inner]
      rfl

end Footage.Text
