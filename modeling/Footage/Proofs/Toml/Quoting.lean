import Footage.Toml.Render
import Footage.Toml.Text

/-!
# Reading a quoted text gives the text back

A character between basic quotes is written as itself or as an escape, and the reader turns
either into the one character. On several lines a run of quotes is carried along with the text,
since only what comes after it tells whether the quotes belong to the text or close it.
-/

namespace Footage.Toml

set_option autoImplicit false

/-- The moves of the reader between basic quotes that both forms have in common. -/
def textMove (multiline : Bool) : Standing → Char → Option Move
  | .plain, char => if char = '"' then none else plainMove true multiline char
  | .escape, char => escapeMove multiline char
  | .number digits value, char => numberMove digits value char
  | _, _ => none

def textMoves (multiline : Bool) : Standing → List Char → Option Move
  | standing, [] => some ([], standing)
  | standing, char :: rest => do
      let (added, next) ← textMove multiline standing char
      let (others, last) ← textMoves multiline next rest
      some (added ++ others, last)

def prepend {α : Type} (front : List α) : Option (List α × List Char) → Option (List α × List Char)
  | some (others, after) => some (front ++ others, after)
  | none => none

theorem prepend_prepend {α : Type} (front more : List α)
    (found : Option (List α × List Char)) :
    prepend front (prepend more found) = prepend (front ++ more) found := by
  cases found <;> simp [prepend]

theorem prepend_nil {α : Type} (found : Option (List α × List Char)) :
    prepend [] found = found := by
  cases found <;> rfl

theorem prepend_bind {α : Type} (front : List α) (found : Option (List α × List Char)) :
    (found.bind fun (others, after) => some (front ++ others, after)) = prepend front found := by
  cases found <;> rfl

theorem line_body_step {standing next : Standing} {char : Char} {added : List Char}
    (rest : List Char) (moved : textMove false standing char = some (added, next)) :
    lineBody '"' true standing (char :: rest) = prepend added (lineBody '"' true next rest) := by
  rw [← prepend_bind]
  cases standing with
  | plain =>
      simp only [textMove] at moved
      split at moved
      · cases moved
      · rename_i different
        simp only [lineBody, different, if_false, moved, Option.bind_eq_bind, Option.bind_some]
  | escape =>
      simp only [textMove] at moved
      simp only [lineBody, moved, Option.bind_eq_bind, Option.bind_some]
  | number digits value =>
      simp only [textMove] at moved
      simp only [lineBody, moved, Option.bind_eq_bind, Option.bind_some]
  | quotes count => cases moved
  | carriage kept => cases moved
  | foldBlank => cases moved
  | folding => cases moved

theorem text_moves_cons {multiline : Bool} {standing last : Standing} {char : Char}
    {chunk added : List Char}
    (moved : textMoves multiline standing (char :: chunk) = some (added, last)) :
    ∃ front next more, textMove multiline standing char = some (front, next) ∧
      textMoves multiline next chunk = some (more, last) ∧ added = front ++ more := by
  simp only [textMoves, Option.bind_eq_bind, Option.bind_eq_some_iff] at moved
  obtain ⟨⟨front, next⟩, first, ⟨more, final⟩, others, same⟩ := moved
  cases same
  exact ⟨front, next, more, first, others, rfl⟩

theorem body_moves {multiline : Bool} {body : Standing → Reader (List Char)}
    (step : ∀ {standing next : Standing} {char : Char} {added : List Char} (rest : List Char),
      textMove multiline standing char = some (added, next) →
        body standing (char :: rest) = prepend added (body next rest))
    {standing last : Standing} {chunk added : List Char} (rest : List Char)
    (moved : textMoves multiline standing chunk = some (added, last)) :
    body standing (chunk ++ rest) = prepend added (body last rest) := by
  induction chunk generalizing standing added with
  | nil =>
      cases moved
      exact (prepend_nil _).symm
  | cons char chunk ih =>
      obtain ⟨front, next, more, first, others, rfl⟩ := text_moves_cons moved
      rw [List.cons_append, step _ first, ih others, prepend_prepend]

theorem line_body_moves {standing last : Standing} {chunk added : List Char} (rest : List Char)
    (moved : textMoves false standing chunk = some (added, last)) :
    lineBody '"' true standing (chunk ++ rest) = prepend added (lineBody '"' true last rest) :=
  body_moves line_body_step rest moved

def afterRun : Nat → Standing
  | 0 => .plain
  | run + 1 => .quotes (run + 1)

section Multiline

variable {quote : Char} {escapes : Bool} {run : Nat}

theorem multiline_body_quote (few : run < 5) (rest : List Char) :
    multilineBody quote escapes (afterRun run) (quote :: rest) =
      multilineBody quote escapes (afterRun (run + 1)) rest := by
  cases run with
  | zero =>
      simp only [afterRun, multilineBody, move, if_true, Option.bind_eq_bind, Option.bind_some]
      cases multilineBody quote escapes (.quotes 1) rest <;> rfl
  | succ run => simp only [afterRun, multilineBody, if_true, few]

/-- Three quotes close the text, also behind quotes that belong to it. -/
theorem multiline_body_close (short : run ≤ 2) {rest : List Char}
    (apart : rest.head? ≠ some quote) :
    multilineBody quote escapes (afterRun run) (tripled quote ++ rest) =
      some (List.replicate run quote, rest) := by
  have closes : 3 ≤ run + 3 := Nat.le_add_left 3 run
  simp only [tripled, List.cons_append, List.nil_append]
  rw [multiline_body_quote (by omega), multiline_body_quote (by omega),
    multiline_body_quote (by omega)]
  cases rest with
  | nil =>
      simp only [afterRun, multilineBody, closes, if_true]
      rfl
  | cons char rest =>
      have different : char ≠ quote := fun same => apart (same ▸ rfl)
      simp only [afterRun, multilineBody, different, if_false, closes, if_true]
      rfl

theorem multiline_body_plain (short : run ≤ 2) {char : Char} {added : List Char}
    {next : Standing} (rest : List Char) (different : char ≠ quote)
    (moved : plainMove escapes true char = some (added, next)) :
    multilineBody quote escapes (afterRun run) (char :: rest) =
      prepend (List.replicate run quote ++ added) (multilineBody quote escapes next rest) := by
  rw [← prepend_bind]
  cases run with
  | zero =>
      simp only [afterRun, multilineBody, move, different, if_false, moved,
        Option.bind_eq_bind, Option.bind_some]
      rfl
  | succ run =>
      have undecided : ¬3 ≤ run + 1 := by omega
      simp only [afterRun, multilineBody, move, different, if_false, moved, undecided,
        Option.bind_eq_bind, Option.bind_some]

end Multiline

theorem multiline_body_step {standing next : Standing} {char : Char} {added : List Char}
    (rest : List Char) (moved : textMove true standing char = some (added, next)) :
    multilineBody '"' true standing (char :: rest) =
      prepend added (multilineBody '"' true next rest) := by
  rw [← prepend_bind]
  cases standing with
  | plain =>
      simp only [textMove] at moved
      split at moved
      · cases moved
      · rename_i different
        simp only [multilineBody, move, different, if_false, moved, Option.bind_eq_bind,
          Option.bind_some]
  | escape =>
      simp only [textMove] at moved
      simp only [multilineBody, move, moved, Option.bind_eq_bind, Option.bind_some]
  | number digits value =>
      simp only [textMove] at moved
      simp only [multilineBody, move, moved, Option.bind_eq_bind, Option.bind_some]
  | quotes count => cases moved
  | carriage kept => cases moved
  | foldBlank => cases moved
  | folding => cases moved

theorem multiline_body_moves {standing last : Standing} {chunk added : List Char}
    (rest : List Char) (moved : textMoves true standing chunk = some (added, last)) :
    multilineBody '"' true standing (chunk ++ rest) =
      prepend added (multilineBody '"' true last rest) :=
  body_moves multiline_body_step rest moved

theorem multiline_body_run {run : Nat} (short : run ≤ 2) {chunk added : List Char}
    (some_char : chunk ≠ []) (rest : List Char)
    (moved : textMoves true .plain chunk = some (added, .plain)) :
    multilineBody '"' true (afterRun run) (chunk ++ rest) =
      prepend (List.replicate run '"' ++ added) (multilineBody '"' true .plain rest) := by
  cases chunk with
  | nil => exact absurd rfl some_char
  | cons char chunk =>
      obtain ⟨front, next, more, first, others, rfl⟩ := text_moves_cons moved
      simp only [textMove] at first
      split at first
      · cases first
      · rename_i different
        rw [List.cons_append, multiline_body_plain short _ different first,
          multiline_body_moves _ others, prepend_prepend, List.append_assoc]

theorem is_text_char_eq (char : Char) : isTextChar char = !isOddControl char := by
  by_cases tab : char = '\t'
  · subst tab
    decide
  · have plain : (char == '\t') = false := by simp [tab]
    have other : (char != '\t') = true := by simp [tab]
    simp only [isTextChar, isOddControl, plain, other, Bool.false_or, Bool.and_true,
      Bool.not_or, ← decide_not, Nat.not_lt]
    rfl

theorem four_digits_moves : ∀ number < 128, ∀ multiline,
    isOddControl (Char.ofNat number) = true →
      textMoves multiline .plain ('\\' :: 'u' :: fourDigits number) =
        some ([Char.ofNat number], .plain) := by
  decide +kernel

theorem is_odd_control_lt {char : Char} (odd : isOddControl char = true) : char.toNat < 128 := by
  simp only [isOddControl, Bool.or_eq_true, Bool.and_eq_true, decide_eq_true_eq, beq_iff_eq] at odd
  omega

theorem escaped_char_moves (multiline : Bool) {char : Char} (different : char ≠ '"') :
    textMoves multiline .plain (escapedChar multiline char) = some ([char], .plain) := by
  simp only [escapedChar]
  split
  · cases multiline <;> rfl
  · cases multiline <;> rfl
  · cases multiline <;> rfl
  · cases multiline <;> rfl
  · cases multiline <;> rfl
  · cases multiline <;> rfl
  · rename_i carriage backslash newline
    split
    · rename_i odd
      have named : Char.ofNat char.toNat = char := Char.ofNat_toNat char
      have moved := four_digits_moves char.toNat (is_odd_control_lt odd) multiline
      rw [named] at moved
      exact moved odd
    · rename_i even
      have plain : plainMove true multiline char = some ([char], .plain) := by
        simp [plainMove, show char ≠ '\\' from backslash, show char ≠ '\n' from newline,
          show char ≠ '\r' from carriage, is_text_char_eq, even]
      simp [textMoves, textMove, different, plain]

theorem escaped_char_head (multiline : Bool) {char : Char} (different : char ≠ '"') :
    ∃ head more, escapedChar multiline char = head :: more ∧ head ≠ '"' ∧ head ≠ '\r' ∧
      (head = '\n' → char = '\n') := by
  simp only [escapedChar]
  split
  · exact ⟨_, _, rfl, by decide, by decide, by decide⟩
  · exact ⟨_, _, rfl, by decide, by decide, by decide⟩
  · exact ⟨_, _, rfl, by decide, by decide, by decide⟩
  · exact ⟨_, _, rfl, by decide, by decide, by decide⟩
  · exact ⟨_, _, rfl, by decide, by decide, by decide⟩
  · cases multiline with
    | true => exact ⟨_, _, rfl, by decide, by decide, fun _ => rfl⟩
    | false => exact ⟨_, _, rfl, by decide, by decide, fun _ => rfl⟩
  · rename_i carriage _ _
    split
    · exact ⟨_, _, rfl, by decide, by decide, fun same => absurd same (by decide)⟩
    · exact ⟨_, _, rfl, different, carriage, id⟩

theorem line_body_escaped (run : Nat) (text rest : List Char) :
    lineBody '"' true .plain (escapedChars false run text ++ '"' :: rest) = some (text, rest) := by
  induction text generalizing run with
  | nil => rfl
  | cons char text ih =>
      simp only [escapedChars, Bool.false_eq_true, false_and, if_false]
      split
      · rename_i same
        have moved : textMoves false .plain ['\\', '"'] = some (['"'], .plain) := rfl
        have read := line_body_moves (escapedChars false 0 text ++ '"' :: rest) moved
        rw [ih 0] at read
        rw [same]
        exact read
      · rename_i different
        rw [List.append_assoc, line_body_moves _ (escaped_char_moves false different), ih 0]
        rfl

/-- Between three basic quotes every text is read back, with the quotes before it. -/
theorem multiline_body_escaped {run : Nat} (short : run ≤ 2) (text : List Char)
    {rest : List Char} (apart : rest.head? ≠ some '"') :
    multilineBody '"' true (afterRun run)
        (escapedChars true run text ++ (tripled '"' ++ rest)) =
      some (List.replicate run '"' ++ text, rest) := by
  -- The run counts quotes already read, which the next character gives to the text or takes to
  -- close it; so the induction has to hold for every short run.
  induction text generalizing run with
  | nil =>
      rw [List.append_nil]
      exact multiline_body_close short apart
  | cons char text ih =>
      simp only [escapedChars, true_and]
      split
      · rename_i same
        subst same
        split
        · rename_i few
          rw [List.cons_append, multiline_body_quote (by omega), ih (by omega),
            List.replicate_succ', List.append_assoc]
          rfl
        · have moved : textMoves true .plain ['\\', '"'] = some (['"'], .plain) := rfl
          have read := multiline_body_run short (by simp)
            (escapedChars true 0 text ++ (tripled '"' ++ rest)) moved
          have next := ih (Nat.zero_le 2)
          simp only [afterRun] at next
          rw [next] at read
          refine read.trans ?_
          simp [prepend]
      · rename_i different
        have next := ih (Nat.zero_le 2)
        simp only [afterRun] at next
        obtain ⟨head, more, shape, -⟩ := escaped_char_head true different
        rw [List.append_assoc, multiline_body_run short (by simp [shape]) _
          (escaped_char_moves true different), next]
        simp [prepend]

/-- Between literal quotes a text without breaks, odd controls and such quotes is read back. -/
theorem line_body_literal {text : List Char} (rest : List Char)
    (even : ∀ char ∈ text, isOddControl char = false) (unquoted : '\'' ∉ text) :
    lineBody '\'' false .plain (text ++ '\'' :: rest) = some (text, rest) := by
  induction text with
  | nil => rfl
  | cons char text ih =>
      rw [List.forall_mem_cons] at even
      rw [List.mem_cons, not_or] at unquoted
      have different : char ≠ '\'' := Ne.symm unquoted.1
      have newline : char ≠ '\n' := fun same => by
        rw [same] at even
        exact absurd even.1 (by decide)
      have carriage : char ≠ '\r' := fun same => by
        rw [same] at even
        exact absurd even.1 (by decide)
      have plain : plainMove false false char = some ([char], .plain) := by
        simp [plainMove, newline, carriage, is_text_char_eq, even.1]
      simp only [List.cons_append, lineBody, different, if_false, plain, Option.bind_eq_bind,
        Option.bind_some, ih even.2 unquoted.2]
      rfl

theorem le_longest_run (char : Char) (run : Nat) (text : List Char) :
    run ≤ longestRun char run text := by
  induction text generalizing run with
  | nil => exact Nat.le_refl run
  | cons head text ih =>
      simp only [longestRun]
      split
      · exact Nat.le_of_succ_le (ih (run + 1))
      · exact Nat.le_max_left _ _

/-- Between three literal quotes a text without odd controls is read back if none of its runs of
such quotes could close it. -/
theorem multiline_body_literal {run : Nat} {text rest : List Char}
    (even : ∀ char ∈ text, isOddControl char = true → char = '\n')
    (short : longestRun '\'' run text < 3) (apart : rest.head? ≠ some '\'') :
    multilineBody '\'' false (afterRun run) (text ++ (tripled '\'' ++ rest)) =
      some (List.replicate run '\'' ++ text, rest) := by
  induction text generalizing run with
  | nil =>
      rw [List.append_nil]
      exact multiline_body_close (Nat.le_of_lt_succ short) apart
  | cons char text ih =>
      rw [List.forall_mem_cons] at even
      simp only [longestRun] at short
      split at short
      · rename_i same
        have few := Nat.lt_of_le_of_lt (le_longest_run '\'' (run + 1) text) short
        rw [same, List.cons_append, multiline_body_quote (by omega), ih even.2 short,
          List.replicate_succ', List.append_assoc]
        rfl
      · rename_i different
        have few : run < 3 := Nat.lt_of_le_of_lt (Nat.le_max_left _ _) short
        have later : longestRun '\'' 0 text < 3 :=
          Nat.lt_of_le_of_lt (Nat.le_max_right _ _) short
        have plain : plainMove false true char = some ([char], .plain) := by
          by_cases newline : char = '\n'
          · rw [newline]
            rfl
          · have odd : isOddControl char = false :=
              Bool.eq_false_iff.mpr fun odd => newline (even.1 odd)
            have carriage : char ≠ '\r' := fun same => by
              rw [same] at odd
              exact absurd odd (by decide)
            simp [plainMove, newline, carriage, is_text_char_eq, odd]
        have next := ih even.2 later
        simp only [afterRun] at next
        rw [List.cons_append,
          multiline_body_plain (Nat.le_of_lt_succ few) _ different plain, next]
        simp [prepend]

theorem newline_none {char : Char} (line : char ≠ '\n') (carriage : char ≠ '\r')
    (rest : List Char) : newline? (char :: rest) = none := by
  unfold newline?
  split
  · rename_i same
    exact absurd (List.cons.inj same).1 line
  · rename_i same
    exact absurd (List.cons.inj same).1 carriage
  · rfl

section Strings

variable {quote : Char} (usual : quote = '"' ∨ quote = '\'')

include usual

theorem string_line {chars body rest : List Char}
    (single : ∀ more, body ++ quote :: rest ≠ quote :: quote :: more)
    (read : lineBody quote (quote == '"') .plain (body ++ quote :: rest) = some (chars, rest)) :
    string? (quote :: (body ++ quote :: rest)) = some (String.ofList chars, rest) := by
  have known : (quote != '"' && quote != '\'') = false := by
    rcases usual with rfl | rfl <;> rfl
  have line : lineString? quote (quote == '"') (quote :: (body ++ quote :: rest)) =
      some (chars, rest) := by
    simp [lineString?, expect?, read]
  simp only [string?, List.head?_cons, Option.bind_eq_bind, Option.bind_some, known,
    Bool.false_eq_true, if_false, line]
  split
  · rename_i first second third more shape
    obtain ⟨same, behind⟩ := List.cons.inj shape
    have apart : ¬(second = first ∧ third = first) := by
      intro tripled
      rw [tripled.1, tripled.2, ← same] at behind
      exact single more behind
    simp only [apart, if_false]
  · rfl

/-- A text between three quotes is read without the line break that stands first. -/
theorem string_between {chars body rest : List Char} {breaks : Bool}
    (unbroken : breaks = false → newline? (body ++ (tripled quote ++ rest)) = none)
    (read : multilineBody quote (quote == '"') .plain (body ++ (tripled quote ++ rest)) =
      some (chars, rest)) :
    string? (betweenTripled quote breaks body ++ rest) = some (String.ofList chars, rest) := by
  have known : (quote != '"' && quote != '\'') = false := by
    rcases usual with rfl | rfl <;> rfl
  let opening : List Char := if breaks then ['\n'] else []
  have shape : betweenTripled quote breaks body ++ rest =
      quote :: quote :: quote :: (opening ++ (body ++ (tripled quote ++ rest))) := by
    simp [betweenTripled, tripled, opening]
  have opened : (newline? (opening ++ (body ++ (tripled quote ++ rest)))).getD
      (opening ++ (body ++ (tripled quote ++ rest))) = body ++ (tripled quote ++ rest) := by
    cases breaks with
    | true => rfl
    | false =>
        simp only [opening, Bool.false_eq_true, if_false, List.nil_append, unbroken rfl,
          Option.getD_none]
  rw [shape]
  simp only [string?, List.head?_cons, Option.bind_eq_bind, Option.bind_some, known,
    Bool.false_eq_true, if_false, and_self, if_true, opened, read]

end Strings

theorem escaped_chars_single (text : List Char) {rest : List Char}
    (apart : rest.head? ≠ some '"') (more : List Char) :
    escapedChars false 0 text ++ '"' :: rest ≠ '"' :: '"' :: more := by
  intro same
  cases text with
  | nil =>
      have next : rest = '"' :: more := (List.cons.inj same).2
      exact apart (by rw [next]; rfl)
  | cons char text =>
      simp only [escapedChars, Bool.false_eq_true, false_and, if_false] at same
      split at same
      · cases same
      · rename_i different
        obtain ⟨head, others, shape, unquoted, -⟩ := escaped_char_head false different
        rw [shape] at same
        exact unquoted (List.cons.inj same).1

theorem escaped_chars_unbroken {text : List Char} (unbroken : '\n' ∉ text) (rest : List Char) :
    newline? (escapedChars true 0 text ++ (tripled '"' ++ rest)) = none := by
  cases text with
  | nil => rfl
  | cons char text =>
      rw [List.mem_cons, not_or] at unbroken
      simp only [escapedChars, true_and, Nat.zero_lt_two, if_true]
      split
      · exact newline_none (by decide) (by decide) _
      · rename_i different
        obtain ⟨head, others, shape, -, carriage, line⟩ := escaped_char_head true different
        rw [shape]
        exact newline_none (fun same => unbroken.1 (line same).symm) carriage _

theorem literal_single {text rest : List Char} (unquoted : '\'' ∉ text)
    (apart : rest.head? ≠ some '\'') (more : List Char) :
    text ++ '\'' :: rest ≠ '\'' :: '\'' :: more := by
  intro same
  cases text with
  | nil =>
      have next : rest = '\'' :: more := (List.cons.inj same).2
      exact apart (by rw [next]; rfl)
  | cons char text =>
      rw [(List.cons.inj same).1] at unquoted
      exact unquoted List.mem_cons_self

theorem literal_unbroken {text : List Char}
    (even : ∀ char ∈ text, isOddControl char = true → char = '\n') (unbroken : '\n' ∉ text)
    (rest : List Char) : newline? (text ++ (tripled '\'' ++ rest)) = none := by
  cases text with
  | nil => rfl
  | cons char text =>
      have line : char ≠ '\n' := fun same => unbroken (same ▸ List.mem_cons_self)
      have carriage : char ≠ '\r' := by
        intro same
        have odd : isOddControl char = true := by
          rw [same]
          decide
        exact line (even char List.mem_cons_self odd)
      exact newline_none line carriage _

theorem quoted_chars_head (text : List Char) :
    ∃ quote body, quotedChars text = quote :: body ∧ (quote = '"' ∨ quote = '\'') := by
  simp only [quotedChars, betweenTripled, tripled]
  split
  · exact ⟨_, _, rfl, .inl rfl⟩
  · split
    · exact ⟨_, _, rfl, .inr rfl⟩
    · split
      · exact ⟨_, _, rfl, .inl rfl⟩
      · split
        · exact ⟨_, _, rfl, .inr rfl⟩
        · split
          · exact ⟨_, _, rfl, .inl rfl⟩
          · exact ⟨_, _, rfl, .inl rfl⟩

/-- Reading a quoted text gives the text back, whatever it holds, and leaves what comes after it,
unless that starts with a quote. -/
theorem string_quoted (text : List Char) {rest : List Char} (apart : rest.head? ≠ some '"')
    (distinct : rest.head? ≠ some '\'') :
    string? (quotedChars text ++ rest) = some (String.ofList text, rest) := by
  have basic : string? ('"' :: escapedChars false 0 text ++ ['"'] ++ rest) =
      some (String.ofList text, rest) := by
    rw [List.append_assoc, List.cons_append]
    exact string_line (.inl rfl) (escaped_chars_single text apart)
      (line_body_escaped 0 text rest)
  have unbroken : text.contains '\n' = false → '\n' ∉ text := by simp
  have spread :
      string? (betweenTripled '"' (text.contains '\n') (escapedChars true 0 text) ++ rest) =
        some (String.ofList text, rest) := by
    refine string_between (.inl rfl) (fun none_broken => ?_)
      (multiline_body_escaped (Nat.zero_le 2) text apart)
    exact escaped_chars_unbroken (unbroken none_broken) rest
  simp only [quotedChars]
  split
  · exact basic
  · split
    · rename_i literal
      simp only [Bool.and_eq_true, Bool.not_eq_true', List.any_eq_false] at literal
      have even : ∀ char ∈ text, isOddControl char = false := by simpa using literal.1
      have unquoted : '\'' ∉ text := by simpa using literal.2
      rw [List.append_assoc, List.cons_append]
      exact string_line (.inr rfl) (literal_single unquoted distinct)
        (line_body_literal rest even unquoted)
    · split
      · exact spread
      · split
        · rename_i literal
          simp only [Bool.and_eq_true, Bool.not_eq_true', decide_eq_true_eq,
            List.any_eq_false] at literal
          have even : ∀ char ∈ text, isOddControl char = true → char = '\n' := by
            simpa using literal.1
          refine string_between (.inr rfl) (fun none_broken => ?_)
            (multiline_body_literal even literal.2 distinct)
          exact literal_unbroken even (unbroken none_broken) rest
        · split
          · rename_i broken
            rw [broken] at spread ⊢
            exact spread
          · exact basic

end Footage.Toml
