import Footage.Proofs.Toml.Scalars
import Footage.Toml.Document

/-!
# Reading the lines of a written section

The reader counts the lines down from the length of the text, which is never too little, since
every line takes a character. So lines carry the reading from one progress to the next whatever
comes after them, and longer texts follow by joining.
-/

namespace Footage.Toml

open Footage.Document

set_option autoImplicit false

/-- The text is read to its end and leads to the progress. -/
def Denotes (progress : Progress) (text : List Char) (last : Progress) : Prop :=
  ∀ count, text.length ≤ count → lines? count progress text = some last

/-- Lines that take the reading from one progress to the next, whatever comes after them. -/
def Carries (progress : Progress) (chunk : List Char) (next : Progress) : Prop :=
  ∀ rest last, Denotes next rest last → Denotes progress (chunk ++ rest) last

theorem denotes_nil (progress : Progress) : Denotes progress [] progress := by
  intro count _
  cases count with
  | zero => rfl
  | succ count => rfl

theorem carries_nil (progress : Progress) : Carries progress [] progress :=
  fun _ _ after => after

theorem carries_append {progress middle next : Progress} {chunk more : List Char}
    (first : Carries progress chunk middle) (second : Carries middle more next) :
    Carries progress (chunk ++ more) next := by
  intro rest last after
  rw [List.append_assoc]
  exact first _ _ (second _ _ after)

theorem skip_blanks_head (lead : Char) (dull : isBlank lead = false) (text : List Char) :
    skipBlanks (lead :: text) = lead :: text := by
  simp [skipBlanks, dull]

theorem line_carries {progress next : Progress} {lead : Char} {body : List Char}
    (dull : isBlank lead = false) (line : lead ≠ '\n') (carriage : lead ≠ '\r')
    (read : ∀ rest, line? progress (lead :: (body ++ rest)) = some (next, rest)) :
    Carries progress (lead :: body) next := by
  intro rest last after count enough
  rw [List.cons_append] at enough ⊢
  cases count with
  | zero => simp at enough
  | succ count =>
      -- The line takes one of the counted lines and at least its lead from the text.
      simp only [List.length_cons, List.length_append] at enough
      simp only [lines?, skip_blanks_head lead dull, newline_none line carriage, read,
        Option.bind_eq_bind, Option.bind_some]
      exact after count (by omega)

theorem blank_carries (progress : Progress) : Carries progress ['\n'] progress := by
  intro rest last after count enough
  cases count with
  | zero => simp at enough
  | succ count => exact after count (by simpa using enough)

theorem line_end_newline (rest : List Char) : lineEnd? ('\n' :: rest) = some rest := rfl

theorem comment_carries (progress : Progress) {comment : List Char}
    (even : comment.all isTextChar = true) :
    Carries progress ('#' :: (comment ++ ['\n'])) progress := by
  apply line_carries rfl (by decide) (by decide)
  intro rest
  have ended : lineEnd? ('#' :: (comment ++ '\n' :: rest)) = some rest := by
    have body : (comment ++ '\n' :: rest).dropWhile isTextChar = '\n' :: rest := by
      rw [List.dropWhile_append_of_pos (List.all_eq_true.mp even)]
      rfl
    simp only [lineEnd?, skip_blanks_head '#' rfl, body]
    rfl
  rw [List.append_assoc]
  simp only [line?, List.cons_append, List.nil_append, ended, Option.bind_eq_bind,
    Option.bind_some]

/-- A key that needs no quotes. -/
def IsBareKey (key : String) : Prop :=
  key.toList ≠ [] ∧ ∀ char ∈ key.toList, isBareKeyChar char = true

instance : DecidablePred IsBareKey := fun key =>
  decidable_of_iff (key.toList ≠ [] ∧ key.toList.all isBareKeyChar = true)
    (and_congr_right fun _ => List.all_eq_true)

theorem bare_ne {mark char : Char} (odd : isBareKeyChar mark = false)
    (plain : isBareKeyChar char = true) : char ≠ mark := by
  intro same
  rw [same, odd] at plain
  cases plain

theorem bare_not_blank {char : Char} (plain : isBareKeyChar char = true) :
    isBlank char = false := by
  have space : char ≠ ' ' := bare_ne rfl plain
  have tab : char ≠ '\t' := bare_ne rfl plain
  simp [isBlank, space, tab]

section BareKeys

variable {key : String} (bare : IsBareKey key)

include bare

theorem bare_key_lead :
    ∃ lead body, key.toList = lead :: body ∧ isBareKeyChar lead = true := by
  obtain ⟨long, plain⟩ := bare
  rcases shape : key.toList with _ | ⟨lead, body⟩
  · exact absurd shape long
  · exact ⟨lead, body, rfl, plain lead (by simp [shape])⟩

theorem bare_key_not_blank (rest : List Char) :
    skipBlanks (key.toList ++ rest) = key.toList ++ rest := by
  obtain ⟨lead, body, shape, plain⟩ := bare_key_lead bare
  rw [shape, List.cons_append, skip_blanks_head lead (bare_not_blank plain)]

theorem simple_key_bare (mark : Char) (odd : isBareKeyChar mark = false) (rest : List Char) :
    simpleKey? (key.toList ++ mark :: rest) = some (key, mark :: rest) := by
  obtain ⟨lead, body, shape, plain⟩ := bare_key_lead bare
  have front : (key.toList ++ mark :: rest).takeWhile isBareKeyChar = key.toList := by
    rw [List.takeWhile_append_of_pos bare.2]
    simp [odd]
  have back : (key.toList ++ mark :: rest).dropWhile isBareKeyChar = mark :: rest := by
    rw [List.dropWhile_append_of_pos bare.2]
    simp [odd]
  unfold simpleKey?
  split
  · rename_i quoted
    rw [shape] at quoted
    exact absurd (List.cons.inj quoted).1 (bare_ne rfl plain)
  · rename_i quoted
    rw [shape] at quoted
    exact absurd (List.cons.inj quoted).1 (bare_ne rfl plain)
  · simp [front, back, bare.1]

theorem dotted_key_last {count : Nat} {mark stop : Char} {rest after : List Char}
    (odd : isBareKeyChar mark = false) (stops : skipBlanks (mark :: rest) = stop :: after)
    (apart : stop ≠ '.') :
    dottedKey? (count + 1) (key.toList ++ mark :: rest) = some ([key], stop :: after) := by
  simp only [dottedKey?, bare_key_not_blank bare, simple_key_bare bare mark odd, stops,
    Option.bind_eq_bind, Option.bind_some]
  split
  · rename_i dotted
    exact absurd (List.cons.inj dotted).1 apart
  · rfl

theorem dotted_key_dot {count : Nat} {keys : List String} {rest after : List Char}
    (others : dottedKey? count rest = some (keys, after)) :
    dottedKey? (count + 1) (key.toList ++ '.' :: rest) = some (key :: keys, after) := by
  simp only [dottedKey?, bare_key_not_blank bare, simple_key_bare bare '.' rfl,
    skip_blanks_head '.' rfl, others, Option.bind_eq_bind, Option.bind_some]

end BareKeys

theorem dotted_key_path {path : List String} (named : path ≠ []) {count : Nat}
    (few : path.length ≤ count) (bare : ∀ key ∈ path, IsBareKey key) (rest : List Char) :
    dottedKey? count ((".".intercalate path).toList ++ ']' :: rest) =
      some (path, ']' :: rest) := by
  induction path generalizing count with
  | nil => exact absurd rfl named
  | cons key path ih =>
      rw [List.forall_mem_cons] at bare
      obtain ⟨others, rfl⟩ : ∃ others, count = others + 1 :=
        Nat.exists_eq_add_one.mpr (Nat.lt_of_lt_of_le (by simp) few)
      cases path with
      | nil => exact dotted_key_last bare.1 rfl (skip_blanks_head ']' rfl _) (by decide)
      | cons next path =>
          have read := ih (by simp) (Nat.le_of_succ_le_succ few) bare.2
          rw [String.intercalate_cons_cons, String.toList_append, String.toList_append,
            List.append_assoc, List.append_assoc]
          exact dotted_key_dot bare.1 read

theorem path_lead {path : List String} (named : path ≠ [])
    (bare : ∀ key ∈ path, IsBareKey key) :
    ∃ lead body, (".".intercalate path).toList = lead :: body ∧ isBareKeyChar lead = true := by
  cases path with
  | nil => exact absurd rfl named
  | cons key path =>
      obtain ⟨lead, body, shape, plain⟩ := bare_key_lead (bare key List.mem_cons_self)
      cases path with
      | nil => exact ⟨lead, body, by rw [String.intercalate_singleton, shape], plain⟩
      | cons next path =>
          refine ⟨lead, body ++ ('.' :: (".".intercalate (next :: path)).toList), ?_, plain⟩
          rw [String.intercalate_cons_cons, String.toList_append, String.toList_append, shape,
            List.append_assoc]
          rfl

theorem header_carries {progress next : Progress} {path : List String} (named : path ≠ [])
    (few : path.length < nestingLimit) (bare : ∀ key ∈ path, IsBareKey key)
    (opened : progress.addTable path = some next) :
    Carries progress ("[" ++ ".".intercalate path ++ "]\n").toList next := by
  obtain ⟨lead, body, shape, plain⟩ := path_lead named bare
  have text : ("[" ++ ".".intercalate path ++ "]\n").toList =
      '[' :: ((".".intercalate path).toList ++ [']', '\n']) := by simp
  rw [text]
  apply line_carries rfl (by decide) (by decide)
  intro rest
  have read : key? ((".".intercalate path).toList ++ ']' :: '\n' :: rest) =
      some (path, ']' :: '\n' :: rest) := dotted_key_path named (Nat.le_pred_of_lt few) bare _
  have single : lead ≠ '[' := bare_ne rfl plain
  rw [shape, List.cons_append] at read
  simp [shape, line?, single, read, expect?, line_end_newline, opened]

theorem binding_carries {progress next : Progress} {key : String} {scalar : Scalar}
    (bare : IsBareKey key) (fits : scalar.Fits)
    (bound : progress.addBinding [key] scalar.value = some next) :
    Carries progress (key ++ " = " ++ scalar.render ++ "\n").toList next := by
  obtain ⟨lead, body, shape, plain⟩ := bare_key_lead bare
  have text : (key ++ " = " ++ scalar.render ++ "\n").toList =
      key.toList ++ ' ' :: '=' :: ' ' :: (scalar.render.toList ++ ['\n']) := by simp
  have read (rest : List Char) :
      binding? value?
          (key.toList ++ ' ' :: '=' :: ' ' :: (scalar.render.toList ++ '\n' :: rest)) =
        some (([key], scalar.value), '\n' :: rest) := by
    have keys : key? (key.toList ++ ' ' :: '=' :: ' ' :: (scalar.render.toList ++ '\n' :: rest)) =
        some ([key], '=' :: ' ' :: (scalar.render.toList ++ '\n' :: rest)) :=
      dotted_key_last bare rfl rfl (by decide)
    have value : skipBlanks (' ' :: (scalar.render.toList ++ '\n' :: rest)) =
        scalar.render.toList ++ '\n' :: rest := by
      obtain ⟨first, others, start, dull⟩ := rendered_lead scalar
      rw [start, List.cons_append]
      exact skip_blanks_head first dull _
    simp only [binding?, keys, expect?, if_true, value, value_rendered fits,
      skip_blanks_head '\n' rfl, Option.bind_eq_bind, Option.bind_some]
  rw [text, shape, List.cons_append]
  apply line_carries (bare_not_blank plain) (bare_ne rfl plain) (bare_ne rfl plain)
  intro rest
  have comment : lead ≠ '#' := bare_ne rfl plain
  have bracket : lead ≠ '[' := bare_ne rfl plain
  have line := read rest
  rw [shape, List.cons_append] at line
  simp [line?, comment, bracket, line, line_end_newline, bound]

/-- The format has a line for the header and for each entry, and no key is bound twice. -/
structure Section.Writable (part : Section) : Prop where
  named : part.path ≠ []
  few : part.path.length < nestingLimit
  path_bare : ∀ key ∈ part.path, IsBareKey key
  keys_bare : ∀ entry ∈ part.entries, IsBareKey entry.1
  distinct : (part.entries.map Prod.fst).Nodup
  fits : ∀ entry ∈ part.entries, entry.2.Fits

theorem Section.writable_of_keys {path : List String} {entries : List (String × Scalar)}
    (plain : path ≠ [] ∧ path.length < nestingLimit ∧ (∀ key ∈ path, IsBareKey key) ∧
      (∀ key ∈ entries.map Prod.fst, IsBareKey key) ∧ (entries.map Prod.fst).Nodup)
    (fits : ∀ entry ∈ entries, entry.2.Fits) : (⟨path, entries⟩ : Section).Writable where
  named := plain.1
  few := plain.2.1
  path_bare := plain.2.2.1
  keys_bare := List.forall_mem_map.mp plain.2.2.2.1
  distinct := plain.2.2.2.2
  fits := fits

namespace Progress

def addEntry (progress : Progress) (entry : String × Scalar) : Option Progress :=
  progress.addBinding [entry.1] entry.2.value

def addSection (progress : Progress) (part : Section) : Option Progress := do
  let opened ← progress.addTable part.path
  part.entries.foldlM addEntry opened

end Progress

theorem entries_carry {progress next : Progress} {entries : List (String × Scalar)}
    (bare : ∀ entry ∈ entries, IsBareKey entry.1) (fits : ∀ entry ∈ entries, entry.2.Fits)
    (added : entries.foldlM Progress.addEntry progress = some next) :
    Carries progress
      (String.join (entries.map fun (key, value) =>
        key ++ " = " ++ value.render ++ "\n")).toList next := by
  induction entries generalizing progress with
  | nil =>
      cases added
      exact carries_nil _
  | cons entry entries ih =>
      rw [List.forall_mem_cons] at bare fits
      simp only [List.foldlM_cons, Option.bind_eq_bind, Option.bind_eq_some_iff] at added
      obtain ⟨middle, first, others⟩ := added
      rw [List.map_cons, String.join_cons, String.toList_append]
      exact carries_append (binding_carries bare.1 fits.1 first) (ih bare.2 fits.2 others)

theorem section_carries {progress next : Progress} {part : Section} (writable : part.Writable)
    (added : progress.addSection part = some next) :
    Carries progress part.render.toList next := by
  simp only [Progress.addSection, Option.bind_eq_bind, Option.bind_eq_some_iff] at added
  obtain ⟨opened, header, bindings⟩ := added
  rw [Section.render, String.toList_append]
  exact carries_append
    (header_carries writable.named writable.few writable.path_bare header)
    (entries_carry writable.keys_bare writable.fits bindings)

theorem sections_carry {progress next : Progress} {parts : List Section}
    (writable : ∀ part ∈ parts, part.Writable)
    (added : parts.foldlM Progress.addSection progress = some next) :
    Carries progress (Section.renderAll parts).toList next := by
  induction parts generalizing progress with
  | nil =>
      cases added
      exact carries_nil _
  | cons part parts ih =>
      rw [List.forall_mem_cons] at writable
      simp only [List.foldlM_cons, Option.bind_eq_bind, Option.bind_eq_some_iff] at added
      obtain ⟨middle, first, others⟩ := added
      have front := section_carries writable.1 first
      have back := ih writable.2 others
      cases parts with
      | nil =>
          cases others
          exact front
      | cons other parts =>
          simp only [Section.renderAll, List.map_cons, String.intercalate_cons_cons,
            String.toList_append] at back ⊢
          exact carries_append (carries_append front (blank_carries middle)) back

theorem read_carried {text : String} {last : Progress}
    (carries : Carries .start text.toList last) (plain : text.toList.head? ≠ some '\ufeff') :
    read? text = Draft.toTable? last.root := by
  have whole : withoutMark text.toList = text.toList := by
    unfold withoutMark
    split
    · rename_i marked
      exact absurd (congrArg List.head? marked) plain
    · rfl
  have reached := carries [] last (denotes_nil last)
  rw [List.append_nil] at reached
  simp only [read?, readChars?, whole, reached _ (Nat.le_refl _), Option.bind_some]

end Footage.Toml
