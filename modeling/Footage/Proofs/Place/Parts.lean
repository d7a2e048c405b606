import Footage.Place.Path

/-!
# The parts of joined paths

Cutting at slashes undoes putting them in. Joining a relative path puts it behind the base and at
most one slash between the two, so the parts of the two paths come one after the other and the
base stays in front.
-/

namespace Footage.Text

set_option autoImplicit false

variable {mark : Char} {text later : List Char}

theorem pieces_ne_nil (mark : Char) (text : List Char) : pieces mark text ≠ [] := by
  cases text with
  | nil => simp [pieces]
  | cons char rest =>
      simp only [pieces]
      split
      · simp
      · split <;> simp

theorem pieces_mark (mark : Char) (text later : List Char) :
    pieces mark (text ++ mark :: later) = pieces mark text ++ pieces mark later := by
  induction text with
  | nil => simp [pieces]
  | cons char rest ih =>
      simp only [List.cons_append, pieces, ih]
      split
      · rfl
      · obtain ⟨piece, others, cut⟩ := List.exists_cons_of_ne_nil (pieces_ne_nil mark rest)
        simp [cut]

theorem pieces_unmarked (absent : mark ∉ text) : pieces mark text = [text] := by
  induction text with
  | nil => rfl
  | cons char rest ih =>
      simp only [List.mem_cons, not_or] at absent
      simp [pieces, Ne.symm absent.1, ih absent.2]

theorem last_mark_unique {before front back : List Char} (unmarked : mark ∉ later)
    (alsoUnmarked : mark ∉ back) (same : before ++ mark :: later = front ++ mark :: back) :
    before = front ∧ later = back := by
  rcases List.append_eq_append_iff.mp same with ⟨rest, rfl, cut⟩ | ⟨rest, rfl, cut⟩
  · cases rest with
    | nil => simpa using cut
    | cons char rest =>
        have inside := (List.cons.inj cut).2
        exact absurd (by simp [inside]) unmarked
  · cases rest with
    | nil => simpa [eq_comm] using cut
    | cons char rest =>
        have inside := (List.cons.inj cut).2
        exact absurd (by simp [inside]) alsoUnmarked

end Footage.Text

namespace Footage.Place

set_option autoImplicit false

/-- A name of a file or directory: not empty, without slashes, and not one of the two names that
stand for the directory itself and its parent. -/
structure IsName (name : String) : Prop where
  filled : name ≠ ""
  whole : '/' ∉ name.toList
  notHere : name ≠ "."
  notAbove : name ≠ ".."

instance (name : String) : Decidable (IsName name) :=
  decidable_of_iff (name ≠ "" ∧ '/' ∉ name.toList ∧ name ≠ "." ∧ name ≠ "..")
    ⟨fun ⟨filled, whole, notHere, notAbove⟩ => ⟨filled, whole, notHere, notAbove⟩,
      fun ⟨filled, whole, notHere, notAbove⟩ => ⟨filled, whole, notHere, notAbove⟩⟩

variable {base path later : String}

theorem to_list_slash : "/".toList = ['/'] := by decide

theorem last_slash_unique {front back : String} (whole : '/' ∉ later.toList)
    (alsoWhole : '/' ∉ back.toList) (same : path ++ "/" ++ later = front ++ "/" ++ back) :
    path = front ∧ later = back := by
  have characters := congrArg String.toList same
  simp only [String.toList_append, to_list_slash, List.append_assoc, List.singleton_append]
    at characters
  have cut := Text.last_mark_unique whole alsoWhole characters
  exact ⟨String.toList_injective cut.1, String.toList_injective cut.2⟩

theorem parts_slash (path later : String) :
    parts (path ++ "/" ++ later) = parts path ++ parts later := by
  simp only [parts, String.toList_append, to_list_slash, List.append_assoc, List.singleton_append,
    Text.pieces_mark, List.filter_append, List.map_append]

theorem parts_empty : parts "" = [] := rfl

theorem parts_whole (filled : path ≠ "") (whole : '/' ∉ path.toList) : parts path = [path] := by
  have characters : path.toList ≠ [] := fun empty => filled (String.toList_injective empty)
  simp [parts, Text.pieces_unmarked whole, characters]

def gap (base : String) : String :=
  if base.toList.isEmpty ∨ base.toList.getLast? = some '/' then "" else "/"

theorem join_relative (base : String) (relative : isAbsolute path = false) :
    join base path = base ++ gap base ++ path := by
  have head : path.toList.head? ≠ some '/' := by simpa [isAbsolute] using relative
  apply String.toList_injective
  simp only [join, joinChars, gap, String.toList_ofList, String.toList_append, head, if_false]
  split <;> simp

theorem join_absolute (base : String) (absolute : isAbsolute path = true) :
    join base path = path := by
  have head : path.toList.head? = some '/' := by simpa [isAbsolute] using absolute
  simp [join, joinChars, head]

theorem is_absolute_append (path later : String) (filled : path ≠ "") :
    isAbsolute (path ++ later) = isAbsolute path := by
  have characters : path.toList ≠ [] := fun empty => filled (String.toList_injective empty)
  obtain ⟨char, rest, text⟩ := List.exists_cons_of_ne_nil characters
  simp [isAbsolute, text]

theorem is_absolute_join (base : String) (relative : isAbsolute path = false) :
    isAbsolute (join base path) = isAbsolute base := by
  rw [join_relative base relative]
  by_cases filled : base = ""
  · subst filled
    have nothing : isAbsolute "" = false := rfl
    simpa [gap, nothing] using relative
  · rw [String.append_assoc, is_absolute_append base _ filled]

theorem parts_join (base : String) (relative : isAbsolute path = false) :
    parts (join base path) = parts base ++ parts path := by
  rw [join_relative base relative, gap]
  split
  case isFalse unended => exact parts_slash base path
  case isTrue ended =>
    rcases ended with empty | slash
    · have nothing : base = "" := String.toList_injective (by simpa using empty)
      subst nothing
      simp [parts_empty]
    · -- The slash that ends the base stands between the two.
      obtain ⟨front, ends⟩ := List.getLast?_eq_some_iff.mp slash
      have cut : base = String.ofList front ++ "/" := by
        apply String.toList_injective
        simp [ends, to_list_slash]
      have alone := parts_slash (String.ofList front) ""
      rw [String.append_empty, ← cut, parts_empty, List.append_nil] at alone
      rw [String.append_empty, alone, cut, parts_slash]

theorem prefix_join (base : String) (relative : isAbsolute path = false) :
    base.toList <+: (join base path).toList := by
  rw [join_relative base relative, String.append_assoc, String.toList_append]
  exact List.prefix_append _ _

theorem IsName.parts {name : String} (isName : IsName name) : Place.parts name = [name] :=
  parts_whole isName.filled isName.whole

theorem IsName.relative {name : String} (isName : IsName name) : isAbsolute name = false := by
  rw [Bool.eq_false_iff]
  intro absolute
  have first : name.toList.head? = some '/' := by simpa [isAbsolute] using absolute
  exact isName.whole (List.mem_of_mem_head? first)

/-- The path leads from the base downwards, by the names in turn and nothing else. -/
structure Below (base : String) (names : List String) (path : String) : Prop where
  parts : Place.parts path = Place.parts base ++ names
  named : ∀ name ∈ names, IsName name
  absolute : isAbsolute path = isAbsolute base
  starts : base.toList <+: path.toList

theorem below_join {names : List String} (base : String) (relative : isAbsolute path = false)
    (cut : Place.parts path = names) (named : ∀ name ∈ names, IsName name) :
    Below base names (join base path) where
  parts := by rw [parts_join base relative, cut]
  named := named
  absolute := is_absolute_join base relative
  starts := prefix_join base relative

theorem last_part_join (base : String) (named : parts path ≠ []) :
    (parts (join base path)).getLast? = (parts path).getLast? := by
  cases kind : isAbsolute path with
  | true => rw [join_absolute base kind]
  | false =>
      rw [parts_join base kind, List.getLast?_append, List.getLast?_eq_some_getLast named,
        Option.some_or]

end Footage.Place
