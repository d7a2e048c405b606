import Footage.Place.Environment
import Footage.Proofs.Place.Parts

/-!
# Where an expanded path leads

A mark at the front of a path stands for a directory and the text behind its slash is joined to
it. A relative rest comes to lie below the directory. A rest that starts with a further slash is
a path from the root, and the directory is gone.
-/

namespace Footage.Place

set_option autoImplicit false

variable {env : Environment} {directory rest expanded : String}

structure Replaces (directory rest expanded : String) : Prop where
  /-- A relative rest is found below the directory. -/
  below : isAbsolute rest = false →
    parts expanded = parts directory ++ parts rest ∧ directory.toList <+: expanded.toList
  /-- Of the directory nothing is left in front of a rest that starts with a slash. -/
  lost : isAbsolute rest = true → expanded = rest
  /-- The parts are those of the directory and of the rest unless there is something to lose. -/
  parts_iff : parts expanded = parts directory ++ parts rest ↔
    isAbsolute rest = false ∨ parts directory = []

theorem join_replaces (directory rest : String) :
    Replaces directory rest (join directory rest) where
  below relative := ⟨parts_join directory relative, prefix_join directory relative⟩
  lost absolute := join_absolute directory absolute
  parts_iff := by
    cases kind : isAbsolute rest with
    | false =>
        have cut := parts_join directory kind
        simp [cut]
    | true => simp [join_absolute directory kind, List.self_eq_append_left]

namespace Environment

theorem expand_home {home : String} (found : env.home? = some home) (rest : String) :
    env.expandPath ("~/" ++ rest) = join home rest := by
  have characters : ("~/" ++ rest).toList = '~' :: '/' :: rest.toList := by
    rw [String.toList_append]
    rfl
  simp only [expandPath, characters, found, String.ofList_toList]

theorem expand_variable {name value : String} (whole : '/' ∉ name.toList)
    (set : env.lookup name = some value) (rest : String) :
    env.expandPath ("$" ++ name ++ "/" ++ rest) = join value rest := by
  have characters :
      ("$" ++ name ++ "/" ++ rest).toList = '$' :: (name.toList ++ '/' :: rest.toList) := by
    simp only [String.toList_append, to_list_slash, List.append_assoc, List.singleton_append]
    rfl
  have cut := Text.cut_first_mark whole rest.toList
  simp only [expandPath, characters, cut, String.ofList_toList, set]

/-- The home directory and the directory in a variable are replaced at the front of a path, and
the rest stays below them exactly if it does not start with a slash of its own. -/
theorem expansion_replaces_front (env : Environment) (rest : String) :
    (∀ home, env.home? = some home → Replaces home rest (env.expandPath ("~/" ++ rest))) ∧
      ∀ name value, '/' ∉ name.toList → env.lookup name = some value →
        Replaces value rest (env.expandPath ("$" ++ name ++ "/" ++ rest)) := by
  constructor
  · intro home found
    rw [expand_home found]
    exact join_replaces home rest
  · intro name value whole set
    rw [expand_variable whole set]
    exact join_replaces value rest

def tank : Environment where
  lookup
    | "HOME" => some "/home/ann"
    | "TANK" => some "/mnt/tank/"
    | _ => none
  accountHome := none

theorem expansion_replaces_front_tank :
    parts (tank.expandPath "~/a//b") = ["home", "ann", "a", "b"] ∧
      parts (tank.expandPath "$TANK/clips") = ["mnt", "tank", "clips"] := by
  have home := (expansion_replaces_front tank "a//b").1 "/home/ann" rfl
  have variable_directory :=
    (expansion_replaces_front tank "clips").2 "TANK" "/mnt/tank/" (by decide) rfl
  exact ⟨(home.below rfl).1, (variable_directory.below rfl).1⟩

/-- A second slash behind the mark leads out of the home directory, and out of a variable's. -/
theorem expansion_leaves_directory :
    tank.home? = some "/home/ann" ∧ tank.expandPath "~//clips" = "/clips" ∧
      parts (tank.expandPath "~//clips") ≠ parts "/home/ann" ++ parts "/clips" ∧
      tank.lookup "TANK" = some "/mnt/tank/" ∧
      parts (tank.expandPath "$TANK//clips") ≠ parts "/mnt/tank/" ++ parts "/clips" := by
  decide

end Environment

end Footage.Place
