import Footage.Index.Database
import Footage.Proofs.Files.Growth
import Mathlib.Tactic.ByContra
import Mathlib.Tactic.SplitIfs

/-!
# Opening a database again

Every operation opens the database anew. Once the index was opened, either nothing can be read or
changed any more, always for the same reason, or each opening finds the table that the last change
left: putting a file in place of a file does not change where a path leads.
-/

namespace Footage.Index

open Footage.Files

set_option autoImplicit false

namespace Request

variable {tree other : Tree} {location start reached : Location} {part : String} {content : Content}

def isFile (tree : Tree) (location : Location) : Bool :=
  match tree.entryAt? location with
  | some (.file _) => true
  | _ => false

theorem resolve_part_eq (tree : Tree) (location : Location) (part : String) :
    resolvePart tree location part =
      if part = "." then some location
      else if part = ".." then some location.dropLast
      else if Tree.maxNameBytes < part.utf8ByteSize ∨ isFile tree location = true ∨
          maxWalkedBytes < pathBytes (location ++ [part]) then none
      else some (location ++ [part]) := by
  unfold resolvePart Tree.childAt? isFile
  by_cases long : Tree.maxNameBytes < part.utf8ByteSize
  · simp [long]
  · cases tree.entryAt? location with
    | none => simp [long]
    | some entry => cases entry <;> simp [long]

theorem is_file_put (there : tree.entryAt? location = some (.file content)) (later : Content) :
    isFile (tree.put location (.file later)) = isFile tree := by
  funext other
  unfold isFile
  rw [Tree.entry_put tree (Tree.location_of_file there)]
  by_cases here : other = location
  · rw [if_pos here, here, there]
  · rw [if_neg here]

theorem resolve_part_put (there : tree.entryAt? location = some (.file content))
    (later : Content) : resolvePart (tree.put location (.file later)) = resolvePart tree := by
  funext start part
  rw [resolve_part_eq, resolve_part_eq, is_file_put there]

theorem resolve_part_elsewhere (named : location ≠ []) (elsewhere : start ≠ location)
    (entry : Entry) :
    resolvePart (tree.put location entry) start part = resolvePart tree start part := by
  have same : isFile (tree.put location entry) start = isFile tree start := by
    unfold isFile
    rw [Tree.entry_put tree named, if_neg elsewhere]
  rw [resolve_part_eq, resolve_part_eq, same]

theorem resolve_put (there : tree.entryAt? location = some (.file content)) (later : Content)
    (name : String) :
    resolve (tree.put location (.file later)) name = resolve tree name := by
  unfold resolve
  rw [resolve_part_put there]
  rfl

theorem part_unique {elsewhere : Location} (stepped : resolvePart tree start part = some reached)
    (stepped_other : resolvePart other start part = some elsewhere) : elsewhere = reached := by
  rw [resolve_part_eq] at stepped stepped_other
  split_ifs at stepped stepped_other
  all_goals exact Option.some.inj (stepped_other.symm.trans stepped)

theorem resolve_eq (tree : Tree) (name : String) :
    resolve tree name =
      ((Place.parts name).foldlM (resolvePart tree)
        (if Place.isAbsolute name then [] else tree.workingDir)).bind fun location =>
          if location = [] ∨ maxPathBytes < pathBytes location then none else some location :=
  rfl

theorem walk_unique {parts : List String} {elsewhere : Location}
    (walked : parts.foldlM (resolvePart tree) start = some reached)
    (walked_other : parts.foldlM (resolvePart other) start = some elsewhere) :
    elsewhere = reached := by
  induction parts generalizing start with
  | nil => exact Option.some.inj (walked_other.symm.trans walked)
  | cons part parts ih =>
      rw [List.foldlM_cons] at walked walked_other
      obtain ⟨next, stepped, walked⟩ := Option.bind_eq_some_iff.mp walked
      obtain ⟨next_other, stepped_other, walked_other⟩ := Option.bind_eq_some_iff.mp walked_other
      rw [part_unique stepped stepped_other] at walked_other
      exact ih walked walked_other

theorem resolve_unique {elsewhere : Location} {name : String}
    (dirs : other.workingDir = tree.workingDir) (found : resolve tree name = some location)
    (found_other : resolve other name = some elsewhere) : elsewhere = location := by
  unfold resolve at found found_other
  rw [dirs] at found_other
  obtain ⟨reached, walked, found⟩ := Option.bind_eq_some_iff.mp found
  obtain ⟨reached_other, walked_other, found_other⟩ := Option.bind_eq_some_iff.mp found_other
  split at found
  · cases found
  split at found_other
  · cases found_other
  cases found
  cases found_other
  exact walk_unique walked walked_other

/-- Without double dots a path never goes back, so it does not pass its end on the way. -/
theorem walk_longer {parts : List String} (forward : ".." ∉ parts)
    (walked : parts.foldlM (resolvePart tree) start = some reached) :
    start.length ≤ reached.length := by
  induction parts generalizing start with
  | nil =>
      cases walked
      exact Nat.le_refl _
  | cons part parts ih =>
      rw [List.mem_cons, not_or] at forward
      rw [List.foldlM_cons] at walked
      obtain ⟨next, stepped, walked⟩ := Option.bind_eq_some_iff.mp walked
      have further := ih forward.2 walked
      rw [resolve_part_eq, if_neg (Ne.symm forward.1)] at stepped
      split_ifs at stepped
      · cases stepped
        exact further
      · cases stepped
        rw [List.length_append, List.length_singleton] at further
        omega

theorem walk_put {parts : List String} (forward : ".." ∉ parts) (named : location ≠ [])
    (walked : parts.foldlM (resolvePart tree) start = some location) (entry : Entry) :
    parts.foldlM (resolvePart (tree.put location entry)) start = some location := by
  induction parts generalizing start with
  | nil => exact walked
  | cons part parts ih =>
      rw [List.mem_cons, not_or] at forward
      rw [List.foldlM_cons] at walked ⊢
      obtain ⟨next, stepped, walked⟩ := Option.bind_eq_some_iff.mp walked
      refine Option.bind_eq_some_iff.mpr ⟨next, ?_, ih forward.2 walked⟩
      by_cases dot : part = "."
      · rw [resolve_part_eq, if_pos dot] at stepped ⊢
        exact stepped
      · -- The walk goes on from here to a deeper location, so the new entry is not here.
        have before : start ≠ location := by
          rintro rfl
          have longer := walk_longer forward.2 walked
          rw [resolve_part_eq, if_neg dot, if_neg (Ne.symm forward.1)] at stepped
          split_ifs at stepped
          cases stepped
          rw [List.length_append, List.length_singleton] at longer
          omega
        rw [resolve_part_elsewhere named before]
        exact stepped

theorem resolve_put_new {name : String} (forward : ".." ∉ Place.parts name)
    (found : resolve tree name = some location) (entry : Entry) :
    resolve (tree.put location entry) name = some location := by
  unfold resolve at found ⊢
  obtain ⟨reached, walked, found⟩ := Option.bind_eq_some_iff.mp found
  split at found
  · cases found
  rename_i within
  cases found
  refine Option.bind_eq_some_iff.mpr ⟨location, ?_, if_neg within⟩
  exact walk_put forward (fun root => within (.inl root)) walked entry

/-- The path goes on to a name below the location and comes back by a double dot. -/
def DoublesBack (tree : Tree) (name : String) (location : Location) : Prop :=
  ".." ∈ Place.parts name ∧ ∃ before part after, Place.parts name = before ++ part :: after ∧
    part ≠ "." ∧ part ≠ ".." ∧
    before.foldlM (resolvePart tree) (if Place.isAbsolute name then [] else tree.workingDir) =
      some location

theorem walk_lost {parts : List String} (named : location ≠ []) {entry : Entry}
    (walked : parts.foldlM (resolvePart tree) start = some reached)
    (lost : parts.foldlM (resolvePart (tree.put location entry)) start = none) :
    ∃ before part after, parts = before ++ part :: after ∧ part ≠ "." ∧ part ≠ ".." ∧
      before.foldlM (resolvePart (tree.put location entry)) start = some location := by
  induction parts generalizing start with
  | nil => cases lost
  | cons part parts ih =>
      rw [List.foldlM_cons] at walked lost
      obtain ⟨next, stepped, walked⟩ := Option.bind_eq_some_iff.mp walked
      cases steps : resolvePart (tree.put location entry) start part with
      | some reached_other =>
          rw [steps, part_unique stepped steps] at lost
          obtain ⟨before, below, after, cut, forward, on, leads⟩ := ih walked lost
          refine ⟨part :: before, below, after, by rw [cut]; rfl, forward, on, ?_⟩
          rw [List.foldlM_cons, steps, part_unique stepped steps]
          exact leads
      | none =>
          have here : start = location := by
            by_contra elsewhere
            rw [resolve_part_elsewhere named elsewhere, stepped] at steps
            cases steps
          rw [resolve_part_eq] at steps
          split_ifs at steps with dot dots
          exact ⟨[], part, parts, rfl, dot, dots, congrArg some here⟩

theorem resolve_lost {name : String} {entry : Entry} (found : resolve tree name = some location)
    (lost : resolve (tree.put location entry) name = none) :
    DoublesBack (tree.put location entry) name location := by
  have back : ".." ∈ Place.parts name := by
    by_contra forward
    rw [resolve_put_new forward found] at lost
    cases lost
  rw [resolve_eq] at found lost
  obtain ⟨reached, walked, found⟩ := Option.bind_eq_some_iff.mp found
  split at found
  · cases found
  rename_i within
  cases found
  refine ⟨back, walk_lost (fun root => within (.inl root)) walked ?_⟩
  rw [Option.bind_eq_none_iff] at lost
  refine Option.eq_none_iff_forall_ne_some.mpr fun elsewhere walks => ?_
  have nowhere := lost elsewhere walks
  rw [walk_unique walked walks, if_neg within] at nowhere
  cases nowhere

/-- There is a file at the location, and the path that is asked for leads to it or, when it passes
the file and comes back, nowhere any more. -/
structure Filed (request : Request) (location : Location) (tree : Tree) : Prop where
  file : ∃ content, tree.entryAt? location = some (.file content)
  lent : ∀ source ∈ request.permissions?, tree.isThere source = true
  leads : resolve tree request.name = some location ∨
    resolve tree request.name = none ∧ DoublesBack tree request.name location

theorem Filed.put {request : Request} (filed : request.Filed location tree) (later : Content) :
    request.Filed location (tree.put location (.file later)) := by
  obtain ⟨⟨content, there⟩, lent, leads⟩ := filed
  have named := Tree.location_of_file there
  have grows : tree.Grows (tree.put location (.file later)) :=
    Tree.grows_put named (by rw [there]; exact (nomatch ·)) later
  refine ⟨⟨later, ?_⟩, fun source asked => grows.is_there (lent source asked), ?_⟩
  · exact Tree.entry_put_self tree named _
  · unfold DoublesBack
    rw [resolve_put there, resolve_part_put there]
    exact leads

theorem open_file_filed {request : Request} {path : String} {opened : Tree}
    (found : resolve tree request.name = some location)
    (lent : ∀ source ∈ request.permissions?, tree.isThere source = true)
    (opens : request.openFile path tree location = .ok (content, opened)) :
    opened.entryAt? location = some (.file content) ∧ request.Filed location opened ∧
      (opened = tree ∨ content = .empty ∧ tree.entryAt? location = none) := by
  unfold openFile at opens
  cases there : tree.entryAt? location with
  | some entry =>
      rw [there] at opens
      cases entry with
      | directory => cases opens
      | file held =>
          cases opens
          exact ⟨there, ⟨⟨content, there⟩, lent, .inl found⟩, .inl rfl⟩
  | none =>
      rw [there] at opens
      simp only at opens
      split at opens
      · cases opens
        have named : location ≠ [] := by
          rintro rfl
          cases there
        have grows : tree.Grows (tree.put location (.file .empty)) :=
          Tree.grows_put named (by rw [there]; exact (nomatch ·)) .empty
        have held := Tree.entry_put_self tree named (.file .empty)
        refine ⟨held, ⟨⟨_, held⟩, fun source asked => grows.is_there (lent source asked), ?_⟩,
          .inr ⟨rfl, rfl⟩⟩
        cases leads : resolve (tree.put location (.file .empty)) request.name with
        | none => exact .inr ⟨rfl, resolve_lost found leads⟩
        | some reached =>
            rw [resolve_unique grows.workingDir found leads]
            exact .inl rfl
      · cases opens

end Request

def tableAt? (tree : Tree) (location : Location) : Option Rows :=
  match tree.entryAt? location with
  | some (.file (.database held)) => held.clips?
  | _ => none

theorem table_at_some {tree : Tree} {location : Location} {rows : Rows} :
    tableAt? tree location = some rows ↔
      ∃ held, tree.entryAt? location = some (.file (.database held)) ∧ held.clips? = some rows := by
  unfold tableAt?
  constructor
  · intro found
    split at found
    · rename_i held there
      exact ⟨held, there, found⟩
    · cases found
  · rintro ⟨held, there, found⟩
    rw [there]
    exact found

theorem table_at_same {tree made : Tree} (same : tree.SameFiles made) (location : Location) :
    tableAt? made location = tableAt? tree location := by
  apply Option.ext
  intro rows
  rw [table_at_some, table_at_some]
  exact exists_congr fun held => and_congr_left fun _ => same location (.database held)

namespace Connection

variable {path : String} {request : Request} {tree made opened : Tree} {location : Location}
  {held : Database} {connection : Connection}

structure Steady (request : Request) (location : Location) (logged : Bool)
    (refusal? : Option DatabaseFault) : Prop where
  again : ∀ tree rows?,
    prepare request tree location ⟨rows?, logged⟩ =
      (.ok ⟨location, ⟨rows?, logged⟩, refusal?⟩, tree)
  refuses : ∀ fault ∈ refusal?, fault = .readOnly ∧ request.isFixed = true ∨
    fault = .cannotPrepare ∧ request.canLog = false

theorem prepare_steady
    (prepares : prepare request tree location held = (.ok connection, opened)) :
    ∃ logged refusal?, connection = ⟨location, ⟨held.clips?, logged⟩, refusal?⟩ ∧
      Steady request location logged refusal? ∧
      (opened = tree ∧ logged = held.logged ∨
        opened = tree.put location (.file (.database ⟨held.clips?, logged⟩))) := by
  obtain ⟨rows?, logged⟩ := held
  have fixed : ∀ fault ∈ if request.isFixed then some DatabaseFault.readOnly else none,
      fault = .readOnly ∧ request.isFixed = true := by
    intro fault refused
    split at refused
    · rename_i fixed
      cases refused
      exact ⟨rfl, fixed⟩
    · cases refused
  unfold prepare at prepares
  simp only at prepares
  split at prepares
  · rename_i immutable
    cases prepares
    exact ⟨logged, _, rfl,
      ⟨fun _ _ => if_pos immutable, fun fault refused => .inl (fixed fault refused)⟩,
      .inl ⟨rfl, rfl⟩⟩
  rename_i mutable
  split at prepares
  · rename_i had
    subst had
    split at prepares
    · rename_i logs
      cases prepares
      refine ⟨true, _, rfl, ⟨?_, fun fault refused => .inl (fixed fault refused)⟩,
        .inl ⟨rfl, rfl⟩⟩
      intro _ _
      simp [prepare, mutable, logs]
    · cases prepares
  rename_i none_yet
  rw [Bool.not_eq_true] at none_yet
  subst none_yet
  split at prepares
  · rename_i logs
    -- The log is made now, which only happens when nothing refuses a change.
    split at prepares
    · cases prepares
    · rename_i allowed
      cases prepares
      have changing : request.isFixed = false := by
        cases fixed : request.isFixed with
        | false => rfl
        | true => simp [fixed] at allowed
      refine ⟨true, none, rfl, ⟨?_, fun _ refused => nomatch refused⟩, .inr rfl⟩
      intro _ _
      simp [prepare, mutable, logs, changing]
  · rename_i unlogged
    cases prepares
    rw [Bool.not_eq_true] at unlogged
    refine ⟨false, _, rfl, ⟨?_, ?_⟩, .inl ⟨rfl, rfl⟩⟩
    · intro _ _
      simp [prepare, mutable, unlogged]
    · intro fault refused
      rcases Option.or_eq_some_iff.mp refused with refused | ⟨-, cramped⟩
      · exact .inl (fixed fault refused)
      · split at cramped <;> cases cramped
        exact .inr ⟨rfl, unlogged⟩

theorem open_file_cases
    (opens : openFile path request tree = (.ok connection, opened)) :
    ∃ location content held made, request.Filed location made ∧
      made.entryAt? location = some (.file content) ∧
      (made = tree ∨ content = .empty ∧ tree.entryAt? location = none) ∧
      databaseIn content = .ok held ∧
      prepare request made location held = (.ok connection, opened) := by
  unfold openFile at opens
  split at opens
  · cases opens
  rename_i location found
  split at opens
  · cases opens
  rename_i lent
  split at opens
  · cases opens
  rename_i content made reads
  split at opens
  · cases opens
  rename_i held reading
  have given : ∀ source ∈ request.permissions?, tree.isThere source = true := by
    intro source asked
    rw [Option.mem_def.mp asked] at lent
    simpa using lent
  obtain ⟨there, filed, kept⟩ := Request.open_file_filed found given reads
  exact ⟨location, content, held, made, filed, there, kept, reading, opens⟩

theorem open_at_cases (opens : openAt path tree = (.ok connection, opened)) :
    nulPosition? path = none ∧ ∃ request, Request.ofPath path = .ok request ∧
      (request.isTransient = true ∨
        request.isTransient = false ∧ openFile path request tree = (.ok connection, opened)) := by
  unfold openAt at opens
  split at opens
  · cases opens
  rename_i whole
  split at opens
  · cases opens
  rename_i request asked
  split at opens
  · rename_i transient
    exact ⟨whole, request, asked, .inl transient⟩
  · rename_i lasting
    exact ⟨whole, request, asked, .inr ⟨Bool.not_eq_true _ ▸ lasting, opens⟩⟩

theorem table_at_file {content : Content} (there : tree.entryAt? location = some (.file content))
    (reads : databaseIn content = .ok held) : tableAt? tree location = held.clips? := by
  unfold tableAt?
  rw [there]
  unfold databaseIn at reads
  split at reads
  · cases reads
    rfl
  · rename_i plain
    split at reads
    · cases reads
      cases content with
      | database other => exact absurd rfl (plain other)
      | _ => rfl
    · cases reads

theorem database_in_rows {content : Content} {rows : Rows}
    (reads : databaseIn content = .ok held) (table : held.clips? = some rows) :
    content = .database ⟨rows, held.logged⟩ := by
  unfold databaseIn at reads
  split at reads
  · cases reads
    rw [← table]
  · split at reads
    · cases reads
      cases table
    · cases reads

/-- Opening a file leaves the table that it finds there, and the database prepared. -/
theorem open_file_settles (opens : openFile path request tree = (.ok connection, opened)) :
    ∃ (location : Location) (logged : Bool) (refusal? : Option DatabaseFault),
      connection = ⟨location, ⟨tableAt? tree location, logged⟩, refusal?⟩ ∧
      Steady request location logged refusal? ∧ request.Filed location opened ∧
      ∀ rows, tableAt? tree location = some rows →
        opened.entryAt? location = some (.file (.database ⟨some rows, logged⟩)) := by
  obtain ⟨location, content, held, grown, filed, there, kept, reads, prepares⟩ :=
    open_file_cases opens
  obtain ⟨logged, refusal?, rfl, steady, changed⟩ := prepare_steady prepares
  have table : tableAt? tree location = held.clips? := by
    rcases kept with rfl | ⟨rfl, absent⟩
    · exact table_at_file there reads
    · cases reads
      unfold tableAt?
      rw [absent]
  refine ⟨location, logged, refusal?, by rw [table], steady, ?_, ?_⟩
  · rcases changed with ⟨rfl, _⟩ | rfl
    · exact filed
    · exact filed.put _
  · intro rows found
    rw [table] at found
    rcases changed with ⟨rfl, rfl⟩ | rfl
    · rw [there, database_in_rows reads found]
    · rw [Tree.entry_put_self grown (Tree.location_of_file there), found]

theorem store_filed {held : Database} {refusal? : Option DatabaseFault} {rows : Rows}
    (filed : request.Filed location tree)
    (stores : store rows ⟨location, held, refusal?⟩ tree = (.ok (), opened)) :
    opened.entryAt? location = some (.file (.database ⟨some rows, held.logged⟩)) ∧
      request.Filed location opened := by
  obtain ⟨content, there⟩ := filed.file
  unfold store at stores
  cases refusal? with
  | some fault => cases stores
  | none =>
      cases stores
      exact ⟨Tree.entry_put_self tree (Tree.location_of_file there) _, filed.put _⟩

structure Ready (path : String) (request : Request) (location : Location) (logged : Bool)
    (refusal? : Option DatabaseFault) (rows : Rows) (tree : Tree) : Prop where
  whole : nulPosition? path = none
  asked : Request.ofPath path = .ok request
  lasting : request.isTransient = false
  steady : Steady request location logged refusal?
  filed : request.Filed location tree
  reached : Request.resolve tree request.name = some location
  held : tree.entryAt? location = some (.file (.database ⟨rows, logged⟩))

namespace Ready

variable {logged : Bool} {refusal? : Option DatabaseFault} {rows : Rows}

theorem opens (ready : Ready path request location logged refusal? rows tree) :
    openAt path tree = (.ok ⟨location, ⟨rows, logged⟩, refusal?⟩, tree) := by
  have lent : request.permissions?.any (fun source => !tree.isThere source) = false := by
    cases lends : request.permissions? with
    | none => rfl
    | some source => simp [ready.filed.lent source lends]
  have reads : request.openFile path tree location =
      .ok (.database ⟨rows, logged⟩, tree) := by
    unfold Request.openFile
    rw [ready.held]
  unfold openAt openFile
  simp only [ready.whole, ready.asked, ready.lasting, ready.reached, lent, reads, databaseIn]
  exact ready.steady.again tree rows

theorem put (ready : Ready path request location logged refusal? rows tree) (later : Rows) :
    Ready path request location logged refusal? later
      (tree.put location (.file (.database ⟨later, logged⟩))) where
  whole := ready.whole
  asked := ready.asked
  lasting := ready.lasting
  steady := ready.steady
  filed := ready.filed.put _
  reached := (Request.resolve_put ready.held _ _).trans ready.reached
  held := Tree.entry_put_self tree (Tree.location_of_file ready.held) _

end Ready

end Connection

end Footage.Index
