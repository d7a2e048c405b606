import Footage.Proofs.Index.Reopening
import Footage.Proofs.Index.Table

/-!
# What an index has recorded

An index that was opened is a map from paths to records, whatever was done with it since. Each
commit sets the record of its path and each removal unsets it; all that is asked of the index is
answered from this map, and asking changes nothing. A database that may only be read stays as it
was. A database in memory is gone when it is closed, so it has no table when the index is used.
-/

namespace Footage.Index

open Footage.Clip Footage.Files

set_option autoImplicit false

def Change.perform : Change → DatabaseIndex → Tree → Tree
  | commit record, index, tree => (index.commit record tree).2
  | remove path, index, tree => (index.remove path tree).2

namespace DatabaseIndex

variable {path : String} {tree opened : Tree} {index : DatabaseIndex} {request : Request}
  {location : Location} {logged : Bool} {refusal? : Option DatabaseFault} {rows : Rows}

theorem make_parent_files (path : String) (tree : Tree) :
    tree.SameFiles (makeParent path tree).2 := by
  unfold makeParent
  cases Place.parent? path with
  | none => exact fun _ _ => Iff.rfl
  | some dir => exact Tree.make_dirs_files tree dir

theorem open_at_cases (opens : openAt path tree = (.ok index, opened)) :
    index = ⟨path⟩ ∧ ∃ made connection reached, tree.SameFiles made ∧
      Connection.openAt path made = (.ok connection, reached) ∧
      (connection.held.clips?.isSome = true ∧ opened = reached ∨
        connection.held.clips? = none ∧ connection.store [] reached = (.ok (), opened)) := by
  have files := make_parent_files path tree
  unfold openAt at opens
  split at opens
  · cases opens
  rename_i made makes
  rw [makes] at files
  split at opens
  · cases opens
  rename_i connection reached connects
  split at opens
  · rename_i some_table
    cases opens
    exact ⟨rfl, made, connection, opened, files, connects, .inl ⟨some_table, rfl⟩⟩
  · rename_i no_table
    rw [Bool.not_eq_true, Option.isSome_eq_false_iff, Option.isNone_iff_eq_none] at no_table
    cases stores : connection.store [] reached with
    | mk outcome stored =>
        rw [stores] at opens
        cases outcome with
        | error fault => cases opens
        | ok =>
            cases opens
            exact ⟨rfl, made, connection, reached, files, connects, .inr ⟨no_table, stores⟩⟩

/-- Whatever is to be done with the rows of the index, it fails and changes nothing. -/
def Shut (index : DatabaseIndex) (fault : DatabaseFault) (tree : Tree) : Prop :=
  ∀ (α : Type) (act : Connection → Rows → Tree → Except DatabaseFault α × Tree),
    withRows act index tree = (.error (.database fault), tree)

theorem shut_of_fails {fault : DatabaseFault}
    (fails : Connection.openAt path tree = (.error fault, tree)) : Shut ⟨path⟩ fault tree := by
  intro α act
  unfold withRows
  rw [fails]

theorem shut_of_transient (whole : nulPosition? path = none)
    (asked : Request.ofPath path = .ok request) (transient : request.isTransient = true)
    (tree : Tree) : Shut ⟨path⟩ .noTable tree := by
  intro α act
  unfold withRows Connection.openAt
  simp only [whole, asked, transient, if_true]

theorem with_rows_ready {α : Type}
    (ready : Connection.Ready path request location logged refusal? rows tree)
    (act : Connection → Rows → Tree → Except DatabaseFault α × Tree) :
    withRows act ⟨path⟩ tree =
      ((act ⟨location, ⟨rows, logged⟩, refusal?⟩ rows tree).1.mapError .database,
        (act ⟨location, ⟨rows, logged⟩, refusal?⟩ rows tree).2) := by
  unfold withRows
  rw [ready.opens]

theorem query_ready {α : Type}
    (ready : Connection.Ready path request location logged refusal? rows tree)
    (read : Rows → α) : query read ⟨path⟩ tree = (.ok (read rows), tree) := by
  unfold query
  rw [with_rows_ready ready]
  rfl

/-- A change is answered, or refused without any effect. -/
def Answers {α : Type} (refusal? : Option DatabaseFault) (tree : Tree) (reply : α)
    (outcome : Except IndexError α × Tree) : Prop :=
  match refusal? with
  | none => outcome.1 = .ok reply
  | some fault => outcome = (.error (.database fault), tree)

theorem update_answers {α : Type}
    (ready : Connection.Ready path request location logged refusal? rows tree)
    (change : Rows → α × Rows) :
    Answers refusal? tree (change rows).1 (update change ⟨path⟩ tree) := by
  unfold update
  rw [with_rows_ready ready]
  cases refusal? <;> rfl

theorem update_ready {α : Type}
    (ready : Connection.Ready path request location logged refusal? rows tree)
    (change : Rows → α × Rows) :
    Connection.Ready path request location logged refusal?
      (if refusal?.isNone then (change rows).2 else rows) (update change ⟨path⟩ tree).2 := by
  unfold update
  rw [with_rows_ready ready]
  cases refusal? with
  | some fault => exact ready
  | none => exact ready.put (change rows).2

theorem ready_or_shut (whole : nulPosition? path = none)
    (asked : Request.ofPath path = .ok request) (lasting : request.isTransient = false)
    (steady : Connection.Steady request location logged refusal?)
    (filed : request.Filed location tree)
    (held : tree.entryAt? location = some (.file (.database ⟨rows, logged⟩))) :
    Connection.Ready path request location logged refusal? rows tree ∨
      Request.DoublesBack tree request.name location ∧ Shut ⟨path⟩ (.cannotOpen path) tree := by
  rcases filed.leads with leads | ⟨nowhere, back⟩
  · exact .inl ⟨whole, asked, lasting, steady, filed, leads, held⟩
  · refine .inr ⟨back, shut_of_fails ?_⟩
    unfold Connection.openAt Connection.openFile
    simp only [whole, asked, lasting, nowhere]
    rfl

/-- An index that was opened has a table, the one that was in the file or else an empty one. -/
theorem open_at_settles (opens : openAt path tree = (.ok index, opened)) :
    index = ⟨path⟩ ∧ ∃ request, Request.ofPath path = .ok request ∧
      ((∃ fault, Shut index fault opened) ∧
          (request.isTransient = true ∨
            ∃ location, Request.DoublesBack opened request.name location) ∨
        ∃ location logged refusal?,
          Connection.Ready path request location logged refusal?
            ((tableAt? tree location).getD []) opened) := by
  obtain ⟨rfl, made, connection, reached, same, connects, stored⟩ := open_at_cases opens
  obtain ⟨whole, request, asked, transient | ⟨lasting, connects⟩⟩ :=
    Connection.open_at_cases connects
  · have shut := shut_of_transient whole asked transient opened
    exact ⟨rfl, request, asked, .inl ⟨⟨_, shut⟩, .inl transient⟩⟩
  refine ⟨rfl, request, asked, ?_⟩
  obtain ⟨location, logged, refusal?, rfl, steady, filed, kept⟩ :=
    Connection.open_file_settles connects
  rw [table_at_same same location] at stored kept
  have settled : request.Filed location opened ∧ opened.entryAt? location =
      some (.file (.database ⟨(tableAt? tree location).getD [], logged⟩)) := by
    rcases stored with ⟨some_table, rfl⟩ | ⟨no_table, stores⟩
    · obtain ⟨rows, table⟩ := Option.isSome_iff_exists.mp some_table
      simp only at table
      rw [table]
      exact ⟨filed, kept rows table⟩
    · obtain ⟨held, later⟩ := Connection.store_filed filed stores
      simp only at no_table
      rw [no_table]
      exact ⟨later, held⟩
  rcases ready_or_shut whole asked lasting steady settled.1 settled.2 with ready | ⟨back, shut⟩
  · exact .inr ⟨location, logged, refusal?, ready⟩
  · exact .inl ⟨⟨_, shut⟩, .inr ⟨location, back⟩⟩

def after (index : DatabaseIndex) (changes : List Change) (tree : Tree) : Tree :=
  changes.foldl (fun tree change => change.perform index tree) tree

theorem perform_ready
    (ready : Connection.Ready path request location logged refusal? rows tree)
    (change : Change) :
    Connection.Ready path request location logged refusal?
      (if refusal?.isNone then change.apply rows else rows) (change.perform ⟨path⟩ tree) := by
  cases change with
  | commit record => exact update_ready ready fun rows => ((), rows.commit record)
  | remove other =>
      exact update_ready ready fun rows => ((rows.get? other).isSome, rows.erase other)

def accepted (refusal? : Option DatabaseFault) (changes : List Change) : List Change :=
  if refusal?.isNone then changes else []

theorem after_ready
    (ready : Connection.Ready path request location logged refusal? rows tree)
    (changes : List Change) :
    Connection.Ready path request location logged refusal?
      (rows.after (accepted refusal? changes)) (after ⟨path⟩ changes tree) := by
  induction changes generalizing rows tree with
  | nil =>
      unfold accepted
      split <;> exact ready
  | cons change changes ih =>
      have later := ih (perform_ready ready change)
      cases refusal? with
      | none => exact later
      | some fault => exact later

/-- The index answers from a map from paths to records, and asking it changes nothing. -/
structure Mirrors (index : DatabaseIndex) (held? : String → Option Record)
    (refusal? : Option DatabaseFault) (tree : Tree) : Prop where
  get : ∀ path, index.get? path tree = (.ok (held? path), tree)
  listed : ∃ listed, index.list none tree = (.ok listed, tree) ∧
    (listed.map Record.path).Nodup ∧ listed.Pairwise Rows.Precedes ∧
    (∀ path record, held? path = some record ↔ record ∈ listed ∧ record.path = path) ∧
    ∀ location, index.list (some location) tree =
      (.ok (listed.filter fun record => record.location == location), tree)
  commit : ∀ record, Answers refusal? tree () (index.commit record tree)
  remove : ∀ path, Answers refusal? tree (held? path).isSome (index.remove path tree)

theorem mirrors_of_ready (distinct : rows.Distinct)
    (ready : Connection.Ready path request location logged refusal? rows tree) :
    Mirrors ⟨path⟩ rows.get? refusal? tree where
  get := fun path => query_ready ready (Rows.get? path)
  listed := by
    refine ⟨rows.list none, query_ready ready _, distinct.list none, distinct.list_precedes none,
      ?_, ?_⟩
    · intro path record
      rw [Rows.mem_list, distinct.get?_eq_some]
      simp
    · intro location
      rw [← distinct.list_some location]
      exact query_ready ready _
  commit := fun record => update_answers ready fun rows => ((), rows.commit record)
  remove := fun path =>
    update_answers ready fun rows => ((rows.get? path).isSome, rows.erase path)

/-- A database keeps its promise that no two rows of its table have one path. -/
def Keyed (tree : Tree) : Prop :=
  ∀ location rows, tableAt? tree location = some rows → rows.Distinct

/-- An index that was opened is a map from paths to records, through any changes: what is at a
path is what the last change of the path left, or what was in the file before. Changes are refused
where the database is only to be read, or where its changes cannot go to a log. Only a database in
memory, or one in a file that the path itself passes and comes back from, cannot be used. -/
theorem index_is_a_map (keyed : Keyed tree) (opens : openAt path tree = (.ok index, opened)) :
    ∃ request, Request.ofPath path = .ok request ∧
      ((∃ fault, Shut index fault opened) ∧
          (request.isTransient = true ∨
            ∃ location, Request.DoublesBack opened request.name location) ∨
        ∃ location refusal?, Request.resolve opened request.name = some location ∧
          (∀ fault ∈ refusal?, fault = .readOnly ∧ request.isFixed = true ∨
            fault = .cannotPrepare ∧ request.canLog = false) ∧
          ∀ changes, Mirrors index
            (fun path => recorded? path ((tableAt? tree location).getD [])
              (accepted refusal? changes))
            refusal? (index.after changes opened)) := by
  obtain ⟨rfl, request, asked, shut | ⟨location, logged, refusal?, ready⟩⟩ :=
    open_at_settles opens
  · exact ⟨request, asked, .inl shut⟩
  have distinct : Rows.Distinct ((tableAt? tree location).getD []) := by
    cases table : tableAt? tree location with
    | none => exact List.nodup_nil
    | some rows => exact keyed location rows table
  refine ⟨request, asked, .inr ⟨location, refusal?, ready.reached, ready.steady.refuses, ?_⟩⟩
  intro changes
  have mirrors := mirrors_of_ready (distinct.after _) (after_ready ready changes)
  have same : (fun path => recorded? path ((tableAt? tree location).getD [])
      (accepted refusal? changes)) =
      (Rows.after (accepted refusal? changes) ((tableAt? tree location).getD [])).get? := by
    funext path
    exact (Rows.get?_after _ path _).symm
  rw [same]
  exact mirrors

/-- A file that has a table already, with a clip from before the epoch. -/
theorem index_in_an_old_file :
    let early : Record := ⟨"yard/1.mp4", "yard", -900, -100, "", 320, 240⟩
    let disk : Tree := ⟨[(["clips.db"], .file (.database ⟨some [early], true⟩))], [], []⟩
    Keyed disk ∧ openAt "clips.db" disk = (.ok ⟨"clips.db"⟩, disk) ∧
      ∀ changes, Mirrors ⟨"clips.db"⟩ (fun path => recorded? path [early] changes) none
        (after ⟨"clips.db"⟩ changes disk) := by
  intro early disk
  have keyed : Keyed disk := by
    intro location rows table
    obtain ⟨held, there, found⟩ := table_at_some.mp table
    unfold Tree.entryAt? at there
    split at there
    · cases there
    · rw [List.lookup_cons] at there
      split at there
      · cases there
        cases found
        exact List.nodup_singleton _
      · cases there
  have opens : openAt "clips.db" disk = (.ok ⟨"clips.db"⟩, disk) := rfl
  refine ⟨keyed, opens, ?_⟩
  obtain ⟨request, asked, outcome⟩ := index_is_a_map keyed opens
  have plain : request = { name := "clips.db" } := Except.ok.inj (asked.symm.trans (by rfl))
  subst plain
  rcases outcome with ⟨_, transient | ⟨_, back, _⟩⟩ | ⟨location, refusal?, leads, refuses, mirrors⟩
  · exact absurd transient (by decide)
  · exact absurd back (by decide)
  · have here : location = ["clips.db"] := Option.some.inj (leads.symm.trans (by rfl))
    subst here
    have free : refusal? = none := by
      refine Option.eq_none_iff_forall_ne_some.mpr fun fault refused => ?_
      rcases refuses fault refused with ⟨-, fixed⟩ | ⟨-, unlogged⟩
      · exact absurd fixed (by decide)
      · exact absurd unlogged (by decide)
    subst free
    exact mirrors

end DatabaseIndex

end Footage.Index
