import Footage.Index.Memory
import Footage.Proofs.Index.Recorded

/-!
# The two clip indexes beside each other

The index in memory is a log: it keeps every commit, also those that share a path, and looks a
path up from its oldest entry. The index in a database is a table with one row for a path, which
the next commit of the path replaces. So the table is what the last commits of the log leave, and
the two can be taken for each other exactly as long as no path is committed with a second record.
-/

namespace Footage.Index

open Footage.Clip Footage.Files

set_option autoImplicit false

variable {path : String} {tree opened later : Tree} {index : DatabaseIndex} {record : Record}
  {request : Request} {location : Location} {logged : Bool} {rows : Rows}

namespace MemoryIndex

variable {log : MemoryIndex}

def ofCommits (commits : List Record) : MemoryIndex :=
  commits.foldl (fun index record => index.commit record) {}

theorem records_foldl_commit (commits : List Record) (log : MemoryIndex) :
    (commits.foldl (fun index record => index.commit record) log).records =
      log.records ++ commits := by
  induction commits generalizing log with
  | nil => exact (List.append_nil _).symm
  | cons record commits ih =>
      refine (ih (log.commit record)).trans ?_
      exact List.append_assoc _ _ _

@[simp]
theorem records_of_commits (commits : List Record) : (ofCommits commits).records = commits :=
  records_foldl_commit commits {}

/-- The newest commit with the path. -/
def latest? (path : String) (log : MemoryIndex) : Option Record :=
  (log.records.filter fun record => record.path == path).getLast?

/-- No two different records were committed with the path. -/
def Settled (path : String) (log : MemoryIndex) : Prop :=
  ∀ first ∈ log.records, ∀ second ∈ log.records, first.path = path → second.path = path →
    first = second

theorem get?_eq_head? (path : String) (log : MemoryIndex) :
    log.get? path = (log.records.filter fun record => record.path == path).head? :=
  List.head?_filter.symm

theorem mem_list {location : String} :
    record ∈ log.list location ↔ record ∈ log.records ∧ record.location = location := by
  unfold list
  rw [List.mem_filter, beq_iff_eq]

theorem mem_of_latest (found : log.latest? path = some record) :
    record ∈ log.records ∧ record.path = path := by
  have kept := List.mem_filter.mp (List.mem_of_getLast? found)
  exact ⟨kept.1, beq_iff_eq.mp kept.2⟩

theorem mem_of_get (found : log.get? path = some record) :
    record ∈ log.records ∧ record.path = path :=
  ⟨List.mem_of_find?_eq_some found, by simpa using List.find?_some found⟩

/-- Of each path there is an oldest commit exactly when there is a newest one. -/
theorem is_some_get (path : String) (log : MemoryIndex) :
    (log.get? path).isSome = (log.latest? path).isSome := by
  rw [get?_eq_head?]
  unfold latest?
  cases log.records.filter fun record => record.path == path with
  | nil => rfl
  | cons first others => rw [List.getLast?_cons]; rfl

theorem Settled.get (settled : log.Settled path) : log.get? path = log.latest? path := by
  have alike := is_some_get path log
  cases oldest : log.get? path with
  | none =>
      rw [oldest] at alike
      exact (Option.isNone_iff_eq_none.mp (by simpa using alike.symm)).symm
  | some first =>
      rw [oldest] at alike
      obtain ⟨second, newest⟩ := Option.isSome_iff_exists.mp alike.symm
      obtain ⟨first_kept, first_path⟩ := mem_of_get oldest
      obtain ⟨second_kept, second_path⟩ := mem_of_latest newest
      rw [newest, settled first first_kept second second_kept first_path second_path]

/-- Where a path is settled, each of its commits is as good as the newest. -/
theorem Settled.latest (settled : log.Settled record.path) (kept : record ∈ log.records) :
    log.latest? record.path = some record := by
  have some_commit : (log.get? record.path).isSome = true :=
    List.find?_isSome.mpr ⟨record, kept, beq_self_eq_true _⟩
  rw [is_some_get] at some_commit
  obtain ⟨newest, found⟩ := Option.isSome_iff_exists.mp some_commit
  obtain ⟨newest_kept, newest_path⟩ := mem_of_latest found
  rw [found, settled newest newest_kept record kept newest_path rfl]

/-- Every path is settled exactly when each commit is the newest of its path. -/
theorem settled_iff_latest :
    (∀ path, log.Settled path) ↔ ∀ record ∈ log.records, log.latest? record.path = some record := by
  constructor
  · exact fun settled record kept => (settled record.path).latest kept
  · intro newest path first first_kept second second_kept first_path second_path
    have first_newest := newest first first_kept
    have second_newest := newest second second_kept
    rw [first_path] at first_newest
    rw [second_path] at second_newest
    exact Option.some.inj (first_newest.symm.trans second_newest)

end MemoryIndex

/-- The record that some commits leave at a path of an empty table is the last of them. -/
theorem recorded_commits (path : String) (commits : List Record) :
    recorded? path [] (commits.map Change.commit) = (MemoryIndex.ofCommits commits).latest? path := by
  have concerned : (commits.map Change.commit).filter (fun change => change.path == path) =
      (commits.filter fun record => record.path == path).map Change.commit := List.filter_map
  unfold recorded? MemoryIndex.latest?
  rw [concerned, MemoryIndex.records_of_commits, List.getLast?_map]
  cases (commits.filter fun record => record.path == path).getLast? <;> rfl

namespace DatabaseIndex

def commitAll (index : DatabaseIndex) : List Record → Tree → Except IndexError Unit × Tree
  | [], tree => (.ok (), tree)
  | record :: records, tree =>
      match index.commit record tree with
      | (.error cause, tree) => (.error cause, tree)
      | (.ok (), tree) => index.commitAll records tree

theorem commit_ready (ready : Connection.Ready path request location logged none rows tree)
    (record : Record) :
    ∃ later, commit record ⟨path⟩ tree = (.ok (), later) ∧
      Connection.Ready path request location logged none (rows.commit record) later := by
  have answered : (commit record ⟨path⟩ tree).1 = .ok () :=
    update_answers ready fun rows => ((), rows.commit record)
  exact ⟨_, Prod.ext answered rfl, update_ready ready fun rows => ((), rows.commit record)⟩

theorem commit_all_ready (ready : Connection.Ready path request location logged none rows tree)
    (commits : List Record) :
    ∃ later, commitAll ⟨path⟩ commits tree = (.ok (), later) ∧
      Connection.Ready path request location logged none
        (rows.after (commits.map Change.commit)) later := by
  induction commits generalizing rows tree with
  | nil => exact ⟨tree, rfl, ready⟩
  | cons record commits ih =>
      obtain ⟨between, committed, ready⟩ := commit_ready ready record
      obtain ⟨later, rest, ready⟩ := ih ready
      refine ⟨later, ?_, ready⟩
      unfold commitAll
      rw [committed]
      exact rest

theorem ready_of_empty (opens : openAt path tree = (.ok index, opened))
    (empty : index.list none opened = (.ok [], opened)) :
    index = ⟨path⟩ ∧ ∃ request location logged refusal?, Request.ofPath path = .ok request ∧
      Connection.Ready path request location logged refusal? [] opened := by
  obtain ⟨rfl, request, asked, ⟨⟨fault, shut⟩, -⟩ | ⟨location, logged, refusal?, ready⟩⟩ :=
    open_at_settles opens
  · have refused : list none ⟨path⟩ opened = (.error (.database fault), opened) :=
      shut (List Record) fun _ rows tree => (.ok (rows.list none), tree)
    rw [refused] at empty
    cases empty
  · have listed : Rows.list none ((tableAt? tree location).getD []) = [] :=
      Except.ok.inj (congrArg Prod.fst ((query_ready ready (Rows.list none)).symm.trans empty))
    have perm := Rows.listed_perm none ((tableAt? tree location).getD [])
    rw [listed] at perm
    have rowless : (tableAt? tree location).getD [] = [] := by simpa using perm.symm.eq_nil
    rw [rowless] at ready
    exact ⟨rfl, request, location, logged, refusal?, asked, ready⟩

/-- The index holds the newest commits of a log: it finds the newest of each path, and lists of
each location what the log lists of it, less the commits that have a newer one. -/
structure Shadows (index : DatabaseIndex) (log : MemoryIndex) (tree : Tree) : Prop where
  get : ∀ path, index.get? path tree = (.ok (log.latest? path), tree)
  listed : ∀ location, ∃ listed, index.list (some location) tree = (.ok listed, tree) ∧
    ∀ record, record ∈ listed ↔
      record ∈ log.list location ∧ log.latest? record.path = some record

theorem shadows_of_ready {commits : List Record} (ready : Connection.Ready path request location
      logged none (Rows.after (commits.map Change.commit) []) tree) :
    Shadows ⟨path⟩ (MemoryIndex.ofCommits commits) tree := by
  have newest : ∀ path, Rows.get? path (Rows.after (commits.map Change.commit) []) =
      (MemoryIndex.ofCommits commits).latest? path := by
    intro path
    rw [Rows.get?_after, recorded_commits]
  have unrecorded : Rows.Distinct [] := List.nodup_nil
  have distinct := unrecorded.after (commits.map Change.commit)
  constructor
  · intro path
    rw [← newest path]
    exact query_ready ready (Rows.get? path)
  · intro location
    refine ⟨_, query_ready ready (Rows.list (some location)), fun record => ?_⟩
    have held : record ∈ Rows.after (commits.map Change.commit) [] ↔
        (MemoryIndex.ofCommits commits).latest? record.path = some record := by
      rw [← newest, distinct.get?_eq_some, and_iff_left rfl]
    rw [Rows.mem_list, held, MemoryIndex.mem_list]
    constructor
    · rintro ⟨found, here⟩
      exact ⟨⟨(MemoryIndex.mem_of_latest found).1, by simpa using here⟩, found⟩
    · rintro ⟨⟨-, here⟩, found⟩
      exact ⟨found, by simpa using here⟩

def FindsAlike (path : String) (index : DatabaseIndex) (log : MemoryIndex) (tree : Tree) : Prop :=
  index.get? path tree = (.ok (log.get? path), tree)

def ListsAlike (location : String) (index : DatabaseIndex) (log : MemoryIndex) (tree : Tree) :
    Prop :=
  ∃ listed, index.list (some location) tree = (.ok listed, tree) ∧
    ∀ record, record ∈ listed ↔ record ∈ log.list location

theorem Shadows.finds {log : MemoryIndex} (shadows : Shadows index log tree)
    (settled : log.Settled path) : FindsAlike path index log tree := by
  unfold FindsAlike
  rw [settled.get]
  exact shadows.get path

theorem Shadows.lists_iff {log : MemoryIndex} (shadows : Shadows index log tree) :
    (∀ location, ListsAlike location index log tree) ↔ ∀ path, log.Settled path := by
  rw [MemoryIndex.settled_iff_latest]
  constructor
  · intro alike record kept
    obtain ⟨listed, answer, same⟩ := alike record.location
    obtain ⟨others, repeated, newest⟩ := shadows.listed record.location
    have equal : listed = others :=
      Except.ok.inj (congrArg Prod.fst (answer.symm.trans repeated))
    subst equal
    exact ((newest record).mp ((same record).mpr (MemoryIndex.mem_list.mpr ⟨kept, rfl⟩))).2
  · intro newest location
    obtain ⟨listed, answer, members⟩ := shadows.listed location
    refine ⟨listed, answer, fun record => (members record).trans ?_⟩
    exact and_iff_left_of_imp fun kept => newest record (MemoryIndex.mem_list.mp kept).1

/-- Commits to a new log and to an index without clips: unless the database takes no change at
all, it then holds the newest commits of the log. Both have a record of the same paths, the same
record of a path without two different commits, and they list the same records of every location
exactly when no path has two different commits. -/
theorem log_beside_table (opens : openAt path tree = (.ok index, opened))
    (empty : index.list none opened = (.ok [], opened)) :
    ∃ request, Request.ofPath path = .ok request ∧
      ((∃ fault, (fault = .readOnly ∧ request.isFixed = true ∨
            fault = .cannotPrepare ∧ request.canLog = false) ∧
          ∀ record, index.commit record opened = (.error (.database fault), opened)) ∨
        ∀ commits, ∃ later, index.commitAll commits opened = (.ok (), later) ∧
          let log := MemoryIndex.ofCommits commits
          Shadows index log later ∧
          (∀ path, (log.get? path).isSome = (log.latest? path).isSome) ∧
          (∀ path, log.Settled path → FindsAlike path index log later) ∧
          ((∀ location, ListsAlike location index log later) ↔ ∀ path, log.Settled path)) := by
  obtain ⟨rfl, request, location, logged, refusal?, asked, ready⟩ := ready_of_empty opens empty
  refine ⟨request, asked, ?_⟩
  cases refusal? with
  | some fault =>
      refine .inl ⟨fault, ready.steady.refuses fault rfl, fun record => ?_⟩
      exact update_answers ready fun rows => ((), rows.commit record)
  | none =>
      refine .inr fun commits => ?_
      obtain ⟨later, taken, ready⟩ := commit_all_ready ready commits
      have shadows := shadows_of_ready ready
      exact ⟨later, taken, shadows, fun path => MemoryIndex.is_some_get path _,
        fun path settled => shadows.finds settled, shadows.lists_iff⟩

def newDatabase : Tree := ⟨[(["clips.db"], .file (.database ⟨some [], true⟩))], [], []⟩

theorem open_new_database : openAt "clips.db" ⟨[], [], []⟩ = (.ok ⟨"clips.db"⟩, newDatabase) := rfl

theorem list_new_database :
    list none ⟨"clips.db"⟩ newDatabase = (.ok [], newDatabase) := by
  show (Except.ok (Rows.list none []), newDatabase) = _
  rw [Rows.list, List.filter_nil, List.mergeSort_nil]

/-- Two clips of a yard. -/
theorem log_beside_table_new :
    let gate : Record := ⟨"gate/a/a.mp4", "yard", 2000, 2900, "", 320, 240⟩
    let shed : Record := ⟨"shed/a/a.mp4", "yard", 1000, 1900, "", 320, 240⟩
    let log := MemoryIndex.ofCommits [gate, shed]
    openAt "clips.db" ⟨[], [], []⟩ = (.ok ⟨"clips.db"⟩, newDatabase) ∧
      list none ⟨"clips.db"⟩ newDatabase = (.ok [], newDatabase) ∧
      ∃ later, commitAll ⟨"clips.db"⟩ [gate, shed] newDatabase = (.ok (), later) ∧
        (∀ path, FindsAlike path ⟨"clips.db"⟩ log later) ∧
        ListsAlike "yard" ⟨"clips.db"⟩ log later := by
  intro gate shed log
  refine ⟨open_new_database, list_new_database, ?_⟩
  obtain ⟨request, asked, ⟨fault, -, refused⟩ | taken⟩ :=
    log_beside_table open_new_database list_new_database
  · have accepted : (commit gate ⟨"clips.db"⟩ newDatabase).1 = .ok () := rfl
    rw [refused gate] at accepted
    cases accepted
  have settled : ∀ path, log.Settled path := by
    rw [MemoryIndex.settled_iff_latest]
    intro record kept
    rcases List.mem_cons.mp kept with rfl | kept
    · rfl
    · rcases List.mem_singleton.mp kept with rfl
      rfl
  obtain ⟨later, committed, -, -, finds, lists⟩ := taken [gate, shed]
  exact ⟨later, committed, fun path => finds path (settled path), lists.mpr settled "yard"⟩

/-- A path committed again with a later end: the log still finds the first record of it, and lists
both. -/
theorem recommit_parts_the_indexes :
    let first : Record := ⟨"yard/a/a.mp4", "yard", 0, 900, "", 320, 240⟩
    let second : Record := { first with endMs := 5000 }
    let later : Tree := ⟨[(["clips.db"], .file (.database ⟨some [second], true⟩))], [], []⟩
    let log := MemoryIndex.ofCommits [first, second]
    openAt "clips.db" ⟨[], [], []⟩ = (.ok ⟨"clips.db"⟩, newDatabase) ∧
      list none ⟨"clips.db"⟩ newDatabase = (.ok [], newDatabase) ∧
      commitAll ⟨"clips.db"⟩ [first, second] newDatabase = (.ok (), later) ∧
      get? "yard/a/a.mp4" ⟨"clips.db"⟩ later = (.ok (some second), later) ∧
      log.get? "yard/a/a.mp4" = some first ∧
      ¬ FindsAlike "yard/a/a.mp4" ⟨"clips.db"⟩ log later ∧
      list (some "yard") ⟨"clips.db"⟩ later = (.ok [second], later) ∧
      log.list "yard" = [first, second] ∧
      ¬ ListsAlike "yard" ⟨"clips.db"⟩ log later := by
  intro first second later log
  have apart : first ≠ second := by decide
  have found : get? "yard/a/a.mp4" ⟨"clips.db"⟩ later = (.ok (some second), later) := rfl
  have listed : list (some "yard") ⟨"clips.db"⟩ later = (.ok [second], later) := by
    show (Except.ok (Rows.list (some "yard") [second]), later) = _
    exact congrArg (fun rows => (Except.ok rows, later)) (List.mergeSort_singleton second)
  refine ⟨open_new_database, list_new_database, rfl, found, rfl, ?_, listed, rfl, ?_⟩
  · intro alike
    have equal : some second = some first :=
      Except.ok.inj (congrArg Prod.fst (found.symm.trans alike))
    exact apart (Option.some.inj equal).symm
  · rintro ⟨others, answer, same⟩
    have equal : [second] = others :=
      Except.ok.inj (congrArg Prod.fst (listed.symm.trans answer))
    have kept : first ∈ others := (same first).mpr List.mem_cons_self
    rw [← equal, List.mem_singleton] at kept
    exact apart kept

end DatabaseIndex

end Footage.Index
