import Footage.Proofs.Playback.Course

/-!
# Every handle is released

Whatever a reader is asked, also when clips are opened over one another and whichever of the
openings fail: while a clip is open, one or two handles are, and every other handle that was ever
opened has been closed, once and in the end. The same holds of the handle of a short look.
-/

namespace Footage.Playback

set_option autoImplicit false

variable {σ H : Type}

def Reader.Keeps (past : List (List Call)) (wanted : List Mode) (reader : Reader (Nat × H))
    (state : σ × List (List Call)) : Prop :=
  ∃ pair, reader.pair = some pair ∧ Holding past wanted pair state.2

theorem Holding.all_claimed {past histories : List (List Call)} {wanted : List Mode}
    {pair : CursorPair (Nat × H)} (holding : Holding past wanted pair histories) : pair.Claimed :=
  fun mode _ found => holding.claimed mode found

/-- A course keeps the handles of a watched pair and adds the modes that it asks for. -/
theorem Course.holding {decoder : Decoder σ H} {demands : Call → Bool} {past : List (List Call)}
    {wanted asked : List Mode} {pair : CursorPair (Nat × H)} {state : σ × List (List Call)}
    {last : CursorPair (Nat × H) × σ × List (List Call)}
    (moving : ∀ call, call.moves = true → demands call = true)
    (course : Course decoder.watched demands last asked pair state)
    (holding : Holding past wanted pair state.2) :
    Holding past (wanted ++ asked) last.1 last.2.2 := by
  induction course generalizing wanted with
  | rest =>
      rw [List.append_nil]
      exact holding
  | @take asked pair state mode further ih =>
      obtain ⟨found, taken, after, took, claimed, -, -⟩ := holding.take decoder mode state.1
      rw [took] at ih
      rw [List.append_cons]
      exact ih claimed
  | call call member keeps ready further ih =>
      exact ih (holding.note call member keeps fun moves => ready (moving call moves))
  | respec spec further ih => exact ih (holding.respec spec)

theorem Reader.perform_keeps (decoder : Decoder σ H) {past : List (List Call)}
    {wanted : List Mode} {reader : Reader (Nat × H)} {state : σ × List (List Call)}
    (operation : Operation) (open_reader : reader.Keeps past wanted state) :
    Keeps past (wanted ++ (reader.wants operation).toList)
      (reader.perform decoder.watched operation state).1
      (reader.perform decoder.watched operation state).2 := by
  obtain ⟨pair, holds, holding⟩ := open_reader
  have mild : ∀ call : Call, call.moves = true → call.needsMode = true := by
    intro call moves
    cases call <;> first | rfl | cases moves
  have courses : Courses decoder.watched Call.moves _ pair state _ :=
    perform_courses mild operation holds holding.all_claimed fun _ _ moves => nomatch moves
  obtain ⟨last, same, course⟩ := courses
  exact ⟨last, same, course.holding (fun _ moves => moves) holding⟩

section Closed

variable {τ G : Type} (decoder : Decoder τ G) {reader : Reader G} (state : τ)

theorem Reader.ask_closed (slot : Slot) (call : Call) (closed : reader.pair = none) :
    reader.ask decoder slot call state = (none, reader, state) := by
  simp only [ask, take, closed]

theorem Reader.step_closed (forward : Bool) (closed : reader.pair = none) :
    reader.step decoder forward state = (none, reader, state) := by
  simp only [step, take, closed]

theorem Reader.perform_closed (operation : Operation) (closed : reader.pair = none) :
    (reader.perform decoder operation state).1.pair = none ∧
      (reader.perform decoder operation state).2 = state := by
  cases operation with
  | nextFrame =>
      simp only [perform, nextFrame, step_closed decoder state true closed]
      split <;> exact ⟨closed, rfl⟩
  | prevFrame =>
      simp [perform, prevFrame, step_closed decoder state false closed, closed]
  | seek ms => simp [perform, seek, frameAt, ask_closed decoder state _ _ closed, closed]
  | frameAt ms => simp [perform, frameAt, ask_closed decoder state _ _ closed, closed]
  | setPrevMs ms => exact ⟨closed, rfl⟩
  | markDone => exact ⟨closed, rfl⟩
  | duration =>
      simp only [perform, duration, ask_closed decoder state _ _ closed]
      split <;> exact ⟨closed, rfl⟩
  | frameOffsets =>
      simp only [perform, frameOffsets, ask_closed decoder state _ _ closed]
      split <;> exact ⟨closed, rfl⟩
  | nextFrameOffset =>
      simp [perform, nextFrameOffset, ask_closed decoder state _ _ closed, closed]
  | hasAudio => simp [perform, hasAudio, ask_closed decoder state _ _ closed, closed]
  | inputSize => simp [perform, inputSize, ask_closed decoder state _ _ closed, closed]
  | setMute on => simp [perform, setMute, closed]
  | setOutputSize width height => simp [perform, setOutputSize, closed]

end Closed

inductive Request where
  | openClip (spec : OpenSpec)
  | close
  | operate (operation : Operation)

def Request.perform (decoder : Decoder σ H) (reader : Reader H) (state : σ) :
    Request → Reader H × σ
  | .openClip spec => (reader.openClip decoder spec state).2
  | .close => reader.close decoder state
  | .operate operation => reader.perform decoder operation state

def performAll (decoder : Decoder σ H) (current : Reader H × σ) (requests : List Request) :
    Reader H × σ :=
  requests.foldl (fun current request => request.perform decoder current.1 current.2) current

theorem Request.perform_project {τ G : Type} {name : G → H} {part : τ → σ}
    {whole : Decoder τ G} {decoder : Decoder σ H}
    (projects : Decoder.Projects name part whole decoder) (reader : Reader G) (state : τ)
    (request : Request) :
    Prod.map (Reader.map name) part (request.perform whole reader state) =
      request.perform decoder (reader.map name) (part state) := by
  cases request with
  | openClip spec =>
      exact congrArg Prod.snd (Reader.open_clip_project projects reader state spec)
  | close => exact Reader.close_project projects reader state
  | operate operation => exact Reader.perform_project projects reader state operation

structure Usage (σ H : Type) where
  reader : Reader (Nat × H) := {}
  state : σ × List (List Call)
  /-- How many handles were opened before the clip that is open. -/
  before : Nat := 0
  /-- The modes that this clip was asked for, in order. -/
  wanted : List Mode := []

namespace Usage

def ask (decoder : Decoder σ H) (usage : Usage σ H) (request : Request) : Usage σ H :=
  let (reader, state) := request.perform decoder.watched usage.reader usage.state
  match request with
  | .operate operation =>
      { reader, state
        before := usage.before
        wanted := usage.wanted ++ (usage.reader.wants operation).toList }
  | _ => { reader, state, before := usage.state.2.length }

def play (decoder : Decoder σ H) (usage : Usage σ H) (requests : List Request) : Usage σ H :=
  requests.foldl (ask decoder) usage

inductive Kept (usage : Usage σ H) : Prop where
  | closed (pair : usage.reader.pair = none) (spent : ∀ calls ∈ usage.state.2, Spent calls)
      (before : usage.before = usage.state.2.length)
  | opened (past : List (List Call)) (spent : ∀ calls ∈ past, Spent calls)
      (before : usage.before = past.length)
      (keeps : usage.reader.Keeps past usage.wanted usage.state)

variable (decoder : Decoder σ H) {usage : Usage σ H}

theorem close_length (pair : CursorPair (Nat × H)) (state : σ × List (List Call)) :
    (pair.close decoder.watched state).2.2.length = state.2.length := by
  let kept (after : σ × List (List Call)) : Prop := after.2.length = state.2.length
  refine CursorPair.tell_all_keeps kept .close rfl ?_
  intro handle _ after same
  exact (List.length_modify _ _ _).trans same

theorem Kept.close (kept : usage.Kept) :
    (usage.reader.close decoder.watched usage.state).1.pair = none ∧
      (∀ calls ∈ (usage.reader.close decoder.watched usage.state).2.2, Spent calls) ∧
      (usage.reader.close decoder.watched usage.state).2.2.length = usage.state.2.length := by
  cases kept with
  | closed pair spent _ =>
      simp only [Reader.close, pair]
      exact ⟨trivial, spent, trivial⟩
  | opened past spent _ keeps =>
      obtain ⟨pair, holds, holding⟩ := keeps
      obtain ⟨own, closed, ended⟩ := holding.close decoder usage.state.1
      simp only [Reader.close, holds]
      refine ⟨trivial, ?_, close_length decoder pair usage.state⟩
      intro calls member
      rw [closed] at member
      rcases List.mem_append.mp member with old | new
      · exact spent calls old
      · exact ended calls new

theorem Kept.ask (request : Request) (kept : usage.Kept) : (usage.ask decoder request).Kept := by
  obtain ⟨unpaired, spent, length⟩ := kept.close decoder
  cases request with
  | close => exact .closed unpaired spent length.symm
  | openClip spec =>
      simp only [Usage.ask, Request.perform, Reader.openClip]
      rcases closes : usage.reader.close decoder.watched usage.state with ⟨reader, state⟩
      rw [closes] at unpaired spent length
      rcases opens : decoder.watched.openClip spec state with ⟨outcome, after⟩
      simp only [CursorPair.openClip, opens]
      cases outcome with
      | error cause =>
          have noted : after.2 = state.2 := Decoder.noting_open opens
          exact .closed unpaired (noted ▸ spent) (noted ▸ length.symm)
      | ok named =>
          obtain ⟨own, rfl⟩ : ∃ own, named = (state.2.length, own) := Decoder.noting_name opens
          have noted : after.2 = state.2 ++ [[]] := Decoder.noting_open opens
          refine .opened state.2 spent length.symm ⟨_, rfl, ?_⟩
          rw [noted]
          exact .unclaimed .fresh
  | operate operation =>
      cases kept with
      | closed pair spent before =>
          obtain ⟨still, same⟩ :=
            Reader.perform_closed decoder.watched usage.state operation pair
          have unchanged : (usage.ask decoder (.operate operation)).state = usage.state := same
          exact .closed still (unchanged ▸ spent) (unchanged ▸ before)
      | opened past old before keeps =>
          exact .opened past old before (Reader.perform_keeps decoder operation keeps)

theorem Kept.play (requests : List Request) (kept : usage.Kept) :
    (usage.play decoder requests).Kept := by
  induction requests generalizing usage with
  | nil => exact kept
  | cons request requests ih => exact ih (kept.ask decoder request)

structure Orderly (usage : Usage σ H) : Prop where
  /-- Handles from before the clip that is open are closed. -/
  past : ∀ calls ∈ usage.state.2.take usage.before, Spent calls
  /-- Without an open clip there are no others. -/
  closed : usage.reader.isOpen = false → usage.state.2.drop usage.before = []
  /-- An open clip has one handle or two, all of them open. The first belongs to the mode that was
  asked for first, the second to the other. -/
  opened : usage.reader.isOpen = true → ∃ first rest,
    usage.state.2.drop usage.before = first :: rest ∧ Living usage.wanted.head? first ∧
      rest.length ≤ 1 ∧
      ∀ second ∈ rest, ∃ mode ∈ usage.wanted, usage.wanted.head? ≠ some mode ∧
        Living (some mode) second
  single : (∀ mode ∈ usage.wanted, usage.wanted.head? = some mode) →
    (usage.state.2.drop usage.before).length ≤ 1
  /-- A reader that is given up closes what is open, and closing again calls nothing. -/
  dropped :
    let closed := usage.reader.close decoder.watched usage.state
    (∀ calls ∈ closed.2.2, Spent calls) ∧ closed.2.2.length = usage.state.2.length ∧
      (closed.1.close decoder.watched closed.2).2 = closed.2
  /-- Nor does giving up a pair that was closed. -/
  relinquished : ∀ pair ∈ usage.reader.pair,
    let closed := pair.close decoder.watched usage.state
    (closed.1.close decoder.watched closed.2).2 = closed.2

theorem Kept.orderly (kept : usage.Kept) : usage.Orderly decoder := by
  obtain ⟨-, spent, length⟩ := kept.close decoder
  cases kept with
  | closed pair old before =>
      have none_since : usage.state.2.drop usage.before = [] := by
        rw [before, List.drop_length]
      have shut : usage.reader.isOpen = false := by rw [Reader.isOpen, pair]; rfl
      exact {
        past := fun calls member => old calls (List.mem_of_mem_take member)
        closed := fun _ => none_since
        opened := fun open_reader => absurd (shut.symm.trans open_reader) (by decide)
        single := fun _ => by rw [none_since]; exact Nat.zero_le 1
        dropped := ⟨spent, length, rfl⟩
        relinquished := fun _ _ => rfl }
  | opened past old before keeps =>
      obtain ⟨pair, holds, holding⟩ := keeps
      obtain ⟨first, rest, histories, living, most, others⟩ := holding.own
      have since : usage.state.2.drop usage.before = first :: rest := by
        rw [histories, before, List.drop_left]
      have earlier : usage.state.2.take usage.before = past := by
        rw [histories, before, List.take_left]
      have opened : usage.reader.isOpen = true := by rw [Reader.isOpen, holds]; rfl
      exact {
        past := earlier.symm ▸ old
        closed := fun shut => absurd (opened.symm.trans shut) (by decide)
        opened := fun _ => ⟨first, rest, since, living, most, others⟩
        single := by
          intro same
          have alone : rest = [] := by
            apply List.eq_nil_iff_forall_not_mem.mpr
            intro second member
            obtain ⟨mode, asked, different, -⟩ := others second member
            exact different (same mode asked)
          rw [since, alone]
          exact Nat.le_refl 1
        dropped := ⟨spent, length, rfl⟩
        relinquished := fun _ _ => rfl }

theorem play_plain (usage : Usage σ H) (requests : List Request) :
    ((usage.play decoder requests).reader.map Prod.snd, (usage.play decoder requests).state.1) =
      performAll decoder (usage.reader.map Prod.snd, usage.state.1) requests := by
  induction requests generalizing usage with
  | nil => rfl
  | cons request requests ih =>
      have projects : Decoder.Projects Prod.snd Prod.fst decoder.watched decoder :=
        decoder.noting_projects .calls
      have asked := request.perform_project projects usage.reader usage.state
      have reader : (usage.ask decoder request).reader =
          (request.perform decoder.watched usage.reader usage.state).1 := by
        cases request <;> rfl
      have state : (usage.ask decoder request).state =
          (request.perform decoder.watched usage.reader usage.state).2 := by
        cases request <;> rfl
      simp only [performAll, List.foldl_cons]
      rw [← asked]
      rw [Prod.map_apply, ← reader, ← state]
      exact ih (usage.ask decoder request)

end Usage

/-- Either no handle was opened, or one that learned its mode, was asked and closed. -/
def Glanced (call : Call) (before after : List (List Call)) : Prop :=
  after = before ∨ after = before ++ [[.setMode .random, call, .close]]

theorem probe_glanced (decoder : Decoder σ H) (path : String) (call : Call)
    (state : σ × List (List Call)) :
    Glanced call state.2 (probe decoder.watched path call state).2.2 := by
  rcases opens : decoder.watched.openClip (.probe path) state with ⟨outcome, after⟩
  have noted := Decoder.noting_open opens
  cases outcome with
  | error cause => exact .inl (by rw [probe_refused call opens]; exact noted)
  | ok handle =>
      right
      obtain ⟨own, rfl⟩ := Decoder.noting_name opens
      have last (calls : List Call) (call : Call) :
          (state.2 ++ [calls]).modify state.2.length (· ++ [call]) =
            state.2 ++ [calls ++ [call]] :=
        Holding.modify_own state.2 [calls] 0 _
      have noted : after.2 = state.2 ++ [[]] := Decoder.noting_open opens
      rw [probe_opened call opens rfl]
      show ((after.2.modify state.2.length (· ++ [.setMode .random])).modify state.2.length
        (· ++ [call])).modify state.2.length (· ++ [.close]) = _
      rw [noted, last, last, last]
      rfl

/-- Over every decoder, for every sequence of requests and every short look: no handle is left
open or closed twice, and none is used before it knows its mode or after its close. Watching
changes nothing. -/
theorem play_releases (decoder : Decoder σ H) (state : σ) (requests : List Request) :
    let usage := Usage.play decoder { state := (state, []) } requests
    (usage.reader.map Prod.snd, usage.state.1) = performAll decoder ({}, state) requests ∧
      usage.Orderly decoder ∧
      ∀ (path : String) (whole : σ × List (List Call)),
        (Prod.map id Prod.fst (clipDuration decoder.watched path whole) =
            clipDuration decoder path whole.1 ∧
          Glanced .duration whole.2 (clipDuration decoder.watched path whole).2.2) ∧
        Prod.map id Prod.fst (clipFrameOffsets decoder.watched path whole) =
            clipFrameOffsets decoder path whole.1 ∧
          Glanced .frameOffsets whole.2 (clipFrameOffsets decoder.watched path whole).2.2 := by
  intro usage
  have begun : Usage.Kept ({ state := (state, []) } : Usage σ H) :=
    .closed rfl (fun _ member => nomatch member) rfl
  refine ⟨Usage.play_plain decoder _ requests, (begun.play decoder requests).orderly decoder, ?_⟩
  intro path whole
  refine ⟨⟨?_, probe_glanced decoder path .duration whole⟩, ?_,
    probe_glanced decoder path .frameOffsets whole⟩
  · simp only [clipDuration]
    rw [← probe_project (decoder.noting_projects .calls)]
    rfl
  · simp only [clipFrameOffsets]
    rw [← probe_project (decoder.noting_projects .calls)]
    rfl

end Footage.Playback
