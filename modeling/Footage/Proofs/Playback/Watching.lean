import Footage.Playback.Probe
import Footage.Proofs.Playback.Stepping

/-!
# Notes beside a decoder

What a reader does with a decoder can be noted beside its state, either all in one list, or for
each handle apart, numbered in the order in which they are opened. A decoder over more state and
other handles projects onto a decoder when each of its replies is the same but for the names of
the handles; whatever is noted, a decoder with notes projects onto the one without. Everything
that a reader does projects too, so it does the same whether notes are kept or not.
-/

namespace Footage.Playback

set_option autoImplicit false

variable {τ σ G H : Type}

/-- What openings and calls make of the notes so far, and the name that a new handle has in
them. -/
structure Notebook (G H N : Type) where
  handle : G → H
  name : N → H → G
  opened : OpenSpec → Bool → N → N
  called : G → (call : Call) → call.Reply → N → N
  handle_name : ∀ notes own, handle (name notes own) = own

namespace Notebook

/-- Every handle has notes of its own, and its number is its place among them. -/
def numbered {L : Type} (fresh : OpenSpec → L) (called : Call → L → L) :
    Notebook (Nat × H) H (List L) where
  handle := Prod.snd
  name := fun notes own => (notes.length, own)
  opened := fun spec granted notes =>
    match granted with
    | true => notes ++ [fresh spec]
    | false => notes
  called := fun handle call _ notes => notes.modify handle.1 (called call)
  handle_name := fun _ _ => rfl

def listed {E : Type} (opened : Bool → List E)
    (called : H → (call : Call) → call.Reply → List E) : Notebook H H (List E) where
  handle := id
  name := fun _ own => own
  opened := fun _ granted notes => notes ++ opened granted
  called := fun handle call reply notes => notes ++ called handle call reply
  handle_name := fun _ _ => rfl

end Notebook

def Decoder.noting {N : Type} (book : Notebook G H N) (decoder : Decoder σ H) :
    Decoder (σ × N) G where
  openClip := fun spec (state, notes) =>
    match decoder.openClip spec state with
    | (.ok handle, state) => (.ok (book.name notes handle), state, book.opened spec true notes)
    | (.error cause, state) => (.error cause, state, book.opened spec false notes)
  perform := fun handle call (state, notes) =>
    let (reply, state) := decoder.perform (book.handle handle) call state
    (reply, state, book.called handle call reply notes)

structure Decoder.Projects (name : G → H) (part : τ → σ) (whole : Decoder τ G)
    (decoder : Decoder σ H) : Prop where
  open_clip : ∀ spec state, Prod.map (Except.map name) part (whole.openClip spec state) =
    decoder.openClip spec (part state)
  perform : ∀ handle call state, Prod.map id part (whole.perform handle call state) =
    decoder.perform (name handle) call (part state)

section Noting

variable {N : Type} {book : Notebook G H N} {decoder : Decoder σ H} {spec : OpenSpec}
  {state after : σ × N}

theorem Decoder.noting_projects (book : Notebook G H N) (decoder : Decoder σ H) :
    Decoder.Projects book.handle Prod.fst (decoder.noting book) decoder where
  open_clip := by
    intro spec state
    simp only [noting]
    rcases decoder.openClip spec state.1 with ⟨outcome, after⟩
    cases outcome with
    | error cause => rfl
    | ok own => exact Prod.ext (congrArg Except.ok (book.handle_name state.2 own)) rfl
  perform := fun _ _ _ => rfl

theorem Decoder.noting_open {outcome : Except ClipError G}
    (opens : (decoder.noting book).openClip spec state = (outcome, after)) :
    after.2 = book.opened spec outcome.isOk state.2 := by
  simp only [noting] at opens
  split at opens <;> cases opens <;> rfl

theorem Decoder.noting_name {handle : G}
    (opens : (decoder.noting book).openClip spec state = (.ok handle, after)) :
    ∃ own, handle = book.name state.2 own := by
  simp only [noting] at opens
  split at opens
  · cases opens
    exact ⟨_, rfl⟩
  · cases opens

end Noting

def Notebook.calls : Notebook (Nat × H) H (List (List Call)) :=
  .numbered (fun _ => []) fun call calls => calls ++ [call]

def Decoder.watched (decoder : Decoder σ H) : Decoder (σ × List (List Call)) (Nat × H) :=
  decoder.noting .calls

namespace CursorPair

def map (name : G → H) (pair : CursorPair G) : CursorPair H where
  spec := pair.spec
  first := pair.first.map name
  sequential := pair.sequential.map name
  random := pair.random.map name

theorem held_map (name : G → H) (pair : CursorPair G) (mode : Mode) :
    (pair.map name).held mode = (pair.held mode).map name := by
  cases mode <;> rfl

end CursorPair

def Reader.map (name : G → H) (reader : Reader G) : Reader H where
  pair := reader.pair.map (CursorPair.map name)
  path := reader.path
  requestedSize := reader.requestedSize
  firstMs := reader.firstMs
  muted := reader.muted
  prevMs := reader.prevMs
  cursorMs := reader.cursorMs
  forceReseek := reader.forceReseek
  done := reader.done
  knownDuration := reader.knownDuration
  knownOffsets := reader.knownOffsets

variable {name : G → H} {part : τ → σ} {whole : Decoder τ G} {decoder : Decoder σ H}

theorem Decoder.Projects.tell (projects : Decoder.Projects name part whole decoder) (handle : G)
    (call : Call) (state : τ) :
    part (whole.tell handle call state) = decoder.tell (name handle) call (part state) :=
  congrArg Prod.snd (projects.perform handle call state)

theorem Decoder.Projects.answer (projects : Decoder.Projects name part whole decoder)
    {handle : G} {call : Call} {state after : τ} {reply : call.Reply}
    (answered : whole.perform handle call state = (reply, after)) :
    decoder.perform (name handle) call (part state) = (reply, part after) := by
  rw [← projects.perform, answered]
  rfl

namespace CursorPair

variable (projects : Decoder.Projects name part whole decoder) (pair : CursorPair G) (state : τ)

include projects

theorem open_clip_project (spec : OpenSpec) :
    Prod.map (Except.map (map name)) part (openClip whole spec state) =
      openClip decoder spec (part state) := by
  simp only [openClip]
  rw [← projects.open_clip]
  rcases whole.openClip spec state with ⟨outcome, after⟩
  cases outcome <;> rfl

theorem claim_project (mode : Mode) :
    Prod.map (Option.map name) (Prod.map (map name) part) (pair.claim whole mode state) =
      (pair.map name).claim decoder mode (part state) := by
  obtain ⟨spec, first, sequential, random⟩ := pair
  cases first with
  | some handle => exact Prod.ext rfl (Prod.ext rfl (projects.tell handle _ state))
  | none =>
      simp only [claim, map, Option.map_none]
      rw [← projects.open_clip]
      rcases whole.openClip spec state with ⟨outcome, after⟩
      cases outcome with
      | error cause => rfl
      | ok handle => exact Prod.ext rfl (Prod.ext rfl (projects.tell handle _ after))

theorem take_project (slot : Slot) :
    Prod.map (Option.map name) (Prod.map (map name) part) (pair.take whole slot state) =
      (pair.map name).take decoder slot (part state) := by
  rcases slot.any_or_mode with rfl | ⟨mode, rfl⟩
  · obtain ⟨spec, first, sequential, random⟩ := pair
    cases first <;> cases sequential <;> cases random <;> rfl
  · have renamed := held_map name pair mode
    cases held : pair.held mode with
    | some handle =>
        rw [held] at renamed
        rw [take_held mode state held, take_held mode (part state) renamed]
        rfl
    | none =>
        rw [held] at renamed
        rw [take_missing mode state held, take_missing mode (part state) renamed,
          ← claim_project projects pair state mode]
        cases mode <;> rfl

theorem tell_all_project (call : Call) :
    part (pair.tellAll whole call state) = (pair.map name).tellAll decoder call (part state) := by
  have renamed : (pair.map name).handles = pair.handles.map name := by
    simp [handles, map, Option.toList_map]
  simp only [tellAll, renamed]
  generalize pair.handles = told
  induction told generalizing state with
  | nil => rfl
  | cons handle rest ih =>
      rw [List.map_cons, List.foldl_cons, List.foldl_cons, ← projects.tell]
      exact ih _

end CursorPair

namespace Reader

variable (projects : Decoder.Projects name part whole decoder) (reader : Reader G) (state : τ)

include projects

theorem close_project :
    Prod.map (map name) part (reader.close whole state) =
      (reader.map name).close decoder (part state) := by
  cases held : reader.pair with
  | none => simp [close, map, held]
  | some pair =>
      have told := pair.tell_all_project projects state .close
      simp [close, map, held, CursorPair.close, told]

theorem open_clip_project (spec : OpenSpec) :
    Prod.map id (Prod.map (map name) part) (reader.openClip whole spec state) =
      (reader.map name).openClip decoder spec (part state) := by
  simp only [openClip]
  rw [← close_project projects]
  simp only [Prod.map_fst, Prod.map_snd]
  rw [← CursorPair.open_clip_project projects]
  rcases CursorPair.openClip whole spec _ with ⟨outcome, after⟩
  cases outcome <;> rfl

theorem take_project (slot : Slot) :
    Prod.map (Option.map name) (Prod.map (map name) part) (reader.take whole slot state) =
      (reader.map name).take decoder slot (part state) := by
  cases held : reader.pair with
  | none => simp [take, map, held]
  | some pair =>
      have taken := pair.take_project projects state slot
      have renamed : (reader.map name).pair = some (pair.map name) := by simp [map, held]
      simp only [take, held, renamed]
      rw [← taken]
      rfl

theorem ask_project (slot : Slot) (call : Call) :
    Prod.map id (Prod.map (map name) part) (reader.ask whole slot call state) =
      (reader.map name).ask decoder slot call (part state) := by
  simp only [ask]
  rw [← take_project projects]
  rcases reader.take whole slot state with ⟨held, taken, after⟩
  cases held with
  | none => rfl
  | some handle =>
      rcases asked : whole.perform handle call after with ⟨reply, last⟩
      simp only [Prod.map_apply, Option.map_some, asked, projects.answer asked, id_eq]

theorem resync_project (handle : G) :
    Prod.map id (Prod.map (map name) part) (reader.resync whole handle state) =
      (reader.map name).resync decoder (name handle) (part state) := by
  by_cases diverged : reader.diverged = true
  · have renamed : (reader.map name).diverged = true := diverged
    rcases moved : whole.perform handle (.seek reader.prevMs) state with ⟨done, after⟩
    have answered : decoder.perform (name handle) (.seek (reader.map name).prevMs) (part state) =
        (done, part after) := projects.answer moved
    simp only [resync, diverged, renamed, if_true]
    rw [moved, answered]
    cases done <;> rfl
  · have renamed : ¬(reader.map name).diverged = true := diverged
    simp only [resync, diverged, renamed]
    rfl

theorem step_project (forward : Bool) :
    Prod.map id (Prod.map (map name) part) (reader.step whole forward state) =
      (reader.map name).step decoder forward (part state) := by
  simp only [step]
  rw [← take_project projects]
  rcases reader.take whole .sequential state with ⟨held, taken, after⟩
  cases held with
  | none => rfl
  | some handle =>
      simp only [Prod.map_apply, Option.map_some]
      rw [← resync_project projects]
      rcases taken.resync whole handle after with ⟨done, synced, last⟩
      cases done with
      | false => rfl
      | true =>
          cases forward with
          | true =>
              rcases asked : whole.perform handle .nextFrame last with ⟨frame, final⟩
              simp only [Prod.map_apply, id_eq, if_true, asked, projects.answer asked]
              rfl
          | false =>
              rcases asked : whole.perform handle .prevFrame last with ⟨frame, final⟩
              simp only [Prod.map_apply, id_eq, Bool.false_eq_true, if_false, asked,
                projects.answer asked]
              rfl

theorem frame_at_project (ms : Int64) :
    Prod.map id (Prod.map (map name) part) (reader.frameAt whole ms state) =
      (reader.map name).frameAt decoder ms (part state) := by
  simp only [frameAt]
  rw [← ask_project projects]
  rfl

theorem seek_project (ms : Int64) :
    Prod.map id (Prod.map (map name) part) (reader.seek whole ms state) =
      (reader.map name).seek decoder ms (part state) := by
  simp only [seek]
  rw [← frame_at_project projects]
  rcases reader.frameAt whole ms state with ⟨frame, found, after⟩
  cases frame <;> rfl

theorem next_frame_project :
    Prod.map id (Prod.map (map name) part) (reader.nextFrame whole state) =
      (reader.map name).nextFrame decoder (part state) := by
  simp only [nextFrame]
  rw [← step_project projects]
  have same : (reader.map name).done = reader.done := rfl
  rw [same]
  split <;> rfl

theorem prev_frame_project :
    Prod.map id (Prod.map (map name) part) (reader.prevFrame whole state) =
      (reader.map name).prevFrame decoder (part state) := by
  simp only [prevFrame]
  rw [← step_project projects]
  rcases reader.step whole false state with ⟨frame, found, after⟩
  cases frame <;> rfl

theorem duration_project :
    Prod.map id (Prod.map (map name) part) (reader.duration whole state) =
      (reader.map name).duration decoder (part state) := by
  have same : (reader.map name).knownDuration = reader.knownDuration := rfl
  simp only [duration, same]
  cases reader.knownDuration with
  | some known => rfl
  | none =>
      simp only
      rw [← ask_project projects]
      rfl

theorem frame_offsets_project :
    Prod.map id (Prod.map (map name) part) (reader.frameOffsets whole state) =
      (reader.map name).frameOffsets decoder (part state) := by
  have same : (reader.map name).knownOffsets = reader.knownOffsets := rfl
  simp only [frameOffsets, same]
  cases reader.knownOffsets with
  | some known => rfl
  | none =>
      simp only
      rw [← ask_project projects]
      rfl

theorem set_mute_project (on : Bool) :
    Prod.map (map name) part (reader.setMute whole on state) =
      (reader.map name).setMute decoder on (part state) := by
  cases held : reader.pair with
  | none => simp [setMute, map, held]
  | some pair =>
      have told := pair.tell_all_project projects state (.setMute on)
      simp [setMute, map, held, CursorPair.setMute, told, CursorPair.map]

theorem set_output_size_project (width height : UInt32) :
    Prod.map (map name) part (reader.setOutputSize whole width height state) =
      (reader.map name).setOutputSize decoder width height (part state) := by
  cases held : reader.pair with
  | none => simp [setOutputSize, map, held]
  | some pair =>
      have told := pair.tell_all_project projects state (.setOutputSize width height)
      simp [setOutputSize, map, held, CursorPair.setOutputSize, told, CursorPair.map]

theorem perform_project (operation : Operation) :
    Prod.map (map name) part (reader.perform whole operation state) =
      (reader.map name).perform decoder operation (part state) := by
  have replies {α : Type} {asked : α × Reader G × τ} {answer : α × Reader H × σ}
      (same : Prod.map id (Prod.map (map name) part) asked = answer) :
      Prod.map (map name) part asked.2 = answer.2 := congrArg Prod.snd same
  cases operation with
  | nextFrame => exact replies (next_frame_project projects reader state)
  | prevFrame => exact replies (prev_frame_project projects reader state)
  | seek ms => exact replies (seek_project projects reader state ms)
  | frameAt ms => exact replies (frame_at_project projects reader state ms)
  | setPrevMs ms => rfl
  | markDone => rfl
  | duration => exact replies (duration_project projects reader state)
  | frameOffsets => exact replies (frame_offsets_project projects reader state)
  | nextFrameOffset =>
      simp only [perform, nextFrameOffset]
      exact replies (ask_project projects reader state .sequential .nextFrameOffset)
  | hasAudio =>
      simp only [perform, hasAudio]
      exact replies (ask_project projects reader state .any .hasAudio)
  | inputSize =>
      simp only [perform, inputSize]
      exact replies (ask_project projects reader state .any .inputSize)
  | setMute on => exact set_mute_project projects reader state on
  | setOutputSize width height =>
      exact set_output_size_project projects reader state width height

end Reader

theorem Reader.map_id (reader : Reader H) : reader.map id = reader := by
  obtain ⟨pair, _, _, _, _, _, _, _, _, _, _⟩ := reader
  cases pair with
  | none => rfl
  | some pair => simp [map, CursorPair.map]

theorem Reader.perform_all_project_id {whole : Decoder τ H} {decoder : Decoder σ H}
    (projects : Decoder.Projects id part whole decoder) (operations : List Operation)
    (reader : Reader H) (state : τ) :
    Prod.map id part (reader.performAll whole operations state) =
      reader.performAll decoder operations (part state) := by
  induction operations generalizing reader state with
  | nil => rfl
  | cons operation operations ih =>
      have same := perform_project projects reader state operation
      rw [map_id, Prod.map_apply, map_id] at same
      simp only [performAll, ← same]
      exact ih _ _

theorem probe_project (projects : Decoder.Projects name part whole decoder) (path : String)
    (call : Call) (state : τ) :
    Prod.map id part (probe whole path call state) = probe decoder path call (part state) := by
  have opened := projects.open_clip (.probe path) state
  rcases opens : whole.openClip (.probe path) state with ⟨outcome, after⟩
  rw [opens] at opened
  cases outcome with
  | error cause =>
      rw [probe_refused call opens, probe_refused call opened.symm]
      rfl
  | ok handle =>
      rcases asked : whole.perform handle call (whole.tell handle (.setMode .random) after) with
        ⟨reply, last⟩
      have answered := projects.answer asked
      rw [projects.tell] at answered
      rw [probe_opened call opens asked, probe_opened call opened.symm answered,
        ← projects.tell handle .close last]
      rfl

end Footage.Playback
