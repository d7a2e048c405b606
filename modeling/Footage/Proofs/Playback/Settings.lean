import Footage.Proofs.Playback.Plans

/-!
# Settings reach every handle

The sound and the size of the frames of a handle are those that it was opened with, unless it was
told others since. The reader, the specification for handles to come and every open handle each
have a copy of the settings, and all copies agree as long as a clip is open: however settings
change, before or after a mode has taken a handle, and whichever openings fail.
-/

namespace Footage.Playback

set_option autoImplicit false

variable {σ H : Type}

def Call.mute? : Call → Option Bool
  | .setMute on => some on
  | _ => none

def Call.size? : Call → Option (UInt32 × UInt32)
  | .setOutputSize width height => some (width, height)
  | _ => none

structure Life where
  spec : OpenSpec
  calls : List Call := []

namespace Life

/-- A handle that was not closed. -/
def Live (life : Life) : Prop := .close ∉ life.calls

def muted (life : Life) : Bool :=
  (life.calls.filterMap Call.mute?).getLastD life.spec.options.audioMute

def size (life : Life) : UInt32 × UInt32 :=
  (life.calls.filterMap Call.size?).getLastD (life.spec.width, life.spec.height)

def told (call : Call) (times : Nat) (life : Life) : Life :=
  { life with calls := life.calls ++ List.replicate times call }

structure Heeds (life : Life) (spec : OpenSpec) : Prop where
  muted : life.muted = spec.options.audioMute
  size : life.size = (spec.width, spec.height)

variable {life : Life} {call : Call} {times : Nat} {spec : OpenSpec}

theorem told_never : life.told call 0 = life := by
  simp [told]

theorem told_again (further : Nat) :
    (life.told call times).told call further = life.told call (times + further) := by
  simp [told]

theorem fresh_heeds (spec : OpenSpec) : Heeds { spec } spec := ⟨rfl, rfl⟩

theorem live_told : (life.told call times).Live ↔ life.Live ∧ (call = .close → times = 0) := by
  unfold Live told
  rw [List.mem_append, not_or, List.mem_replicate, not_and', Decidable.not_not, eq_comm]

theorem latest_told {α : Type} (life : Life) (call : Call) (asks : Call → Option α) (default : α)
    (positive : times ≠ 0) :
    ((life.told call times).calls.filterMap asks).getLastD default =
      (asks call).getD ((life.calls.filterMap asks).getLastD default) := by
  obtain ⟨further, rfl⟩ := Nat.exists_eq_succ_of_ne_zero positive
  cases asked : asks call with
  | some value => simp [told, List.replicate_succ', ← List.append_assoc, asked]
  | none => simp [told, List.filterMap_replicate_of_none asked]

/-- A call leaves a handle as its settings are, or as the call says if that is told at all. -/
theorem Heeds.told (heeds : life.Heeds spec) (call : Call) (times : Nat)
    (settles : times = 0 → call.settle spec = spec) :
    (life.told call times).Heeds (call.settle spec) := by
  rcases Nat.eq_zero_or_pos times with rfl | positive
  · rw [told_never, settles rfl]
    exact heeds
  · have muted := life.latest_told call Call.mute? life.spec.options.audioMute
      (Nat.ne_of_gt positive)
    have size := life.latest_told call Call.size? (life.spec.width, life.spec.height)
      (Nat.ne_of_gt positive)
    constructor
    · refine muted.trans ?_
      cases call <;> first | exact heeds.muted | rfl
    · refine size.trans ?_
      cases call <;> first | exact heeds.size | rfl

end Life

def Notebook.lives : Notebook (Nat × H) H (List Life) :=
  .numbered (fun spec => { spec }) fun call => Life.told call 1

def Decoder.recorded (decoder : Decoder σ H) : Decoder (σ × List Life) (Nat × H) :=
  decoder.noting .lives

theorem perform_lives (decoder : Decoder σ H) (handle : Nat × H) (call : Call)
    (state : σ × List Life) (number : Nat) :
    (decoder.recorded.perform handle call state).2.2[number]? =
      state.2[number]?.map (Life.told call (if handle.1 = number then 1 else 0)) := by
  refine (List.getElem?_modify _ _ _ _).trans ?_
  split
  · rfl
  · have never : Life.told call 0 = id := funext fun _ => Life.told_never
    rw [never]
    rfl

theorem tell_each_lives (decoder : Decoder σ H) (call : Call) (told : List (Nat × H))
    (state : σ × List Life) (number : Nat) :
    (told.foldl (fun state handle => decoder.recorded.tell handle call state) state).2[number]? =
      state.2[number]?.map (Life.told call ((told.map Prod.fst).count number)) := by
  induction told generalizing state with
  | nil =>
      have never : Life.told call 0 = id := funext fun _ => Life.told_never
      rw [List.map_nil, List.count_nil, never, Option.map_id]
      rfl
  | cons handle rest ih =>
      rw [List.foldl_cons, ih, Decoder.tell, perform_lives, Option.map_map, List.map_cons,
        List.count_cons, Nat.add_comm]
      congr 1
      funext life
      simp only [Function.comp, Life.told_again, beq_iff_eq]

namespace CursorPair

structure Settled (pair : CursorPair (Nat × H)) (lives : List Life) : Prop where
  own : ∀ handle ∈ pair.handles, ∃ life, lives[handle.1]? = some life ∧ life.Live ∧
    life.Heeds pair.spec
  others : ∀ number life, lives[number]? = some life → life.Live →
    ∃ handle ∈ pair.handles, handle.1 = number

variable {decoder : Decoder σ H} {pair taken : CursorPair (Nat × H)} {lives : List Life}
  {found : Option (Nat × H)} {state after : σ × List Life} {slot : Slot} {call : Call}
  {handle other : Nat × H} {mode : Mode}

/-- Calls that are told, to whichever handles and how often, leave all handles settled if they
change no settings and close nothing. -/
theorem Settled.told (settled : pair.Settled lives) (later : List Life) (times : Nat → Nat)
    (heard : ∀ number, later[number]? = lives[number]?.map (Life.told call (times number)))
    (opens : call ≠ .close)
    (settles : ∀ handle ∈ pair.handles, times handle.1 = 0 → call.settle pair.spec = pair.spec) :
    Settled { pair with spec := call.settle pair.spec } later where
  own := by
    intro handle member
    obtain ⟨life, found, live, heeds⟩ := settled.own handle member
    refine ⟨life.told call (times handle.1), ?_, ?_, ?_⟩
    · rw [heard, found, Option.map_some]
    · exact Life.live_told.mpr ⟨live, fun closes => absurd closes opens⟩
    · exact heeds.told call _ (settles handle member)
  others := by
    intro number life found live
    rw [heard] at found
    obtain ⟨before, known, rfl⟩ := Option.map_eq_some_iff.mp found
    exact settled.others number before known (Life.live_told.mp live).1

theorem Settled.perform (settled : pair.Settled state.2) (handle : Nat × H)
    (opens : call ≠ .close) (neutral : call.settle pair.spec = pair.spec) :
    pair.Settled (decoder.recorded.perform handle call state).2.2 := by
  have kept := settled.told _ _ (perform_lives decoder handle call state) opens
    fun _ _ _ => neutral
  rwa [neutral] at kept

theorem Settled.settle (settled : pair.Settled state.2) (decoder : Decoder σ H) (call : Call)
    (opens : call ≠ .close) :
    Settled { pair with spec := call.settle pair.spec }
      (pair.tellAll decoder.recorded call state).2 := by
  refine settled.told _ _ (tell_each_lives decoder call pair.handles state) opens ?_
  intro handle member never
  exact absurd (List.mem_map_of_mem member) (List.count_eq_zero.mp never)

theorem Settled.lend_first (settled : pair.Settled lives) (missing : pair.held mode = none)
    (free : pair.first = some handle) : (pair.lend mode handle).Settled lives := by
  have members : ∀ other, other ∈ (pair.lend mode handle).handles ↔ other ∈ pair.handles := by
    intro other
    rw [mem_lend missing, mem_handles, free, Option.some_inj, eq_comm]
  constructor
  · intro other member
    rw [spec_lend]
    exact settled.own other ((members other).mp member)
  · intro number life found live
    obtain ⟨other, member, same⟩ := settled.others number life found live
    exact ⟨other, (members other).mpr member, same⟩

theorem Settled.lend_opened (settled : pair.Settled lives) (missing : pair.held mode = none)
    (taken : pair.first = none) (handle : H) :
    (pair.lend mode (lives.length, handle)).Settled (lives ++ [{ spec := pair.spec }]) := by
  have members : ∀ other, other ∈ (pair.lend mode (lives.length, handle)).handles ↔
      other = (lives.length, handle) ∨ other ∈ pair.handles := by
    intro other
    rw [mem_lend missing, mem_handles, taken]
    simp
  constructor
  · intro other member
    rw [spec_lend]
    rcases (members other).mp member with rfl | old
    · exact ⟨{ spec := pair.spec }, List.getElem?_concat_length, List.not_mem_nil,
        Life.fresh_heeds pair.spec⟩
    · obtain ⟨life, found, live, heeds⟩ := settled.own other old
      refine ⟨life, ?_, live, heeds⟩
      rw [List.getElem?_append_left (List.getElem?_eq_some_iff.mp found).1]
      exact found
  · intro number life found live
    by_cases old : number < lives.length
    · rw [List.getElem?_append_left old] at found
      obtain ⟨other, member, same⟩ := settled.others number life found live
      exact ⟨other, (members other).mpr (.inr member), same⟩
    · have new : number = lives.length := by
        have bound := (List.getElem?_eq_some_iff.mp found).1
        rw [List.length_append, List.length_singleton] at bound
        omega
      exact ⟨_, (members _).mpr (.inl rfl), new.symm⟩

theorem take_settled (settled : pair.Settled state.2)
    (took : pair.take decoder.recorded slot state = (found, taken, after)) :
    taken.Settled after.2 ∧ taken.spec = pair.spec := by
  have assigned (mode : Mode) : Call.setMode mode ≠ .close := fun same => nomatch same
  cases take_takes took with
  | any => exact ⟨settled, rfl⟩
  | held held => exact ⟨settled, rfl⟩
  | first missing free =>
      exact ⟨(settled.lend_first missing free).perform _ (assigned _) rfl, spec_lend⟩
  | @opened mode handle reached missing taken opens =>
      obtain ⟨own, rfl⟩ := Decoder.noting_name opens
      have noted : reached.2 = state.2 ++ [{ spec := pair.spec }] := Decoder.noting_open opens
      have lent := settled.lend_opened missing taken own
      rw [← noted] at lent
      exact ⟨lent.perform _ (assigned _) rfl, spec_lend⟩
  | refused missing taken refuses =>
      have noted : after.2 = state.2 := Decoder.noting_open refuses
      exact ⟨noted ▸ settled, rfl⟩

theorem Settled.close (settled : pair.Settled state.2) :
    ∀ life ∈ (pair.close decoder.recorded state).2.2, ¬life.Live := by
  intro life member live
  obtain ⟨number, found⟩ := List.mem_iff_getElem?.mp member
  rw [show (pair.close decoder.recorded state).2.2 = _ from rfl, CursorPair.close,
    tellAll, tell_each_lives] at found
  obtain ⟨before, known, rfl⟩ := Option.map_eq_some_iff.mp found
  obtain ⟨open_before, told⟩ := Life.live_told.mp live
  obtain ⟨handle, owned, same⟩ := settled.others number before known open_before
  exact List.count_eq_zero.mp (told rfl) (List.mem_map.mpr ⟨handle, owned, same⟩)

end CursorPair

namespace Reader

inductive Heeded (reader : Reader (Nat × H)) (lives : List Life) : Prop where
  | closed (pair : reader.pair = none) (ended : ∀ life ∈ lives, ¬life.Live)
  | opened (pair : CursorPair (Nat × H)) (holds : reader.pair = some pair)
      (settled : pair.Settled lives) (muted : reader.muted = pair.spec.options.audioMute)
      (size : reader.requestedSize = (pair.spec.width, pair.spec.height))

variable {decoder : Decoder σ H} {reader : Reader (Nat × H)} {state : σ × List Life}

theorem moved_muted {G : Type} (reader : Reader G) (forward : Bool) (frame : Option Frame) :
    ((reader.stepped forward frame).settled forward frame).muted = reader.muted ∧
      ((reader.stepped forward frame).settled forward frame).requestedSize =
        reader.requestedSize := by
  unfold settled
  split <;> exact ⟨rfl, rfl⟩

theorem perform_notes_settings {τ G : Type} (decoder : Decoder τ G) (operation : Operation)
    (reader : Reader G) (state : τ)
    (plain : ∀ setting, reader.notes.need operation ≠ .all setting) :
    (reader.perform decoder operation state).1.muted = reader.muted ∧
      (reader.perform decoder operation state).1.requestedSize = reader.requestedSize := by
  let kept (_ : Answer) (later : Reader G) : Prop :=
    later.muted = reader.muted ∧ later.requestedSize = reader.requestedSize
  suffices planned : kept (reader.notes.unaided operation).1 (reader.notes.unaided operation).2 ∧
      (reader.notes.plan operation).Within (fun _ => true) fun result =>
        kept result.1 result.2 by
    obtain ⟨later, same, result⟩ := perform_promised kept planned.1 planned.2 decoder state
    rw [result]
    exact same
  cases operation with
  | nextFrame =>
      exact ⟨⟨rfl, rfl⟩, stride_plan_within true rfl rfl ⟨rfl, rfl⟩ (moved_muted _ true)
        (moved_muted _ true)⟩
  | prevFrame =>
      exact ⟨⟨rfl, rfl⟩, stride_plan_within false rfl rfl ⟨rfl, rfl⟩ (moved_muted _ false)
        (moved_muted _ false)⟩
  | seek ms =>
      refine ⟨⟨rfl, rfl⟩, rfl, ?_⟩
      intro frame
      cases frame <;> exact ⟨rfl, rfl⟩
  | setPrevMs ms => exact ⟨⟨rfl, rfl⟩, rfl, rfl⟩
  | markDone => exact ⟨⟨rfl, rfl⟩, rfl, rfl⟩
  | setMute on => exact absurd rfl (plain (.setMute on))
  | setOutputSize width height => exact absurd rfl (plain (.setOutputSize width height))
  | _ => exact ⟨⟨rfl, rfl⟩, rfl, fun _ => ⟨rfl, rfl⟩⟩

theorem Heeded.perform (heeded : reader.Heeded state.2) (operation : Operation) :
    (reader.perform decoder.recorded operation state).1.Heeded
      (reader.perform decoder.recorded operation state).2.2 := by
  cases heeded with
  | closed closed ended =>
      obtain ⟨still, same⟩ := perform_closed decoder.recorded state operation closed
      rw [same]
      exact .closed still ended
  | opened pair holds settled muted size =>
      cases needs : reader.notes.need operation with
      | all setting =>
          rcases need_all needs with ⟨on, rfl, -⟩ | ⟨width, height, rfl, -⟩
          · have told := settled.settle decoder (.setMute on) (by simp)
            simp only [Reader.perform, setMute, holds]
            exact .opened _ rfl told rfl size
          · have told := settled.settle decoder (.setOutputSize width height) (by simp)
            simp only [Reader.perform, setOutputSize, holds]
            exact .opened _ rfl told muted rfl
      | _ =>
          have plain : ∀ setting, reader.notes.need operation ≠ .all setting := by
            intro setting same
            rw [needs] at same
            cases same
          obtain ⟨last, later, kept, same⟩ :=
            perform_keeps_pair
              (fun last (state : σ × List Life) => last.Settled state.2 ∧ last.spec = pair.spec)
              decoder.recorded operation holds ⟨settled, rfl⟩
              (fun _ took => CursorPair.take_settled settled took)
              (fun call _ calls kept => ⟨kept.1.perform _ (calls_neutral calls).1
                ((calls_neutral calls).2 _), kept.2⟩)
              (fun needs => absurd needs (plain _))
          obtain ⟨mutes, sizes⟩ :=
            perform_notes_settings decoder.recorded operation reader state plain
          refine .opened last later kept ?_ ?_
          · rw [mutes, muted, same]
          · rw [sizes, size, same]

theorem Heeded.close (heeded : reader.Heeded state.2) (decoder : Decoder σ H) :
    (reader.close decoder.recorded state).1.pair = none ∧
      ∀ life ∈ (reader.close decoder.recorded state).2.2, ¬life.Live := by
  cases heeded with
  | closed closed ended =>
      simp only [Reader.close, closed]
      exact ⟨trivial, ended⟩
  | opened pair holds settled muted size =>
      simp only [Reader.close, holds]
      exact ⟨trivial, settled.close⟩

theorem Heeded.request (heeded : reader.Heeded state.2) (request : Request) :
    (request.perform decoder.recorded reader state).1.Heeded
      (request.perform decoder.recorded reader state).2.2 := by
  obtain ⟨unpaired, ended⟩ := heeded.close decoder
  cases request with
  | operate operation => exact heeded.perform operation
  | close => exact .closed unpaired ended
  | openClip spec =>
      simp only [Request.perform, Reader.openClip]
      rcases closes : reader.close decoder.recorded state with ⟨reader, state⟩
      rw [closes] at unpaired ended
      rcases opens : decoder.recorded.openClip spec state with ⟨outcome, after⟩
      simp only [CursorPair.openClip, opens]
      cases outcome with
      | error cause =>
          have noted : after.2 = state.2 := Decoder.noting_open opens
          exact .closed unpaired (noted ▸ ended)
      | ok named =>
          obtain ⟨own, rfl⟩ : ∃ own, named = (state.2.length, own) := Decoder.noting_name opens
          have noted : after.2 = state.2 ++ [({ spec } : Life)] := Decoder.noting_open opens
          rw [noted]
          refine .opened _ rfl ⟨?_, ?_⟩ rfl rfl
          · intro other member
            cases List.mem_singleton.mp member
            exact ⟨{ spec }, List.getElem?_concat_length, List.not_mem_nil, Life.fresh_heeds spec⟩
          · intro number life found live
            -- Every handle from before is closed by now.
            by_cases old : number < state.2.length
            · rw [List.getElem?_append_left old] at found
              exact absurd live (ended life (List.mem_of_getElem? found))
            · have bound := (List.getElem?_eq_some_iff.mp found).1
              rw [List.length_append, List.length_singleton] at bound
              exact ⟨_, List.mem_singleton_self _, by omega⟩

end Reader

/-- Over every decoder and after every sequence of requests, the handles that are open are those
of the open clip, and the sound and the size of frames of each of them are those that the reader
says. Recording the handles changes nothing. -/
theorem settings_reach_open_handles (decoder : Decoder σ H) (state : σ)
    (requests : List Request) :
    let last := performAll decoder.recorded ({}, state, []) requests
    Prod.map (Reader.map Prod.snd) Prod.fst last = performAll decoder ({}, state) requests ∧
      (∀ life ∈ last.2.2, life.Live → last.1.isOpen = true ∧ life.muted = last.1.muted ∧
        life.size = last.1.requestedSize) ∧
      ∀ number, (∃ life, last.2.2[number]? = some life ∧ life.Live) ↔
        ∃ pair, last.1.pair = some pair ∧ ∃ handle ∈ pair.handles, handle.1 = number := by
  intro last
  have heeded : last.1.Heeded last.2.2 := by
    have begun : ({} : Reader (Nat × H)).Heeded [] :=
      .closed rfl fun _ member => absurd member List.not_mem_nil
    exact perform_all_keeps (fun reader (state : σ × List Life) => reader.Heeded state.2) begun
      (fun request heeded => heeded.request request) requests
  refine ⟨perform_all_project (decoder.noting_projects .lives) ({}, state, []) requests, ?_, ?_⟩
  · intro life member live
    cases heeded with
    | closed closed ended => exact absurd live (ended life member)
    | opened pair holds settled muted size =>
        obtain ⟨number, found⟩ := List.mem_iff_getElem?.mp member
        obtain ⟨handle, owned, rfl⟩ := settled.others number life found live
        obtain ⟨same, known, -, heeds⟩ := settled.own handle owned
        cases found.symm.trans known
        refine ⟨?_, heeds.muted.trans muted.symm, heeds.size.trans size.symm⟩
        rw [Reader.isOpen, holds]
        rfl
  · intro number
    cases heeded with
    | closed closed ended =>
        refine iff_of_false ?_ ?_
        · rintro ⟨life, found, live⟩
          exact ended life (List.mem_of_getElem? found) live
        · rintro ⟨pair, holds, -⟩
          cases closed.symm.trans holds
    | opened pair holds settled muted size =>
        constructor
        · rintro ⟨life, found, live⟩
          exact ⟨pair, holds, settled.others number life found live⟩
        · rintro ⟨same, held, handle, owned, rfl⟩
          cases holds.symm.trans held
          obtain ⟨life, known, live, -⟩ := settled.own handle owned
          exact ⟨life, known, live⟩

/-- The first handle hears that the clip is muted, the second is opened so. -/
example :
    (performAll (Tape.decoder [0, 100]).recorded ({}, [], [])
      [.openClip (.probe "clip.mp4"), .operate (.frameAt 0), .operate (.setMute true),
        .operate .nextFrame]).2.2.map (fun life => (life.spec.options.audioMute, life.muted)) =
      [(false, true), (true, true)] := by
  decide

end Footage.Playback
