import Footage.Playback.Decoder

/-!
# A short look at a clip

Opens one handle, asks one question, and closes the handle again.
-/

namespace Footage.Playback

set_option autoImplicit false

variable {σ H : Type}

/-- The reply to one call on a handle of its own; none when the clip cannot be opened. -/
def probe (decoder : Decoder σ H) (path : String) (call : Call) (state : σ) :
    Option call.Reply × σ :=
  match decoder.openClip (.probe path) state with
  | (.error _, state) => (none, state)
  | (.ok handle, state) =>
      let state := decoder.tell handle (.setMode .random) state
      let (reply, state) := decoder.perform handle call state
      (some reply, decoder.tell handle .close state)

theorem probe_refused {decoder : Decoder σ H} {path : String} (call : Call) {cause : ClipError}
    {state after : σ} (refused : decoder.openClip (.probe path) state = (.error cause, after)) :
    probe decoder path call state = (none, after) := by
  simp only [probe, refused]

theorem probe_opened {decoder : Decoder σ H} {path : String} (call : Call) {handle : H}
    {state opened last : σ} {reply : call.Reply}
    (opens : decoder.openClip (.probe path) state = (.ok handle, opened))
    (answered : decoder.perform handle call (decoder.tell handle (.setMode .random) opened) =
      (reply, last)) :
    probe decoder path call state = (some reply, decoder.tell handle .close last) := by
  simp only [probe, opens, answered]

def clipDuration (decoder : Decoder σ H) (path : String) (state : σ) : Option Int64 × σ :=
  let (reply, state) := probe decoder path .duration state
  (reply.join, state)

def clipFrameOffsets (decoder : Decoder σ H) (path : String) (state : σ) :
    Option (List Int64) × σ :=
  let (reply, state) := probe decoder path .frameOffsets state
  (reply.join, state)

end Footage.Playback
