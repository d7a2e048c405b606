import Footage.Proofs.Session.Episode
import Footage.Proofs.Session.Hearing

/-!
# The chronicle of a session

A session is asked one thing after the other, and between two requests its worker may move. The
chronicle is made of nothing but the requests and the answers of the engine: an opened stream
begins an episode, a poll that finds it running adds a moment, and its close ends the episode.
-/

namespace Footage.Rotation

open Footage.Capture Footage.Clip Footage.Storage

set_option autoImplicit false

variable {σ τ H κ : Type}

inductive Request (σ κ : Type) where
  | openStream (uri : String) (options : StreamOptions)
  | poll (wantLarge : Bool)
  | flush (neededMs : Option Int64)
  | close
  | closeWith (killable : σ → σ)
  /-- Another callback for segments that cannot be stored. -/
  | register (callback : κ)
  | processingSize
  | frameRates
  | initialFrameBufferSize
  | largeFrame
  /-- The worker takes a step of its own. -/
  | work

namespace Request

/-- The request over a larger state, of which its action changes a part. -/
def within (get : τ → σ) (set : σ → τ → τ) : Request σ κ → Request τ κ
  | .openStream uri options => .openStream uri options
  | .poll wantLarge => .poll wantLarge
  | .flush neededMs => .flush neededMs
  | .close => .close
  | .closeWith killable => .closeWith fun whole => set (killable (get whole)) whole
  | .register callback => .register callback
  | .processingSize => .processingSize
  | .frameRates => .frameRates
  | .initialFrameBufferSize => .initialFrameBufferSize
  | .largeFrame => .largeFrame
  | .work => .work

def perform (services : Services σ H κ) (session : Session H κ) (state : σ) :
    Request σ κ → Option Playback.Frame × Session H κ × σ
  | .openStream uri options => (none, (session.openStream services uri options state).2)
  | .poll wantLarge => session.pollFrame services wantLarge state
  | .flush neededMs => (none, session, session.flush services neededMs state)
  | .close => (none, session.close services state)
  | .closeWith killable => (none, session.closeWith services killable state)
  | .register callback => (none, session.withCallback callback, state)
  | .processingSize => (none, session, (session.processingSize services state).2)
  | .frameRates => (none, session, (session.frameRates services state).2)
  | .initialFrameBufferSize => (none, session, (session.initialFrameBufferSize services state).2)
  | .largeFrame => (none, session, (session.largeFrame services state).2)
  | .work =>
      let (worker, state) := session.mover.worker.step services.storage state
      (none, { session with mover := { session.mover with worker } }, state)

def records : Request σ κ → Bool
  | .openStream _ options => options.record
  | _ => false

def callback? : Request σ κ → Option κ
  | .register callback => some callback
  | _ => none

end Request

/-- What the answers of the engine to one request tell. -/
inductive Note where
  /-- A stream was opened, and this is its size so far. -/
  | opened (size : Option Size)
  /-- A poll found its stream running. -/
  | polled (captured : Option CapturedFrame) (size : Option Size)
  /-- A stream was closed, and this was its size. -/
  | closed (size : Option Size)

def notes : List Heard → List Note
  | .opened true :: .replied .processingSize size :: later => .opened size :: notes later
  | .replied (.pollFrame _) captured :: .replied .isRunning true ::
      .replied .processingSize size :: later => .polled captured size :: notes later
  | .replied .flush _ :: .replied .processingSize size :: .replied .close _ :: later =>
      .closed size :: notes later
  | _ :: later => notes later
  | [] => []

structure Chronicle (κ : Type) where
  past : List (Episode κ) := []
  /-- The episode of the stream that is open. -/
  current : Option (Episode κ) := none
  callback : Option κ := none

namespace Chronicle

def add (records : Bool) (chronicle : Chronicle κ) : Note → Chronicle κ
  | .opened size =>
      { chronicle with
        past := chronicle.past ++ chronicle.current.toList
        current := some ⟨records, size, [], none⟩ }
  | .polled captured size =>
      { chronicle with
        current := chronicle.current.map (Episode.extend ⟨captured, size, chronicle.callback⟩) }
  | .closed size =>
      { chronicle with
        past := chronicle.past ++
          (chronicle.current.map (Episode.close ⟨size, chronicle.callback⟩)).toList
        current := none }

def tell (records : Bool) (chronicle : Chronicle κ) (heard : List Heard) : Chronicle κ :=
  (notes heard).foldl (add records) chronicle

/-- The chronicle after a request and the answers that the engine gave meanwhile. -/
def hear (chronicle : Chronicle κ) (request : Request σ κ) (heard : List Heard) : Chronicle κ :=
  tell request.records { chronicle with callback := request.callback?.or chronicle.callback } heard

def episodes (chronicle : Chronicle κ) : List (Episode κ) :=
  chronicle.past ++ chronicle.current.toList

def jobs (station : Station) (chronicle : Chronicle κ) : List (MoveJob κ) :=
  chronicle.episodes.flatMap (Episode.jobs station)

/-- The frames that the engine gave at the polls that found their stream running. -/
def frames (chronicle : Chronicle κ) : List Playback.Frame :=
  chronicle.episodes.flatMap fun episode =>
    episode.moments.filterMap fun moment => moment.captured.map CapturedFrame.frame

end Chronicle

structure Life (σ H κ : Type) where
  session : Session H κ
  state : σ
  chronicle : Chronicle κ := {}
  returned : List Playback.Frame := []

namespace Life

def ask (services : Services σ H κ) (life : Life σ H κ) (request : Request σ κ) : Life σ H κ :=
  let (frame, session, state, heard) :=
    (request.within Prod.fst setFirst).perform services.overheard life.session (life.state, [])
  { session, state
    chronicle := life.chronicle.hear request heard
    returned := life.returned ++ frame.toList }

def play (services : Services σ H κ) (life : Life σ H κ) (requests : List (Request σ κ)) :
    Life σ H κ :=
  requests.foldl (ask services) life

end Life

end Footage.Rotation
