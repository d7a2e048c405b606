import Footage.Playback.Decoder

/-!
# Two handles on one clip

A clip is opened with one handle, which belongs to no mode yet. The first mode that is asked for
takes it over; the other mode opens a handle of its own when it is asked for. So there are never
more than two handles, and a clip that is used in one way has one.
-/

namespace Footage.Playback

set_option autoImplicit false

structure CursorPair (H : Type) where
  spec : OpenSpec
  /-- The first handle as long as no mode has taken it over. -/
  first : Option H
  sequential : Option H
  random : Option H

namespace CursorPair

variable {σ H : Type}

def openClip (decoder : Decoder σ H) (spec : OpenSpec) (state : σ) :
    Except ClipError (CursorPair H) × σ :=
  match decoder.openClip spec state with
  | (.ok handle, state) => (.ok ⟨spec, some handle, none, none⟩, state)
  | (.error cause, state) => (.error cause, state)

/-- A handle for a mode that has none: the first one, or else a new one. -/
def claim (decoder : Decoder σ H) (mode : Mode) (pair : CursorPair H) (state : σ) :
    Option H × CursorPair H × σ :=
  match pair.first with
  | some handle =>
      (some handle, { pair with first := none }, decoder.tell handle (.setMode mode) state)
  | none =>
      match decoder.openClip pair.spec state with
      | (.ok handle, state) => (some handle, pair, decoder.tell handle (.setMode mode) state)
      | (.error _, state) => (none, pair, state)

def takeSequential (decoder : Decoder σ H) (pair : CursorPair H) (state : σ) :
    Option H × CursorPair H × σ :=
  match pair.sequential with
  | some handle => (some handle, pair, state)
  | none =>
      let (claimed, pair, state) := claim decoder .sequential pair state
      (claimed, { pair with sequential := claimed }, state)

def takeRandom (decoder : Decoder σ H) (pair : CursorPair H) (state : σ) :
    Option H × CursorPair H × σ :=
  match pair.random with
  | some handle => (some handle, pair, state)
  | none =>
      let (claimed, pair, state) := claim decoder .random pair state
      (claimed, { pair with random := claimed }, state)

/-- A handle that is open already, first of all the one for stepping. -/
def anyOpen (pair : CursorPair H) : Option H :=
  pair.sequential.or (pair.random.or pair.first)

def handles (pair : CursorPair H) : List H :=
  pair.first.toList ++ pair.sequential.toList ++ pair.random.toList

def openCount (pair : CursorPair H) : Nat := pair.handles.length

def tellAll (decoder : Decoder σ H) (call : Call) (pair : CursorPair H) (state : σ) : σ :=
  pair.handles.foldl (fun state handle => decoder.tell handle call state) state

/-- Mutes or unmutes all open handles, and those opened later. -/
def setMute (decoder : Decoder σ H) (on : Bool) (pair : CursorPair H) (state : σ) :
    CursorPair H × σ :=
  let spec := { pair.spec with options := { pair.spec.options with audioMute := on } }
  ({ pair with spec }, tellAll decoder (.setMute on) pair state)

def setOutputSize (decoder : Decoder σ H) (width height : UInt32) (pair : CursorPair H)
    (state : σ) : CursorPair H × σ :=
  ({ pair with spec := { pair.spec with width, height } },
    tellAll decoder (.setOutputSize width height) pair state)

def close (decoder : Decoder σ H) (pair : CursorPair H) (state : σ) : CursorPair H × σ :=
  ({ pair with first := none, sequential := none, random := none },
    tellAll decoder .close pair state)

end CursorPair

end Footage.Playback
