import Footage.Config.Types

/-!
# Flags of an open request

The engine takes its switches as bits of a word: those of a stream, made from the capture
settings and the choices of one opening, and those of the time overlay.
-/

namespace Footage.Capture

open Footage.Config

set_option autoImplicit false

structure OpenFlags where
  bits : UInt32
deriving DecidableEq, Repr

namespace OpenFlags

def wantTcp : UInt32 := 0x0001
def shouldRecord : UInt32 := 0x0002
def liveStream : UInt32 := 0x0004
def enableTimestamp : UInt32 := 0x0008
def edgeThread : UInt32 := 0x0010
def renderAudio : UInt32 := 0x0020
def debugClips : UInt32 := 0x0040
def limitFps : UInt32 := 0x0080
def disableAudio : UInt32 := 0x0100
def showRegions : UInt32 := 0x0200
def fastStart : UInt32 := 0x0400
def recordInMemory : UInt32 := 0x0800
def simulation : UInt32 := 0x1000

def none : OpenFlags := ⟨0⟩

def contains (flags : OpenFlags) (mask : UInt32) : Bool := flags.bits &&& mask == mask

def add (flags : OpenFlags) (mask : UInt32) : OpenFlags := ⟨flags.bits ||| mask⟩

def set (flags : OpenFlags) (mask : UInt32) (on : Bool) : OpenFlags :=
  if on then flags.add mask else ⟨flags.bits &&& ~~~mask⟩

end OpenFlags

structure StreamOptions where
  /-- Record segments; a session that does not record tracks none. -/
  record : Bool := true
  liveStream : Bool := true
  edgeThread : Bool := false
  renderAudio : Bool := false
  debugClips : Bool := false
  showRegions : Bool := false
  simulation : Bool := false
  initialFrameBufferSize : UInt64 := 0
deriving DecidableEq, Repr

def openFlags (capture : Config.Capture) (options : StreamOptions) : OpenFlags :=
  OpenFlags.none
    |>.set OpenFlags.wantTcp capture.forceTcp
    |>.set OpenFlags.shouldRecord options.record
    |>.set OpenFlags.liveStream options.liveStream
    |>.set OpenFlags.enableTimestamp capture.timestamps.enabled
    |>.set OpenFlags.edgeThread options.edgeThread
    |>.set OpenFlags.renderAudio options.renderAudio
    |>.set OpenFlags.debugClips options.debugClips
    |>.set OpenFlags.limitFps (0 < capture.fpsLimit)
    |>.set OpenFlags.disableAudio (!capture.recordAudio)
    |>.set OpenFlags.showRegions options.showRegions
    |>.set OpenFlags.fastStart capture.fastStart
    |>.set OpenFlags.recordInMemory capture.recordInMemory
    |>.set OpenFlags.simulation options.simulation

/-- The switches of the time overlay; its format counts only where it is enabled. -/
def timestampFlags (overlay : TimeOverlay) : UInt32 :=
  if overlay.enabled then
    0x1 ||| (if overlay.use12HourTime then 0x2 else 0) ||| (if overlay.useUsDate then 0x4 else 0)
  else 0

end Footage.Capture
