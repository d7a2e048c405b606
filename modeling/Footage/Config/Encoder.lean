import Footage.Number.Double

/-!
# The encoder profile

Parameters that the capture engine hands to its encoder, and the named quality profiles that some
profile numbers stand for.
-/

namespace Footage.Config

open Footage.Number

set_option autoImplicit false

structure Encoder where
  /-- Scales the target bit rate; zero leaves it to the engine. -/
  bitRateMultiplier : Double := Double.zero
  maxBitRate : Int64 := 0
  gopSize : Int32 := 42
  keyintMin : Int32 := 10
  preset : String := "ultrafast"
  maxWidth : UInt32 := 0
  maxHeight : UInt32 := 0
  qualityProfile : Int32 := -1
deriving DecidableEq, Repr

inductive Quality where
  | notSpecified
  | original
  | high
  | medium
  | low
  | other (number : Int32)
deriving DecidableEq, Repr

namespace Quality

def ofNumber (number : Int32) : Quality :=
  if number = -1 then .notSpecified
  else if number = 0 then .original
  else if number = 10 then .high
  else if number = 20 then .medium
  else if number = 30 then .low
  else .other number

def number : Quality → Int32
  | notSpecified => -1
  | original => 0
  | high => 10
  | medium => 20
  | low => 30
  | other number => number

end Quality

def Encoder.quality (encoder : Encoder) : Quality := .ofNumber encoder.qualityProfile

end Footage.Config
