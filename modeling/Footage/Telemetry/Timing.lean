import Footage.Telemetry.Duration

/-!
# Timing statistics

Count, total and maximum of the samples of one timed operation, and how many of them were longer
than a soft limit. The mean is the total divided by the count, rounded down to nanoseconds and
held below two to the sixty-fourth nanoseconds.
-/

namespace Footage.Telemetry

open Footage.Number

set_option autoImplicit false

/-- Samples since the last reset. -/
structure Timing where
  name : String
  softLimit : Duration
  count : UInt64 := 0
  total : Duration := .zero
  max : Duration := .zero
  overLimit : UInt64 := 0
deriving DecidableEq, Repr

/-- The greatest number of samples, and of nanoseconds of a mean. -/
def greatestCount : Nat := 18446744073709551615

namespace Timing

def new (name : String) (softLimit : Duration) : Timing := { name, softLimit }

def counted? (counter : UInt64) : Option UInt64 :=
  if counter.toNat < greatestCount then some (counter + 1) else none

theorem counted_of_lt {counter : UInt64} (room : counter.toNat < greatestCount) :
    counted? counter = some (counter + 1) := if_pos room

theorem counted_to_nat {counter next : UInt64} (counted : counted? counter = some next) :
    next.toNat = counter.toNat + 1 := by
  rw [counted?] at counted
  split at counted
  · rename_i room
    cases counted
    rw [UInt64.toNat_add]
    exact Nat.mod_eq_of_lt (Nat.succ_lt_succ room)
  · cases counted

def judged? (timing : Timing) (sample : Duration) : Option UInt64 :=
  if timing.softLimit.nanos < sample.nanos then counted? timing.overLimit else some timing.overLimit

theorem judged_to_nat {timing : Timing} {sample : Duration} {next : UInt64}
    (judged : timing.judged? sample = some next) :
    next.toNat =
      timing.overLimit.toNat + if timing.softLimit.nanos < sample.nanos then 1 else 0 := by
  rw [judged?] at judged
  split at judged
  · rw [if_pos ‹_›]
    exact counted_to_nat judged
  · rw [if_neg ‹_›, ← Option.some.inj judged, Nat.add_zero]

theorem judged_of_lt {timing : Timing} (room : timing.overLimit.toNat < greatestCount)
    (sample : Duration) : ∃ next, timing.judged? sample = some next := by
  rw [judged?]
  split
  · exact ⟨_, counted_of_lt room⟩
  · exact ⟨_, rfl⟩

/-- The statistics with one more sample; nothing when a counter or the total overflows. -/
def add? (timing : Timing) (sample : Duration) : Option Timing := do
  let count ← counted? timing.count
  let total ← timing.total.add? sample
  let overLimit ← timing.judged? sample
  some { timing with count, total, max := timing.max.longer sample, overLimit }

def reset (timing : Timing) : Timing := new timing.name timing.softLimit

def meanNanos (timing : Timing) : Nat :=
  min (timing.total.nanos / timing.count.toNat) greatestCount

theorem mean_nanos_lt (timing : Timing) : timing.meanNanos < durationLimit :=
  Nat.lt_of_le_of_lt (Nat.min_le_right _ _) (by decide)

/-- The mean of the samples; zero without samples. -/
def mean (timing : Timing) : Duration := ⟨timing.meanNanos, timing.mean_nanos_lt⟩

def shown (duration : Duration) : String := duration.milliseconds.fixed 1 ++ "ms"

def text (timing : Timing) : String :=
  timing.name ++ ": n=" ++ toString timing.count.toNat ++ " mean=" ++ shown timing.mean ++
    " max=" ++ shown timing.max ++ " over " ++ timing.softLimit.text ++ "=" ++
    toString timing.overLimit.toNat

end Timing

end Footage.Telemetry
