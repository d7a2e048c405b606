import Footage.Telemetry.Timing
import Mathlib.Algebra.Order.BigOperators.Group.Multiset
import Mathlib.Algebra.Order.Floor.Semifield
import Mathlib.Data.List.DropRight
import Mathlib.Data.List.Infix
import Mathlib.Data.Multiset.Count
import Mathlib.Data.Rat.Floor

/-!
# What timing statistics say about the samples

A history is a list of samples and resets. Nothing overflows in it exactly when the samples since
every reset can be counted in sixty-four bits and last less than two to the sixty-fourth seconds
together. Then the statistics are a function of the samples since the last reset as a multiset:
how many there are, the longest, how many are longer than the soft limit, and the floor of their
mean.
-/

namespace Footage.Telemetry

set_option autoImplicit false

inductive TimingCall where
  | add (sample : Duration)
  | reset
deriving DecidableEq, Repr

def TimingCall.sample? : TimingCall → Option Duration
  | add sample => some sample
  | reset => none

def samplesSince (calls : List TimingCall) : Multiset Duration :=
  ((calls.rtakeWhile (· ≠ .reset)).filterMap TimingCall.sample? : List Duration)

@[simp] theorem samples_since_add (calls : List TimingCall) (sample : Duration) :
    samplesSince (calls ++ [.add sample]) = sample ::ₘ samplesSince calls := by
  have later : (calls ++ [TimingCall.add sample]).rtakeWhile (· ≠ .reset) =
      calls.rtakeWhile (· ≠ .reset) ++ [.add sample] :=
    List.rtakeWhile_concat_pos _ _ _ rfl
  rw [samplesSince, later, List.filterMap_append]
  exact Multiset.coe_eq_coe.mpr (List.perm_append_singleton sample _)

@[simp] theorem samples_since_reset (calls : List TimingCall) :
    samplesSince (calls ++ [.reset]) = 0 := by
  have none_later : (calls ++ [TimingCall.reset]).rtakeWhile (· ≠ .reset) = [] :=
    List.rtakeWhile_concat_neg _ _ _ (by decide)
  rw [samplesSince, none_later]
  rfl

def totalNanos (samples : Multiset Duration) : Nat := (samples.map Duration.nanos).sum

@[simp] theorem total_nanos_cons (sample : Duration) (samples : Multiset Duration) :
    totalNanos (sample ::ₘ samples) = sample.nanos + totalNanos samples := by
  rw [totalNanos, Multiset.map_cons, Multiset.sum_cons]
  rfl

/-- So many samples can be counted, and together they are less than two to the sixty-fourth
seconds. -/
def Fits (samples : Multiset Duration) : Prop :=
  samples.card < 2 ^ 64 ∧ totalNanos samples < 2 ^ 64 * 10 ^ 9

instance (samples : Multiset Duration) : Decidable (Fits samples) :=
  inferInstanceAs (Decidable (_ ∧ _))

namespace Timing

def step? (timing : Timing) : TimingCall → Option Timing
  | .add sample => timing.add? sample
  | .reset => some timing.reset

def follow? (timing : Timing) (calls : List TimingCall) : Option Timing :=
  calls.foldlM step? timing

theorem follow_append (timing : Timing) (past later : List TimingCall) :
    timing.follow? (past ++ later) = (timing.follow? past).bind (·.follow? later) :=
  List.foldlM_append

theorem follow_concat (timing : Timing) (past : List TimingCall) (call : TimingCall) :
    timing.follow? (past ++ [call]) = (timing.follow? past).bind (·.step? call) := by
  rw [follow_append]
  refine Option.bind_congr fun reached _ => ?_
  simp only [follow?, List.foldlM_cons, List.foldlM_nil, Option.bind_eq_bind, Option.pure_def,
    Option.bind_fun_some]

structure Accounts (limit : Duration) (samples : Multiset Duration) (timing : Timing) : Prop where
  softLimit : timing.softLimit = limit
  count : timing.count.toNat = samples.card
  total : timing.total.nanos = totalNanos samples
  bound : ∀ sample ∈ samples, sample.nanos ≤ timing.max.nanos
  reached : timing.max ∈ Duration.zero ::ₘ samples
  overLimit : timing.overLimit.toNat = samples.countP fun sample => limit.nanos < sample.nanos

theorem accounts_new (name : String) (limit : Duration) : Accounts limit 0 (new name limit) where
  softLimit := rfl
  count := rfl
  total := rfl
  bound _ member := absurd member (Multiset.notMem_zero _)
  reached := Multiset.mem_cons_self _ _
  overLimit := rfl

namespace Accounts

variable {limit : Duration} {samples : Multiset Duration} {timing next : Timing}

theorem reset (accounts : Accounts limit samples timing) : Accounts limit 0 timing.reset := by
  rw [Timing.reset, accounts.softLimit]
  exact accounts_new timing.name limit

theorem fits (accounts : Accounts limit samples timing) : Fits samples := by
  -- A counter and a length of time cannot hold more than what fits.
  constructor
  · rw [← accounts.count]
    exact timing.count.toNat_lt
  · rw [← accounts.total]
    exact timing.total.nanos_lt

theorem add {sample : Duration} (accounts : Accounts limit samples timing)
    (added : timing.add? sample = some next) : Accounts limit (sample ::ₘ samples) next := by
  simp only [add?, Option.bind_eq_bind, Option.bind_eq_some_iff] at added
  obtain ⟨count, counted, total, summed, overLimit, judged, same⟩ := added
  cases same
  refine ⟨accounts.softLimit, ?_, ?_, ?_, ?_, ?_⟩
  · rw [counted_to_nat counted, accounts.count, Multiset.card_cons]
  · rw [Duration.add_eq_some.mp summed, accounts.total, total_nanos_cons, Nat.add_comm]
  · intro other member
    cases Multiset.mem_cons.mp member with
    | inl same => exact same ▸ timing.max.le_longer_right sample
    | inr earlier => exact (accounts.bound other earlier).trans (timing.max.le_longer_left sample)
  · rw [Multiset.cons_swap, Multiset.mem_cons]
    cases timing.max.longer_eq_or sample with
    | inl kept =>
        rw [kept]
        exact .inr accounts.reached
    | inr replaced => exact .inl replaced
  · rw [judged_to_nat judged, accounts.softLimit, accounts.overLimit, Multiset.countP_cons]

theorem exists_add_of_fits {sample : Duration} (accounts : Accounts limit samples timing)
    (fits : Fits (sample ::ₘ samples)) : ∃ next, timing.add? sample = some next := by
  obtain ⟨few, short⟩ := fits
  rw [Multiset.card_cons] at few
  rw [total_nanos_cons, Nat.add_comm, ← accounts.total] at short
  have room : timing.count.toNat < greatestCount := by
    rw [accounts.count]
    exact Nat.lt_of_succ_lt_succ few
  have over_room : timing.overLimit.toNat < greatestCount := by
    rw [accounts.overLimit]
    rw [accounts.count] at room
    exact (Multiset.countP_le_card _ _).trans_lt room
  have summed : timing.total.add? sample = some ⟨_, short⟩ := Duration.add_eq_some.mpr rfl
  obtain ⟨overLimit, judged⟩ := judged_of_lt over_room sample
  rw [add?, counted_of_lt room, summed, judged]
  exact ⟨_, rfl⟩

theorem max_mem (accounts : Accounts limit samples timing) (some_sample : samples ≠ 0) :
    timing.max ∈ samples := by
  cases Multiset.mem_cons.mp accounts.reached with
  | inr member => exact member
  | inl none_longer =>
      obtain ⟨sample, member⟩ := Multiset.exists_mem_of_ne_zero some_sample
      have short : sample.nanos ≤ 0 := by
        have bound := accounts.bound sample member
        rwa [none_longer] at bound
      have same : sample = timing.max := by
        rw [none_longer]
        exact Duration.ext (Nat.le_zero.mp short)
      exact same ▸ member

theorem max_of_none (accounts : Accounts limit 0 timing) : timing.max = .zero :=
  Multiset.mem_singleton.mp accounts.reached

theorem total_le (accounts : Accounts limit samples timing) :
    totalNanos samples ≤ samples.card * timing.max.nanos := by
  have bounded : ∀ nanos ∈ samples.map Duration.nanos, nanos ≤ timing.max.nanos := by
    intro nanos member
    obtain ⟨sample, added, same⟩ := Multiset.mem_map.mp member
    exact same ▸ accounts.bound sample added
  have total := Multiset.sum_le_card_nsmul _ _ bounded
  rwa [Multiset.card_map, nsmul_eq_mul, Nat.cast_id] at total

theorem mean_le_max (accounts : Accounts limit samples timing) :
    timing.mean.nanos ≤ timing.max.nanos := by
  have quotient : timing.total.nanos / timing.count.toNat ≤ timing.max.nanos := by
    rw [accounts.total, accounts.count]
    exact Nat.div_le_of_le_mul accounts.total_le
  exact (Nat.min_le_left _ _).trans quotient

theorem mean_nanos (accounts : Accounts limit samples timing) :
    timing.mean.nanos = min ⌊(totalNanos samples : ℚ) / samples.card⌋₊ (2 ^ 64 - 1) := by
  rw [Nat.floor_div_eq_div, ← accounts.total, ← accounts.count]
  rfl

theorem mean_of_none (accounts : Accounts limit 0 timing) : timing.mean = .zero := by
  refine Duration.ext ?_
  rw [accounts.mean_nanos, Multiset.card_zero, Nat.cast_zero, div_zero, Nat.floor_zero]
  rfl

end Accounts

variable {name : String} {limit : Duration} {calls : List TimingCall} {timing : Timing}

theorem accounts_of_follow (followed : (new name limit).follow? calls = some timing) :
    Accounts limit (samplesSince calls) timing := by
  -- The last call is taken off, since a reset makes earlier samples irrelevant.
  induction calls using List.reverseRecOn generalizing timing with
  | nil =>
      cases followed
      exact accounts_new name limit
  | append_singleton calls call ih =>
      rw [follow_concat] at followed
      obtain ⟨before, earlier, applied⟩ := Option.bind_eq_some_iff.mp followed
      have accounts : Accounts limit (samplesSince calls) before := ih earlier
      cases call with
      | add sample =>
          rw [samples_since_add]
          exact accounts.add applied
      | reset =>
          rw [samples_since_reset]
          cases applied
          exact accounts.reset

/-- Nothing overflows in a history exactly when the samples since every reset fit. -/
theorem follow_is_some_iff : ((new name limit).follow? calls).isSome ↔
    ∀ past, past <+: calls → Fits (samplesSince past) := by
  constructor
  · rintro followed past ⟨later, rfl⟩
    obtain ⟨timing, followed⟩ := Option.isSome_iff_exists.mp followed
    rw [follow_append] at followed
    obtain ⟨before, earlier, -⟩ := Option.bind_eq_some_iff.mp followed
    exact (accounts_of_follow earlier).fits
  · intro fits
    rw [Option.isSome_iff_exists]
    induction calls using List.reverseRecOn with
    | nil => exact ⟨new name limit, rfl⟩
    | append_singleton calls call ih =>
        -- The statistics before the last call tell how much room it has.
        obtain ⟨before, earlier⟩ :=
          ih fun past front => fits past (front.trans (List.prefix_append calls [call]))
        rw [follow_concat, earlier, Option.bind_some]
        cases call with
        | add sample =>
            have fits_now := fits (calls ++ [.add sample]) List.prefix_rfl
            rw [samples_since_add] at fits_now
            exact (accounts_of_follow earlier).exists_add_of_fits fits_now
        | reset => exact ⟨before.reset, rfl⟩

/-- What the statistics say about samples, with the floor of an exact quotient as the mean. -/
structure Describes (timing : Timing) (limit : Duration) (samples : Multiset Duration) : Prop where
  count : timing.count.toNat = samples.card
  bound : ∀ sample ∈ samples, sample.nanos ≤ timing.max.nanos
  max_mem : samples ≠ 0 → timing.max ∈ samples
  max_of_none : samples = 0 → timing.max = .zero
  overLimit : timing.overLimit.toNat = samples.countP fun sample => limit.nanos < sample.nanos
  mean : samples ≠ 0 →
    timing.mean.nanos = min ⌊(totalNanos samples : ℚ) / samples.card⌋₊ (2 ^ 64 - 1)
  mean_of_none : samples = 0 → timing.mean = .zero

theorem Accounts.describes {samples : Multiset Duration}
    (accounts : Accounts limit samples timing) : timing.Describes limit samples where
  count := accounts.count
  bound := accounts.bound
  max_mem := accounts.max_mem
  max_of_none := by
    rintro rfl
    exact accounts.max_of_none
  overLimit := accounts.overLimit
  mean _ := accounts.mean_nanos
  mean_of_none := by
    rintro rfl
    exact accounts.mean_of_none

/-- The readings are determined by the limit and the multiset of samples. -/
theorem Describes.unique {samples : Multiset Duration} {other : Timing}
    (said : timing.Describes limit samples) (also_said : other.Describes limit samples) :
    other.count = timing.count ∧ other.max = timing.max ∧ other.overLimit = timing.overLimit ∧
      other.mean = timing.mean := by
  refine ⟨?_, ?_, ?_, ?_⟩
  · exact UInt64.toNat_inj.mp (also_said.count.trans said.count.symm)
  · by_cases none : samples = 0
    · rw [said.max_of_none none, also_said.max_of_none none]
    · have below := said.bound other.max (also_said.max_mem none)
      have above := also_said.bound timing.max (said.max_mem none)
      exact Duration.ext (Nat.le_antisymm below above)
  · exact UInt64.toNat_inj.mp (also_said.overLimit.trans said.overLimit.symm)
  · by_cases none : samples = 0
    · rw [said.mean_of_none none, also_said.mean_of_none none]
    · exact Duration.ext ((also_said.mean none).trans (said.mean none).symm)

end Timing

/-- As long as the samples since every reset fit, no call overflows, the total in nanoseconds fits
one hundred and twenty-eight bits, and after each call the statistics describe the samples since
the last reset. Their mean is not longer than their maximum, and after any other history with the
same samples in another order they say the same. -/
theorem statistics_describe_samples (name : String) (limit : Duration) (calls : List TimingCall)
    (fits : ∀ past, past <+: calls → Fits (samplesSince past)) :
    ∀ past, past <+: calls → ∃ timing, (Timing.new name limit).follow? past = some timing ∧
      timing.total.nanos < 2 ^ 128 ∧
      timing.Describes limit (samplesSince past) ∧
      timing.mean.nanos ≤ timing.max.nanos ∧
      ∀ otherName otherCalls other,
        (Timing.new otherName limit).follow? otherCalls = some other →
        samplesSince otherCalls = samplesSince past →
          other.count = timing.count ∧ other.max = timing.max ∧
            other.overLimit = timing.overLimit ∧ other.mean = timing.mean := by
  intro past front
  have followed : ((Timing.new name limit).follow? past).isSome :=
    Timing.follow_is_some_iff.mpr fun earlier before => fits earlier (before.trans front)
  obtain ⟨timing, followed⟩ := Option.isSome_iff_exists.mp followed
  have accounts := Timing.accounts_of_follow followed
  refine ⟨timing, followed, timing.total.nanos_lt.trans (by decide), accounts.describes,
    accounts.mean_le_max, ?_⟩
  intro otherName otherCalls other elsewhere same
  have others := (Timing.accounts_of_follow elsewhere).describes
  rw [same] at others
  exact accounts.describes.unique others

/-- Samples that last one nanosecond less than what is too long, after a reset. -/
theorem statistics_describe_saturated_mean :
    let limit : Duration := { nanos := 2 }
    let longest : Duration := { nanos := 2 ^ 64 * 10 ^ 9 - 3 }
    let calls : List TimingCall :=
      [.add longest, .reset, .add .zero, .add longest, .add limit]
    (∀ past, past <+: calls → Fits (samplesSince past)) ∧
      ∃ timing, (Timing.new "move" limit).follow? calls = some timing ∧
        timing.Describes limit {.zero, longest, limit} ∧
        timing.count = 3 ∧ timing.overLimit = 1 ∧ timing.mean.nanos = 2 ^ 64 - 1 ∧
        timing.mean.nanos ≤ timing.max.nanos := by
  intro limit longest calls
  have all_fit : ∀ past ∈ calls.inits, Fits (samplesSince past) := by decide
  have fits : ∀ past, past <+: calls → Fits (samplesSince past) :=
    fun past front => all_fit past ((List.mem_inits past calls).mpr front)
  obtain ⟨timing, followed, -, said, shorter, -⟩ :=
    statistics_describe_samples "move" limit calls fits calls List.prefix_rfl
  have samples : samplesSince calls = {.zero, longest, limit} := by decide
  rw [samples] at said
  refine ⟨fits, timing, followed, said, ?_, ?_, ?_, shorter⟩
  · exact UInt64.toNat_inj.mp said.count
  · exact UInt64.toNat_inj.mp (said.overLimit.trans (by decide))
  · rw [said.mean (by decide), Nat.floor_div_eq_div]
    decide

end Footage.Telemetry
