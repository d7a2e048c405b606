import Footage.Playback.Decoder

/-!
# Times of frames

The frames of a clip are shown at strictly increasing times. As many frames as lie at or before a
time come first, so their number is the index of the first frame after it.
-/

namespace Footage.Playback

set_option autoImplicit false

/-- How many times there are up to and including this one. -/
def countUpTo (times : List Int64) (ms : Int64) : Nat :=
  times.countP fun time => decide (time ≤ ms)

variable {times : List Int64} {time ms : Int64}

theorem count_up_to_le_length (times : List Int64) (ms : Int64) :
    countUpTo times ms ≤ times.length :=
  List.countP_le_length

theorem count_up_to_cons_of_le (earlier : time ≤ ms) (rest : List Int64) :
    countUpTo (time :: rest) ms = countUpTo rest ms + 1 := by
  unfold countUpTo
  rw [List.countP_cons_of_pos]
  exact decide_eq_true earlier

theorem count_up_to_of_later (later : ∀ time ∈ times, ms < time) : countUpTo times ms = 0 := by
  unfold countUpTo
  rw [List.countP_eq_zero]
  intro time member
  simpa using later time member

/-- Up to a frame there are the frames before it and the frame itself. -/
theorem count_up_to_frame (increasing : times.Pairwise (· < ·)) {index : Nat}
    (found : times[index]? = some time) : countUpTo times time = index + 1 := by
  induction times generalizing index with
  | nil => simp at found
  | cons first rest ih =>
      obtain ⟨before, increasing⟩ := List.pairwise_cons.mp increasing
      cases index with
      | zero =>
          have same : first = time := by simpa using found
          subst same
          rw [count_up_to_cons_of_le Int64.le_rfl, count_up_to_of_later before]
      | succ index =>
          rw [List.getElem?_cons_succ] at found
          have earlier : first ≤ time :=
            Int64.le_of_lt (before time (List.mem_of_getElem? found))
          rw [count_up_to_cons_of_le earlier, ih increasing found]

structure FirstAfter (times : List Int64) (ms time : Int64) : Prop where
  listed : time ∈ times
  later : ms < time
  least : ∀ other ∈ times, ms < other → time ≤ other

theorem frame_after_count (increasing : times.Pairwise (· < ·))
    (found : times[countUpTo times ms]? = some time) : FirstAfter times ms time := by
  induction times with
  | nil => simp at found
  | cons first rest ih =>
      obtain ⟨before, increasing⟩ := List.pairwise_cons.mp increasing
      by_cases earlier : first ≤ ms
      · rw [count_up_to_cons_of_le earlier, List.getElem?_cons_succ] at found
        have among_rest := ih increasing found
        refine ⟨List.mem_cons_of_mem _ among_rest.listed, among_rest.later, ?_⟩
        intro other member later
        rcases List.mem_cons.mp member with same | member
        · subst same
          exact absurd (Int64.lt_of_le_of_lt earlier later) Int64.lt_irrefl
        · exact among_rest.least other member later
      · have later : ms < first := Int64.not_le.mp earlier
        have none_earlier : ∀ other ∈ first :: rest, ms < other := by
          intro other member
          rcases List.mem_cons.mp member with same | member
          · exact same ▸ later
          · exact Int64.lt_trans later (before other member)
        rw [count_up_to_of_later none_earlier] at found
        have same : first = time := by simpa using found
        subst same
        refine ⟨List.mem_cons_self, later, ?_⟩
        intro other member _
        rcases List.mem_cons.mp member with same | member
        · exact Int64.le_of_eq same.symm
        · exact Int64.le_of_lt (before other member)

theorem no_frame_after_count (missing : times[countUpTo times ms]? = none) :
    ∀ other ∈ times, ¬ms < other := by
  have bound := count_up_to_le_length times ms
  have all : countUpTo times ms = times.length := by
    rw [List.getElem?_eq_none_iff] at missing
    omega
  unfold countUpTo at all
  rw [List.countP_eq_length] at all
  intro other member
  exact Int64.not_lt.mpr (of_decide_eq_true (all other member))

end Footage.Playback
