import Mathlib.Algebra.Order.Field.Basic
import Mathlib.Algebra.Order.Floor.Ring
import Mathlib.Tactic.Linarith
import Mathlib.Tactic.Ring

/-!
# Reading a clock from afar

A message leaves at one moment of the near clock, is received and answered at
two moments of a far one, and the answer returns at a second moment of the near
clock.  The far clock is ahead by an unknown offset.  The midpoint estimate of
the offset is off by at most half the time that the messages were under way,
and by half of what the four readings are off.
-/

namespace LocationService.Library

section Exact

variable {K : Type} [Field K] [LinearOrder K] [IsStrictOrderedRing K]
variable {sent received transmitted returned offset : K}

/-- The estimate of how far the far clock is ahead. -/
def offsetEstimate (sent received transmitted returned : K) : K :=
  ((received - sent) + (transmitted - returned)) / 2

/-- How long the messages were under way. -/
def roundTrip (sent received transmitted returned : K) : K :=
  (returned - sent) - (transmitted - received)

theorem roundTrip_nonneg (hsent : sent + offset ≤ received)
    (hreturned : transmitted ≤ returned + offset) :
    0 ≤ roundTrip sent received transmitted returned := by
  unfold roundTrip
  linarith

/-- The answer cannot return before it was sent, nor be received before the
request left. -/
theorem abs_offsetEstimate_sub_le (hsent : sent + offset ≤ received)
    (hreturned : transmitted ≤ returned + offset) :
    |offsetEstimate sent received transmitted returned - offset| ≤
      roundTrip sent received transmitted returned / 2 := by
  unfold offsetEstimate roundTrip
  rw [abs_le]
  constructor
  · linarith
  · linarith

end Exact

/-! ## Rounding toward zero -/

section Rounding

variable {K : Type} [Field K] [LinearOrder K] [IsStrictOrderedRing K]

/-- An integral quotient is off by less than one. -/
theorem abs_tdiv_sub_lt (n : Int) {d : Int} (hd : 0 < d) :
    |((n.tdiv d : Int) : K) - n / d| < 1 := by
  have hd' : (0 : K) < d := by exact_mod_cast hd
  have hsplit : (n : K) = d * (n.tdiv d : Int) + (n.tmod d : Int) := by
    exact_mod_cast (Int.mul_tdiv_add_tmod n d).symm
  have hdiff : ((n.tdiv d : Int) : K) - n / d = -((n.tmod d : Int) / d) := by
    rw [hsplit, add_div, mul_div_cancel_left₀ _ (ne_of_gt hd')]
    ring
  have hlow : -d < n.tmod d := Int.lt_tmod_of_pos n hd
  have hhigh : n.tmod d < d := Int.tmod_lt_of_pos n hd
  rw [hdiff, abs_neg, abs_div, abs_of_pos hd', div_lt_one hd']
  exact_mod_cast abs_lt.mpr ⟨hlow, hhigh⟩

end Rounding

end LocationService.Library
