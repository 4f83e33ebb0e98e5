import Mathlib.Algebra.Order.Ring.Int

/-!
# Counts of 64 bits

A time point is a count of 64 bits, and so is a duration.  Sums, differences and
multiples wrap around: they are what they should be if that fits into 64 bits,
and are off by `2 ^ 64` next to the ends.
-/

namespace LocationService.Library

/-- A count of 64 bits holds the number. -/
def FitsTicks (x : Int) : Prop :=
  -2 ^ 63 ≤ x ∧ x < 2 ^ 63

instance (x : Int) : Decidable (FitsTicks x) :=
  inferInstanceAs (Decidable (_ ∧ _))

theorem fitsTicks_toInt (a : Int64) : FitsTicks a.toInt :=
  ⟨a.le_toInt, a.toInt_lt⟩

/-- What a count is that should be `x`, up to one turn around the ends. -/
theorem bmod_ticks {x : Int} (hlow : -2 ^ 64 ≤ x) (hhigh : x < 2 ^ 64) :
    x.bmod (2 ^ 64) =
      if x < -2 ^ 63 then x + 2 ^ 64
      else if x < 2 ^ 63 then x
      else x - 2 ^ 64 := by
  have hmod : ((2 ^ 64 : Nat) : Int) = 2 ^ 64 := rfl
  rw [Int.bmod_def, hmod]
  split
  · split
    · omega
    · split <;> omega
  · split
    · omega
    · split <;> omega

theorem bmod_of_fitsTicks {x : Int} (h : FitsTicks x) : x.bmod (2 ^ 64) = x := by
  unfold FitsTicks at h
  rw [bmod_ticks (by omega) (by omega), if_neg (by omega), if_pos h.2]

/-- The difference of two counts, which turns around the ends at most once. -/
theorem toInt_sub_ticks (a b : Int64) :
    (a - b).toInt =
      if a.toInt - b.toInt < -2 ^ 63 then a.toInt - b.toInt + 2 ^ 64
      else if a.toInt - b.toInt < 2 ^ 63 then a.toInt - b.toInt
      else a.toInt - b.toInt - 2 ^ 64 := by
  have ha := fitsTicks_toInt a
  have hb := fitsTicks_toInt b
  unfold FitsTicks at ha hb
  rw [Int64.toInt_sub, bmod_ticks (by omega) (by omega)]

theorem toInt_add_of_fitsTicks {a b : Int64}
    (h : FitsTicks (a.toInt + b.toInt)) :
    (a + b).toInt = a.toInt + b.toInt := by
  rw [Int64.toInt_add, bmod_of_fitsTicks h]

theorem toInt_mul_of_fitsTicks {a b : Int64}
    (h : FitsTicks (a.toInt * b.toInt)) :
    (a * b).toInt = a.toInt * b.toInt := by
  rw [Int64.toInt_mul, bmod_of_fitsTicks h]

end LocationService.Library
