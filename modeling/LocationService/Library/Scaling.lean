import Mathlib.Algebra.Order.Field.Basic
import Mathlib.Algebra.Order.Floor.Ring

/-!
# Scaling a fraction to a range of integers

A number is capped to the unit interval, stretched to the length of a range of
integers, moved to its lower end and cut off to an integer.  The ends of the
interval meet the ends of the range (`scale_zero`, `scale_one`), a greater
number never gets a smaller integer (`scale_mono`), and none gets one outside of
the range (`scale_mem`).

The integral part is the one toward zero, so that a range may lie on both sides
of it.
-/

namespace LocationService.Library

/-! ## Capping -/

section Cap

variable {α : Type} [LinearOrder α] [Zero α] [One α]

/-- The nearest number between 0 and 1. -/
def cap (x : α) : α := min 1 (max 0 x)

theorem cap_le_one (x : α) : cap x ≤ 1 := min_le_left _ _

theorem cap_mono {x y : α} (h : x ≤ y) : cap x ≤ cap y :=
  min_le_min le_rfl (max_le_max le_rfl h)

variable [ZeroLEOneClass α]

theorem cap_nonneg (x : α) : 0 ≤ cap x :=
  le_min zero_le_one (le_max_left 0 x)

@[simp] theorem cap_zero : cap (0 : α) = 0 := by
  simp [cap]

@[simp] theorem cap_one : cap (1 : α) = 1 := by
  simp [cap]

@[simp] theorem cap_cap (x : α) : cap (cap x) = cap x := by
  have hmax : max 0 (cap x) = cap x := max_eq_right (cap_nonneg x)
  calc
    cap (cap x) = min 1 (cap x) := congrArg (min 1) hmax
    _ = cap x := min_eq_right (cap_le_one x)

/-- Capping a quotient caps its numerator. -/
theorem cap_div {α : Type} [Field α] [LinearOrder α] [IsStrictOrderedRing α]
    {c : α} (hc : 0 < c) (x : α) : cap (x / c) = min c (max 0 x) / c := by
  have hone : c / c = 1 := div_self hc.ne'
  have hzero : 0 / c = 0 := zero_div c
  calc
    cap (x / c) = min (c / c) (max (0 / c) (x / c)) := by
      rw [hone, hzero, cap]
    _ = min c (max 0 x) / c := by
      rw [max_div_div_right hc.le, min_div_div_right hc.le]

end Cap

/-! ## The integral part -/

section Truncate

variable {α : Type} [Ring α] [LinearOrder α] [FloorRing α]

/-- The integral part of a number, toward zero. -/
def truncate (x : α) : Int := if 0 ≤ x then ⌊x⌋ else ⌈x⌉

theorem truncate_mono {x y : α} (h : x ≤ y) : truncate x ≤ truncate y := by
  unfold truncate
  by_cases hx : 0 ≤ x
  · have hy : 0 ≤ y := hx.trans h
    rw [if_pos hx, if_pos hy]
    exact Int.floor_le_floor h
  · rw [if_neg hx]
    by_cases hy : 0 ≤ y
    · -- zero lies between the two
      rw [if_pos hy]
      have hceil : ⌈x⌉ ≤ 0 := by
        rw [Int.ceil_le, Int.cast_zero]
        exact (not_le.mp hx).le
      have hfloor : 0 ≤ ⌊y⌋ := Int.floor_nonneg.mpr hy
      exact hceil.trans hfloor
    · rw [if_neg hy]
      exact Int.ceil_le_ceil h

@[simp] theorem truncate_intCast [IsStrictOrderedRing α] (n : Int) :
    truncate (n : α) = n := by
  unfold truncate
  split
  · exact Int.floor_intCast n
  · exact Int.ceil_intCast n

end Truncate

/-! ## Scaling -/

section Scale

variable {α : Type} [Ring α] [LinearOrder α] [FloorRing α] {m n : Int}

/-- The integer for a fraction, in the range from `m` to `n`. -/
def scale (m n : Int) (x : α) : Int :=
  truncate ((m : α) + cap x * ((n - m : Int) : α))

/-- Beyond the unit interval the ends of the range are kept. -/
@[simp] theorem scale_cap (x : α) : scale m n (cap x) = scale m n x := by
  rw [scale, scale, cap_cap]

variable [IsStrictOrderedRing α]

@[simp] theorem scale_zero : scale m n (0 : α) = m := by
  simp [scale]

@[simp] theorem scale_one : scale m n (1 : α) = n := by
  have hsum : (m : α) + cap 1 * ((n - m : Int) : α) = (n : α) := by
    rw [cap_one, one_mul, Int.cast_sub, add_sub_cancel]
  rw [scale, hsum, truncate_intCast]

theorem scale_mono (h : m ≤ n) {x y : α} (hxy : x ≤ y) :
    scale m n x ≤ scale m n y := by
  have hlength : (0 : α) ≤ ((n - m : Int) : α) :=
    Int.cast_nonneg (Int.sub_nonneg.mpr h)
  have hproduct := mul_le_mul_of_nonneg_right (cap_mono hxy) hlength
  exact truncate_mono (add_le_add le_rfl hproduct)

theorem scale_mem (h : m ≤ n) (x : α) :
    m ≤ scale m n x ∧ scale m n x ≤ n := by
  have hlower := scale_mono h (cap_nonneg x)
  have hupper := scale_mono h (cap_le_one x)
  rw [scale_zero, scale_cap] at hlower
  rw [scale_one, scale_cap] at hupper
  exact ⟨hlower, hupper⟩

end Scale

end LocationService.Library
