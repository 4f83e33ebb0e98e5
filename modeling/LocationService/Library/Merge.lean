import Mathlib.Data.Multiset.AddSub
import Mathlib.Order.Bounds.Basic
import Mathlib.Order.WithBot

/-!
# Merging optional bounds and merging in groups

An optional bound limits from above, and its absence is the loosest bound
(`limit`).  Optional values themselves are compared the other way: an absent
one comes before all others (`optionalLt`).  `tighten` merges two optional
bounds with that comparison and still keeps the smaller limit.

A `Grouping` is one way to merge several values two at a time.  In a
semilattice all groupings of the same values merge to the same value.
-/

namespace LocationService.Library

/-! ## Optional bounds -/

section OptionalBounds

variable {α : Type}

/-- Optional values compare like their contents, and an absent one is less than
any other. -/
def optionalLt [LT α] [DecidableLT α] : Option α → Option α → Bool
  | _, none => false
  | none, some _ => true
  | some x, some y => x < y

/-- The comparison that goes with `optionalLt`. -/
def optionalLe [LT α] [DecidableLT α] (x y : Option α) : Bool :=
  !optionalLt y x

/-- Takes the other bound where that is present and smaller, or where there is
none yet. -/
def tighten [LT α] [DecidableLT α] (bound other : Option α) : Option α :=
  if bound.isSome then
    if other.isSome && optionalLt other bound then other else bound
  else other

/-- The limit that an optional bound sets. -/
def limit : Option α → WithTop α
  | none => ⊤
  | some x => x

theorem limit_injective : Function.Injective (limit : Option α → WithTop α) := by
  intro x y h
  cases x with
  | none =>
      cases y with
      | none => rfl
      | some b => exact absurd h (WithTop.coe_ne_top).symm
  | some a =>
      cases y with
      | none => exact absurd h WithTop.coe_ne_top
      | some b => exact congrArg some (WithTop.coe_injective h)

variable [LinearOrder α]

@[simp] theorem optionalLt_some (x y : α) :
    optionalLt (some x) (some y) = decide (x < y) := rfl

@[simp] theorem optionalLe_some (x y : α) :
    optionalLe (some x) (some y) = decide (x ≤ y) := by
  by_cases h : x ≤ y
  · simp [optionalLe, h]
  · simp [optionalLe, h, lt_of_not_ge h]

/-- Tightening keeps the smaller limit. -/
theorem limit_tighten (bound other : Option α) :
    limit (tighten bound other) = min (limit bound) (limit other) := by
  cases bound with
  | none => simp [tighten, limit]
  | some x =>
      cases other with
      | none => simp [tighten, limit]
      | some y =>
          by_cases h : y < x
          · have hle : limit (some y) ≤ limit (some x) :=
              WithTop.coe_le_coe.mpr h.le
            simp [tighten, h, min_eq_right hle]
          · have hle : limit (some x) ≤ limit (some y) :=
              WithTop.coe_le_coe.mpr (le_of_not_gt h)
            simp [tighten, h, min_eq_left hle]

end OptionalBounds

/-! ## Groupings -/

/-- One way to merge several values two at a time. -/
inductive Grouping (α : Type) where
  | single (a : α)
  | both (l r : Grouping α)

namespace Grouping

variable {α : Type}

/-- The values that are merged. -/
def values : Grouping α → Multiset α
  | single a => {a}
  | both l r => l.values + r.values

/-- The merged value. -/
def fold (merge : α → α → α) : Grouping α → α
  | single a => a
  | both l r => merge (l.fold merge) (r.fold merge)

variable [SemilatticeSup α]

/-- Any grouping merges to the least upper bound of its values. -/
theorem isLUB_fold (t : Grouping α) :
    IsLUB {a | a ∈ t.values} (t.fold (· ⊔ ·)) := by
  induction t with
  | single a => simp [values, fold]
  | both l r ihl ihr =>
      have hunion : {a | a ∈ (both l r).values} =
          {a | a ∈ l.values} ∪ {a | a ∈ r.values} := by
        ext a
        simp [values]
      rw [hunion]
      exact ihl.union ihr

/-- Order and grouping do not matter. -/
theorem fold_eq_of_values {t t' : Grouping α} (h : t.values = t'.values) :
    t.fold (· ⊔ ·) = t'.fold (· ⊔ ·) := by
  have ht := t.isLUB_fold
  rw [h] at ht
  exact ht.unique t'.isLUB_fold

end Grouping

end LocationService.Library
