import Mathlib.Logic.Function.Basic

/-!
# Cells that announce their changes

There is a cell for each kind of value.  A value that is assigned to the cell of
its kind replaces what the cell holds and is announced, unless the cell calls
the two the same.  What is announced of a sequence of values is a part of it, in
order; it is all of it exactly if no value is the same as the one it replaces.
-/

namespace LocationService.Library

/-- A value of each kind. -/
structure Cells {κ ν : Type} (kind : ν → κ) where
  value : κ → ν
  kind_value : ∀ k, kind (value k) = k

namespace Cells

variable {κ ν : Type} [DecidableEq κ] {kind : ν → κ}

/-- The cell of a value's kind holds the value. -/
def set (c : Cells kind) (v : ν) : Cells kind where
  value := Function.update c.value (kind v) v
  kind_value k := by
    by_cases hk : k = kind v
    · subst hk
      simp
    · rw [Function.update_of_ne hk, c.kind_value]

section Same

variable (same : ν → ν → Bool)

/-- A value is assigned to the cell of its kind. -/
def assign (c : Cells kind) (v : ν) : Cells kind :=
  if same (c.value (kind v)) v then c else c.set v

/-- The cells after some assignments. -/
def after (c : Cells kind) (vs : List ν) : Cells kind :=
  vs.foldl (assign same) c

/-- What is announced of some assignments. -/
def announced : Cells kind → List ν → List ν
  | _, [] => []
  | c, v :: vs =>
      if same (c.value (kind v)) v then announced c vs
      else v :: announced (c.set v) vs

/-- No value is the same as the one that it replaces. -/
def Fresh : Cells kind → List ν → Prop
  | _, [] => True
  | c, v :: vs => same (c.value (kind v)) v = false ∧ Fresh (c.set v) vs

instance Fresh.decidable : (c : Cells kind) → (vs : List ν) →
    Decidable (Fresh same c vs)
  | _, [] => isTrue trivial
  | c, v :: vs =>
      have := decidable (c.set v) vs
      inferInstanceAs (Decidable (_ = false ∧ _))

variable {same}

@[simp] theorem after_cons (c : Cells kind) (v : ν) (vs : List ν) :
    c.after same (v :: vs) = (c.assign same v).after same vs := rfl

theorem after_append (c : Cells kind) (vs ws : List ν) :
    c.after same (vs ++ ws) = (c.after same vs).after same ws :=
  List.foldl_append

theorem announced_cons (c : Cells kind) (v : ν) (vs : List ν) :
    announced same c (v :: vs) =
      (if same (c.value (kind v)) v then [] else [v]) ++
        announced same (c.assign same v) vs := by
  unfold assign
  rw [announced]
  split
  · rfl
  · rfl

theorem announced_append (c : Cells kind) (vs ws : List ν) :
    announced same c (vs ++ ws) =
      announced same c vs ++ announced same (c.after same vs) ws := by
  induction vs generalizing c with
  | nil => rfl
  | cons v vs ih =>
      rw [List.cons_append, announced_cons, announced_cons, ih, after_cons,
        List.append_assoc]

theorem announced_sublist (c : Cells kind) (vs : List ν) :
    (announced same c vs).Sublist vs := by
  induction vs generalizing c with
  | nil => exact .slnil
  | cons v vs ih =>
      rw [announced]
      split
      · exact (ih c).cons v
      · exact (ih (c.set v)).cons_cons v

/-- Everything is announced exactly if nothing is the same as before. -/
theorem announced_eq_iff (c : Cells kind) (vs : List ν) :
    announced same c vs = vs ↔ Fresh same c vs := by
  induction vs generalizing c with
  | nil => exact iff_of_true rfl trivial
  | cons v vs ih =>
      rw [announced, Fresh]
      cases hsame : same (c.value (kind v)) v with
      | true =>
          simp only [if_true]
          refine iff_of_false ?_ (by simp)
          intro heq
          have hlength := (@announced_sublist _ _ _ kind same c vs).length_le
          rw [heq, List.length_cons] at hlength
          omega
      | false => simp [ih]

end Same

end Cells

end LocationService.Library
