import Mathlib.Logic.Basic

/-!
# Loops that an exception may leave

A body works on a state by reference and may throw.  An exception that leaves
the loop does not undo anything: the state keeps what was done to it up to the
throw.  `forEach` runs a body over a list, and `reached` are the elements it is
called for, the throwing one included.

`Collects` says that a body adds to the state with an operation that has a
unit.  The loop then adds what the reached elements contribute
(`Collects.forEach`).
-/

namespace LocationService.Library

/-- The state that is left behind, and whether an exception is on its way. -/
structure Interruptible (σ : Type) where
  state : σ
  thrown : Bool
  deriving DecidableEq

namespace Interruptible

variable {σ α : Type}

/-- A loop whose body may throw. -/
def forEach (body : α → σ → Interruptible σ) : List α → σ → Interruptible σ
  | [], s => ⟨s, false⟩
  | x :: xs, s =>
      let r := body x s
      if r.thrown then r else forEach body xs r.state

/-- A body that never throws runs over the whole list. -/
theorem forEach_map_of_not_thrown {β : Type} {f : β → α}
    {body : α → σ → Interruptible σ} {add : σ → β → σ}
    (h : ∀ y s, body (f y) s = ⟨add s y, false⟩) (ys : List β) (s : σ) :
    forEach body (ys.map f) s = ⟨ys.foldl add s, false⟩ := by
  induction ys generalizing s with
  | nil => rfl
  | cons y ys ih => simp [forEach, h, ih]

/-- The elements up to and including the first one that throws. -/
def reached (throws : α → Bool) : List α → List α
  | [] => []
  | x :: xs => if throws x then [x] else x :: reached throws xs

/-- An element is reached exactly if no element before it throws. -/
theorem mem_reached_iff {throws : α → Bool} {x : α} {xs : List α} :
    x ∈ reached throws xs ↔ ∃ before after, xs = before ++ x :: after ∧
      ∀ y ∈ before, throws y = false := by
  induction xs with
  | nil => simp [reached]
  | cons y ys ih =>
      unfold reached
      cases hthrows : throws y with
      | true =>
          simp only [if_true, List.mem_singleton]
          constructor
          · intro heq
            exact ⟨[], ys, by simp [heq], by simp⟩
          · rintro ⟨before, after, hsplit, hbefore⟩
            cases before with
            | nil => exact (List.cons.inj hsplit).1.symm
            | cons z before =>
                have hz := hbefore z List.mem_cons_self
                rw [← (List.cons.inj hsplit).1, hthrows] at hz
                cases hz
      | false =>
          simp only [Bool.false_eq_true, if_false, List.mem_cons, ih]
          constructor
          · rintro (rfl | ⟨before, after, hsplit, hbefore⟩)
            · exact ⟨[], ys, rfl, by simp⟩
            · refine ⟨y :: before, after, by rw [hsplit, List.cons_append], ?_⟩
              intro z hz
              rcases List.mem_cons.mp hz with rfl | hz
              · exact hthrows
              · exact hbefore z hz
          · rintro ⟨before, after, hsplit, hbefore⟩
            cases before with
            | nil => exact .inl (List.cons.inj hsplit).1.symm
            | cons z before =>
                have hrest := (List.cons.inj hsplit).2
                exact .inr ⟨before, after, hrest, fun w hw =>
                  hbefore w (List.mem_cons_of_mem z hw)⟩

/-- Without a throw every element is reached. -/
theorem reached_of_none_throws {throws : α → Bool} {xs : List α}
    (h : ∀ x ∈ xs, throws x = false) : reached throws xs = xs := by
  induction xs with
  | nil => rfl
  | cons x xs ih =>
      have hrest := ih fun y hy => h y (List.mem_cons_of_mem x hy)
      simp [reached, h x List.mem_cons_self, hrest]

/-- Where only units add up to the unit, a sum is the unit exactly if all its
terms are. -/
theorem foldr_eq_unit_iff {op : σ → σ → σ} {unit : σ} {gain : α → σ}
    (hop : ∀ a b, op a b = unit ↔ a = unit ∧ b = unit) (xs : List α) :
    (xs.map gain).foldr op unit = unit ↔ ∀ x ∈ xs, gain x = unit := by
  induction xs with
  | nil => simp
  | cons x xs ih => simp [hop, ih]

section Collecting

variable {op : σ → σ → σ} (unit : σ) [Std.Associative op]
  [Std.LawfulIdentity op unit] {gain : α → σ} {throws : α → Bool}
  {body : α → σ → Interruptible σ}

/-- A body that adds a contribution of its element to the state. -/
def Collects (op : σ → σ → σ) (gain : α → σ) (throws : α → Bool)
    (body : α → σ → Interruptible σ) : Prop :=
  ∀ x s, body x s = ⟨op s (gain x), throws x⟩

/-- A collecting loop adds what the reached elements contribute, and throws if
one of the elements does. -/
theorem Collects.forEach (h : Collects op gain throws body) (xs : List α)
    (s : σ) :
    Interruptible.forEach body xs s =
      ⟨op s (((reached throws xs).map gain).foldr op unit),
        xs.any throws⟩ := by
  induction xs generalizing s with
  | nil =>
      have hunit : op s unit = s := Std.LawfulRightIdentity.right_id s
      simp [Interruptible.forEach, reached, hunit]
  | cons x xs ih =>
      rw [Interruptible.forEach, h x s]
      cases hthrows : throws x with
      | true =>
          have hunit : op (gain x) unit = gain x :=
            Std.LawfulRightIdentity.right_id (gain x)
          simp [reached, hthrows, hunit]
      | false =>
          have hassoc : ∀ a, op (op s (gain x)) a = op s (op (gain x) a) :=
            Std.Associative.assoc s (gain x)
          simp [reached, hthrows, ih, hassoc]

end Collecting

end Interruptible

end LocationService.Library
