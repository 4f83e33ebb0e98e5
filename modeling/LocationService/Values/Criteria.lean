import LocationService.Library.Merge
import LocationService.Values.Position
import Mathlib

/-!
# Merging criteria

A session states the features it needs and the accuracies it asks for.
`operator+` merges the criteria of two sessions and `satisfies` compares them.
Both are the same for any type of numbers; the source has them for `double`.

The merge is the least upper bound of the order `AtLeast`, which says that one
criteria asks for everything that another one asks for.  `satisfies` goes
through the conditions of that order, but it accumulates them onto `false`.
-/

namespace LocationService

open Library

/-- `Criteria::Accuracy`, over any type of numbers. -/
structure AccuracyOver (α : Type) where
  horizontal : α
  vertical : Option α
  velocity : Option α
  heading : Option α

/-- `Criteria`, over any type of numbers. -/
structure CriteriaOver (α : Type) where
  requires : Criteria.Requires
  accuracy : AccuracyOver α

namespace CriteriaOver

variable {α : Type}

section Operations

variable [LT α] [DecidableLT α]

/-- `operator+` -/
def merge (lhs rhs : CriteriaOver α) : CriteriaOver α where
  requires := {
    position := lhs.requires.position || rhs.requires.position
    velocity := lhs.requires.velocity || rhs.requires.velocity
    heading := lhs.requires.heading || rhs.requires.heading
    altitude := lhs.requires.altitude || rhs.requires.altitude }
  accuracy := {
    horizontal :=
      if rhs.accuracy.horizontal < lhs.accuracy.horizontal then
        rhs.accuracy.horizontal
      else lhs.accuracy.horizontal
    vertical := tighten lhs.accuracy.vertical rhs.accuracy.vertical
    velocity := tighten lhs.accuracy.velocity rhs.accuracy.velocity
    heading := tighten lhs.accuracy.heading rhs.accuracy.heading }

instance : Add (CriteriaOver α) := ⟨merge⟩

/-- `if (rhs) result &= lhs`, for a required feature. -/
def accumulateFeature (lhs rhs result : Bool) : Bool :=
  if rhs then result && lhs else result

/-- `if (rhs) result &= lhs && lhs <= rhs`, for an optional accuracy. -/
def accumulateAccuracy (lhs rhs : Option α) (result : Bool) : Bool :=
  if rhs.isSome then result && (lhs.isSome && optionalLe lhs rhs) else result

variable [LE α] [DecidableLE α]

/-- The statements of `Criteria::satisfies` behind the declaration of
`result`. -/
def accumulate (lhs rhs : CriteriaOver α) (result : Bool) : Bool :=
  let result := accumulateFeature lhs.requires.position rhs.requires.position
    result
  let result := accumulateFeature lhs.requires.altitude rhs.requires.altitude
    result
  let result := accumulateFeature lhs.requires.heading rhs.requires.heading
    result
  let result := accumulateFeature lhs.requires.velocity rhs.requires.velocity
    result
  let result := result &&
    decide (lhs.accuracy.horizontal ≤ rhs.accuracy.horizontal)
  let result := accumulateAccuracy lhs.accuracy.vertical rhs.accuracy.vertical
    result
  let result := accumulateAccuracy lhs.accuracy.heading rhs.accuracy.heading
    result
  accumulateAccuracy lhs.accuracy.velocity rhs.accuracy.velocity result

/-- `Criteria::satisfies` -/
def satisfies (lhs rhs : CriteriaOver α) : Bool := accumulate lhs rhs false

/-- Whatever is accumulated onto `false` remains `false`. -/
theorem satisfies_eq_false (c d : CriteriaOver α) : c.satisfies d = false := by
  simp [satisfies, accumulate, accumulateFeature, accumulateAccuracy]

end Operations

end CriteriaOver

/-! ## Criteria over doubles -/

namespace Criteria

/-- The criteria of the source are those over doubles. -/
def overDoubles (c : Criteria) : CriteriaOver Float where
  requires := c.requires
  accuracy := {
    horizontal := c.accuracy.horizontal.value
    vertical := c.accuracy.vertical.map Quantity.value
    velocity := c.accuracy.velocity.map Quantity.value
    heading := c.accuracy.heading.map Quantity.value }

/-- `Criteria::satisfies` -/
def satisfies (lhs rhs : Criteria) : Bool :=
  lhs.overDoubles.satisfies rhs.overDoubles

theorem satisfies_eq_false (c d : Criteria) : c.satisfies d = false :=
  CriteriaOver.satisfies_eq_false c.overDoubles d.overDoubles

end Criteria

namespace CriteriaOver

variable {α : Type}

/-! ## The order of criteria -/

/-- What criteria demand: more features, and smaller limits, are more. -/
abbrev Demand (α : Type) : Type :=
  (Bool × Bool × Bool × Bool) ×
    (αᵒᵈ × (WithTop α)ᵒᵈ × (WithTop α)ᵒᵈ × (WithTop α)ᵒᵈ)

def demand (c : CriteriaOver α) : Demand α :=
  ((c.requires.position, c.requires.altitude, c.requires.velocity,
      c.requires.heading),
    (.toDual c.accuracy.horizontal, .toDual (limit c.accuracy.vertical),
      .toDual (limit c.accuracy.velocity), .toDual (limit c.accuracy.heading)))

theorem demand_injective : Function.Injective (demand (α := α)) := by
  rintro ⟨⟨⟩, ⟨⟩⟩ ⟨⟨⟩, ⟨⟩⟩ h
  simp only [demand, Prod.mk.injEq, EmbeddingLike.apply_eq_iff_eq,
    limit_injective.eq_iff] at h
  simp [h]

variable [LinearOrder α]

/-- Requires at least the features of the other criteria, and is at least as
strict in every accuracy; an absent accuracy is the loosest. -/
structure AtLeast (c d : CriteriaOver α) : Prop where
  position : d.requires.position = true → c.requires.position = true
  altitude : d.requires.altitude = true → c.requires.altitude = true
  velocity : d.requires.velocity = true → c.requires.velocity = true
  heading : d.requires.heading = true → c.requires.heading = true
  horizontal : c.accuracy.horizontal ≤ d.accuracy.horizontal
  vertical : limit c.accuracy.vertical ≤ limit d.accuracy.vertical
  velocityAccuracy : limit c.accuracy.velocity ≤ limit d.accuracy.velocity
  headingAccuracy : limit c.accuracy.heading ≤ limit d.accuracy.heading

theorem demand_le_iff {c d : CriteriaOver α} :
    demand c ≤ demand d ↔ d.AtLeast c := by
  simp only [demand, Prod.mk_le_mk, OrderDual.toDual_le_toDual, Bool.le_iff_imp]
  constructor
  · rintro ⟨⟨hp, ha, hv, hh⟩, hhorizontal, hvertical, hvelocity, hheading⟩
    exact ⟨hp, ha, hv, hh, hhorizontal, hvertical, hvelocity, hheading⟩
  · rintro ⟨hp, ha, hv, hh, hhorizontal, hvertical, hvelocity, hheading⟩
    exact ⟨⟨hp, ha, hv, hh⟩, hhorizontal, hvertical, hvelocity, hheading⟩

/-- The merge demands what the two operands demand, and nothing else. -/
theorem demand_add (c d : CriteriaOver α) :
    demand (c + d) = demand c ⊔ demand d := by
  have hhorizontal : (c + d).accuracy.horizontal =
      min c.accuracy.horizontal d.accuracy.horizontal := by
    show (if d.accuracy.horizontal < c.accuracy.horizontal then _ else _) = _
    split
    · rename_i h
      exact (min_eq_right h.le).symm
    · rename_i h
      exact (min_eq_left (le_of_not_gt h)).symm
  have hvertical : limit (c + d).accuracy.vertical = _ :=
    limit_tighten c.accuracy.vertical d.accuracy.vertical
  have hvelocity : limit (c + d).accuracy.velocity = _ :=
    limit_tighten c.accuracy.velocity d.accuracy.velocity
  have hheading : limit (c + d).accuracy.heading = _ :=
    limit_tighten c.accuracy.heading d.accuracy.heading
  unfold demand
  rw [hhorizontal, hvertical, hvelocity, hheading]
  rfl

/-! ## The merge is a least upper bound -/

instance : LE (CriteriaOver α) := ⟨fun c d => d.AtLeast c⟩

instance : LT (CriteriaOver α) := ⟨fun c d => demand c < demand d⟩

instance : Max (CriteriaOver α) := ⟨fun c d => c + d⟩

/-- Criteria are ordered by what they demand, and merged by `operator+`. -/
noncomputable instance : SemilatticeSup (CriteriaOver α) :=
  demand_injective.semilatticeSup demand demand_le_iff Iff.rfl demand_add

/-- `operator+` is commutative, associative and idempotent, the merge of two
criteria is the weakest that asks for all they ask for, and the merge of
several criteria depends neither on their order nor on their grouping. -/
theorem merge_is_semilattice (α : Type) [LinearOrder α] :
    (∀ c d : CriteriaOver α, c + d = d + c) ∧
      (∀ c d e : CriteriaOver α, c + d + e = c + (d + e)) ∧
      (∀ c : CriteriaOver α, c + c = c) ∧
      (∀ c d : CriteriaOver α, (c + d).AtLeast c ∧ (c + d).AtLeast d) ∧
      (∀ c d e : CriteriaOver α,
        e.AtLeast c → e.AtLeast d → e.AtLeast (c + d)) ∧
      ∀ t t' : Grouping (CriteriaOver α), t.values = t'.values →
        t.fold (· + ·) = t'.fold (· + ·) := by
  refine ⟨fun c d => sup_comm c d, fun c d e => sup_assoc c d e,
    fun c => sup_idem c, ?_, ?_, ?_⟩
  · intro c d
    have hleft : c ≤ c ⊔ d := le_sup_left
    have hright : d ≤ c ⊔ d := le_sup_right
    exact ⟨hleft, hright⟩
  · intro c d e hc hd
    have hle : c ⊔ d ≤ e := sup_le hc hd
    exact hle
  · intro t t' h
    exact Grouping.fold_eq_of_values h

/-- A client of the default criteria, one that asks for a vertical accuracy,
and one that asks for a better one. -/
theorem merge_is_semilattice_three_clients :
    let a : CriteriaOver ℚ := ⟨{}, ⟨3000, none, none, none⟩⟩
    let b : CriteriaOver ℚ := ⟨{ altitude := true }, ⟨500, some 20, none, none⟩⟩
    let c : CriteriaOver ℚ := ⟨{ heading := true }, ⟨800, some 5, none, none⟩⟩
    a + b + c = c + (b + a) ∧ (c + (b + a)).accuracy.vertical = some 5 := by
  intro a b c
  have hvalues : (Grouping.both (.both (.single a) (.single b))
      (.single c)).values =
        (Grouping.both (.single c) (.both (.single b) (.single a))).values := by
    simp only [Grouping.values]
    rw [Multiset.add_comm {a} {b}, Multiset.add_comm]
  have hfold := (merge_is_semilattice ℚ).2.2.2.2.2 _ _ hvalues
  refine ⟨hfold, ?_⟩
  decide

/-! ## Satisfying criteria -/

@[simp] theorem accumulateFeature_iff {lhs rhs result : Bool} :
    accumulateFeature lhs rhs result = true ↔
      result = true ∧ (rhs = true → lhs = true) := by
  cases rhs with
  | false => simp [accumulateFeature]
  | true => simp [accumulateFeature]

@[simp] theorem accumulateAccuracy_iff {lhs rhs : Option α} {result : Bool} :
    accumulateAccuracy lhs rhs result = true ↔
      result = true ∧ limit lhs ≤ limit rhs := by
  cases rhs with
  | none => simp [accumulateAccuracy, limit]
  | some y =>
      cases lhs with
      | none => simp [accumulateAccuracy, limit]
      | some x => simp [accumulateAccuracy, limit]

/-- The conditions that are accumulated are those of the order. -/
theorem accumulate_iff {c d : CriteriaOver α} {result : Bool} :
    accumulate c d result = true ↔ result = true ∧ c.AtLeast d := by
  simp only [accumulate, accumulateFeature_iff, accumulateAccuracy_iff,
    Bool.and_eq_true, decide_eq_true_eq]
  constructor
  · rintro ⟨⟨⟨⟨⟨⟨⟨⟨hresult, hp⟩, ha⟩, hh⟩, hv⟩, hhorizontal⟩, hvertical⟩,
      hheading⟩, hvelocity⟩
    exact ⟨hresult,
      ⟨hp, ha, hv, hh, hhorizontal, hvertical, hvelocity, hheading⟩⟩
  · rintro ⟨hresult, h⟩
    exact ⟨⟨⟨⟨⟨⟨⟨⟨hresult, h.position⟩, h.altitude⟩, h.heading⟩, h.velocity⟩,
      h.horizontal⟩, h.vertical⟩, h.headingAccuracy⟩, h.velocityAccuracy⟩

/-- Accumulated onto `true`, the conditions would make the merge what its
documentation says, and satisfying transitive. -/
theorem accumulate_true_contract (c d e : CriteriaOver α) :
    accumulate c c true = true ∧
      accumulate (c + d) c true = true ∧ accumulate (c + d) d true = true ∧
      (accumulate c d true = true → accumulate d e true = true →
        accumulate c e true = true) := by
  simp only [accumulate_iff, true_and]
  have hrefl : c ≤ c := le_refl c
  have hleft : c ≤ c ⊔ d := le_sup_left
  have hright : d ≤ c ⊔ d := le_sup_right
  refine ⟨hrefl, hleft, hright, ?_⟩
  intro hcd hde
  have hle : e ≤ c := le_trans (b := d) hde hcd
  exact hle

/-- Over any numbers, no criteria satisfy themselves, and no merge satisfies
its operands. -/
theorem merge_never_satisfies {α : Type} [LT α] [DecidableLT α] [LE α]
    [DecidableLE α] (c c₁ c₂ : CriteriaOver α) :
    c.satisfies c = false ∧ (c₁ + c₂).satisfies c₁ = false ∧
      (c₁ + c₂).satisfies c₂ = false :=
  ⟨satisfies_eq_false c c, satisfies_eq_false _ c₁, satisfies_eq_false _ c₂⟩

/-- The criteria that a client gets by default, over exact numbers. -/
def exactDefault : CriteriaOver ℚ := ⟨{}, ⟨3000, none, none, none⟩⟩

/-- The default criteria do not satisfy themselves. -/
theorem default_not_satisfied :
    ¬ ∀ c c₁ c₂ : CriteriaOver ℚ,
      c.satisfies c = true ∧ (c₁ + c₂).satisfies c₁ = true ∧
        (c₁ + c₂).satisfies c₂ = true := by
  intro hall
  have hself : exactDefault.satisfies exactDefault = false := by decide
  have htrue := (hall exactDefault exactDefault exactDefault).1
  rw [hself] at htrue
  cases htrue

end CriteriaOver

end LocationService
