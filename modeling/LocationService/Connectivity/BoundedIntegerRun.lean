import Mathlib.Data.Rat.Floor
import Mathlib.Tactic.NormNum
import Mathlib.Tactic.Ring
import LocationService.Connectivity.BoundedInteger
import LocationService.Library.Machine
import LocationService.Library.Scaling

/-!
# The life of bounded integers

An instance of `BoundedInteger<Tag, min, max, inv>` is meant to hold a value in
range, or `inv` if nothing is known.  But the default constructor stores
`min - 1`, which is `inv` only for types that leave the last argument out.  The
details of radio cells do not.

The main result says for every instantiation which operations keep all
instances in range or exactly invalid.  Signed arithmetic that overflows is
undefined, which happens to `range` if the bounds are too far apart.
-/

namespace LocationService

open LocationService.Library

/-- `std::numeric_limits<int>::min()` -/
def intMin : Int := -2147483648

/-- The result of an operation on `int`, unless it is undefined. -/
def asInt (value : Int) : Option Int :=
  if intMin ≤ value ∧ value ≤ intMax then some value else none

/-- An instantiation of `BoundedInteger`, with arguments that the template
accepts. -/
structure Instantiation extends Bounds where
  /-- `static_assert(min < max)` -/
  min_lt_max : min < max
  min_isInt : intMin ≤ min
  max_isInt : max ≤ intMax
  inv_isInt : intMin ≤ inv ∧ inv ≤ intMax

namespace Bounds

/-- The default constructor. -/
def constructDefault (b : Bounds) : Option Int := asInt (b.min - 1)

/-- The text of the exceptions. -/
def isNotIn (b : Bounds) (value : Int) : String :=
  toString value ++ " is not in " ++ "[" ++ toString b.min ++ ", " ++
    toString b.max ++ "]"

/-- The explicit constructor. -/
def construct (b : Bounds) (value : Int) : Except String Int :=
  if value < b.min ∨ value > b.max then .error (b.isNotIn value) else .ok value

/-- `BoundedInteger::range` -/
def range (b : Bounds) : Option Int := asInt (b.max - b.min)

/-- `BoundedInteger::from_percent`, over exact numbers. -/
def fromPercentExact (b : Bounds) (percent : Rat) :
    Option (Except String Int) := do
  -- Capping to [0,1]
  let percent := cap percent
  let range ← b.range
  let value ← asInt (truncate (b.min + percent * range))
  return b.construct value

/-- `BoundedInteger::set`, on the value of an instance. -/
def setValue (b : Bounds) (newValue : Int) : ExceptT String (StateM Int) Unit :=
  do
    if newValue < b.min ∨ newValue > b.max then
      throw (b.isNotIn newValue)
    modify fun _ => newValue

end Bounds

/-! ## What the members compute -/

theorem asInt_of_mem {value : Int} (hmin : intMin ≤ value)
    (hmax : value ≤ intMax) : asInt value = some value :=
  if_pos ⟨hmin, hmax⟩

theorem asInt_eq_some_iff {value v : Int} :
    asInt value = some v ↔ (intMin ≤ value ∧ value ≤ intMax) ∧ value = v := by
  unfold asInt
  split <;> simp [*]

namespace Bounds

theorem isValid_iff (b : Bounds) (value : Int) :
    b.isValid value = true ↔ b.min ≤ value ∧ value ≤ b.max := by
  simp [isValid]

theorem construct_eq (b : Bounds) (value : Int) :
    b.construct value =
      if b.isValid value then .ok value else .error (b.isNotIn value) := by
  unfold construct isValid
  by_cases h : value < b.min ∨ value > b.max
  · have hnot : ¬ (b.min ≤ value ∧ value ≤ b.max) := by omega
    simp [h, hnot]
  · have hin : b.min ≤ value ∧ value ≤ b.max := by omega
    simp [h, hin]

/-- The constructor takes what `set` takes. -/
theorem toOption_construct (b : Bounds) (value : Int) :
    (b.construct value).toOption = b.set value := by
  rw [construct_eq, set_eq]
  split <;> rfl

/-- A `set` that throws has not assigned yet. -/
theorem run_setValue (b : Bounds) (newValue value : Int) :
    (b.setValue newValue).run.run value =
      if b.isValid newValue then (.ok (), newValue)
      else (.error (b.isNotIn newValue), value) := by
  unfold setValue isValid
  by_cases h : newValue < b.min ∨ newValue > b.max
  · have hnot : ¬ (b.min ≤ newValue ∧ newValue ≤ b.max) := by omega
    simp [h, hnot]
    rfl
  · have hin : b.min ≤ newValue ∧ newValue ≤ b.max := by omega
    simp [h, hin]
    rfl

end Bounds

namespace Instantiation

variable (b : Instantiation)

theorem constructDefault_eq_some_iff {v : Int} :
    b.constructDefault = some v ↔ intMin < b.min ∧ b.min - 1 = v := by
  have hlt := b.min_lt_max
  have hmax := b.max_isInt
  unfold Bounds.constructDefault
  rw [asInt_eq_some_iff]
  constructor
  · intro h
    exact ⟨by omega, h.2⟩
  · intro h
    exact ⟨⟨by omega, by omega⟩, h.2⟩

/-- The difference of the bounds may be too large for an `int`. -/
theorem range_eq :
    b.range =
      if b.max - b.min ≤ intMax then some (b.max - b.min) else none := by
  have hlt := b.min_lt_max
  have hpos : intMin ≤ b.max - b.min := by
    unfold intMin
    omega
  unfold Bounds.range asInt
  simp only [hpos, true_and]

/-- The value of a fresh instance is out of range. -/
theorem isValid_unset : b.isValid (b.min - 1) = false := by
  rw [Bool.eq_false_iff, Ne, b.isValid_iff]
  omega

theorem isValid_scale (percent : Rat) :
    b.isValid (scale b.min b.max percent) = true :=
  (b.isValid_iff _).mpr (scale_mem b.min_lt_max.le percent)

/-- Wherever it is defined, `from_percent` scales to the range and does not
throw. -/
theorem fromPercentExact_eq (percent : Rat) :
    b.fromPercentExact percent =
      if b.max - b.min ≤ intMax then
        some (.ok (scale b.min b.max percent))
      else none := by
  unfold Bounds.fromPercentExact
  rw [range_eq]
  split
  · have hmem := scale_mem b.min_lt_max.le percent
    have hmin := b.min_isInt
    have hmax := b.max_isInt
    have hint : asInt (scale b.min b.max percent) =
        some (scale b.min b.max percent) :=
      asInt_of_mem (by omega) (by omega)
    show (asInt (scale b.min b.max percent)).bind
      (fun value => some (b.construct value)) = _
    rw [hint, Option.bind_some, Bounds.construct_eq,
      if_pos (b.isValid_scale percent)]
  · rfl

end Instantiation

/-- A strength in percent, scaled exactly. -/
theorem scale_percent (value : Int) :
    scale 0 31 ((value : Rat) / 100) = 31 * min 100 (max 0 value) / 100 := by
  have hcap : cap ((value : Rat) / 100) =
      ((min 100 (max 0 value) : Int) : Rat) / 100 := by
    rw [cap_div (by norm_num)]
    push_cast
    rfl
  have hterm : ((0 : Int) : Rat) + cap ((value : Rat) / 100) *
        ((31 - 0 : Int) : Rat) =
      ((31 * min 100 (max 0 value) : Int) : Rat) / ((100 : Nat) : Rat) := by
    rw [hcap]
    push_cast
    ring
  have hnonneg : (0 : Rat) ≤
      ((31 * min 100 (max 0 value) : Int) : Rat) / ((100 : Nat) : Rat) := by
    apply div_nonneg _ (Nat.cast_nonneg _)
    exact Int.cast_nonneg (by omega)
  rw [scale, hterm, truncate, if_pos hnonneg, Rat.floor_intCast_div_natCast]
  rfl

/-- `RadioCell::Gsm::SignalStrength` and the same of the other two. -/
def strengthInstantiation : Instantiation :=
  ⟨strengthBounds, by decide, by decide, by decide, by decide⟩

/-- For the strengths that are reported, exact numbers give what `float`
gives. -/
theorem fromPercentExact_strength (value : Int8) :
    strengthBounds.fromPercentExact ((value.toInt : Rat) / 100) =
      some (.ok (strengthBounds.fromPercent value)) := by
  have hexact :=
    strengthInstantiation.fromPercentExact_eq ((value.toInt : Rat) / 100)
  rw [if_pos (by decide)] at hexact
  rw [fromPercent_eq, ← scale_percent]
  exact hexact

/-! ## Instances -/

/-- The instances of one type by their address, each with the value it
holds. -/
abbrev Instances := Nat → Option Int

namespace Instances

/-- An instance is constructed. -/
def place (x : Nat) (value : Int) (s : Instances) : Instances :=
  Function.update s x (some value)

/-- The result of a constructor that may throw. -/
def build (x : Nat) (result : Except String Int) (s : Instances) : Instances :=
  match result with
  | .ok value => s.place x value
  | .error _ => s

/-- An instance, if it exists, is changed. -/
def change (x : Nat) (f : Int → Int) (s : Instances) : Instances :=
  match s x with
  | some value => s.place x (f value)
  | none => s

end Instances

/-- What can be done with instances. -/
inductive InstanceOperation where
  | constructDefault (x : Nat)
  | construct (x : Nat) (value : Int)
  /-- `from_percent` constructs its result. -/
  | fromPercent (x : Nat) (percent : Rat)
  | set (x : Nat) (newValue : Int)
  | reset (x : Nat)
  /-- A copy of `y` is constructed. -/
  | copy (x y : Nat)
  /-- `y` is assigned to `x`. -/
  | assign (x y : Nat)

namespace Instances

/-- What an operation does, unless it is undefined. -/
def next (b : Bounds) (op : InstanceOperation) (s : Instances) :
    Option Instances :=
  match op with
  | .constructDefault x => b.constructDefault.map fun value => s.place x value
  | .construct x value => some (s.build x (b.construct value))
  | .fromPercent x percent => (b.fromPercentExact percent).map (s.build x)
  | .set x newValue =>
      some (s.change x fun value => ((b.setValue newValue).run.run value).2)
  | .reset x => some (s.change x fun _ => b.inv)
  | .copy x y => some ((s y).elim s fun value => s.place x value)
  | .assign x y => some ((s y).elim s fun value => s.change x fun _ => value)

/-- The instances of a type, before any is constructed. -/
def machine (b : Bounds) : Machine Instances InstanceOperation where
  initial s := s = fun _ => none
  step op s t := next b op s = some t

abbrev Reachable (b : Bounds)
    (guard : InstanceOperation → Instances → Prop) (s : Instances) : Prop :=
  (machine b).Reach guard s

end Instances

/-- A value in range, or exactly the invalid one. -/
def Bounds.Held (b : Bounds) (value : Int) : Prop :=
  b.isValid value = true ∨ value = b.inv

instance (b : Bounds) (value : Int) : Decidable (b.Held value) :=
  inferInstanceAs (Decidable (_ ∨ _))

/-- All instances hold such a value. -/
def Instances.AllHeld (b : Bounds) (s : Instances) : Prop :=
  ∀ x value, s x = some value → b.Held value

/-- Instances are constructed by default only if that stores the invalid value,
and from a fraction only if the length of the range is an `int`. -/
def Bounds.Meets (b : Bounds) (op : InstanceOperation) : Prop :=
  match op with
  | .constructDefault _ => b.inv = b.min - 1
  | .fromPercent _ _ => b.max - b.min ≤ intMax
  | _ => True

namespace Instances.AllHeld

variable {b : Bounds} {s : Instances}

theorem place_iff (h : s.AllHeld b) (x : Nat) (value : Int) :
    (s.place x value).AllHeld b ↔ b.Held value := by
  constructor
  · intro hplaced
    exact hplaced x value (Function.update_self x _ s)
  · intro hvalue y v hv
    unfold Instances.place at hv
    by_cases hy : y = x
    · rw [hy, Function.update_self] at hv
      exact Option.some.inj hv ▸ hvalue
    · rw [Function.update_of_ne hy] at hv
      exact h y v hv

theorem change (h : s.AllHeld b) (x : Nat) {f : Int → Int}
    (hf : ∀ value, b.Held value → b.Held (f value)) :
    (s.change x f).AllHeld b := by
  unfold Instances.change
  cases hx : s x with
  | none => exact h
  | some value => exact (h.place_iff x (f value)).mpr (hf value (h x value hx))

theorem construct (h : s.AllHeld b) (x : Nat) (value : Int) :
    (s.build x (b.construct value)).AllHeld b := by
  rw [Bounds.construct_eq]
  by_cases hvalid : b.isValid value = true
  · rw [if_pos hvalid]
    exact (h.place_iff x value).mpr (.inl hvalid)
  · rw [if_neg hvalid]
    exact h

end Instances.AllHeld

/-- The value is the new one, if that is in range, and otherwise the old
one. -/
theorem Bounds.Held.setValue {b : Bounds} {value : Int} (h : b.Held value)
    (newValue : Int) : b.Held ((b.setValue newValue).run.run value).2 := by
  rw [Bounds.run_setValue]
  by_cases hvalid : b.isValid newValue = true
  · rw [if_pos hvalid]
    exact .inl hvalid
  · rw [if_neg hvalid]
    exact h

namespace Instantiation

variable (b : Instantiation) {s : Instances}

theorem allHeld_constructDefault_iff (h : s.AllHeld b.toBounds) (x : Nat) :
    (∃ t, Instances.next b.toBounds (.constructDefault x) s = some t ∧
      t.AllHeld b.toBounds) ↔ b.inv = b.min - 1 := by
  constructor
  · rintro ⟨t, ht, hheld⟩
    obtain ⟨v, hv, rfl⟩ := Option.map_eq_some_iff.mp ht
    obtain ⟨-, rfl⟩ := b.constructDefault_eq_some_iff.mp hv
    have hvalue := (h.place_iff x _).mp hheld
    rw [Bounds.Held, b.isValid_unset] at hvalue
    cases hvalue with
    | inl hfalse => cases hfalse
    | inr hinv => exact hinv.symm
  · intro hinv
    have hint := b.inv_isInt
    have hdefault : b.constructDefault = some (b.min - 1) :=
      b.constructDefault_eq_some_iff.mpr ⟨by omega, rfl⟩
    refine ⟨s.place x (b.min - 1), ?_, ?_⟩
    · simp only [Instances.next, hdefault, Option.map_some]
    · exact (h.place_iff x _).mpr (.inr hinv.symm)

theorem allHeld_fromPercent_iff (h : s.AllHeld b.toBounds) (x : Nat)
    (percent : Rat) :
    (∃ t, Instances.next b.toBounds (.fromPercent x percent) s = some t ∧
      t.AllHeld b.toBounds) ↔ b.max - b.min ≤ intMax := by
  simp only [Instances.next, fromPercentExact_eq]
  by_cases hrange : b.max - b.min ≤ intMax
  · rw [if_pos hrange]
    apply iff_of_true _ hrange
    exact ⟨_, rfl, (h.place_iff x _).mpr (.inl (b.isValid_scale percent))⟩
  · rw [if_neg hrange]
    apply iff_of_false _ hrange
    rintro ⟨t, ht, -⟩
    cases ht

/-- An operation is defined and leaves every instance in range or exactly
invalid if and only if it meets the condition. -/
theorem allHeld_next_iff (h : s.AllHeld b.toBounds)
    (op : InstanceOperation) :
    (∃ t, Instances.next b.toBounds op s = some t ∧ t.AllHeld b.toBounds) ↔
      b.Meets op := by
  cases op with
  | constructDefault x => exact b.allHeld_constructDefault_iff h x
  | fromPercent x percent => exact b.allHeld_fromPercent_iff h x percent
  | construct x value =>
      exact iff_of_true ⟨_, rfl, h.construct x value⟩ trivial
  | set x newValue =>
      exact iff_of_true
        ⟨_, rfl, h.change x fun _ hvalue => hvalue.setValue newValue⟩ trivial
  | reset x =>
      exact iff_of_true ⟨_, rfl, h.change x fun _ _ => .inr rfl⟩ trivial
  | copy x y =>
      apply iff_of_true _ trivial
      refine ⟨_, rfl, ?_⟩
      cases hy : s y with
      | none => exact h
      | some value => exact (h.place_iff x value).mpr (h y value hy)
  | assign x y =>
      apply iff_of_true _ trivial
      refine ⟨_, rfl, ?_⟩
      cases hy : s y with
      | none => exact h
      | some value => exact h.change x fun _ _ => h y value hy

/-- In a run whose operations meet the condition all instances are in range or
exactly invalid. -/
theorem allHeld_of_reachable
    (h : Instances.Reachable b.toBounds (fun op _ => b.Meets op) s) :
    s.AllHeld b.toBounds := by
  apply h.invariant
  · rintro s rfl x value hvalue
    cases hvalue
  · intro op s t hheld hmeets hstep
    obtain ⟨t', ht', hheld'⟩ := (b.allHeld_next_iff hheld op).mpr hmeets
    obtain rfl : t' = t := Option.some.inj (ht'.symm.trans hstep)
    exact hheld'

end Instantiation

/-! ## What the class promises -/

/-- `from_percent` returns, is monotone and maps the ends of the unit interval
to those of the range. -/
structure Bounds.FromPercentLaw (b : Bounds) : Prop where
  returns : ∀ percent, ∃ value, b.fromPercentExact percent = some (.ok value)
  mono : ∀ percent percent' value value', percent ≤ percent' →
    b.fromPercentExact percent = some (.ok value) →
    b.fromPercentExact percent' = some (.ok value') → value ≤ value'
  zero : b.fromPercentExact 0 = some (.ok b.min)
  one : b.fromPercentExact 1 = some (.ok b.max)

/-- Whatever is done with its instances, a type behaves as it promises. -/
structure Bounds.Lawful (b : Bounds) : Prop where
  defined : ∀ s, Instances.Reachable b (fun _ _ => True) s →
    ∀ op, (Instances.next b op s).isSome = true
  held : ∀ s, Instances.Reachable b (fun _ _ => True) s → s.AllHeld b
  fromPercent : b.FromPercentLaw
  /-- A `set` that throws leaves the value unchanged. -/
  set : ∀ newValue value text after,
    (b.setValue newValue).run.run value = (.error text, after) → after = value

namespace Instantiation

variable (b : Instantiation)

theorem fromPercentLaw_iff : b.FromPercentLaw ↔ b.max - b.min ≤ intMax := by
  constructor
  · intro h
    have hzero := h.zero
    rw [fromPercentExact_eq] at hzero
    by_contra hrange
    rw [if_neg hrange] at hzero
    cases hzero
  · intro hrange
    have heq : ∀ percent, b.fromPercentExact percent =
        some (.ok (scale b.min b.max percent)) := by
      intro percent
      rw [fromPercentExact_eq, if_pos hrange]
    exact {
      returns := fun percent => ⟨_, heq percent⟩
      mono := by
        intro percent percent' value value' hle hvalue hvalue'
        rw [heq] at hvalue hvalue'
        cases hvalue
        cases hvalue'
        exact scale_mono b.min_lt_max.le hle
      zero := by rw [heq, scale_zero]
      one := by rw [heq, scale_one] }

theorem setValue_throws {newValue value after : Int} {text : String}
    (h : (b.setValue newValue).run.run value = (.error text, after)) :
    after = value := by
  rw [Bounds.run_setValue] at h
  by_cases hvalid : b.isValid newValue = true
  · rw [if_pos hvalid] at h
    cases h
  · rw [if_neg hvalid] at h
    exact (Prod.mk.inj h).2.symm

theorem lawful_iff :
    b.Lawful ↔ b.inv = b.min - 1 ∧ b.max - b.min ≤ intMax := by
  constructor
  · intro h
    have hinit : Instances.Reachable b.toBounds (fun _ _ => True)
        fun _ => none := .initial rfl
    obtain ⟨t, ht⟩ := Option.isSome_iff_exists.mp
      (h.defined _ hinit (.constructDefault 0))
    have hheld := h.held t (hinit.step _ trivial ht)
    have hdefault := (b.allHeld_constructDefault_iff (h.held _ hinit) 0).mp
      ⟨t, ht, hheld⟩
    exact ⟨hdefault, b.fromPercentLaw_iff.mp h.fromPercent⟩
  · rintro ⟨hinv, hrange⟩
    have hmeets : ∀ op, b.Meets op := by
      intro op
      cases op with
      | constructDefault x => exact hinv
      | fromPercent x percent => exact hrange
      | _ => trivial
    have hheld : ∀ s, Instances.Reachable b.toBounds (fun _ _ => True) s →
        s.AllHeld b.toBounds := fun s hs =>
      b.allHeld_of_reachable (hs.mono fun op _ _ => hmeets op)
    exact {
      defined := by
        intro s hs op
        obtain ⟨t, ht, -⟩ :=
          (b.allHeld_next_iff (hheld s hs) op).mpr (hmeets op)
        rw [ht]
        rfl
      held := hheld
      fromPercent := b.fromPercentLaw_iff.mpr hrange
      set := fun _ _ _ _ => b.setValue_throws }

/-- A type behaves as it promises exactly if its invalid value is `min - 1` and
the length of its range is an `int`; the latter is all that `from_percent`
needs.  For any type, the runs that keep all instances in range or exactly
invalid are those that construct no instance by default unless the invalid
value is `min - 1`, and none from a fraction unless the length of the range is
an `int`. -/
theorem holds_valid_or_invalid :
    (b.Lawful ↔ b.inv = b.min - 1 ∧ b.max - b.min ≤ intMax) ∧
      (b.FromPercentLaw ↔ b.max - b.min ≤ intMax) ∧
      ∀ s, Instances.Reachable b.toBounds (fun op _ => b.Meets op) s →
        s.AllHeld b.toBounds ∧
          ∀ op, (∃ t, Instances.next b.toBounds op s = some t ∧
            t.AllHeld b.toBounds) ↔ b.Meets op := by
  refine ⟨b.lawful_iff, b.fromPercentLaw_iff, ?_⟩
  intro s hs
  have hheld := b.allHeld_of_reachable hs
  exact ⟨hheld, b.allHeld_next_iff hheld⟩

end Instantiation

/-! ## What an instance says -/

/-- `BoundedInteger::operator==` -/
def operatorEq (lhs rhs : Int) : Bool := lhs == rhs

/-- What a value says to those who ask `is_valid` first. -/
def Bounds.reading (b : Bounds) (value : Int) : Option Int :=
  if b.isValid value then some value else none

theorem Bounds.reading_of_valid {b : Bounds} {value : Int}
    (h : b.isValid value = true) : b.reading value = some value :=
  if_pos h

theorem Bounds.reading_of_invalid {b : Bounds} {value : Int}
    (h : b.isValid value = false) : b.reading value = none := by
  simp [reading, h]

/-- Values that are in range or exactly invalid are equal if they say the
same. -/
theorem Bounds.Held.operatorEq_iff {b : Bounds} {lhs rhs : Int}
    (hl : b.Held lhs) (hr : b.Held rhs) :
    operatorEq lhs rhs = true ↔ b.reading lhs = b.reading rhs := by
  unfold operatorEq
  rw [beq_iff_eq]
  constructor
  · intro h
    rw [h]
  · intro h
    cases hlvalid : b.isValid lhs with
    | true =>
        cases hrvalid : b.isValid rhs with
        | true =>
            rw [reading_of_valid hlvalid, reading_of_valid hrvalid] at h
            exact Option.some.inj h
        | false =>
            rw [reading_of_valid hlvalid, reading_of_invalid hrvalid] at h
            cases h
    | false =>
        cases hrvalid : b.isValid rhs with
        | true =>
            rw [reading_of_invalid hlvalid, reading_of_valid hrvalid] at h
            cases h
        | false =>
            rw [Held, hlvalid] at hl
            rw [Held, hrvalid] at hr
            have hlinv : lhs = b.inv := by simpa using hl
            have hrinv : rhs = b.inv := by simpa using hr
            rw [hlinv, hrinv]

/-- The instances of a type, each with a number in range or with nothing. -/
abbrev Readings := Nat → Option (Option Int)

namespace Readings

def place (x : Nat) (r : Option Int) (s : Readings) : Readings :=
  Function.update s x (some r)

def change (x : Nat) (r : Option Int) (s : Readings) : Readings :=
  if (s x).isSome then s.place x r else s

/-- What the operations are for. -/
def next (b : Bounds) (op : InstanceOperation) (s : Readings) : Readings :=
  match op with
  | .constructDefault x => s.place x none
  | .construct x value =>
      if b.isValid value then s.place x (some value) else s
  | .fromPercent x percent => s.place x (some (scale b.min b.max percent))
  | .set x newValue =>
      if b.isValid newValue then s.change x (some newValue) else s
  | .reset x => s.change x none
  | .copy x y => (s y).elim s fun r => s.place x r
  | .assign x y => (s y).elim s fun r => s.change x r

end Readings

namespace Instances

variable {b : Bounds}

/-- What all instances say. -/
def read (b : Bounds) (s : Instances) : Readings :=
  fun x => (s x).map b.reading

theorem read_place (x : Nat) (value : Int) (s : Instances) :
    (s.place x value).read b = (s.read b).place x (b.reading value) := by
  funext y
  unfold read place Readings.place
  by_cases hy : y = x
  · simp [hy]
  · simp [hy]

theorem read_change (x : Nat) {f : Int → Int} {r : Option Int}
    (hf : ∀ value, b.reading (f value) = r) (s : Instances) :
    (s.change x f).read b = (s.read b).change x r := by
  unfold change Readings.change
  cases hx : s x with
  | none => simp [read, hx]
  | some value =>
      rw [read_place, hf]
      simp [read, hx]

theorem change_self (x : Nat) {f : Int → Int} (hf : ∀ value, f value = value)
    (s : Instances) : s.change x f = s := by
  unfold change
  cases hx : s x with
  | none => rfl
  | some value => exact Function.update_eq_self_iff.mpr (by rw [hf, hx])

end Instances

namespace Instantiation

variable (b : Instantiation) {s t : Instances}

/-- Read through `is_valid`, the instances of every type are optional numbers
in range. -/
theorem read_next (hinv : b.isValid b.inv = false) {op : InstanceOperation}
    (h : Instances.next b.toBounds op s = some t) :
    t.read b.toBounds = Readings.next b.toBounds op (s.read b.toBounds) := by
  cases op with
  | constructDefault x =>
      obtain ⟨v, hv, rfl⟩ := Option.map_eq_some_iff.mp h
      obtain ⟨-, rfl⟩ := b.constructDefault_eq_some_iff.mp hv
      rw [Instances.read_place, Bounds.reading_of_invalid b.isValid_unset]
      rfl
  | construct x value =>
      obtain rfl := Option.some.inj h
      simp only [Readings.next, Bounds.construct_eq]
      by_cases hvalid : b.isValid value = true
      · rw [if_pos hvalid, if_pos hvalid, ← Bounds.reading_of_valid hvalid]
        exact Instances.read_place x value s
      · rw [if_neg hvalid, if_neg hvalid]
        rfl
  | fromPercent x percent =>
      simp only [Instances.next, fromPercentExact_eq] at h
      by_cases hrange : b.max - b.min ≤ intMax
      · rw [if_pos hrange, Option.map_some] at h
        obtain rfl := Option.some.inj h
        simp only [Readings.next]
        rw [← Bounds.reading_of_valid (b.isValid_scale percent)]
        exact Instances.read_place x _ s
      · rw [if_neg hrange] at h
        cases h
  | set x newValue =>
      obtain rfl := Option.some.inj h
      simp only [Readings.next, Bounds.run_setValue]
      by_cases hvalid : b.isValid newValue = true
      · simp only [hvalid, if_true]
        exact Instances.read_change x
          (fun _ => Bounds.reading_of_valid hvalid) s
      · rw [if_neg hvalid]
        simp only [if_neg hvalid]
        rw [Instances.change_self x (fun _ => rfl)]
  | reset x =>
      obtain rfl := Option.some.inj h
      exact Instances.read_change x (fun _ => Bounds.reading_of_invalid hinv) s
  | copy x y =>
      obtain rfl := Option.some.inj h
      cases hy : s y with
      | none => simp [Readings.next, Instances.read, hy]
      | some value =>
          simp only [Readings.next, Instances.read, hy, Option.map_some,
            Option.elim_some]
          exact Instances.read_place x value s
  | assign x y =>
      obtain rfl := Option.some.inj h
      cases hy : s y with
      | none => simp [Readings.next, Instances.read, hy]
      | some value =>
          simp only [Readings.next, Instances.read, hy, Option.map_some,
            Option.elim_some]
          exact Instances.read_change x (fun _ => rfl) s

/-- So whole runs are runs of optional numbers, even where the instances hold
two kinds of invalid values. -/
theorem read_of_reachable (hinv : b.isValid b.inv = false)
    (h : Instances.Reachable b.toBounds (fun _ _ => True) s) :
    (Machine.ofStep (fun _ => none) (Readings.next b.toBounds)).Reach
      (fun _ _ => True) (s.read b.toBounds) := by
  apply h.map (Instances.read b.toBounds) id
  · rintro s rfl
    rfl
  · exact fun _ _ _ => trivial
  · intro op s t hst
    exact b.read_next hinv hst

end Instantiation

/-! ## The types of the source -/

/-- The arguments of all types that describe radio cells. -/
def radioCellBounds : List Bounds :=
  [mccBounds, mncBounds, areaCodeBounds, gsmIdBounds, umtsIdBounds,
    physicalIdBounds, strengthBounds]

/-- Bounds without a last argument. -/
def Bounds.ofRange (min max : Int) : Bounds := ⟨min, max, min - 1⟩

/-- `WirelessNetwork::Frequency` -/
def frequencyBounds : Bounds := .ofRange 2412 5825

/-- `WirelessNetwork::SignalStrength` -/
def signalStrengthBounds : Bounds := .ofRange 0 100

/-- No radio cell starts out with the value that its documentation gives to
what is unknown. -/
theorem unset_radioCell_not_held :
    ∀ b ∈ radioCellBounds, b.constructDefault = some b.unset ∧
      ¬ b.Held b.unset := by
  decide

/-- Wireless networks do. -/
theorem wirelessNetwork_lawful :
    frequencyBounds.Lawful ∧ signalStrengthBounds.Lawful := by
  let frequency : Instantiation := ⟨frequencyBounds, by decide, by decide,
    by decide, by decide⟩
  let signalStrength : Instantiation := ⟨signalStrengthBounds, by decide,
    by decide, by decide, by decide⟩
  exact ⟨frequency.lawful_iff.mpr ⟨rfl, by decide⟩,
    signalStrength.lawful_iff.mpr ⟨rfl, by decide⟩⟩

/-- A fresh country code of a GSM cell is -1, and differs from one that was
reset. -/
theorem fresh_mcc_is_not_invalid :
    ∃ s, Instances.Reachable mccBounds (fun _ _ => True) s ∧
      s 0 = some (-1) ∧ s 1 = some intMax ∧ ¬ mccBounds.Held (-1) ∧
      operatorEq (-1) intMax = false := by
  have hinit : Instances.Reachable mccBounds (fun _ _ => True)
      fun _ => none := .initial rfl
  have hdefault : mccBounds.constructDefault = some (-1) := by decide
  have hstep : ∀ x s, Instances.next mccBounds (.constructDefault x) s =
      some (s.place x (-1)) := by
    intro x s
    simp only [Instances.next, hdefault, Option.map_some]
  have hfirst := hinit.step (InstanceOperation.constructDefault 0) trivial
    (hstep 0 _)
  have hsecond := hfirst.step (InstanceOperation.constructDefault 1) trivial
    (hstep 1 _)
  have hreset := hsecond.step (InstanceOperation.reset 1) trivial rfl
  exact ⟨_, hreset, rfl, rfl, by decide, by decide⟩

end LocationService
