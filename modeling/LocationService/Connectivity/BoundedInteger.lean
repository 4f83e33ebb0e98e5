import Mathlib.Logic.Function.Basic

/-!
# Bounded integers and the details of radio cells

`BoundedInteger<Tag, min, max, inv>` wraps an `int` that is meant to lie
between `min` and `max`.  The wrapped value may be outside: a reset stores
`inv`, and a fresh instance holds `min - 1`.

The details of a GSM, a UMTS and an LTE cell are kept in one union.  All their
fields are bounded integers, so the union is a row of six of them: the first
four have the same meaning in every member, the fifth is the strength of a GSM
or UMTS cell and the physical id of an LTE cell, and the sixth is the strength
of an LTE cell.
-/

namespace LocationService

/-- The template arguments of a `BoundedInteger`. -/
structure Bounds where
  min : Int
  max : Int
  inv : Int

namespace Bounds

/-- `BoundedInteger::is_valid` -/
def isValid (b : Bounds) (value : Int) : Bool := b.min ≤ value ∧ value ≤ b.max

/-- What the default constructor stores. -/
def unset (b : Bounds) : Int := b.min - 1

/-- `BoundedInteger::set` and the explicit constructor: `none` if they
throw. -/
def set (b : Bounds) (value : Int) : Option Int :=
  if value < b.min ∨ value > b.max then none else some value

/-- `BoundedInteger::from_percent(value / 100.f)`.  Of a value between 0 and
the range the conversion to `int` keeps the integral part. -/
def fromPercent (b : Bounds) (value : Int8) : Int :=
  let percent : Float32 := Float32.ofInt value.toInt / 100
  let percent : Float32 := if 0 < percent then percent else 0
  let percent : Float32 := if percent < 1 then percent else 1
  (Float32.ofInt b.min + percent * Float32.ofInt (b.max - b.min)
    ).toModel.toInt32.toInt

/-- A value is taken exactly if it is valid. -/
theorem set_eq (b : Bounds) (value : Int) :
    b.set value = if b.isValid value then some value else none := by
  unfold set isValid
  by_cases h : value < b.min ∨ value > b.max
  · have hnot : ¬ (b.min ≤ value ∧ value ≤ b.max) := by omega
    simp [h, hnot]
  · have hin : b.min ≤ value ∧ value ≤ b.max := by omega
    simp [h, hin]

end Bounds

/-- `std::numeric_limits<int>::max()` -/
def intMax : Int := 2147483647

/-- `MCC` of all three kinds of cells. -/
def mccBounds : Bounds := ⟨0, 999, intMax⟩

/-- `MNC` of all three kinds of cells. -/
def mncBounds : Bounds := ⟨0, 999, intMax⟩

/-- `Gsm::LAC`, `Umts::LAC` and `Lte::TAC` -/
def areaCodeBounds : Bounds := ⟨0, 65535, intMax⟩

/-- `Gsm::ID` -/
def gsmIdBounds : Bounds := ⟨0, 65535, intMax⟩

/-- `Umts::ID` and `Lte::ID` -/
def umtsIdBounds : Bounds := ⟨0, 268435455, intMax⟩

/-- `Lte::PID` -/
def physicalIdBounds : Bounds := ⟨0, 503, intMax⟩

/-- `SignalStrength` of all three kinds of cells. -/
def strengthBounds : Bounds := ⟨0, 31, 99⟩

private theorem fromPercent_eq_of_bits : ∀ bits : BitVec 8,
    strengthBounds.fromPercent (Int8.ofBitVec bits) =
      31 * min 100 (max 0 (Int8.ofBitVec bits).toInt) / 100 := by
  decide +kernel

/-- For the strengths that are reported, the arithmetic of `float` is exact
enough. -/
theorem fromPercent_eq (value : Int8) :
    strengthBounds.fromPercent value =
      31 * min 100 (max 0 value.toInt) / 100 :=
  fromPercent_eq_of_bits value.toBitVec

/-- A strength in percent is a valid strength, whatever is reported. -/
theorem fromPercent_valid (value : Int8) :
    strengthBounds.isValid (strengthBounds.fromPercent value) = true := by
  have hrange : 0 ≤ strengthBounds.fromPercent value ∧
      strengthBounds.fromPercent value ≤ 31 := by
    rw [fromPercent_eq]
    omega
  exact decide_eq_true hrange

/-- `RadioCell::Type` -/
inductive RadioType where
  | unknown
  | gsm
  | umts
  | lte
  deriving DecidableEq, Repr

/-- The bounds of the cell id. -/
def idBounds : RadioType → Bounds
  | .gsm => gsmIdBounds
  | _ => umtsIdBounds

/-- `CachedRadioCell::Detail`: the integers that the members of the union
share. -/
structure Detail where
  mobileCountryCode : Int
  mobileNetworkCode : Int
  areaCode : Int
  id : Int
  fifth : Int
  sixth : Int
  deriving DecidableEq

namespace Detail

/-- Where a kind of cell keeps its strength. -/
def withStrength (t : RadioType) (value : Int) (d : Detail) : Detail :=
  match t with
  | .unknown => d
  | .gsm => { d with fifth := value }
  | .umts => { d with fifth := value }
  | .lte => { d with sixth := value }

/-- `lte.physical_id` -/
def physicalId (d : Detail) : Int := d.fifth

/-- The first four fields of a kind of cell. -/
def isIdentityValid (t : RadioType) (d : Detail) : Bool :=
  mccBounds.isValid d.mobileCountryCode &&
    mncBounds.isValid d.mobileNetworkCode &&
    areaCodeBounds.isValid d.areaCode && (idBounds t).isValid d.id

/-- `CachedRadioCell::is_gsm_valid` -/
def isGsmValid (d : Detail) : Bool :=
  d.isIdentityValid .gsm && strengthBounds.isValid d.fifth

/-- `CachedRadioCell::is_umts_valid` -/
def isUmtsValid (d : Detail) : Bool :=
  d.isIdentityValid .umts && strengthBounds.isValid d.fifth

/-- `CachedRadioCell::is_lte_valid` -/
def isLteValid (d : Detail) : Bool :=
  d.isIdentityValid .lte && physicalIdBounds.isValid d.physicalId &&
    strengthBounds.isValid d.sixth

/-- What a change of technology does to the details: the codes are copied onto
themselves, and the id and the strength of the new kind of cell are reset. -/
def migrate (source target : RadioType) (d : Detail) : Detail :=
  match source with
  | .unknown => d
  | _ => { d with id := (idBounds target).inv }.withStrength target
      strengthBounds.inv

end Detail

end LocationService
