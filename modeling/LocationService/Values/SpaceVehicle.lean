import Mathlib.Data.List.Basic

/-!
# Quantities and space vehicles

The values that providers report about satellites.  A C++ `double` is Lean's
`Float` and a `float` its `Float32`; both are IEEE formats with one NaN.

`SpaceVehicle` has two equalities.  Equality of the structure compares every
field; `SpaceVehicle.operatorEq` is the comparison that the source writes by
hand, which leaves out `snr` and compares the angles approximately.
-/

namespace LocationService

/-- The units of the quantities in this development. -/
inductive UnitOfMeasure where
  | planeAngle
  | length
  | velocity
  deriving DecidableEq, Repr

/-- `units::Quantity`: a `double` in a fixed unit. -/
structure Quantity (u : UnitOfMeasure) where
  value : Float
  deriving DecidableEq

/-- `std::numeric_limits<double>::epsilon()`, which is `2⁻⁵²`. -/
def epsilon : Float := 1 / 4503599627370496

/-- `units::roughly_equals` -/
def roughlyEquals {u : UnitOfMeasure} (lhs rhs : Quantity u) : Bool :=
  (lhs.value - rhs.value).abs ≤ epsilon

namespace SpaceVehicle

/-- `SpaceVehicle::Type`, an enumeration over `int`.  The codec casts received
numbers to it, so there are values without a name. -/
structure PositioningSystem where
  underlying : Int32
  deriving DecidableEq

namespace PositioningSystem

def unknown : PositioningSystem := ⟨0⟩
def beidou : PositioningSystem := ⟨1⟩
def galileo : PositioningSystem := ⟨2⟩
def glonass : PositioningSystem := ⟨3⟩
def gps : PositioningSystem := ⟨4⟩
def compass : PositioningSystem := ⟨5⟩
def irnss : PositioningSystem := ⟨6⟩
def qzss : PositioningSystem := ⟨7⟩

end PositioningSystem

/-- `SpaceVehicle::Key` -/
structure Key where
  type : PositioningSystem := .unknown
  id : UInt32 := 0
  deriving DecidableEq

namespace Key

/-- The order of `SpaceVehicle::Key::operator<`: by system, then by id. -/
def order (lhs rhs : Key) : Ordering :=
  (compare lhs.type.underlying rhs.type.underlying).then
    (compare lhs.id rhs.id)

instance : Ord Key := ⟨order⟩

/-- `SpaceVehicle::Key::operator<` -/
instance : LT Key := ⟨fun lhs rhs => order lhs rhs = .lt⟩

instance (lhs rhs : Key) : Decidable (lhs < rhs) :=
  inferInstanceAs (Decidable (order lhs rhs = .lt))

instance : Std.TransOrd Key :=
  inferInstanceAs (Std.TransCmp (compareLex
    (compareOn fun k : Key => k.type.underlying) (compareOn Key.id)))

instance : Std.LawfulEqOrd Key where
  eq_of_compare {lhs rhs} h := by
    have hparts := Ordering.then_eq_eq.mp h
    have htype := Std.LawfulEqOrd.eq_of_compare hparts.1
    have hid := Std.LawfulEqOrd.eq_of_compare hparts.2
    rcases lhs with ⟨⟨type⟩, id⟩
    rcases rhs with ⟨⟨type'⟩, id'⟩
    simp_all

theorem ne_of_lt {lhs rhs : Key} (h : lhs < rhs) : lhs ≠ rhs := by
  intro heq
  have hself : compare rhs rhs = .lt := heq ▸ h
  simp at hself

end Key

end SpaceVehicle

open SpaceVehicle

/-- `SpaceVehicle`, with the defaults of its members. -/
structure SpaceVehicle where
  key : Key := {}
  snr : Float32 := .ofBits 0xFF7FFFFF
  hasAlmanacData : Bool := false
  hasEphimerisData : Bool := false
  usedInFix : Bool := false
  azimuth : Quantity .planeAngle := ⟨0⟩
  elevation : Quantity .planeAngle := ⟨0⟩
  deriving DecidableEq

/-- `SpaceVehicle::operator==` -/
def SpaceVehicle.operatorEq (lhs rhs : SpaceVehicle) : Bool :=
  lhs.key = rhs.key &&
    lhs.hasAlmanacData = rhs.hasAlmanacData &&
    lhs.hasEphimerisData = rhs.hasEphimerisData &&
    lhs.usedInFix = rhs.usedInFix &&
    roughlyEquals lhs.azimuth rhs.azimuth &&
    roughlyEquals lhs.elevation rhs.elevation

/-- `std::map<SpaceVehicle::Key, SpaceVehicle>` -/
abbrev SpaceVehicleMap := Std.ExtTreeMap Key SpaceVehicle

/-- `std::map::operator==`: as many entries, pairwise equal in key order. -/
def SpaceVehicleMap.operatorEq (lhs rhs : SpaceVehicleMap) : Bool :=
  lhs.size = rhs.size &&
    (lhs.toList.zip rhs.toList).all fun (l, r) =>
      l.1 = r.1 && l.2.operatorEq r.2

/-- `std::set<SpaceVehicle>`, which is ordered by the keys of its elements. -/
structure SpaceVehicleSet where
  vehicles : List SpaceVehicle
  ordered : vehicles.Pairwise fun lhs rhs => lhs.key < rhs.key

namespace SpaceVehicleSet

/-- The element with a given key. -/
def find? (svs : SpaceVehicleSet) (k : Key) : Option SpaceVehicle :=
  svs.vehicles.find? fun sv => sv.key = k

theorem key_of_find? {svs : SpaceVehicleSet} {k : Key} {sv : SpaceVehicle}
    (h : svs.find? k = some sv) : sv.key = k := by
  have hfound := List.find?_some h
  simpa using hfound

end SpaceVehicleSet

end LocationService
