import LocationService.Values.SpaceVehicle

/-!
# Positions, criteria and updates

The values that clients and providers exchange.  A coordinate is checked by its
constructor, which throws for a latitude or longitude that is out of range; but
its value is a public member, so that a coordinate may hold any number.
-/

namespace LocationService

instance {u : UnitOfMeasure} : Inhabited (Quantity u) := ⟨⟨0⟩⟩

/-- `units::Quantity<units::Velocity>` -/
abbrev Velocity := Quantity .velocity

/-- `units::Quantity<units::PlaneAngle>` -/
abbrev Heading := Quantity .planeAngle

instance {u : UnitOfMeasure} : LT (Quantity u) := ⟨fun x y => x.value < y.value⟩

instance {u : UnitOfMeasure} : DecidableLT (Quantity u) := fun x y =>
  inferInstanceAs (Decidable (x.value < y.value))

instance {u : UnitOfMeasure} : LE (Quantity u) := ⟨fun x y => x.value ≤ y.value⟩

instance {u : UnitOfMeasure} : DecidableLE (Quantity u) := fun x y =>
  inferInstanceAs (Decidable (x.value ≤ y.value))

/-! ## Coordinates -/

/-- The tags of `wgs84::Coordinate`. -/
inductive CoordinateTag where
  | latitude
  | longitude
  | altitude
  deriving DecidableEq, Repr

/-- `Coordinate::Unit` -/
def CoordinateTag.unit : CoordinateTag → UnitOfMeasure
  | .latitude => .planeAngle
  | .longitude => .planeAngle
  | .altitude => .length

/-- `wgs84::Coordinate` -/
structure Coordinate (tag : CoordinateTag) where
  value : Quantity tag.unit := default
  deriving DecidableEq

instance {tag : CoordinateTag} : Inhabited (Coordinate tag) := ⟨{}⟩

abbrev Latitude := Coordinate .latitude
abbrev Longitude := Coordinate .longitude
abbrev Altitude := Coordinate .altitude

/-- `CoordinateTraits::check_and_throw_if_invalid` of a bounded coordinate. -/
def checkBounds (name : String) (min max : Float) {u : UnitOfMeasure}
    (coordinate : Quantity u) : Except String Unit :=
  if coordinate.value < min then
    .error (name ++ "(coordinate.value() < min())")
  else if coordinate.value > max then
    .error (name ++ "(coordinate.value() > max())")
  else .ok ()

/-- `CoordinateTraits::check_and_throw_if_invalid` -/
def checkAndThrowIfInvalid :
    (tag : CoordinateTag) → Quantity tag.unit → Except String Unit
  | .latitude => checkBounds "Latitude" (-90) 90
  | .longitude => checkBounds "Longitude" (-180) 180
  | .altitude => fun _ => .ok ()

/-- The constructor of `wgs84::Coordinate`. -/
def Coordinate.construct {tag : CoordinateTag} (value : Quantity tag.unit) :
    Except String (Coordinate tag) := do
  checkAndThrowIfInvalid tag value
  return ⟨value⟩

/-! ## Positions -/

/-- `Position::Accuracy` -/
structure Position.Accuracy where
  horizontal : Option (Quantity .length) := none
  vertical : Option (Quantity .length) := none
  deriving DecidableEq

/-- `Position` -/
structure Position where
  latitude : Latitude := default
  longitude : Longitude := default
  altitude : Option Altitude := none
  accuracy : Position.Accuracy := {}
  deriving DecidableEq

/-- `Update`, with its timestamp in nanoseconds since the epoch. -/
structure Update (α : Type) where
  value : α
  when : Int64
  deriving DecidableEq

/-- The constructor of `Update` without a timestamp, at a reading of the
clock. -/
def Update.ofValue {α : Type} (value : α) (now : Int64) : Update α :=
  ⟨value, now⟩

/-- The timestamp as a number. -/
def Update.nanoseconds {α : Type} (u : Update α) : Int := u.when.toInt

/-- A number of seconds, in nanoseconds. -/
def seconds (n : Int) : Int := n * 1000000000

/-- A number of minutes, in nanoseconds. -/
def minutes (n : Int) : Int := seconds (n * 60)

/-! ## Equality -/

/-- `operator==` of two optional values. -/
def optionalEq {α : Type} (eq : α → α → Bool) : Option α → Option α → Bool
  | none, none => true
  | some x, some y => eq x y
  | _, _ => false

/-- `operator==` of `boost::units::quantity` -/
def Quantity.operatorEq {u : UnitOfMeasure} (lhs rhs : Quantity u) : Bool :=
  lhs.value == rhs.value

/-- `Coordinate::operator==` -/
def Coordinate.operatorEq {tag : CoordinateTag} (lhs rhs : Coordinate tag) :
    Bool :=
  lhs.value.operatorEq rhs.value

/-- `Position::operator==` -/
def Position.operatorEq (lhs rhs : Position) : Bool :=
  lhs.latitude.operatorEq rhs.latitude &&
    lhs.longitude.operatorEq rhs.longitude &&
    optionalEq Coordinate.operatorEq lhs.altitude rhs.altitude &&
    optionalEq Quantity.operatorEq lhs.accuracy.horizontal
      rhs.accuracy.horizontal &&
    optionalEq Quantity.operatorEq lhs.accuracy.vertical rhs.accuracy.vertical

/-- `Update::operator==` -/
def Update.operatorEq {α : Type} (eq : α → α → Bool) (lhs rhs : Update α) :
    Bool :=
  eq lhs.value rhs.value && lhs.when == rhs.when

/-! ## Criteria -/

/-- `Criteria::Requires` -/
structure Criteria.Requires where
  position : Bool := true
  altitude : Bool := false
  velocity : Bool := false
  heading : Bool := false

/-- `Criteria::Accuracy` -/
structure Criteria.Accuracy where
  horizontal : Quantity .length := ⟨3000⟩
  vertical : Option (Quantity .length) := none
  velocity : Option (Quantity .velocity) := none
  heading : Option (Quantity .planeAngle) := none

/-- `Criteria` -/
structure Criteria where
  requires : Criteria.Requires := {}
  accuracy : Criteria.Accuracy := {}

end LocationService
