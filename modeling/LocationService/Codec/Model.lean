import LocationService.Library.FloatFormat
import LocationService.Library.Wire
import LocationService.Values.Position

/-!
# The codecs of the location service

Positions, criteria, space vehicles and updates as they cross the bus.  The
fields of a value follow one another in the message without a frame, except for
a space vehicle, which is a structure; an optional value is preceded by a flag
that tells whether it is there.
-/

namespace LocationService

open Library Library.Wire SpaceVehicle

/-! ## Optional values, quantities and coordinates -/

section Optional

variable {α : Type} [Codec α]

def encodeOptional (value : Option α) (writer : Writer) : Writer :=
  match value with
  | none => writer |> encodeArgument false
  | some value => writer |> encodeArgument true |> encodeArgument value

/-- A value that is there is decoded into a fresh object. -/
def decodeOptional [Inhabited α] : Decoder (Option α) := do
  let hasValue ← decodeArgument false
  if hasValue then
    let value ← decodeArgument default
    return some value
  else return none

/-- `Codec<Optional<T>>` -/
instance [Inhabited α] : Codec (Option α) where
  encodeArgument := encodeOptional
  decodeArgument _ := decodeOptional

end Optional

/-- `Codec<units::Quantity<T>>` -/
instance {u : UnitOfMeasure} : Codec (Quantity u) where
  encodeArgument quantity writer := writer |> encodeArgument quantity.value
  decodeArgument quantity := do
    let value ← decodeArgument quantity.value
    return { value := value }

/-- `Codec<wgs84::Coordinate<T, U>>`.  The decoder writes the public member and
passes the constructor by. -/
instance {tag : CoordinateTag} : Codec (Coordinate tag) where
  encodeArgument coordinate writer := writer |> encodeArgument coordinate.value
  decodeArgument coordinate := do
    let value ← decodeArgument coordinate.value
    return { value := value }

/-! ## Positions, criteria and updates -/

def encodePosition (position : Position) (writer : Writer) : Writer :=
  writer
    |> encodeArgument position.latitude
    |> encodeArgument position.longitude
    |> encodeArgument position.altitude
    |> encodeArgument position.accuracy.horizontal
    |> encodeArgument position.accuracy.vertical

def decodePosition (position : Position) : Decoder Position := do
  let latitude ← decodeArgument position.latitude
  let longitude ← decodeArgument position.longitude
  let altitude ← decodeArgument position.altitude
  let horizontal ← decodeArgument position.accuracy.horizontal
  let vertical ← decodeArgument position.accuracy.vertical
  return {
    latitude := latitude
    longitude := longitude
    altitude := altitude
    accuracy := { horizontal := horizontal, vertical := vertical } }

/-- `Codec<Position>` -/
instance : Codec Position where
  encodeArgument := encodePosition
  decodeArgument := decodePosition

def encodeCriteria (criteria : Criteria) (writer : Writer) : Writer :=
  writer
    |> encodeArgument criteria.requires.position
    |> encodeArgument criteria.requires.altitude
    |> encodeArgument criteria.requires.heading
    |> encodeArgument criteria.requires.velocity
    |> encodeArgument criteria.accuracy.horizontal
    |> encodeArgument criteria.accuracy.vertical
    |> encodeArgument criteria.accuracy.velocity
    |> encodeArgument criteria.accuracy.heading

def decodeCriteria (criteria : Criteria) : Decoder Criteria := do
  let position ← decodeArgument criteria.requires.position
  let altitude ← decodeArgument criteria.requires.altitude
  let heading ← decodeArgument criteria.requires.heading
  let velocity ← decodeArgument criteria.requires.velocity
  let horizontal ← decodeArgument criteria.accuracy.horizontal
  let vertical ← decodeArgument criteria.accuracy.vertical
  let velocityAccuracy ← decodeArgument criteria.accuracy.velocity
  let headingAccuracy ← decodeArgument criteria.accuracy.heading
  return {
    requires := {
      position := position
      altitude := altitude
      velocity := velocity
      heading := heading }
    accuracy := {
      horizontal := horizontal
      vertical := vertical
      velocity := velocityAccuracy
      heading := headingAccuracy } }

/-- `Codec<Criteria>` -/
instance : Codec Criteria where
  encodeArgument := encodeCriteria
  decodeArgument := decodeCriteria

section Update

variable {α : Type} [Codec α]

def encodeUpdate (update : Update α) (writer : Writer) : Writer :=
  writer |> encodeArgument update.value |> encodeArgument update.when

def decodeUpdate (update : Update α) : Decoder (Update α) := do
  let value ← decodeArgument update.value
  let when ← popInt64
  return { value := value, when := when }

/-- `Codec<Update<T>>` -/
instance : Codec (Update α) where
  encodeArgument := encodeUpdate
  decodeArgument := decodeUpdate

end Update

/-! ## Space vehicles -/

/-- `Codec<SpaceVehicle::Key>` -/
instance : Codec Key where
  encodeArgument key writer :=
    writer |> pushUInt32 key.type.underlying.toUInt32 |> pushUInt32 key.id
  decodeArgument _ := do
    let type ← popUInt32
    let id ← popUInt32
    return { type := ⟨type.toInt32⟩, id := id }

/-- The signal to noise ratio is a `float`, and a `double` on the bus. -/
def encodeSpaceVehicle (sv : SpaceVehicle) (sub : Writer) : Writer :=
  sub
    |> encodeArgument sv.key
    |> pushFloatingPoint (FloatFormat.widen sv.snr)
    |> pushBoolean sv.hasAlmanacData
    |> pushBoolean sv.hasEphimerisData
    |> pushBoolean sv.usedInFix
    |> encodeArgument sv.azimuth
    |> encodeArgument sv.elevation

def decodeSpaceVehicle (sv : SpaceVehicle) : Decoder SpaceVehicle := do
  let key ← decodeArgument sv.key
  let snr ← popFloatingPoint
  let hasAlmanacData ← popBoolean
  let hasEphimerisData ← popBoolean
  let usedInFix ← popBoolean
  let azimuth ← decodeArgument sv.azimuth
  let elevation ← decodeArgument sv.elevation
  return {
    key := key
    snr := FloatFormat.narrow snr
    hasAlmanacData := hasAlmanacData
    hasEphimerisData := hasEphimerisData
    usedInFix := usedInFix
    azimuth := azimuth
    elevation := elevation }

/-- `Codec<SpaceVehicle>` -/
instance : Codec SpaceVehicle where
  encodeArgument sv := closeStructure (encodeSpaceVehicle sv [])
  decodeArgument sv := do
    let sub ← popStructure
    within sub (decodeSpaceVehicle sv)

/-- `helper::TypeMapper<SpaceVehicle>::signature` -/
def spaceVehicleSignature : String := "(uudbbbdd)"

theorem consumes_spaceVehicle (sv : SpaceVehicle) :
    Consumes (decodeArgument sv) :=
  consumes_structure _

/-- `std::map::insert` under the key of the vehicle itself: an entry that is
there is kept. -/
def insertVehicle (out : SpaceVehicleMap) (sv : SpaceVehicle) :
    SpaceVehicleMap :=
  out.insertIfNew sv.key sv

def encodeSpaceVehicleMap (map : SpaceVehicleMap) : Writer → Writer :=
  closeArray spaceVehicleSignature (writeAll (map.toList.map Prod.snd) [])

def decodeSpaceVehicleMap (out : SpaceVehicleMap) :
    Decoder SpaceVehicleMap := do
  let sub ← popArray
  StateT.lift (readAll (decodeArgument {}) (consumes_spaceVehicle {})
    insertVehicle out sub)

/-- `Codec<std::map<SpaceVehicle::Key, SpaceVehicle>>` -/
instance : Codec SpaceVehicleMap where
  encodeArgument := encodeSpaceVehicleMap
  decodeArgument := decodeSpaceVehicleMap

end LocationService
