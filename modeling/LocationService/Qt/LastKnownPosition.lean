import LocationService.Library.StickyRecord
import LocationService.Qt.GeoPositionInfoSource
import LocationService.Values.Haversine

/-!
# The positions that the Qt plugin emits

`core::GeoPositionInfoSource` keeps one `QGeoPositionInfo`, the last known
position.  Every update of the session is written into it, and a copy of the
whole is emitted.  An accuracy is written when the update has one, and nothing
takes it back when the next one has none; and the altitude of an update without
one is written as 0.

The classes of Qt are a parameter, with what their documentation promises as
its laws.  The main result says for every update in every run when the emitted
position is that update's own.
-/

namespace LocationService

open LocationService.Library

/-! ## The classes of Qt -/

/-- `QGeoCoordinate::CoordinateType` -/
inductive CoordinateType where
  | invalidCoordinate
  | coordinate2D
  | coordinate3D
  deriving DecidableEq, Repr

/-- `QGeoPositionInfo::Attribute` -/
inductive PositionAttribute where
  | direction
  | groundSpeed
  | verticalSpeed
  | magneticVariation
  | horizontalAccuracy
  | verticalAccuracy
  deriving DecidableEq, Repr

/-- What the plugin uses of `QGeoCoordinate`, `QDateTime` and
`QGeoPositionInfo`. -/
structure QtPositioning where
  QGeoCoordinate : Type
  QDateTime : Type
  QGeoPositionInfo : Type
  /-- `QGeoCoordinate(latitude, longitude, altitude)` -/
  ofDegrees : Float → Float → Float → QGeoCoordinate
  type : QGeoCoordinate → CoordinateType
  latitude : QGeoCoordinate → Float
  longitude : QGeoCoordinate → Float
  altitude : QGeoCoordinate → Float
  fromMSecsSinceEpoch : Int64 → QDateTime
  /-- `QGeoPositionInfo()` -/
  init : QGeoPositionInfo
  setCoordinate : QGeoCoordinate → QGeoPositionInfo → QGeoPositionInfo
  coordinate : QGeoPositionInfo → QGeoCoordinate
  setTimestamp : QDateTime → QGeoPositionInfo → QGeoPositionInfo
  timestamp : QGeoPositionInfo → QDateTime
  setAttribute :
    PositionAttribute → Float → QGeoPositionInfo → QGeoPositionInfo
  /-- `QGeoPositionInfo::attribute` -/
  attributeOf : PositionAttribute → QGeoPositionInfo → Float
  hasAttribute : PositionAttribute → QGeoPositionInfo → Bool

namespace QtPositioning

/-- Degrees between those of the poles and those of the date line. -/
def InRange (latitude longitude : Float) : Prop :=
  (-90 ≤ latitude ∧ latitude ≤ 90) ∧ (-180 ≤ longitude ∧ longitude ≤ 180)

/-- What the documentation of the three classes says. -/
structure Documented (Q : QtPositioning) : Prop where
  type_eq_invalid_iff (lat lon alt : Float) :
    Q.type (Q.ofDegrees lat lon alt) = .invalidCoordinate ↔ ¬ InRange lat lon
  type_of_altitude (lat lon alt : Float) (h : InRange lat lon)
    (halt : alt.isNaN = false) :
    Q.type (Q.ofDegrees lat lon alt) = .coordinate3D
  latitude_ofDegrees (lat lon alt : Float) (h : InRange lat lon) :
    Q.latitude (Q.ofDegrees lat lon alt) = lat
  longitude_ofDegrees (lat lon alt : Float) (h : InRange lat lon) :
    Q.longitude (Q.ofDegrees lat lon alt) = lon
  altitude_ofDegrees (lat lon alt : Float) (h : InRange lat lon) :
    Q.altitude (Q.ofDegrees lat lon alt) = alt
  coordinate_setCoordinate (c : Q.QGeoCoordinate) (i : Q.QGeoPositionInfo) :
    Q.coordinate (Q.setCoordinate c i) = c
  coordinate_setTimestamp (t : Q.QDateTime) (i : Q.QGeoPositionInfo) :
    Q.coordinate (Q.setTimestamp t i) = Q.coordinate i
  coordinate_setAttribute (a : PositionAttribute) (x : Float)
    (i : Q.QGeoPositionInfo) :
    Q.coordinate (Q.setAttribute a x i) = Q.coordinate i
  timestamp_setTimestamp (t : Q.QDateTime) (i : Q.QGeoPositionInfo) :
    Q.timestamp (Q.setTimestamp t i) = t
  hasAttribute_init (a : PositionAttribute) : Q.hasAttribute a Q.init = false
  hasAttribute_setCoordinate (a : PositionAttribute) (c : Q.QGeoCoordinate)
    (i : Q.QGeoPositionInfo) :
    Q.hasAttribute a (Q.setCoordinate c i) = Q.hasAttribute a i
  hasAttribute_setTimestamp (a : PositionAttribute) (t : Q.QDateTime)
    (i : Q.QGeoPositionInfo) :
    Q.hasAttribute a (Q.setTimestamp t i) = Q.hasAttribute a i
  hasAttribute_setAttribute (a b : PositionAttribute) (x : Float)
    (i : Q.QGeoPositionInfo) :
    Q.hasAttribute a (Q.setAttribute b x i) =
      (decide (a = b) || Q.hasAttribute a i)
  attributeOf_setCoordinate (a : PositionAttribute) (c : Q.QGeoCoordinate)
    (i : Q.QGeoPositionInfo) :
    Q.attributeOf a (Q.setCoordinate c i) = Q.attributeOf a i
  attributeOf_setTimestamp (a : PositionAttribute) (t : Q.QDateTime)
    (i : Q.QGeoPositionInfo) :
    Q.attributeOf a (Q.setTimestamp t i) = Q.attributeOf a i
  attributeOf_setAttribute (a b : PositionAttribute) (x : Float)
    (i : Q.QGeoPositionInfo) :
    Q.attributeOf a (Q.setAttribute b x i) =
      if a = b then x else Q.attributeOf a i

variable (Q : QtPositioning)

/-- The attributes that a position has. -/
def attributes (i : Q.QGeoPositionInfo) : Fields PositionAttribute Float :=
  fun a => if Q.hasAttribute a i then some (Q.attributeOf a i) else none

/-- One attribute alone, if there is a value for it. -/
def single (b : PositionAttribute) (x : Option Float) :
    Fields PositionAttribute Float :=
  fun a => if a = b then x else none

section Attributes

variable {Q} (hQ : Q.Documented) (i : Q.QGeoPositionInfo)
include hQ

theorem attributes_init : Q.attributes Q.init = Fields.empty := by
  funext a
  simp [attributes, hQ.hasAttribute_init, Fields.empty]

theorem attributes_setCoordinate (c : Q.QGeoCoordinate) :
    Q.attributes (Q.setCoordinate c i) = Q.attributes i := by
  funext a
  simp [attributes, hQ.hasAttribute_setCoordinate, hQ.attributeOf_setCoordinate]

theorem attributes_setTimestamp (t : Q.QDateTime) :
    Q.attributes (Q.setTimestamp t i) = Q.attributes i := by
  funext a
  simp [attributes, hQ.hasAttribute_setTimestamp, hQ.attributeOf_setTimestamp]

theorem attributes_setAttribute (b : PositionAttribute) (x : Float) :
    Q.attributes (Q.setAttribute b x i) =
      (single b (some x)).write (Q.attributes i) := by
  funext a
  by_cases h : a = b
  · simp [attributes, single, h, hQ.hasAttribute_setAttribute,
      hQ.attributeOf_setAttribute]
  · simp [attributes, single, h, hQ.hasAttribute_setAttribute,
      hQ.attributeOf_setAttribute]

end Attributes

end QtPositioning

/-! ## The updates of a session -/

/-- A value that a session delivers. -/
inductive SessionUpdate where
  | position (u : Update Position)
  | heading (u : Update Heading)
  | velocity (u : Update Velocity)
  deriving DecidableEq

/-- The stream that a value is from. -/
def SessionUpdate.stream : SessionUpdate → Stream
  | .position _ => .position
  | .heading _ => .heading
  | .velocity _ => .velocity

/-- `std::chrono::duration_cast<std::chrono::milliseconds>` of the time since
the epoch. -/
def Update.milliseconds {α : Type} (u : Update α) : Int64 := u.when / 1000000

/-- An accuracy, unless it is absent or not a number. -/
def knownAccuracy (accuracy : Option (Quantity .length)) : Option Float :=
  (accuracy.map Quantity.value).filter fun x => !x.isNaN

namespace QtPositioning

variable (Q : QtPositioning)

/-- What `handlePositionUpdate` does with one of the accuracies. -/
def setAccuracy (a : PositionAttribute) (accuracy : Option (Quantity .length))
    (i : Q.QGeoPositionInfo) : Q.QGeoPositionInfo :=
  match accuracy with
  | none => i
  | some accuracy =>
      if !accuracy.value.isNaN then Q.setAttribute a accuracy.value i else i

/-- `Private::handlePositionUpdate`, from the last known position to the one
that it emits. -/
def handlePositionUpdate (position : Update Position)
    (lastKnownPosition : Q.QGeoPositionInfo) : Q.QGeoPositionInfo :=
  let coord := Q.ofDegrees position.value.latitude.value.value
    position.value.longitude.value.value
    (match position.value.altitude with
      | some altitude => altitude.value.value
      | none => 0)
  let info := Q.setCoordinate coord lastKnownPosition
  let info := Q.setAccuracy .horizontalAccuracy
    position.value.accuracy.horizontal info
  let info := Q.setAccuracy .verticalAccuracy
    position.value.accuracy.vertical info
  Q.setTimestamp (Q.fromMSecsSinceEpoch position.milliseconds) info

/-- What `handleHeadingUpdate` and `handleVelocityUpdate` have in common. -/
def handleAttributeUpdate (a : PositionAttribute) (value : Float)
    (milliseconds : Int64) (lastKnownPosition : Q.QGeoPositionInfo) :
    Q.QGeoPositionInfo :=
  let info := Q.setAttribute a value lastKnownPosition
  Q.setTimestamp (Q.fromMSecsSinceEpoch milliseconds) info

/-- `Private::handleHeadingUpdate` -/
def handleHeadingUpdate (heading : Update Heading) :
    Q.QGeoPositionInfo → Q.QGeoPositionInfo :=
  Q.handleAttributeUpdate .direction heading.value.value heading.milliseconds

/-- `Private::handleVelocityUpdate` -/
def handleVelocityUpdate (velocity : Update Velocity) :
    Q.QGeoPositionInfo → Q.QGeoPositionInfo :=
  Q.handleAttributeUpdate .groundSpeed velocity.value.value
    velocity.milliseconds

/-- The slots that the session's properties are connected to. -/
def handleUpdate (lastKnownPosition : Q.QGeoPositionInfo) :
    SessionUpdate → Q.QGeoPositionInfo
  | .position u => Q.handlePositionUpdate u lastKnownPosition
  | .heading u => Q.handleHeadingUpdate u lastKnownPosition
  | .velocity u => Q.handleVelocityUpdate u lastKnownPosition

/-- The last known position after some updates. -/
def lastKnown (us : List SessionUpdate) : Q.QGeoPositionInfo :=
  us.foldl Q.handleUpdate Q.init

end QtPositioning

/-- The attributes that an update has a value for. -/
def SessionUpdate.attributes :
    SessionUpdate → Fields PositionAttribute Float
  | .position u, .horizontalAccuracy =>
      knownAccuracy u.value.accuracy.horizontal
  | .position u, .verticalAccuracy => knownAccuracy u.value.accuracy.vertical
  | .heading u, .direction => some u.value.value
  | .velocity u, .groundSpeed => some u.value.value
  | _, _ => none

/-! ## What an update leaves in the last known position -/

namespace QtPositioning

variable {Q : QtPositioning}

/-- An accuracy is set if it is known. -/
theorem setAccuracy_eq (a : PositionAttribute)
    (accuracy : Option (Quantity .length)) (i : Q.QGeoPositionInfo) :
    Q.setAccuracy a accuracy i =
      match knownAccuracy accuracy with
      | none => i
      | some x => Q.setAttribute a x i := by
  cases accuracy with
  | none => rfl
  | some accuracy =>
      by_cases hnan : accuracy.value = Float.nan
      · simp [setAccuracy, knownAccuracy, hnan, Option.filter]
      · simp [setAccuracy, knownAccuracy, hnan, Option.filter]

variable (hQ : Q.Documented)
include hQ

theorem attributes_setAccuracy (a : PositionAttribute)
    (accuracy : Option (Quantity .length)) (i : Q.QGeoPositionInfo) :
    Q.attributes (Q.setAccuracy a accuracy i) =
      (single a (knownAccuracy accuracy)).write (Q.attributes i) := by
  rw [setAccuracy_eq]
  cases knownAccuracy accuracy with
  | none =>
      funext b
      simp [single]
  | some x => exact attributes_setAttribute hQ i a x

theorem coordinate_setAccuracy (a : PositionAttribute)
    (accuracy : Option (Quantity .length)) (i : Q.QGeoPositionInfo) :
    Q.coordinate (Q.setAccuracy a accuracy i) = Q.coordinate i := by
  rw [setAccuracy_eq]
  cases knownAccuracy accuracy with
  | none => rfl
  | some x => exact hQ.coordinate_setAttribute a x i

theorem attributes_handleAttributeUpdate (a : PositionAttribute) (x : Float)
    (ms : Int64) (i : Q.QGeoPositionInfo) :
    Q.attributes (Q.handleAttributeUpdate a x ms i) =
      (single a (some x)).write (Q.attributes i) := by
  rw [handleAttributeUpdate, attributes_setTimestamp hQ,
    attributes_setAttribute hQ]

/-- An update writes the attributes it has a value for, and keeps the
others. -/
theorem attributes_handleUpdate (i : Q.QGeoPositionInfo) (u : SessionUpdate) :
    Q.attributes (Q.handleUpdate i u) =
      u.attributes.write (Q.attributes i) := by
  funext a
  cases u with
  | position u =>
      simp only [handleUpdate, handlePositionUpdate,
        attributes_setTimestamp hQ, attributes_setAccuracy hQ,
        attributes_setCoordinate hQ, Fields.write_apply]
      cases a <;> simp [single, SessionUpdate.attributes]
  | heading u =>
      simp only [handleUpdate, handleHeadingUpdate,
        attributes_handleAttributeUpdate hQ, Fields.write_apply]
      cases a <;> simp [single, SessionUpdate.attributes]
  | velocity u =>
      simp only [handleUpdate, handleVelocityUpdate,
        attributes_handleAttributeUpdate hQ, Fields.write_apply]
      cases a <;> simp [single, SessionUpdate.attributes]

/-- The last known position has the latest value of every attribute. -/
theorem attributes_lastKnown (us : List SessionUpdate) :
    Q.attributes (Q.lastKnown us) =
      Fields.latest SessionUpdate.attributes us :=
  Fields.view_foldl Q.attributes Q.handleUpdate (attributes_init hQ)
    (attributes_handleUpdate hQ) us

theorem coordinate_handlePositionUpdate (u : Update Position)
    (i : Q.QGeoPositionInfo) :
    Q.coordinate (Q.handlePositionUpdate u i) =
      Q.ofDegrees u.value.latitude.value.value u.value.longitude.value.value
        (match u.value.altitude with
          | some altitude => altitude.value.value
          | none => 0) := by
  unfold handlePositionUpdate
  rw [hQ.coordinate_setTimestamp, coordinate_setAccuracy hQ,
    coordinate_setAccuracy hQ, hQ.coordinate_setCoordinate]

theorem timestamp_handlePositionUpdate (u : Update Position)
    (i : Q.QGeoPositionInfo) :
    Q.timestamp (Q.handlePositionUpdate u i) =
      Q.fromMSecsSinceEpoch u.milliseconds :=
  hQ.timestamp_setTimestamp _ _

end QtPositioning

/-! ## When an emitted position is that of its update -/

/-- The latest heading in some updates. -/
def latestHeading (us : List SessionUpdate) : Option (Update Heading) :=
  (us.filterMap fun
    | .heading u => some u
    | _ => none).getLast?

/-- The latest velocity in some updates. -/
def latestVelocity (us : List SessionUpdate) : Option (Update Velocity) :=
  (us.filterMap fun
    | .velocity u => some u
    | _ => none).getLast?

/-- A position has the data of an update that came after some others, and the
heading and the velocity that were reported last. -/
structure QtPositioning.CarriesOwn (Q : QtPositioning)
    (before : List SessionUpdate) (u : Update Position)
    (info : Q.QGeoPositionInfo) : Prop where
  valid : Q.type (Q.coordinate info) ≠ .invalidCoordinate
  latitude : Q.latitude (Q.coordinate info) = u.value.latitude.value.value
  longitude : Q.longitude (Q.coordinate info) = u.value.longitude.value.value
  altitude : ∀ altitude, u.value.altitude = some altitude →
    Q.altitude (Q.coordinate info) = altitude.value.value
  /-- It has an altitude only if the update has one. -/
  type : Q.type (Q.coordinate info) = .coordinate3D →
    u.value.altitude.isSome = true
  timestamp : Q.timestamp info = Q.fromMSecsSinceEpoch u.milliseconds
  horizontal : Q.attributes info .horizontalAccuracy =
    knownAccuracy u.value.accuracy.horizontal
  vertical : Q.attributes info .verticalAccuracy =
    knownAccuracy u.value.accuracy.vertical
  direction : Q.attributes info .direction =
    (latestHeading before).map fun v => v.value.value
  groundSpeed : Q.attributes info .groundSpeed =
    (latestVelocity before).map fun v => v.value.value

/-- An update is in range, has an altitude, and lacks no accuracy that one
before it had. -/
structure LeavesNothingOver (before : List SessionUpdate)
    (u : Update Position) : Prop where
  valid : u.value.Valid
  altitude : u.value.altitude.isSome = true
  horizontal : knownAccuracy u.value.accuracy.horizontal = none →
    ∀ v, .position v ∈ before →
      knownAccuracy v.value.accuracy.horizontal = none
  vertical : knownAccuracy u.value.accuracy.vertical = none →
    ∀ v, .position v ∈ before →
      knownAccuracy v.value.accuracy.vertical = none

theorem latest_direction (us : List SessionUpdate) :
    Fields.latest SessionUpdate.attributes us .direction =
      (latestHeading us).map fun v => v.value.value :=
  Fields.latest_eq_map (fun u => by cases u <;> rfl) us

theorem latest_groundSpeed (us : List SessionUpdate) :
    Fields.latest SessionUpdate.attributes us .groundSpeed =
      (latestVelocity us).map fun v => v.value.value :=
  Fields.latest_eq_map (fun u => by cases u <;> rfl) us

/-- An attribute is an accuracy of the positions. -/
structure IsAccuracy (a : PositionAttribute)
    (accuracy : Update Position → Option Float) : Prop where
  position : ∀ u, (SessionUpdate.position u).attributes a = accuracy u
  heading : ∀ u, (SessionUpdate.heading u).attributes a = none
  velocity : ∀ u, (SessionUpdate.velocity u).attributes a = none

theorem isAccuracy_horizontal : IsAccuracy .horizontalAccuracy fun u =>
    knownAccuracy u.value.accuracy.horizontal :=
  ⟨fun _ => rfl, fun _ => rfl, fun _ => rfl⟩

theorem isAccuracy_vertical : IsAccuracy .verticalAccuracy fun u =>
    knownAccuracy u.value.accuracy.vertical :=
  ⟨fun _ => rfl, fun _ => rfl, fun _ => rfl⟩

theorem IsAccuracy.forall_eq_none_iff {a : PositionAttribute}
    {accuracy : Update Position → Option Float} (h : IsAccuracy a accuracy)
    (us : List SessionUpdate) :
    (∀ v ∈ us, v.attributes a = none) ↔
      ∀ v, .position v ∈ us → accuracy v = none := by
  constructor
  · intro hnone v hv
    rw [← h.position]
    exact hnone _ hv
  · intro hnone v hv
    cases v with
    | position v => exact (h.position v).trans (hnone v hv)
    | heading v => exact h.heading v
    | velocity v => exact h.velocity v

namespace QtPositioning

variable {Q : QtPositioning} (hQ : Q.Documented) (before : List SessionUpdate)
  (u : Update Position)
include hQ

theorem attributes_emitted (a : PositionAttribute) :
    Q.attributes (Q.handlePositionUpdate u (Q.lastKnown before)) a =
      ((SessionUpdate.position u).attributes.write
        (Fields.latest SessionUpdate.attributes before)) a := by
  have hhandle := attributes_handleUpdate hQ (Q.lastKnown before) (.position u)
  rw [attributes_lastKnown hQ] at hhandle
  exact congrFun hhandle a

/-- The emitted accuracy is that of the update, or that of an older one. -/
theorem accuracy_emitted_iff {a : PositionAttribute}
    {accuracy : Update Position → Option Float} (h : IsAccuracy a accuracy) :
    Q.attributes (Q.handlePositionUpdate u (Q.lastKnown before)) a =
        accuracy u ↔
      (accuracy u = none →
        ∀ v, .position v ∈ before → accuracy v = none) := by
  rw [attributes_emitted hQ, ← h.forall_eq_none_iff, ← h.position]
  exact Fields.write_latest_eq_iff

/-- Without an altitude the coordinate has the altitude 0. -/
theorem type_emitted_of_none (i : Q.QGeoPositionInfo) (hvalid : u.value.Valid)
    (hnone : u.value.altitude = none) :
    Q.type (Q.coordinate (Q.handlePositionUpdate u i)) = .coordinate3D := by
  rw [coordinate_handlePositionUpdate hQ, hnone]
  exact hQ.type_of_altitude _ _ 0 hvalid (by decide +kernel)

/-- The position that is emitted for an update is its own exactly if nothing
is left over from those before it. -/
theorem carriesOwn_iff :
    Q.CarriesOwn before u (Q.handlePositionUpdate u (Q.lastKnown before)) ↔
      LeavesNothingOver before u := by
  have hcoordinate :=
    coordinate_handlePositionUpdate hQ u (Q.lastKnown before)
  constructor
  · intro h
    have hvalid : u.value.Valid := by
      by_contra hinvalid
      apply h.valid
      rw [hcoordinate]
      exact (hQ.type_eq_invalid_iff _ _ _).mpr hinvalid
    have haltitude : u.value.altitude.isSome = true := by
      cases hnone : u.value.altitude with
      | some altitude => rfl
      | none =>
          have htype := type_emitted_of_none hQ u (Q.lastKnown before) hvalid
            hnone
          have hsome := h.type htype
          rwa [hnone] at hsome
    exact {
      valid := hvalid
      altitude := haltitude
      horizontal := (accuracy_emitted_iff hQ before u
        isAccuracy_horizontal).mp h.horizontal
      vertical := (accuracy_emitted_iff hQ before u
        isAccuracy_vertical).mp h.vertical }
  · intro h
    exact {
      valid := by
        rw [hcoordinate, Ne, hQ.type_eq_invalid_iff]
        exact not_not_intro h.valid
      latitude := by
        rw [hcoordinate]
        exact hQ.latitude_ofDegrees _ _ _ h.valid
      longitude := by
        rw [hcoordinate]
        exact hQ.longitude_ofDegrees _ _ _ h.valid
      altitude := by
        intro altitude hsome
        rw [hcoordinate, hsome]
        exact hQ.altitude_ofDegrees _ _ _ h.valid
      type := fun _ => h.altitude
      timestamp := timestamp_handlePositionUpdate hQ u _
      horizontal := (accuracy_emitted_iff hQ before u
        isAccuracy_horizontal).mpr h.horizontal
      vertical := (accuracy_emitted_iff hQ before u
        isAccuracy_vertical).mpr h.vertical
      direction := by
        rw [attributes_emitted hQ, ← latest_direction]
        rfl
      groundSpeed := by
        rw [attributes_emitted hQ, ← latest_groundSpeed]
        rfl }

end QtPositioning

/-! ## Runs -/

/-- What happens to a position source, with the values that its session
delivers. -/
inductive PositionInfoEvent where
  | startUpdates
  | stopUpdates
  | requestUpdate (timeout : Int)
  | timerExpired
  | updated (u : SessionUpdate)
  | positionUpdated
  | applicationStateChanged (v : ApplicationState)

/-- The event without its value. -/
def PositionInfoEvent.erase : PositionInfoEvent → PositionSourceEvent
  | .startUpdates => .startUpdates
  | .stopUpdates => .stopUpdates
  | .requestUpdate timeout => .requestUpdate timeout
  | .timerExpired => .timerExpired
  | .updated u => .updated u.stream
  | .positionUpdated => .positionUpdated
  | .applicationStateChanged v => .applicationStateChanged v

/-- A position source with its last known position, the updates that it has
processed and the positions that it has emitted for them, the oldest first. -/
structure PositionInfoRun (Q : QtPositioning) where
  run : PositionSourceRun
  lastKnownPosition : Q.QGeoPositionInfo
  processed : List SessionUpdate
  emitted : List Q.QGeoPositionInfo

namespace PositionInfoRun

variable {Q : QtPositioning}

def init : PositionInfoRun Q := ⟨.init, Q.init, [], []⟩

/-- A slot writes an update into the last known position and emits a copy. -/
def record (u : SessionUpdate) (r : PositionInfoRun Q) : PositionInfoRun Q :=
  let info := Q.handleUpdate r.lastKnownPosition u
  { r with
    lastKnownPosition := info
    processed := r.processed ++ [u]
    emitted := r.emitted ++ [info] }

/-- What an event does.  Nothing is connected to the slots before there is a
session. -/
def next (e : PositionInfoEvent) (r : PositionInfoRun Q) : PositionInfoRun Q :=
  let recorded :=
    match e with
    | .updated u => if r.run.source.session.isNone then r else r.record u
    | _ => r
  { recorded with run := PositionSourceRun.next e.erase r.run }

abbrev Reachable (r : PositionInfoRun Q) : Prop :=
  (Library.Machine.ofStep init next).Reach (fun _ _ => True) r

/-- `GeoPositionInfoSource::lastKnownPosition` -/
def getLastKnownPosition (r : PositionInfoRun Q) : Q.QGeoPositionInfo :=
  if r.run.source.error ≠ .noError then Q.init else r.lastKnownPosition

/-- Every processed update has led to one position, from the updates before
it. -/
structure Inv (r : PositionInfoRun Q) : Prop where
  source : r.run.source.Inv
  lastKnown : r.lastKnownPosition = Q.lastKnown r.processed
  last : r.lastKnownPosition = r.emitted.getLast?.getD Q.init
  length : r.emitted.length = r.processed.length
  emitted : ∀ k u, r.processed[k]? = some u →
    r.emitted[k]? =
      some (Q.handleUpdate (Q.lastKnown (r.processed.take k)) u)

theorem Inv.init : (init : PositionInfoRun Q).Inv where
  source := GeoPositionInfoSource.Inv.init
  lastKnown := rfl
  last := rfl
  length := rfl
  emitted := by simp [PositionInfoRun.init]

theorem Inv.record {r : PositionInfoRun Q} (h : r.Inv) (u : SessionUpdate) :
    (r.record u).Inv where
  source := h.source
  lastKnown := by
    simp [PositionInfoRun.record, QtPositioning.lastKnown, h.lastKnown]
  last := by simp [PositionInfoRun.record]
  length := by simp [PositionInfoRun.record, h.length]
  emitted := by
    intro k v hv
    simp only [PositionInfoRun.record] at hv ⊢
    have hk : k < (r.processed ++ [u]).length :=
      (List.getElem?_eq_some_iff.mp hv).1
    rw [List.length_append, List.length_singleton] at hk
    by_cases hlt : k < r.processed.length
    · -- the position was emitted before
      rw [List.getElem?_append_left hlt] at hv
      rw [List.getElem?_append_left (h.length ▸ hlt), h.emitted k v hv,
        List.take_append_of_le_length hlt.le]
    · have hlast : k = r.processed.length := by omega
      subst hlast
      rw [List.getElem?_concat_length] at hv
      obtain rfl : u = v := Option.some.inj hv
      rw [← h.length, List.getElem?_concat_length, h.length, h.lastKnown,
        List.take_left]

theorem Inv.next {r : PositionInfoRun Q} (h : r.Inv) (e : PositionInfoEvent) :
    (next e r).Inv := by
  have hrecorded : (match e with
      | .updated u => if r.run.source.session.isNone then r else r.record u
      | _ => r).Inv := by
    cases e with
    | updated u =>
        simp only
        split
        · exact h
        · exact h.record u
    | _ => exact h
  exact {
    source := PositionSourceRun.inv_next e.erase r.run h.source
    lastKnown := hrecorded.lastKnown
    last := hrecorded.last
    length := hrecorded.length
    emitted := hrecorded.emitted }

theorem inv_of_reachable {r : PositionInfoRun Q} (h : Reachable r) : r.Inv :=
  h.ofStep_invariant Inv .init fun e _ hinv _ => hinv.next e

/-- Without the values these are the runs of the source. -/
theorem Reachable.erase {r : PositionInfoRun Q} (h : Reachable r) :
    PositionSourceRun.Reachable (fun _ _ => True) r.run := by
  apply h.map PositionInfoRun.run PositionInfoEvent.erase
  · rintro r rfl
    rfl
  · exact fun _ _ _ => trivial
  · rintro e r t rfl
    rfl

/-- An application that asks for the last known position gets what was emitted
last. -/
theorem getLastKnownPosition_eq {r : PositionInfoRun Q} (h : Reachable r) :
    r.getLastKnownPosition = r.emitted.getLast?.getD Q.init := by
  have hinv := inv_of_reachable h
  unfold getLastKnownPosition
  rw [if_neg (not_not_intro hinv.source.error), hinv.last]

/-- With a session, an update is processed. -/
theorem next_updated {r : PositionInfoRun Q} (h : r.Inv)
    (hsession : r.run.source.session.isSome = true) (u : SessionUpdate) :
    (next (.updated u) r).processed = r.processed ++ [u] ∧
      (next (.updated u) r).run.source.session = r.run.source.session := by
  have hnone : r.run.source.session.isNone = false := by
    simpa using hsession
  constructor
  · show (if r.run.source.session.isNone then r else r.record u).processed = _
    rw [hnone]
    rfl
  · show (r.run.receive u.stream).source.session = _
    unfold PositionSourceRun.receive
    rw [hnone]
    cases u.stream with
    | position =>
        show r.run.source.handlePositionUpdate.session = _
        rw [h.source.handlePositionUpdate_eq]
    | heading => rfl
    | velocity => rfl

/-- Every sequence of updates is processed in some run. -/
theorem exists_reachable (us : List SessionUpdate) :
    ∃ r : PositionInfoRun Q, Reachable r ∧ r.processed = us := by
  have hsession : ∃ r : PositionInfoRun Q, Reachable r ∧ r.processed = us ∧
      r.run.source.session.isSome = true := by
    induction us using List.reverseRecOn with
    | nil =>
        have hstart : Reachable (next .startUpdates init : PositionInfoRun Q) :=
          .step _ (.initial rfl) trivial rfl
        exact ⟨_, hstart, rfl, rfl⟩
    | append_singleton us u ih =>
        obtain ⟨r, h, hprocessed, hsome⟩ := ih
        have hnext := next_updated (inv_of_reachable h) hsome u
        refine ⟨_, h.step (.updated u) trivial rfl, ?_, ?_⟩
        · rw [hnext.1, hprocessed]
        · rw [hnext.2, hsome]
  obtain ⟨r, h, hprocessed, -⟩ := hsession
  exact ⟨r, h, hprocessed⟩

/-- In every run, the position that is emitted for an update is that update's
own exactly if it is in range and has an altitude, and every accuracy that it
lacks is missing from all updates before it. -/
theorem emits_own_iff (hQ : Q.Documented) {r : PositionInfoRun Q}
    (h : Reachable r) {k : Nat} {u : Update Position}
    (hu : r.processed[k]? = some (.position u)) :
    ∃ info, r.emitted[k]? = some info ∧
      (Q.CarriesOwn (r.processed.take k) u info ↔
        LeavesNothingOver (r.processed.take k) u) := by
  have hemitted := (inv_of_reachable h).emitted k _ hu
  exact ⟨_, hemitted, Q.carriesOwn_iff hQ (r.processed.take k) u⟩

end PositionInfoRun

/-! ## One behaviour of Qt -/

instance QtPositioning.decidableInRange (lat lon : Float) :
    Decidable (InRange lat lon) :=
  inferInstanceAs (Decidable (_ ∧ _))

/-- The contents of a `QGeoCoordinate`, not a number where nothing is set. -/
structure PlainCoordinate where
  lat : Float := Float.nan
  lng : Float := Float.nan
  alt : Float := Float.nan

/-- The contents of a `QGeoPositionInfo`. -/
structure PlainPositionInfo where
  timestamp : Option Int64 := none
  coord : PlainCoordinate := {}
  attributes : Fields PositionAttribute Float := Fields.empty

/-- Classes of Qt that behave as documented. -/
def QtPositioning.plain : QtPositioning where
  QGeoCoordinate := PlainCoordinate
  QDateTime := Option Int64
  QGeoPositionInfo := PlainPositionInfo
  ofDegrees lat lon alt := if InRange lat lon then ⟨lat, lon, alt⟩ else {}
  type c :=
    if InRange c.lat c.lng then
      if c.alt.isNaN then .coordinate2D else .coordinate3D
    else .invalidCoordinate
  latitude c := c.lat
  longitude c := c.lng
  altitude c := c.alt
  fromMSecsSinceEpoch ms := some ms
  init := {}
  setCoordinate c i := { i with coord := c }
  coordinate i := i.coord
  setTimestamp t i := { i with timestamp := t }
  timestamp i := i.timestamp
  setAttribute a x i :=
    { i with attributes := Function.update i.attributes a x }
  attributeOf a i := (i.attributes a).getD Float.nan
  hasAttribute a i := (i.attributes a).isSome

theorem QtPositioning.plain_documented : plain.Documented where
  type_eq_invalid_iff lat lon alt := by
    have hnan : ¬ InRange Float.nan Float.nan := by decide +kernel
    by_cases h : InRange lat lon
    · by_cases halt : alt = Float.nan <;> simp [plain, h, halt]
    · simp [plain, h, hnan]
  type_of_altitude lat lon alt h halt := by simpa [plain, h] using halt
  latitude_ofDegrees lat lon alt h := by simp [plain, h]
  longitude_ofDegrees lat lon alt h := by simp [plain, h]
  altitude_ofDegrees lat lon alt h := by simp [plain, h]
  coordinate_setCoordinate _ _ := rfl
  coordinate_setTimestamp _ _ := rfl
  coordinate_setAttribute _ _ _ := rfl
  timestamp_setTimestamp _ _ := rfl
  hasAttribute_init _ := rfl
  hasAttribute_setCoordinate _ _ _ := rfl
  hasAttribute_setTimestamp _ _ _ := rfl
  hasAttribute_setAttribute a b x i := by
    by_cases h : a = b <;> simp [plain, Function.update, h]
  attributeOf_setCoordinate _ _ _ := rfl
  attributeOf_setTimestamp _ _ _ := rfl
  attributeOf_setAttribute a b x i := by
    by_cases h : a = b <;> simp [plain, Function.update, h]

namespace PositionInfoRun

/-- A position with an altitude and a horizontal accuracy. -/
def accuratePosition : Update Position where
  value :=
    { latitude := ⟨⟨52⟩⟩
      longitude := ⟨⟨13⟩⟩
      altitude := some ⟨⟨34⟩⟩
      accuracy := { horizontal := some ⟨5⟩ } }
  when := 1500000

/-- The same position without an accuracy. -/
def coarsePosition : Update Position where
  value := { accuratePosition.value with accuracy := {} }
  when := 2500000

/-- The same position without an altitude. -/
def flatPosition : Update Position where
  value := { accuratePosition.value with altitude := none }
  when := 3500000

/-- A heading and a complete position are emitted together. -/
theorem emits_own_at_first_position :
    ∃ r : PositionInfoRun .plain, Reachable r ∧ ∃ info,
      r.emitted[1]? = some info ∧
        QtPositioning.plain.CarriesOwn [.heading ⟨⟨90⟩, 1000000⟩]
          accuratePosition info := by
  obtain ⟨r, h, hprocessed⟩ := exists_reachable (Q := .plain)
    [.heading ⟨⟨90⟩, 1000000⟩, .position accuratePosition]
  have hu : r.processed[1]? = some (.position accuratePosition) := by
    rw [hprocessed]
    rfl
  have hown := emits_own_iff QtPositioning.plain_documented h hu
  rw [hprocessed] at hown
  obtain ⟨info, hinfo, hiff⟩ := hown
  refine ⟨r, h, info, hinfo, hiff.mpr ?_⟩
  exact {
    valid := by decide +kernel
    altitude := rfl
    horizontal := by simp
    vertical := by simp }

/-- A position keeps the accuracy of the one before it, and has the altitude 0
where it should have none. -/
theorem emits_left_over :
    ∃ r : PositionInfoRun .plain, Reachable r ∧
      r.processed = [.position accuratePosition, .position coarsePosition,
        .position flatPosition] ∧
      (∃ info, r.emitted[1]? = some info ∧
        info.attributes .horizontalAccuracy = some 5 ∧
        ¬ QtPositioning.plain.CarriesOwn [.position accuratePosition]
          coarsePosition info) ∧
      ∃ info, r.emitted[2]? = some info ∧ info.coord.alt = 0 ∧
        ¬ QtPositioning.plain.CarriesOwn
          [.position accuratePosition, .position coarsePosition]
          flatPosition info := by
  obtain ⟨r, h, hprocessed⟩ := exists_reachable (Q := .plain)
    [.position accuratePosition, .position coarsePosition,
      .position flatPosition]
  have hemitted := (inv_of_reachable h).emitted
  rw [hprocessed] at hemitted
  refine ⟨r, h, hprocessed, ⟨_, hemitted 1 _ rfl, ?_, ?_⟩,
    ⟨_, hemitted 2 _ rfl, ?_, ?_⟩⟩
  · decide +kernel
  · intro hown
    have hstale := hown.horizontal
    revert hstale
    decide +kernel
  · decide +kernel
  · intro hown
    have hsome := hown.type (by decide +kernel)
    cases hsome

end PositionInfoRun

end LocationService
