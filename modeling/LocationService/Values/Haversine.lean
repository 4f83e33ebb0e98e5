import LocationService.Library.Rounding
import LocationService.Values.Position

/-!
# The distance of two places

`haversine_distance` forms the differences of latitude and longitude as
coordinates again, and the constructor of a coordinate throws outside of the
range of an absolute one.  Two places that lie further apart than that have no
distance.

The trigonometric functions of `boost::units` are parameters.
-/

namespace LocationService

open LocationService.Library

instance {u : UnitOfMeasure} : Sub (Quantity u) :=
  ⟨fun x y => ⟨x.value - y.value⟩⟩

instance {u : UnitOfMeasure} : HDiv (Quantity u) Float (Quantity u) :=
  ⟨fun x y => ⟨x.value / y⟩⟩

instance {u : UnitOfMeasure} : HMul (Quantity u) Float (Quantity u) :=
  ⟨fun x y => ⟨x.value * y⟩⟩

/-- `operator-` of two coordinates.  The left one is subtracted from the right
one. -/
def Coordinate.operatorMinus {tag : CoordinateTag} (lhs rhs : Coordinate tag) :
    Except String (Coordinate tag) :=
  Coordinate.construct (rhs.value - lhs.value)

/-- The mean radius of the earth, in meters. -/
def radiusOfEarth : Quantity .length := ⟨6371 * 1000⟩

section HaversineDistance

variable (sin cos : Quantity .planeAngle → Float)

/-- `haversine_distance` -/
def haversineDistance (p1 p2 : Position) :
    Except String (Quantity .length) := do
  let dLat ← p2.latitude.operatorMinus p1.latitude
  let dLon ← p2.longitude.operatorMinus p1.longitude
  let a := (sin (dLat.value / (2 : Float))).pow 2 +
    (sin (dLon.value / (2 : Float))).pow 2 * cos p1.latitude.value *
      cos p2.latitude.value
  let c := 2 * Float.atan2 a.sqrt (1 - a).sqrt
  return radiusOfEarth * c

end HaversineDistance

/-- The position is on the globe. -/
def Position.Valid (p : Position) : Prop :=
  (-90 ≤ p.latitude.value.value ∧ p.latitude.value.value ≤ 90) ∧
    (-180 ≤ p.longitude.value.value ∧ p.longitude.value.value ≤ 180)

instance (p : Position) : Decidable p.Valid :=
  inferInstanceAs (Decidable (_ ∧ _))

/-- The angle of a coordinate in degrees, as an exact number. -/
def Coordinate.degrees {tag : CoordinateTag} (c : Coordinate tag) : Rat :=
  FloatFormat.exact c.value.value

/-! ## When a coordinate can be constructed -/

theorem checkBounds_iff {u : UnitOfMeasure} (name : String) (min max : Float)
    (q : Quantity u) :
    (checkBounds name min max q).isOk ↔
      ¬ q.value < min ∧ ¬ max < q.value := by
  unfold checkBounds
  by_cases hmin : q.value < min
  · simp [hmin, Except.isOk, Except.toBool]
  · by_cases hmax : q.value > max
    · simp [hmin, hmax, Except.isOk, Except.toBool]
    · simp [hmin, hmax, Except.isOk, Except.toBool]

theorem Coordinate.construct_iff {tag : CoordinateTag} (q : Quantity tag.unit) :
    (Coordinate.construct q : Except String (Coordinate tag)).isOk ↔
      (checkAndThrowIfInvalid tag q).isOk := by
  unfold Coordinate.construct
  cases checkAndThrowIfInvalid tag q <;> exact Iff.rfl

theorem bounds_90 : FloatFormat.Bounds 90 6333186975989760 (-46) where
  isBound :=
    { log2 := by decide +kernel
      even := by decide
      pos := by decide
      min := by decide }
  unpack := rfl
  unpack_neg := rfl
  small := by decide

theorem bounds_180 : FloatFormat.Bounds 180 6333186975989760 (-45) where
  isBound :=
    { log2 := by decide +kernel
      even := by decide
      pos := by decide
      min := by decide }
  unpack := rfl
  unpack_neg := rfl
  small := by decide

/-! ## When a difference is a coordinate -/

theorem Coordinate.operatorMinus_isOk_iff {tag : CoordinateTag}
    (lhs rhs : Coordinate tag) :
    (lhs.operatorMinus rhs).isOk ↔
      (checkAndThrowIfInvalid tag (rhs.value - lhs.value)).isOk :=
  Coordinate.construct_iff _

/-- Latitudes have a difference up to 90 degrees, to the nearest `double`. -/
theorem latitude_minus_isOk_iff {lhs rhs : Latitude}
    (hl : -90 ≤ lhs.value.value ∧ lhs.value.value ≤ 90)
    (hr : -90 ≤ rhs.value.value ∧ rhs.value.value ≤ 90) :
    (lhs.operatorMinus rhs).isOk ↔
      |rhs.degrees - lhs.degrees| ≤ 90 + 1 / 2 ^ 47 := by
  have hbetween := bounds_90.sub_between_iff bounds_90 hr hl
  have hbound : ((6333186975989760 : Nat) : Rat) * 2 ^ (-46 : Int) +
      2 ^ (-46 : Int) / 2 = 90 + 1 / 2 ^ 47 := by norm_num
  rw [hbound] at hbetween
  rw [Coordinate.operatorMinus_isOk_iff]
  exact (checkBounds_iff "Latitude" (-90) 90 _).trans hbetween

/-- Longitudes have a difference up to 180 degrees, to the nearest `double`. -/
theorem longitude_minus_isOk_iff {lhs rhs : Longitude}
    (hl : -180 ≤ lhs.value.value ∧ lhs.value.value ≤ 180)
    (hr : -180 ≤ rhs.value.value ∧ rhs.value.value ≤ 180) :
    (lhs.operatorMinus rhs).isOk ↔
      |rhs.degrees - lhs.degrees| ≤ 180 + 1 / 2 ^ 46 := by
  have hbetween := bounds_180.sub_between_iff bounds_180 hr hl
  have hbound : ((6333186975989760 : Nat) : Rat) * 2 ^ (-45 : Int) +
      2 ^ (-45 : Int) / 2 = 180 + 1 / 2 ^ 46 := by norm_num
  rw [hbound] at hbetween
  rw [Coordinate.operatorMinus_isOk_iff]
  exact (checkBounds_iff "Longitude" (-180) 180 _).trans hbetween

/-- Only the two differences can throw. -/
theorem haversineDistance_isOk_iff (sin cos : Quantity .planeAngle → Float)
    (p1 p2 : Position) :
    (haversineDistance sin cos p1 p2).isOk ↔
      (p2.latitude.operatorMinus p1.latitude).isOk ∧
        (p2.longitude.operatorMinus p1.longitude).isOk := by
  unfold haversineDistance
  cases p2.latitude.operatorMinus p1.latitude with
  | error e =>
      simp [bind, Except.bind, Except.isOk, Except.toBool]
  | ok dLat =>
      cases p2.longitude.operatorMinus p1.longitude <;>
        simp [bind, Except.bind, Except.isOk, Except.toBool, pure, Except.pure]

/-- Two places on the globe have a distance exactly if their latitudes are no
more than 90 degrees apart and their longitudes no more than 180, give or take
the rounding of the difference. -/
theorem haversineDistance_returns_iff (sin cos : Quantity .planeAngle → Float)
    {p1 p2 : Position} (h1 : p1.Valid) (h2 : p2.Valid) :
    (∃ d, haversineDistance sin cos p1 p2 = .ok d) ↔
      |p1.latitude.degrees - p2.latitude.degrees| ≤ 90 + 1 / 2 ^ 47 ∧
        |p1.longitude.degrees - p2.longitude.degrees| ≤ 180 + 1 / 2 ^ 46 := by
  have hlatitude := latitude_minus_isOk_iff h2.1 h1.1
  have hlongitude := longitude_minus_isOk_iff h2.2 h1.2
  have hreturns : (∃ d, haversineDistance sin cos p1 p2 = .ok d) ↔
      (haversineDistance sin cos p1 p2).isOk := by
    cases haversineDistance sin cos p1 p2 <;>
      simp [Except.isOk, Except.toBool]
  rw [hreturns, haversineDistance_isOk_iff, hlatitude, hlongitude]

/-- A pole, and a place on the equator half around the globe. -/
theorem haversineDistance_returns_at_pole :
    ∃ d, haversineDistance (fun q => (q.value * 0.017453292519943295).sin)
      (fun q => (q.value * 0.017453292519943295).cos)
      { latitude := ⟨⟨90⟩⟩, longitude := ⟨⟨-180⟩⟩ }
      { latitude := ⟨⟨0⟩⟩, longitude := ⟨⟨0⟩⟩ } = .ok d :=
  (haversineDistance_returns_iff _ _ (by decide +kernel)
    (by decide +kernel)).mpr (by decide +kernel)

/-- There is no distance between two places at 60 degrees of either
hemisphere. -/
theorem haversineDistance_throws_across_equator :
    ¬ ∀ (sin cos : Quantity .planeAngle → Float) (p1 p2 : Position),
      p1.Valid → p2.Valid → ∃ d, haversineDistance sin cos p1 p2 = .ok d := by
  intro h
  obtain ⟨d, hd⟩ := h (fun q => (q.value * 0.017453292519943295).sin)
    (fun q => (q.value * 0.017453292519943295).cos)
    { latitude := ⟨⟨-60⟩⟩ } { latitude := ⟨⟨60⟩⟩ } (by decide +kernel)
    (by decide +kernel)
  have hthrows : (⟨⟨60⟩⟩ : Latitude).operatorMinus ⟨⟨-60⟩⟩ =
      .error "Latitude(coordinate.value() < min())" := by decide +kernel
  unfold haversineDistance at hd
  simp only [hthrows, bind, Except.bind, reduceCtorEq] at hd

end LocationService
