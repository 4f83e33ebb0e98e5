import LocationService.Codec.Model

/-!
# Decoded coordinates

The constructors of latitudes and longitudes throw for a value that is out of
range.  The codec of a coordinate writes the value behind the constructor's
back, so that a decoded position has the coordinates of the message, whatever
they are.
-/

namespace LocationService

open Library.Wire

/-- The latitude lies in [-90, 90] and the longitude in [-180, 180] degrees. -/
def InRange (latitude longitude : Float) : Prop :=
  -90 ≤ latitude ∧ latitude ≤ 90 ∧ -180 ≤ longitude ∧ longitude ≤ 180

instance (latitude longitude : Float) : Decidable (InRange latitude longitude) :=
  inferInstanceAs (Decidable (_ ∧ _ ∧ _ ∧ _))

/-- The coordinates of a position are in range. -/
def Position.IsInRange (position : Position) : Prop :=
  InRange position.latitude.value.value position.longitude.value.value

instance (position : Position) : Decidable position.IsInRange :=
  inferInstanceAs (Decidable (InRange _ _))

/-- The content of the message starts with a latitude and a longitude that are
in range. -/
def CarriesCoordinatesInRange (content : Reader) : Prop :=
  match content with
  | .floatingPoint latitude :: .floatingPoint longitude :: _ =>
      InRange latitude longitude
  | _ => False

/-- A coordinate is decoded from a number, and keeps it. -/
theorem decodeCoordinate_cases {tag : CoordinateTag} {old c : Coordinate tag}
    {content rest : Reader}
    (h : (decodeArgument old).run content = some (c, rest)) :
    content = .floatingPoint c.value.value :: rest := by
  cases content with
  | nil => cases h
  | cons item tail =>
      cases item with
      | floatingPoint value =>
          obtain ⟨rfl, rfl⟩ := Prod.mk.inj (Option.some.inj h)
          rfl
      | _ => cases h

/-- A position is decoded from a message that starts with its latitude and its
longitude. -/
theorem decodePosition_cases {old position : Position} {content rest : Reader}
    (h : (decodeArgument old).run content = some (position, rest)) :
    ∃ tail, content =
      .floatingPoint position.latitude.value.value ::
        .floatingPoint position.longitude.value.value :: tail := by
  have hrun : (decodePosition old).run content = some (position, rest) := h
  unfold decodePosition at hrun
  simp only [StateT.run_bind, Option.bind_eq_bind,
    Option.bind_eq_some_iff] at hrun
  obtain ⟨⟨latitude, afterLatitude⟩, hlatitude, hrun⟩ := hrun
  obtain ⟨⟨longitude, tail⟩, hlongitude, hrun⟩ := hrun
  obtain ⟨_, -, _, -, _, -, hreturn⟩ := hrun
  obtain ⟨rfl, -⟩ := Prod.mk.inj (Option.some.inj hreturn)
  have hsecond : afterLatitude =
      .floatingPoint longitude.value.value :: tail :=
    decodeCoordinate_cases hlongitude
  rw [decodeCoordinate_cases hlatitude, hsecond]
  exact ⟨tail, rfl⟩

theorem position_inRange_iff {old position : Position} {content rest : Reader}
    (h : (decodeArgument old).run content = some (position, rest)) :
    position.IsInRange ↔ CarriesCoordinatesInRange content := by
  obtain ⟨tail, rfl⟩ := decodePosition_cases h
  rfl

/-- A position decoded from a message, alone or in an update, is in range
exactly if the message carries coordinates that are. -/
theorem decoded_position_inRange_iff (content : Reader) :
    (∀ (rest : Reader) (old position : Position),
      (decodeArgument old).run content = some (position, rest) →
        (position.IsInRange ↔ CarriesCoordinatesInRange content)) ∧
    (∀ (rest : Reader) (old update : Update Position),
      (decodeArgument old).run content = some (update, rest) →
        (update.value.IsInRange ↔ CarriesCoordinatesInRange content)) := by
  constructor
  · intro rest old position h
    exact position_inRange_iff h
  · intro rest old update h
    have hrun : (decodeUpdate old).run content = some (update, rest) := h
    unfold decodeUpdate at hrun
    simp only [StateT.run_bind, Option.bind_eq_bind,
      Option.bind_eq_some_iff] at hrun
    obtain ⟨⟨value, afterValue⟩, hvalue, hrun⟩ := hrun
    obtain ⟨_, -, hreturn⟩ := hrun
    obtain ⟨rfl, -⟩ := Prod.mk.inj (Option.some.inj hreturn)
    exact position_inRange_iff hvalue

/-- A message that carries an update with coordinates in range. -/
def updateMessage : Reader :=
  [.floatingPoint 48, .floatingPoint 11, .boolean false, .boolean false,
    .boolean false, .int64 1000]

theorem decoded_position_inRange_iff_updateMessage :
    ∃ update : Update Position,
      (decodeArgument (⟨{}, 0⟩ : Update Position)).run updateMessage =
        some (update, []) ∧ update.value.IsInRange := by
  have hdecode : (decodeArgument (⟨{}, 0⟩ : Update Position)).run
      updateMessage =
        some (⟨{ latitude := ⟨⟨48⟩⟩, longitude := ⟨⟨11⟩⟩ }, 1000⟩, []) := rfl
  have hiff :=
    (decoded_position_inRange_iff updateMessage).2 _ _ _ hdecode
  have hcarries : CarriesCoordinatesInRange updateMessage := by
    show InRange 48 11
    decide +kernel
  exact ⟨_, hdecode, hiff.mpr hcarries⟩

/-- A message with a latitude of 91 degrees is decoded, to a latitude that the
constructor refuses. -/
theorem latitude_out_of_range_decoded :
    ∃ position : Position,
      (decodeArgument ({} : Position)).run
        [.floatingPoint 91, .floatingPoint 11, .boolean false, .boolean false,
          .boolean false] = some (position, []) ∧
        ¬ position.IsInRange ∧
          Coordinate.construct position.latitude.value =
            .error "Latitude(coordinate.value() > max())" := by
  refine ⟨{ latitude := ⟨⟨91⟩⟩, longitude := ⟨⟨11⟩⟩ }, rfl, ?_, ?_⟩
  · decide +kernel
  · rfl

end LocationService
