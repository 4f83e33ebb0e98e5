import LocationService.Engine.UpdatePolicy
import LocationService.Library.FloatFormat
import LocationService.Provider.Fusion
import LocationService.Values.Haversine

/-!
# Locations of the driver, there and back

`on_location_update` turns a location that the driver reports into up to three
signals, one for each thing that its flags say it has.  `gps::Provider` stamps
what it gets.  A position that becomes the reference location of the engine is
handed to all providers, and `gps::Provider` injects it into the chip, which so
may get back what it reported.

A location crosses two formats on its way: the driver has the accuracy as a
`float`, a position as a `double`.

## Main results

* `onLocationUpdate_isOk_iff` — when the callback returns.
* `injectReferencePosition_position` — what comes back of a location.
* `injected_was_reported` — where the injected locations of a run are from.
-/

namespace LocationService

open Library FloatFormat

/-! ## Locations of the driver -/

/-- What the flags of a location may say it has. -/
inductive LocationFlag where
  | latLong
  | altitude
  | speed
  | bearing
  | accuracy
  deriving DecidableEq, Repr

/-- `UHardwareGpsLocation` -/
structure UHardwareGpsLocation where
  flags : LocationFlag → Bool
  latitude : Float
  longitude : Float
  altitude : Float
  speed : Float32
  bearing : Float32
  accuracy : Float32

/-- What `android::HardwareAbstractionLayer` emits for a location. -/
inductive LocationSignal where
  | position (pos : Position)
  | velocity (v : Velocity)
  | heading (h : Heading)

/-- The slots of `gps::Provider` make an update of a signal, each at its own
reading of the clock. -/
def LocationSignal.update (now : Stream → Int64) : LocationSignal → ProviderUpdate
  | .position pos => .position (.ofValue pos (now .position))
  | .velocity v => .velocity (.ofValue v (now .velocity))
  | .heading v => .heading (.ofValue v (now .heading))

namespace UHardwareGpsLocation

/-- The position of a location that has a latitude and a longitude.  Their
constructors may throw. -/
def position (location : UHardwareGpsLocation) : Except String Position := do
  let latitude : Latitude ← Coordinate.construct ⟨location.latitude⟩
  let longitude : Longitude ← Coordinate.construct ⟨location.longitude⟩
  let horizontal :=
    if location.flags .accuracy then some ⟨widen location.accuracy⟩ else none
  let altitude ←
    if location.flags .altitude then
      some <$> Coordinate.construct ⟨location.altitude⟩
    else pure none
  return {
    latitude := latitude
    longitude := longitude
    altitude := altitude
    -- the driver has no accuracy for an altitude
    accuracy := { horizontal := horizontal } }

/-- `on_location_update`: what it emits, in this order. -/
def onLocationUpdate (location : UHardwareGpsLocation) :
    Except String (List LocationSignal) := do
  let position ←
    if location.flags .latLong then
      (fun pos => [.position pos]) <$> location.position
    else pure []
  let velocity :=
    if location.flags .speed then [.velocity ⟨widen location.speed⟩] else []
  let heading :=
    if location.flags .bearing then [.heading ⟨widen location.bearing⟩] else []
  return position ++ velocity ++ heading

end UHardwareGpsLocation

/-- `inject_reference_position`, over the memory that `loc` is made in: most of
its members are never set. -/
def injectReferencePosition (memory : UHardwareGpsLocation)
    (position : Position) : UHardwareGpsLocation :=
  let loc := { memory with
    flags := fun flag => flag = .latLong
    latitude := position.latitude.value.value
    longitude := position.longitude.value.value }
  match position.accuracy.horizontal with
  | none => loc
  | some accuracy =>
      { loc with
        flags := fun flag => loc.flags flag || flag = .accuracy
        accuracy := narrow accuracy.value }

/-! ## What a location becomes -/

namespace UHardwareGpsLocation

/-- The position of a location with coordinates that are not out of range. -/
def toPosition (location : UHardwareGpsLocation) : Position where
  latitude := ⟨⟨location.latitude⟩⟩
  longitude := ⟨⟨location.longitude⟩⟩
  altitude :=
    if location.flags .altitude then some ⟨⟨location.altitude⟩⟩ else none
  accuracy := {
    horizontal :=
      if location.flags .accuracy then some ⟨widen location.accuracy⟩
      else none }

/-- The coordinates are not out of range; but they may be no numbers. -/
def NotOutOfRange (location : UHardwareGpsLocation) : Prop :=
  (¬ location.latitude < -90 ∧ ¬ 90 < location.latitude) ∧
    (¬ location.longitude < -180 ∧ ¬ 180 < location.longitude)

instance (location : UHardwareGpsLocation) : Decidable location.NotOutOfRange :=
  inferInstanceAs (Decidable (_ ∧ _))

/-- The constructor of a coordinate returns it or throws. -/
theorem construct_cases {tag : CoordinateTag} (value : Quantity tag.unit) :
    ((checkAndThrowIfInvalid tag value).isOk ∧
        Coordinate.construct value = .ok ⟨value⟩) ∨
      (¬ (checkAndThrowIfInvalid tag value).isOk ∧
        ∃ what, Coordinate.construct value = .error what) := by
  unfold Coordinate.construct
  cases hcheck : checkAndThrowIfInvalid tag value with
  | ok _ => exact .inl ⟨rfl, rfl⟩
  | error what => exact .inr ⟨Bool.false_ne_true, what, rfl⟩

theorem position_cases (location : UHardwareGpsLocation) :
    (location.NotOutOfRange ∧ location.position = .ok location.toPosition) ∨
      (¬ location.NotOutOfRange ∧ ∃ what, location.position = .error what) := by
  have hlat := @construct_cases .latitude ⟨location.latitude⟩
  have hlon := @construct_cases .longitude ⟨location.longitude⟩
  have hlatRange : (checkAndThrowIfInvalid .latitude
      ⟨location.latitude⟩).isOk ↔ _ := checkBounds_iff _ _ _ _
  have hlonRange : (checkAndThrowIfInvalid .longitude
      ⟨location.longitude⟩).isOk ↔ _ := checkBounds_iff _ _ _ _
  rw [hlatRange] at hlat
  rw [hlonRange] at hlon
  unfold position
  rcases hlat with ⟨hlat, heq⟩ | ⟨hlat, what, herror⟩
  · rcases hlon with ⟨hlon, heq'⟩ | ⟨hlon, what, herror⟩
    · refine .inl ⟨⟨hlat, hlon⟩, ?_⟩
      rw [heq, heq']
      cases haltitude : location.flags .altitude with
      | true => simp [toPosition, haltitude]; rfl
      | false => simp [toPosition, haltitude]; rfl
    · refine .inr ⟨fun h => hlon h.2, what, ?_⟩
      rw [heq, herror]
      rfl
  · refine .inr ⟨fun h => hlat h.1, what, ?_⟩
    rw [herror]
    rfl

/-- What a callback that returns has emitted. -/
def signals (location : UHardwareGpsLocation) : List LocationSignal :=
  (if location.flags .latLong then [.position location.toPosition] else []) ++
    (if location.flags .speed then [.velocity ⟨widen location.speed⟩] else []) ++
    (if location.flags .bearing then [.heading ⟨widen location.bearing⟩] else [])

/-- The callback emits everything, or throws before it emits anything. -/
theorem onLocationUpdate_cases (location : UHardwareGpsLocation) :
    ((location.flags .latLong = true → location.NotOutOfRange) ∧
        location.onLocationUpdate = .ok location.signals) ∨
      (¬ (location.flags .latLong = true → location.NotOutOfRange) ∧
        ∃ what, location.onLocationUpdate = .error what) := by
  unfold onLocationUpdate signals
  cases hlatLong : location.flags .latLong with
  | false =>
      left
      constructor
      · intro h
        cases h
      · rfl
  | true =>
      rcases location.position_cases with ⟨hrange, heq⟩ | ⟨hrange, what, herror⟩
      · refine .inl ⟨fun _ => hrange, ?_⟩
        simp only [if_true, heq]
        rfl
      · refine .inr ⟨fun h => hrange (h rfl), what, ?_⟩
        simp only [if_true, herror]
        rfl

/-- The callback returns unless the location has coordinates that are out of
range. -/
theorem onLocationUpdate_isOk_iff (location : UHardwareGpsLocation) :
    location.onLocationUpdate.isOk ↔
      (location.flags .latLong = true → location.NotOutOfRange) := by
  rcases location.onLocationUpdate_cases with ⟨h, heq⟩ | ⟨h, what, herror⟩
  · exact iff_of_true (by rw [heq]; rfl) h
  · refine iff_of_false ?_ h
    rw [herror]
    exact Bool.false_ne_true

/-- A position that is emitted is that of a location that has one. -/
theorem of_mem_signals (location : UHardwareGpsLocation) {now : Stream → Int64}
    {u : Update Position}
    (h : .position u ∈ location.signals.map (LocationSignal.update now)) :
    location.flags .latLong = true ∧ location.toPosition = u.value := by
  obtain ⟨signal, hsignal, hupdate⟩ := List.mem_map.mp h
  unfold signals at hsignal
  cases signal with
  | position pos =>
      cases hupdate
      cases hlatLong : location.flags .latLong with
      | true => simp_all [Update.ofValue]
      | false => simp_all
  | velocity v => cases hupdate
  | heading v => cases hupdate

/-- A location has the coordinates of another one, and its accuracy if that has
one, and says so. -/
structure SamePlace (loc location : UHardwareGpsLocation) : Prop where
  flags : ∀ flag, loc.flags flag = true ↔
    flag = .latLong ∨ flag = .accuracy ∧ location.flags .accuracy = true
  latitude : loc.latitude = location.latitude
  longitude : loc.longitude = location.longitude
  accuracy : location.flags .accuracy = true →
    loc.accuracy = location.accuracy

/-- A reported place comes back as it was, with the same bits. -/
theorem injectReferencePosition_toPosition
    (memory location : UHardwareGpsLocation) :
    (injectReferencePosition memory location.toPosition).SamePlace location := by
  cases haccuracy : location.flags .accuracy with
  | true =>
      simp only [injectReferencePosition, toPosition, haccuracy, if_true]
      exact {
        flags := by simp [haccuracy]
        latitude := rfl
        longitude := rfl
        accuracy := fun _ => narrow_widen location.accuracy }
  | false =>
      simp only [injectReferencePosition, toPosition, haccuracy,
        Bool.false_eq_true, if_false]
      exact {
        flags := by simp [haccuracy]
        latitude := rfl
        longitude := rfl
        accuracy := by simp [haccuracy] }

end UHardwareGpsLocation

/-! ## The reference location comes back to the chip -/

/-- An engine with a `gps::Provider`: the reference location, what was reported
by the driver and what by other providers, and what was injected into the chip,
the newest first.  An exception that leaves a callback of the driver ends the
process. -/
structure ReferenceFeedback where
  reference : ReferenceLocation
  reported : List UHardwareGpsLocation := []
  others : List (Update Position) := []
  injected : List UHardwareGpsLocation := []
  terminated : Bool := false

/-- The driver reports a location, which `gps::Provider` stamps, or another
provider emits a position. -/
inductive FeedbackEvent where
  | located (location : UHardwareGpsLocation) (now : Stream → Int64)
  | position (update : Update Position)

namespace ReferenceFeedback

def init (limit now : Int64) : ReferenceFeedback where
  reference := .init limit now

/-- A position reaches the engine.  If it leads to a new reference location, that
is injected. -/
def submit (memory : UHardwareGpsLocation) (update : Update Position)
    (s : ReferenceFeedback) : ReferenceFeedback :=
  let reference := s.reference.submit update
  let announced := reference.published.take
    (reference.published.length - s.reference.published.length)
  { s with
    reference := reference
    injected := announced.map (fun u => injectReferencePosition memory u.value)
      ++ s.injected }

/-- An update of `gps::Provider` reaches the engine.  Only positions concern the
reference location. -/
def onUpdate (memory : UHardwareGpsLocation) (s : ReferenceFeedback) :
    ProviderUpdate → ReferenceFeedback
  | .position u => s.submit memory u
  | .heading _ | .velocity _ => s

/-- `memory` is what the injected location is made in. -/
def next : FeedbackEvent × UHardwareGpsLocation → ReferenceFeedback →
    ReferenceFeedback
  | (.located location now, memory), s =>
      if s.terminated then s
      else
        match location.onLocationUpdate with
        | .error _ => { s with terminated := true }
        | .ok emitted =>
            (emitted.map (LocationSignal.update now)).foldl (onUpdate memory)
              { s with reported := location :: s.reported }
  | (.position update, memory), s =>
      if s.terminated then s
      else { s with others := update :: s.others }.submit memory update

end ReferenceFeedback

/-! ## Where a reference location is from -/

namespace ReferenceLocation

open TimeBasedUpdatePolicy

/-- The first update counted as more than the limit older than the construction.
It was, if the clock is past the epoch and can count the limit. -/
def RejectedFirst (limit now : Int64) (s : ReferenceLocation) : Prop :=
  ∃ first, s.submitted.getLast? = some first ∧
    isSignificantlyOlder (.ofValue ({} : Position) now) first limit = true ∧
    (0 ≤ now.toInt → FitsTicks (minutes limit.toInt) →
      first.nanoseconds + minutes limit.toInt < now.toInt)

theorem RejectedFirst.submit {limit now : Int64} {s : ReferenceLocation}
    (h : RejectedFirst limit now s) (update : Update Position) :
    RejectedFirst limit now (s.submit update) := by
  obtain ⟨first, hfirst, hold⟩ := h
  refine ⟨first, ?_, hold⟩
  rw [submit_submitted]
  cases hsubmitted : s.submitted with
  | nil =>
      rw [hsubmitted] at hfirst
      cases hfirst
  | cons u us => rw [List.getLast?_cons_cons, ← hsubmitted, hfirst]

/-- A location was submitted, or is the one that the policy was made with, and
then the first update was rejected. -/
def Stems (limit now : Int64) (s : ReferenceLocation)
    (u : Update Position) : Prop :=
  u ∈ s.submitted ∨ u = .ofValue {} now ∧ RejectedFirst limit now s

theorem Stems.submit {limit now : Int64} {s : ReferenceLocation}
    {u : Update Position} (h : Stems limit now s u) (update : Update Position) :
    Stems limit now (s.submit update) u := by
  rcases h with hmem | ⟨heq, hrejected⟩
  · left
    rw [submit_submitted]
    exact List.mem_cons_of_mem _ hmem
  · exact .inr ⟨heq, hrejected.submit update⟩

structure Known (limit now : Int64) (s : ReferenceLocation) : Prop where
  policyLimit : s.policy.limit = limit
  last : Stems limit now s s.policy.lastPositionUpdate ∨
    s.submitted = [] ∧ s.policy.lastPositionUpdate = .ofValue {} now
  published : ∀ u ∈ s.published, Stems limit now s u

theorem Known.init (limit now : Int64) : Known limit now (init limit now)
    where
  policyLimit := rfl
  last := .inr ⟨rfl, rfl⟩
  published := by
    intro u hu
    cases hu

/-- The policy returns an update that was submitted.  Otherwise the one that it
was made with is compared with a first update, which is too old for it. -/
theorem Known.stems_verified {limit now : Int64} {s : ReferenceLocation}
    (h : Known limit now s) (update : Update Position) :
    Stems limit now (s.submit update) (s.policy.verifyUpdate update).2 := by
  by_cases huses : s.policy.usesNewUpdate update = true
  · rw [verifyUpdate_of_uses huses]
    left
    rw [submit_submitted]
    exact List.mem_cons_self
  · rw [verifyUpdate_of_not_uses huses]
    rcases h.last with hstems | ⟨hnil, hlast⟩
    · exact hstems.submit update
    · right
      have hinaccurate :
          s.policy.lastPositionUpdate.value.accuracy.horizontal = none := by
        rw [hlast]
        rfl
      rw [usesNewUpdate_of_inaccurate hinaccurate, not_or, Bool.not_eq_false,
        h.policyLimit, hlast] at huses
      have hexact := @older_of_isSignificantlyOlder _
        (.ofValue ({} : Position) now) update limit
      refine ⟨hlast, update, ?_, huses.2,
        fun hnow hlimit => hexact hnow hlimit huses.2⟩
      rw [submit_submitted, hnil]
      rfl

theorem Known.submit {limit now : Int64} {s : ReferenceLocation}
    (h : Known limit now s) (update : Update Position) :
    Known limit now (s.submit update) where
  policyLimit := by rw [submit_policy, verifyUpdate_limit, h.policyLimit]
  last := by
    left
    rw [submit_policy, ← verifyUpdate_snd]
    exact h.stems_verified update
  published := by
    intro u hu
    rcases mem_published_of_set hu with heq | hold
    · rw [heq]
      exact h.stems_verified update
    · exact (h.published u hold).submit update

/-- Published locations stay published. -/
theorem published_submit (s : ReferenceLocation) (update : Update Position) :
    s.published <:+ (s.submit update).published := by
  unfold submit setLastKnownLocation
  dsimp only
  split
  · exact List.suffix_rfl
  · exact List.suffix_cons _ _

end ReferenceLocation

/-! ## Where an injected location is from -/

namespace ReferenceFeedback

open ReferenceLocation UHardwareGpsLocation

/-- An update was emitted by another provider, or has the place of a location
that the driver reported. -/
def Arrived (s : ReferenceFeedback) (u : Update Position) : Prop :=
  u ∈ s.others ∨ ∃ location ∈ s.reported, location.flags .latLong = true ∧
    location.toPosition = u.value

structure Inv (limit now : Int64) (s : ReferenceFeedback) : Prop where
  known : Known limit now s.reference
  submitted : ∀ u ∈ s.reference.submitted, s.Arrived u
  injected : List.Forall₂
    (fun loc u => ∃ memory, loc = injectReferencePosition memory u.value)
    s.injected s.reference.published

theorem Inv.init (limit now : Int64) : (init limit now).Inv limit now
    where
  known := .init limit now
  submitted := by
    intro u hu
    cases hu
  injected := .nil

variable {limit now : Int64} {s : ReferenceFeedback}

theorem Inv.submit (h : s.Inv limit now) (memory : UHardwareGpsLocation)
    {update : Update Position} (harrived : s.Arrived update) :
    (s.submit memory update).Inv limit now where
  known := h.known.submit update
  submitted := by
    intro u hu
    have hmem : u ∈ (s.reference.submit update).submitted := hu
    rw [submit_submitted] at hmem
    rcases List.mem_cons.mp hmem with heq | hold
    · exact heq ▸ harrived
    · exact h.submitted u hold
  injected := by
    obtain ⟨announced, hannounced⟩ := published_submit s.reference update
    have htake : (s.reference.submit update).published.take
        ((s.reference.submit update).published.length -
          s.reference.published.length) = announced := by
      rw [← hannounced, List.length_append, Nat.add_sub_cancel,
        List.take_left]
    show List.Forall₂ _ (List.map _ (List.take _ _) ++ s.injected)
      (s.reference.submit update).published
    rw [htake, ← hannounced]
    apply List.rel_append _ h.injected
    rw [List.forall₂_map_left_iff, List.forall₂_same]
    intro u _
    exact ⟨memory, rfl⟩

/-- The updates of a callback are for a location that was reported. -/
theorem Inv.foldl_onUpdate (h : s.Inv limit now)
    (memory : UHardwareGpsLocation) {updates : List ProviderUpdate}
    (harrived : ∀ u, .position u ∈ updates → s.Arrived u) :
    (updates.foldl (onUpdate memory) s).Inv limit now := by
  induction updates generalizing s with
  | nil => exact h
  | cons update updates ih =>
      rw [List.foldl_cons]
      have htail : ∀ u, .position u ∈ updates → s.Arrived u :=
        fun u hu => harrived u (List.mem_cons_of_mem _ hu)
      cases update with
      | position u =>
          exact ih (h.submit memory (harrived u List.mem_cons_self)) htail
      | heading v => exact ih h htail
      | velocity v => exact ih h htail

theorem Inv.located (h : s.Inv limit now) (location : UHardwareGpsLocation) :
    Inv limit now { s with reported := location :: s.reported } where
  known := h.known
  submitted := by
    intro u hu
    rcases h.submitted u hu with hother | ⟨r, hr, hflag, hpos⟩
    · exact .inl hother
    · exact .inr ⟨r, List.mem_cons_of_mem _ hr, hflag, hpos⟩
  injected := h.injected

theorem Inv.position (h : s.Inv limit now) (update : Update Position) :
    Inv limit now { s with others := update :: s.others } where
  known := h.known
  submitted := by
    intro u hu
    rcases h.submitted u hu with hother | hreported
    · exact .inl (List.mem_cons_of_mem _ hother)
    · exact .inr hreported
  injected := h.injected

theorem Inv.next (h : s.Inv limit now)
    (e : FeedbackEvent × UHardwareGpsLocation) :
    (next e s).Inv limit now := by
  obtain ⟨event, memory⟩ := e
  unfold ReferenceFeedback.next
  cases event with
  | located location stamp =>
      dsimp only
      split
      · exact h
      · rcases location.onLocationUpdate_cases with ⟨-, hok⟩ | ⟨-, what, herror⟩
        · rw [hok]
          apply (h.located location).foldl_onUpdate memory
          intro u hu
          refine .inr ⟨location, List.mem_cons_self, ?_⟩
          exact location.of_mem_signals hu
        · rw [herror]
          exact ⟨h.known, h.submitted, h.injected⟩
  | position update =>
      dsimp only
      split
      · exact h
      · exact (h.position update).submit memory (.inl List.mem_cons_self)

/-- The state after some events. -/
abbrev run (limit now : Int64)
    (es : List (FeedbackEvent × UHardwareGpsLocation)) : ReferenceFeedback :=
  Machine.run (init limit now) ReferenceFeedback.next es

theorem inv_run (limit now : Int64)
    (es : List (FeedbackEvent × UHardwareGpsLocation)) :
    (run limit now es).Inv limit now := by
  apply Machine.run_invariant (Inv limit now)
  · exact .init limit now
  · intro e s h
    exact h.next e

/-- Every new reference location is injected once, in order.  What is injected is
the place of a location that the driver reported, with the same bits, or that of
a position of another provider.  Otherwise it is the place without an accuracy
at 0° N, 0° E, and the first position was more than the limit older than the
engine. -/
theorem injected_was_reported (limit now : Int64)
    (es : List (FeedbackEvent × UHardwareGpsLocation)) :
    let s := run limit now es
    List.Forall₂
        (fun loc u => ∃ memory, loc = injectReferencePosition memory u.value)
        s.injected s.reference.published ∧
      ∀ loc ∈ s.injected,
        (∃ location ∈ s.reported, location.flags .latLong = true ∧
          loc.SamePlace location) ∨
        (∃ update ∈ s.others, ∃ memory,
          loc = injectReferencePosition memory update.value) ∨
        (∃ memory, loc = injectReferencePosition memory {}) ∧
          RejectedFirst limit now s.reference := by
  intro s
  have hinv : s.Inv limit now := inv_run limit now es
  refine ⟨hinv.injected, ?_⟩
  intro loc hloc
  obtain ⟨k, hk, rfl⟩ := List.getElem_of_mem hloc
  have hpublished : k < s.reference.published.length :=
    hinv.injected.length_eq ▸ hk
  obtain ⟨memory, hinjected⟩ := hinv.injected.get hk hpublished
  have hstems := hinv.known.published _ (List.getElem_mem hpublished)
  simp only [List.get_eq_getElem] at hinjected
  rw [hinjected]
  rcases hstems with hsubmitted | ⟨heq, hrejected⟩
  · rcases hinv.submitted _ hsubmitted with hother |
      ⟨location, hlocation, hflag, hpos⟩
    · exact .inr (.inl ⟨_, hother, memory, rfl⟩)
    · left
      refine ⟨location, hlocation, hflag, ?_⟩
      rw [← hpos]
      exact injectReferencePosition_toPosition memory location
  · right
    right
    rw [heq]
    exact ⟨⟨memory, rfl⟩, hrejected⟩

end ReferenceFeedback

end LocationService
