import LocationService.Connectivity.Roaming
import LocationService.Library.Interruption

/-!
# The characteristics of a connection that goes away

`characteristics_for_connection` collects the flags of the devices in a
variable that the callback of `enumerate_devices` captures by reference, and
catches whatever the enumeration throws.  The comment above the `try` says
that the characteristics are then reset to `none`, but the handler is empty,
and what was collected before the throw is returned.

An exception of the status getter that derives from `std::exception` is caught
for each modem and counts as roaming.  It does not leave the callback and
interrupts nothing.
-/

namespace LocationService

open Library

namespace Characteristics

theorem or_assoc (a b c : Characteristics) :
    a ||| b ||| c = a ||| (b ||| c) :=
  congrArg mk (UInt32.or_assoc a.flags b.flags c.flags)

theorem none_or (a : Characteristics) : none ||| a = a :=
  congrArg mk UInt32.zero_or

theorem or_none (a : Characteristics) : a ||| none = a :=
  congrArg mk UInt32.or_zero

instance : Std.Associative fun a b : Characteristics => a ||| b where
  assoc := or_assoc

instance : Std.LawfulIdentity (fun a b : Characteristics => a ||| b) none where
  left_id := none_or
  right_id := or_none

theorem or_eq_none_iff (a b : Characteristics) :
    a ||| b = none ↔ a = none ∧ b = none := by
  have hmk : ∀ c : Characteristics, c = none ↔ c.flags = 0 := by
    intro c
    exact ⟨congrArg flags, congrArg mk⟩
  rw [hmk, hmk, hmk]
  exact UInt32.or_eq_zero_iff

end Characteristics

/-- What asking a modem for its status comes to. -/
inductive StatusRead where
  | status (value : String)
  | stdException
  | otherException
  deriving DecidableEq

/-- What the calls made for a device come to: the locking of the cache, the
type (`none` if reading it throws), and for a modem device the locking of the
cache again and the status of every known modem. -/
structure Visit where
  locked : Bool := true
  type : Option DeviceType
  lockedAgain : Bool := true
  statuses : List StatusRead := []
  deriving DecidableEq

namespace StatusRead

/-- The body of the loop over the known modems. -/
def addStatus : StatusRead → Characteristics → Interruptible Characteristics
  | .status value, c =>
      if value = statusRoaming then ⟨c ||| .connectionIsRoaming, false⟩
      else ⟨c, false⟩
  | .stdException, c => ⟨c ||| .connectionIsRoaming, false⟩
  | .otherException, c => ⟨c, true⟩

/-- The modem is roaming, or its status cannot be determined. -/
def countsAsRoaming : StatusRead → Bool
  | .status value => value = statusRoaming
  | .stdException => true
  | .otherException => false

/-- The exception is not caught for the modem. -/
def throws (r : StatusRead) : Bool := r = .otherException

/-- The flags of a modem. -/
def flagsOf (r : StatusRead) : Characteristics :=
  if r.countsAsRoaming then .connectionIsRoaming else .none

end StatusRead

namespace Visit

/-- The callback of `enumerate_devices`. -/
def addVisit (v : Visit) (c : Characteristics) :
    Interruptible Characteristics :=
  if !v.locked then ⟨c, true⟩
  else
    match v.type with
    | none => ⟨c, true⟩
    | some type =>
        if type = .modem then
          let c := c ||| .connectionGoesViaWwan
          if !v.lockedAgain then ⟨c, true⟩
          else
            let r := Interruptible.forEach StatusRead.addStatus v.statuses c
            if r.thrown then r
            else ⟨r.state ||| .allCharacteristics, false⟩
        else if type = .wifi then ⟨c ||| .connectionGoesViaWifi, false⟩
        else ⟨c, false⟩

end Visit

/-- `Private::characteristics_for_connection`, given what the calls made for
the listed devices come to; `none` if reading the list throws. -/
def characteristicsOfVisits : Option (List Visit) → Characteristics
  | .none => .none
  | .some visits => (Interruptible.forEach Visit.addVisit visits .none).state

/-! ## The visits of a connection -/

/-- What a cached copy of a modem answers. -/
def Modem.statusRead (m : Modem) : StatusRead :=
  match m.getStatus with
  | .ok value => .status value
  | .error _ => .stdException

/-- The visit of a device whose type is cached. -/
def visitOf (nmDevices : Std.ExtTreeMap ObjectPath DeviceType)
    (modems : Std.ExtTreeMap ObjectPath Modem) (path : ObjectPath) : Visit where
  type := some (nmDevices[path]?.getD .unknown)
  statuses := modems.toList.map fun pair => pair.2.statusRead

theorem Modem.addStatus_statusRead (m : Modem) (c : Characteristics) :
    m.statusRead.addStatus c = ⟨c.addModem m, false⟩ := by
  unfold Modem.statusRead Characteristics.addModem
  cases m.getStatus with
  | ok value =>
      simp only [StatusRead.addStatus]
      split
      · rfl
      · rfl
  | error e => rfl

variable (nmDevices : Std.ExtTreeMap ObjectPath DeviceType)
  (modems : Std.ExtTreeMap ObjectPath Modem)

theorem addVisit_visitOf (path : ObjectPath) (c : Characteristics) :
    (visitOf nmDevices modems path).addVisit c =
      ⟨c.addDevice nmDevices modems path, false⟩ := by
  have hstatuses : ∀ c : Characteristics,
      Interruptible.forEach StatusRead.addStatus
          (modems.toList.map fun pair => pair.2.statusRead) c =
        ⟨modems.toList.foldl (fun c pair => c.addModem pair.2) c, false⟩ :=
    Interruptible.forEach_map_of_not_thrown
      (fun pair c => Modem.addStatus_statusRead pair.2 c) modems.toList
  unfold Visit.addVisit Characteristics.addDevice
  simp only [visitOf, Bool.not_true, Bool.false_eq_true, if_false, hstatuses]
  split
  · rfl
  · split
    · rfl
    · rfl

/-- Where the cache answers for every device, nothing leaves the callback. -/
theorem characteristicsForConnection_eq (devices : Option (List ObjectPath)) :
    characteristicsForConnection nmDevices modems devices =
      characteristicsOfVisits
        (devices.map (List.map (visitOf nmDevices modems))) := by
  cases devices with
  | none => rfl
  | some devices =>
      have hrun := Interruptible.forEach_map_of_not_thrown
        (addVisit_visitOf nmDevices modems) devices .none
      show _ = (Interruptible.forEach Visit.addVisit
        (devices.map (visitOf nmDevices modems)) .none).state
      rw [hrun]
      rfl

/-! ## What is specified -/

namespace Visit

/-- An exception leaves the callback. -/
def throws (v : Visit) : Bool :=
  !v.locked || v.type = none ||
    v.type = some .modem &&
      (!v.lockedAgain || v.statuses.any StatusRead.throws)

/-- The flags of a device. -/
def flagsOf (v : Visit) : Characteristics :=
  if v.type = some .modem then
    .connectionGoesViaWwan |||
      ((v.statuses.map StatusRead.flagsOf).foldr (· ||| ·) .none |||
        .allCharacteristics)
  else if v.type = some .wifi then .connectionGoesViaWifi
  else .none

/-- An exception is caught for one of the modems. -/
def Catches (v : Visit) : Prop :=
  v.type = some .modem ∧ .stdException ∈ v.statuses

/-- A modem or a wifi device whose type is read. -/
def AddsFlags (v : Visit) : Prop :=
  v.locked = true ∧ (v.type = some .modem ∨ v.type = some .wifi)

end Visit

/-- An exception leaves the enumeration. -/
def Interrupted : Option (List Visit) → Prop
  | .none => True
  | .some visits => ∃ v ∈ visits, v.throws = true

/-- A call throws, whether or not the exception is caught for its modem. -/
def SomeCallThrows : Option (List Visit) → Prop
  | .none => True
  | .some visits => ∃ v ∈ visits, v.throws = true ∨ v.Catches

/-- The flags of all listed devices. -/
def unionOfFlags (visits : List Visit) : Characteristics :=
  (visits.map Visit.flagsOf).foldr (· ||| ·) .none

/-- Devices whose enumeration is disturbed yield no characteristics, and others
the flags of all of them. -/
def AllOrNothing (Disturbed : Option (List Visit) → Prop)
    (devices : Option (List Visit)) : Prop :=
  (Disturbed devices → characteristicsOfVisits devices = .none) ∧
    (¬ Disturbed devices → characteristicsOfVisits devices =
      unionOfFlags (devices.getD []))

/-- No device that the enumeration reaches adds flags if the enumeration is
interrupted. -/
def InterruptedBeforeFlags : Option (List Visit) → Prop
  | .none => True
  | .some visits => (∃ v ∈ visits, v.throws = true) →
      ∀ before v after, visits = before ++ v :: after →
        (∀ u ∈ before, u.throws = false) → ¬ v.AddsFlags

/-! ## What a visit adds -/

theorem StatusRead.addStatus_collects :
    Interruptible.Collects (· ||| ·) flagsOf throws addStatus := by
  intro r c
  have hnone := Characteristics.or_none c
  cases r with
  | status value =>
      by_cases hroaming : value = statusRoaming
      · simp [addStatus, flagsOf, countsAsRoaming, throws, hroaming]
      · simp [addStatus, flagsOf, countsAsRoaming, throws, hroaming, hnone]
  | stdException => rfl
  | otherException =>
      simp [addStatus, flagsOf, countsAsRoaming, throws, hnone]

namespace Visit

/-- What the callback adds to the flags, up to the exception that leaves it. -/
def gain (v : Visit) : Characteristics :=
  if v.locked && v.type = some .modem then
    .connectionGoesViaWwan |||
      if v.lockedAgain then
        ((Interruptible.reached StatusRead.throws v.statuses).map
            StatusRead.flagsOf).foldr (· ||| ·) .none |||
          if v.statuses.any StatusRead.throws then .none
          else .allCharacteristics
      else .none
  else if v.locked && v.type = some .wifi then .connectionGoesViaWifi
  else .none

theorem addVisit_collects :
    Interruptible.Collects (· ||| ·) gain throws addVisit := by
  intro v c
  have hnone := Characteristics.or_none
  have hassoc := Characteristics.or_assoc
  have hstatuses := StatusRead.addStatus_collects.forEach .none v.statuses
  cases hlocked : v.locked with
  | false => simp [addVisit, gain, throws, hlocked, hnone]
  | true =>
      cases htype : v.type with
      | none => simp [addVisit, gain, throws, hlocked, htype, hnone]
      | some type =>
          by_cases hmodem : type = .modem
          · cases hagain : v.lockedAgain with
            | false =>
                simp [addVisit, gain, throws, hlocked, htype, hmodem, hagain,
                  hnone]
            | true =>
                cases hthrows : v.statuses.any StatusRead.throws with
                | true =>
                    simp [addVisit, gain, throws, hlocked, htype, hmodem,
                      hagain, hstatuses, hthrows, hnone, hassoc]
                | false =>
                    simp [addVisit, gain, throws, hlocked, htype, hmodem,
                      hagain, hstatuses, hthrows, hassoc]
          · by_cases hwifi : type = .wifi
            · simp [addVisit, gain, throws, hlocked, htype, hwifi,
                DeviceType.wifi, DeviceType.modem]
            · simp [addVisit, gain, throws, hlocked, htype, hmodem, hwifi,
                hnone]

theorem locked_of_not_throws {v : Visit} (h : v.throws = false) :
    v.locked = true := by
  unfold throws at h
  simp only [Bool.or_eq_false_iff, Bool.not_eq_false'] at h
  exact h.1.1

/-- A callback that no exception leaves adds the flags of the device. -/
theorem gain_of_not_throws {v : Visit} (h : v.throws = false) :
    v.gain = v.flagsOf := by
  have hlocked := locked_of_not_throws h
  by_cases hmodem : v.type = some .modem
  · have hrest : v.lockedAgain = true ∧
        v.statuses.any StatusRead.throws = false := by
      simpa [throws, hlocked, hmodem] using h
    have hstatuses : ∀ r ∈ v.statuses, r.throws = false := by
      simpa using hrest.2
    have hreached := Interruptible.reached_of_none_throws hstatuses
    simp [gain, flagsOf, hlocked, hmodem, hrest, hreached]
  · simp [gain, flagsOf, hlocked, hmodem]

theorem gain_eq_none_iff (v : Visit) : v.gain = .none ↔ ¬ v.AddsFlags := by
  have hwwan : Characteristics.connectionGoesViaWwan ≠ .none := by decide
  have hwifi : Characteristics.connectionGoesViaWifi ≠ .none := by decide
  have hother : DeviceType.wifi ≠ .modem := by decide
  unfold gain AddsFlags
  by_cases hlocked : v.locked = true
  · by_cases hmodem : v.type = some .modem
    · simp [hlocked, hmodem, Characteristics.or_eq_none_iff, hwwan]
    · by_cases hw : v.type = some .wifi
      · simp [hlocked, hw, hwifi, hother]
      · simp [hlocked, hmodem, hw]
  · simp [hlocked]

end Visit

/-! ## The whole enumeration -/

/-- The result holds the flags that the reached devices added. -/
theorem characteristicsOfVisits_eq (visits : List Visit) :
    characteristicsOfVisits (some visits) =
      ((Interruptible.reached Visit.throws visits).map Visit.gain).foldr
        (· ||| ·) .none := by
  have hrun := Visit.addVisit_collects.forEach .none visits .none
  simp only [characteristicsOfVisits, hrun]
  exact Characteristics.none_or _

theorem characteristicsOfVisits_eq_none_iff (visits : List Visit) :
    characteristicsOfVisits (some visits) = .none ↔
      ∀ before v after, visits = before ++ v :: after →
        (∀ u ∈ before, u.throws = false) → ¬ v.AddsFlags := by
  rw [characteristicsOfVisits_eq,
    Interruptible.foldr_eq_unit_iff Characteristics.or_eq_none_iff]
  simp only [Visit.gain_eq_none_iff, Interruptible.mem_reached_iff]
  constructor
  · intro h before v after hsplit hbefore
    exact h v ⟨before, after, hsplit, hbefore⟩
  · rintro h v ⟨before, after, hsplit, hbefore⟩
    exact h before v after hsplit hbefore

theorem not_throws_of_not_interrupted {visits : List Visit}
    (h : ¬ Interrupted (some visits)) : ∀ v ∈ visits, v.throws = false := by
  intro v hv
  cases hthrows : v.throws with
  | false => rfl
  | true => exact absurd ⟨v, hv, hthrows⟩ h

/-- An enumeration that is not interrupted yields the flags of all devices. -/
theorem characteristicsOfVisits_of_not_interrupted {visits : List Visit}
    (h : ¬ Interrupted (some visits)) :
    characteristicsOfVisits (some visits) = unionOfFlags visits := by
  have hthrows := not_throws_of_not_interrupted h
  have hgain : visits.map Visit.gain = visits.map Visit.flagsOf :=
    List.map_congr_left fun v hv => Visit.gain_of_not_throws (hthrows v hv)
  rw [characteristicsOfVisits_eq,
    Interruptible.reached_of_none_throws hthrows, hgain]
  rfl

theorem someCallThrows_of_interrupted {devices : Option (List Visit)}
    (h : Interrupted devices) : SomeCallThrows devices := by
  cases devices with
  | none => trivial
  | some visits =>
      obtain ⟨v, hv, hthrows⟩ := h
      exact ⟨v, hv, .inl hthrows⟩

/-- An exception that is caught for a modem leaves the flags of its device. -/
theorem ne_none_of_caught {visits : List Visit}
    (hcall : SomeCallThrows (some visits))
    (hinterrupted : ¬ Interrupted (some visits)) :
    characteristicsOfVisits (some visits) ≠ .none := by
  intro hnone
  rw [characteristicsOfVisits_eq_none_iff] at hnone
  have hthrows := not_throws_of_not_interrupted hinterrupted
  obtain ⟨v, hv, hv'⟩ := hcall
  have hcatches : v.Catches := by
    cases hv' with
    | inl hthrown =>
        rw [hthrows v hv] at hthrown
        cases hthrown
    | inr hcatches => exact hcatches
  obtain ⟨before, after, hsplit⟩ := List.append_of_mem hv
  have hnot := hnone before v after hsplit fun u hu =>
    hthrows u (by simp [hsplit, hu])
  exact hnot ⟨Visit.locked_of_not_throws (hthrows v hv), .inl hcatches.1⟩

/-- An interrupted enumeration yields no characteristics, and any other one the
flags of all devices, exactly if no device adds flags before the interruption.
With the exceptions counted that are caught for a modem, exactly if there are
none of these without an interruption, either. -/
theorem allOrNothing_iff (devices : Option (List Visit)) :
    (AllOrNothing Interrupted devices ↔ InterruptedBeforeFlags devices) ∧
      (AllOrNothing SomeCallThrows devices ↔
        InterruptedBeforeFlags devices ∧
          (SomeCallThrows devices → Interrupted devices)) := by
  cases devices with
  | none =>
      simp [AllOrNothing, Interrupted, SomeCallThrows, InterruptedBeforeFlags,
        characteristicsOfVisits]
  | some visits =>
      have hiff := characteristicsOfVisits_eq_none_iff visits
      by_cases hinterrupted : Interrupted (some visits)
      · have hcall := someCallThrows_of_interrupted hinterrupted
        have hbefore : InterruptedBeforeFlags (some visits) ↔
            characteristicsOfVisits (some visits) = .none := by
          rw [hiff]
          exact ⟨fun h => h hinterrupted, fun h _ => h⟩
        simp [AllOrNothing, hinterrupted, hcall, hbefore]
      · have hunion :=
          characteristicsOfVisits_of_not_interrupted hinterrupted
        have hbefore : InterruptedBeforeFlags (some visits) :=
          fun hthrows => absurd hthrows hinterrupted
        have hcaught : SomeCallThrows (some visits) →
            characteristicsOfVisits (some visits) ≠ .none :=
          fun hcall => ne_none_of_caught hcall hinterrupted
        simp only [AllOrNothing, Option.getD_some, ← hunion, hbefore,
          hinterrupted, false_imp_iff, not_false_iff,
          true_and, imp_false, implies_true]
        simp only [and_true]
        exact ⟨fun h hcall => hcaught hcall (h hcall),
          fun h hcall => absurd hcall h⟩

/-- The second device goes away before its type is read. -/
theorem interrupted_behind_wifi :
    ¬ ∀ devices, AllOrNothing Interrupted devices := by
  intro hall
  have hnone := (hall (some [{ type := some .wifi }, { type := none }])).1
    ⟨{ type := none }, by decide, by decide⟩
  exact absurd hnone (by decide)

end LocationService
