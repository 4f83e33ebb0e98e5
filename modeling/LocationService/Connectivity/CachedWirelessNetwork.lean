import LocationService.Connectivity.BoundedIntegerRun
import LocationService.Library.StickyRecord
import LocationService.Library.Text
import LocationService.Values.Position

/-!
# The properties of a cached wireless network

A `CachedWirelessNetwork` asks NetworkManager for the properties of an access
point when it is constructed, and follows the changes that are announced later.
A frequency or a strength out of bounds makes the constructor throw.  In a
change it only leaves the property alone, as does a value of another type.

`after_changes` says that each property is the last one that was acceptable.
-/

namespace LocationService

open Library

/-- `WirelessNetwork::Mode` -/
inductive WirelessMode where
  | unknown
  | adhoc
  | infrastructure
  deriving DecidableEq, Repr

/-- A value in a dictionary of changed properties. -/
inductive NmVariant where
  | string (value : Text)
  | bytes (value : List Int8)
  | byte (value : Int8)
  | uint32 (value : UInt32)
  | int32 (value : Int32)
  | other

/-- What an access point answers to the queries of the constructor. -/
structure AccessPointProperties where
  lastSeen : Int32
  hwAddress : Text
  ssid : List Int8
  mode : UInt32
  frequency : UInt32
  strength : Int8

/-- The properties of `CachedWirelessNetwork`; `lastSeen` in nanoseconds since
the epoch. -/
@[ext] structure CachedWirelessNetwork where
  lastSeen : Int
  bssid : Text
  ssid : Text
  mode : WirelessMode
  frequency : Int
  signalStrength : Int
  deriving DecidableEq

namespace CachedWirelessNetwork

/-- `utf8_ssid_to_string` -/
def utf8SsidToString (ssid : List Int8) : Text :=
  ssid.map fun byte => Char.ofNat byte.toUInt8.toNat

/-- `wifi_mode_from_ap_mode` -/
def wifiModeFromApMode (value : UInt32) : WirelessMode :=
  if value = 0 then .unknown
  else if value = 1 then .adhoc
  else if value = 2 then .infrastructure
  else .unknown

/-- `translate_time_stamp`, for the time when the system booted.  The seconds
are a `std::uint64_t` on the way, and -1 becomes -1 again. -/
def translateTimeStamp (bootTime : Int) (ts : Int32) : Int :=
  bootTime + seconds ts.toInt

/-- `Frequency{static_cast<int>(value)}`; `none` if it throws. -/
def frequencyOf (value : UInt32) : Option Int :=
  frequencyBounds.set value.toInt32.toInt

/-- `SignalStrength{value}`; `none` if it throws. -/
def signalStrengthOf (value : Int8) : Option Int :=
  signalStrengthBounds.set value.toInt

/-- The constructor, which may throw. -/
def construct (bootTime : Int) (ap : AccessPointProperties) :
    Option CachedWirelessNetwork := do
  let frequency ← frequencyOf ap.frequency
  let signalStrength ← signalStrengthOf ap.strength
  return {
    lastSeen := translateTimeStamp bootTime ap.lastSeen
    bssid := ap.hwAddress
    ssid := utf8SsidToString ap.ssid
    mode := wifiModeFromApMode ap.mode
    frequency
    signalStrength }

/-! ## Changed properties -/

/-- The names of the properties. -/
inductive ApProperty where
  | hwAddress
  | ssid
  | strength
  | frequency
  | mode
  | lastSeen
  deriving DecidableEq

/-- The keys of `lut`. -/
def propertyForName (name : String) : Option ApProperty :=
  if name = "HwAddress" then some .hwAddress
  else if name = "Ssid" then some .ssid
  else if name = "Strength" then some .strength
  else if name = "Frequency" then some .frequency
  else if name = "Mode" then some .mode
  else if name = "LastSeen" then some .lastSeen
  else none

/-! What the functions of `lut` assign; `none` if they throw. -/

def readHwAddress : NmVariant → Option Text
  | .string value => some value
  | _ => none

def readSsid : NmVariant → Option Text
  | .bytes value => some (utf8SsidToString value)
  | _ => none

def readStrength : NmVariant → Option Int
  | .byte value => signalStrengthOf value
  | _ => none

def readFrequency : NmVariant → Option Int
  | .uint32 value => frequencyOf value
  | _ => none

def readMode : NmVariant → Option WirelessMode
  | .uint32 value => some (wifiModeFromApMode value)
  | _ => none

def readLastSeen (bootTime : Int) : NmVariant → Option Int
  | .int32 value => some (translateTimeStamp bootTime value)
  | _ => none

/-- One of the functions of `lut`; `none` if it throws. -/
def applyProperty (bootTime : Int) (property : ApProperty) (value : NmVariant)
    (n : CachedWirelessNetwork) : Option CachedWirelessNetwork :=
  match property with
  | .hwAddress => (readHwAddress value).map fun v => { n with bssid := v }
  | .ssid => (readSsid value).map fun v => { n with ssid := v }
  | .strength => (readStrength value).map fun v => { n with signalStrength := v }
  | .frequency => (readFrequency value).map fun v => { n with frequency := v }
  | .mode => (readMode value).map fun v => { n with mode := v }
  | .lastSeen =>
      (readLastSeen bootTime value).map fun v => { n with lastSeen := v }

/-- The body of the loop of `on_access_point_properties_changed`, where every
exception is caught. -/
def onPropertyChanged (bootTime : Int) (n : CachedWirelessNetwork)
    (change : String × NmVariant) : CachedWirelessNetwork :=
  match propertyForName change.1 with
  | some property => (applyProperty bootTime property change.2 n).getD n
  | none => n

/-- `on_access_point_properties_changed` -/
def onAccessPointPropertiesChanged (bootTime : Int)
    (n : CachedWirelessNetwork) (dict : List (String × NmVariant)) :
    CachedWirelessNetwork :=
  dict.foldl (onPropertyChanged bootTime) n

/-! ## What the properties are -/

/-- What a change sets a property to, if it is about that property and
acceptable. -/
def carried {β : Type} (property : ApProperty) (read : NmVariant → Option β)
    (change : String × NmVariant) : Option β :=
  if propertyForName change.1 = some property then read change.2 else none

/-- The last acceptable value of a property in some changes, or else the one it
had before. -/
def latest {β : Type} (property : ApProperty) (read : NmVariant → Option β)
    (changes : List (String × NmVariant)) (before : β) : β :=
  (changes.filterMap (carried property read)).getLast?.getD before

section Parts

variable (bootTime : Int) (n : CachedWirelessNetwork)

/-- A change replaces the property it is about, if it is acceptable, and no
other. -/
theorem onPropertyChanged_eq (change : String × NmVariant) :
    onPropertyChanged bootTime n change =
      { lastSeen :=
          (carried .lastSeen (readLastSeen bootTime) change).getD n.lastSeen
        bssid := (carried .hwAddress readHwAddress change).getD n.bssid
        ssid := (carried .ssid readSsid change).getD n.ssid
        mode := (carried .mode readMode change).getD n.mode
        frequency := (carried .frequency readFrequency change).getD n.frequency
        signalStrength :=
          (carried .strength readStrength change).getD n.signalStrength } := by
  unfold onPropertyChanged carried
  cases propertyForName change.1 with
  | none => rfl
  | some property =>
      cases property with
      | hwAddress => cases hread : readHwAddress change.2 <;>
          simp [applyProperty, hread]
      | ssid => cases hread : readSsid change.2 <;> simp [applyProperty, hread]
      | strength => cases hread : readStrength change.2 <;>
          simp [applyProperty, hread]
      | frequency => cases hread : readFrequency change.2 <;>
          simp [applyProperty, hread]
      | mode => cases hread : readMode change.2 <;> simp [applyProperty, hread]
      | lastSeen => cases hread : readLastSeen bootTime change.2 <;>
          simp [applyProperty, hread]

/-- After any changes, in however many dictionaries, each property has its last
acceptable value. -/
theorem foldl_changes (dicts : List (List (String × NmVariant))) :
    dicts.foldl (onAccessPointPropertiesChanged bootTime) n =
      let changes := dicts.flatten
      { lastSeen :=
          latest .lastSeen (readLastSeen bootTime) changes n.lastSeen
        bssid := latest .hwAddress readHwAddress changes n.bssid
        ssid := latest .ssid readSsid changes n.ssid
        mode := latest .mode readMode changes n.mode
        frequency := latest .frequency readFrequency changes n.frequency
        signalStrength :=
          latest .strength readStrength changes n.signalStrength } := by
  have hflat : dicts.foldl (onAccessPointPropertiesChanged bootTime) n =
      dicts.flatten.foldl (onPropertyChanged bootTime) n := by
    rw [List.foldl_flatten]
    rfl
  have heq := onPropertyChanged_eq bootTime
  rw [hflat]
  ext1
  · exact foldl_part (fun s u => congrArg lastSeen (heq s u)) dicts.flatten n
  · exact foldl_part (fun s u => congrArg bssid (heq s u)) dicts.flatten n
  · exact foldl_part (fun s u => congrArg ssid (heq s u)) dicts.flatten n
  · exact foldl_part (fun s u => congrArg mode (heq s u)) dicts.flatten n
  · exact foldl_part (fun s u => congrArg frequency (heq s u)) dicts.flatten n
  · exact foldl_part (fun s u => congrArg signalStrength (heq s u))
      dicts.flatten n

end Parts

/-- The frequency and the strength are in bounds. -/
structure InBounds (n : CachedWirelessNetwork) : Prop where
  frequency : frequencyBounds.isValid n.frequency = true
  signalStrength : signalStrengthBounds.isValid n.signalStrength = true

theorem isValid_of_set {b : Bounds} {value v : Int} (h : b.set value = some v) :
    b.isValid v = true := by
  rw [Bounds.set_eq] at h
  split at h
  · rename_i hvalid
    rw [← Option.some.inj h]
    exact hvalid
  · cases h

theorem isValid_of_readFrequency {value : NmVariant} {v : Int}
    (h : readFrequency value = some v) : frequencyBounds.isValid v = true := by
  cases value with
  | uint32 value => exact isValid_of_set h
  | _ => cases h

theorem isValid_of_readStrength {value : NmVariant} {v : Int}
    (h : readStrength value = some v) :
    signalStrengthBounds.isValid v = true := by
  cases value with
  | byte value => exact isValid_of_set h
  | _ => cases h

/-- What every acceptable value satisfies, the last one satisfies. -/
theorem latest_of_forall {β : Type} {P : β → Prop} {property : ApProperty}
    {read : NmVariant → Option β}
    (hread : ∀ value v, read value = some v → P v) {before : β}
    (hbefore : P before) (changes : List (String × NmVariant)) :
    P (latest property read changes before) := by
  unfold latest
  cases hlast : (changes.filterMap (carried property read)).getLast? with
  | none => exact hbefore
  | some v =>
      obtain ⟨change, -, hv⟩ :=
        List.mem_filterMap.mp (List.mem_of_getLast? hlast)
      unfold carried at hv
      split at hv
      · exact hread _ _ hv
      · cases hv

theorem construct_eq_some_iff {bootTime : Int} {ap : AccessPointProperties}
    {n : CachedWirelessNetwork} :
    construct bootTime ap = some n ↔
      frequencyBounds.isValid ap.frequency.toInt32.toInt = true ∧
        signalStrengthBounds.isValid ap.strength.toInt = true ∧
        n = ⟨translateTimeStamp bootTime ap.lastSeen, ap.hwAddress,
          utf8SsidToString ap.ssid, wifiModeFromApMode ap.mode,
          ap.frequency.toInt32.toInt, ap.strength.toInt⟩ := by
  unfold construct frequencyOf signalStrengthOf
  rw [Bounds.set_eq, Bounds.set_eq]
  cases frequencyBounds.isValid ap.frequency.toInt32.toInt <;>
    cases signalStrengthBounds.isValid ap.strength.toInt <;>
    simp [eq_comm]

/-- A network is cached exactly if its frequency and strength are in bounds.
They stay so, and after any changes each property is the last acceptable one
that NetworkManager reported, starting with the answer to the constructor. -/
theorem after_changes (bootTime : Int) (ap : AccessPointProperties)
    (dicts : List (List (String × NmVariant))) :
    (construct bootTime ap).map
        (fun n => dicts.foldl (onAccessPointPropertiesChanged bootTime) n) =
      (if frequencyBounds.isValid ap.frequency.toInt32.toInt = true ∧
          signalStrengthBounds.isValid ap.strength.toInt = true then
        let changes := dicts.flatten
        some
          { lastSeen := latest .lastSeen (readLastSeen bootTime) changes
              (translateTimeStamp bootTime ap.lastSeen)
            bssid := latest .hwAddress readHwAddress changes ap.hwAddress
            ssid := latest .ssid readSsid changes (utf8SsidToString ap.ssid)
            mode := latest .mode readMode changes (wifiModeFromApMode ap.mode)
            frequency := latest .frequency readFrequency changes
              ap.frequency.toInt32.toInt
            signalStrength := latest .strength readStrength changes
              ap.strength.toInt }
      else none) ∧
    ∀ n, construct bootTime ap = some n →
      InBounds (dicts.foldl (onAccessPointPropertiesChanged bootTime) n) := by
  constructor
  · split
    · rename_i hvalid
      rw [construct_eq_some_iff.mpr ⟨hvalid.1, hvalid.2, rfl⟩, Option.map_some,
        foldl_changes]
    · rename_i hinvalid
      cases hconstruct : construct bootTime ap with
      | none => rfl
      | some n =>
          have hvalid := construct_eq_some_iff.mp hconstruct
          exact absurd ⟨hvalid.1, hvalid.2.1⟩ hinvalid
  · intro n hn
    obtain ⟨hfrequency, hstrength, rfl⟩ := construct_eq_some_iff.mp hn
    rw [foldl_changes]
    constructor
    · exact latest_of_forall (fun _ _ => isValid_of_readFrequency) hfrequency _
    · exact latest_of_forall (fun _ _ => isValid_of_readStrength) hstrength _

/-- An access point on 6 GHz is not cached, and one that moves there keeps the
frequency it had. -/
example : (construct 0 ⟨0, [], [], 2, 5955, 50⟩ = none) ∧
    (construct 0 ⟨0, [], [], 2, 2412, 50⟩).map (fun n =>
      (onAccessPointPropertiesChanged 0 n
        [("Frequency", .uint32 5955)]).frequency) = some 2412 := by
  decide

end CachedWirelessNetwork

end LocationService
