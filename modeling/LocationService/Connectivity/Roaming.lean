import LocationService.Connectivity.Wifi

/-!
# The characteristics of the active connection

`characteristics_for_connection` walks over the devices of a connection and
describes it by a set of flags.  For a modem device it asks every known modem
for its registration status, and reports a roaming connection if one is
roaming or its status cannot be read.

The question goes to the copy of the modem in the cache.  Only the copy inside
a `CachedRadioCell` ever fetches the properties, so the copy in the cache has
none, and the getter answers with an empty string.
-/

namespace LocationService

/-- `connectivity::Characteristics`, a set of flags. -/
structure Characteristics where
  flags : UInt32
  deriving DecidableEq

namespace Characteristics

def none : Characteristics := ⟨0⟩
def connectionGoesViaWifi : Characteristics := ⟨0x01⟩
def connectionGoesViaWwan : Characteristics := ⟨0x02⟩
def connectionIsRoaming : Characteristics := ⟨0x04⟩
def connectionHasMonetaryCosts : Characteristics := ⟨0x08⟩
def connectionIsVolumeLimited : Characteristics := ⟨0x10⟩
def connectionIsBandwithLimited : Characteristics := ⟨0x20⟩

instance : OrOp Characteristics := ⟨fun a b => ⟨a.flags ||| b.flags⟩⟩

/-- The set has a flag of the other one. -/
def Contains (c flag : Characteristics) : Prop := c.flags &&& flag.flags ≠ 0

instance (c flag : Characteristics) : Decidable (c.Contains flag) :=
  inferInstanceAs (Decidable (_ ≠ _))

theorem or_contains_iff (a b flag : Characteristics) :
    (a ||| b).Contains flag ↔ a.Contains flag ∨ b.Contains flag := by
  have hdistrib : (a.flags ||| b.flags) &&& flag.flags =
      (a.flags &&& flag.flags) ||| (b.flags &&& flag.flags) := by
    apply UInt32.toBitVec_inj.mp
    ext i
    simp [Bool.and_or_distrib_right]
  show (a.flags ||| b.flags) &&& flag.flags ≠ 0 ↔ _
  rw [hdistrib, ne_eq, UInt32.or_eq_zero_iff, not_and_or]
  rfl

/-- `all_characteristics` -/
def allCharacteristics : Characteristics :=
  connectionHasMonetaryCosts ||| connectionIsBandwithLimited |||
    connectionIsVolumeLimited

end Characteristics

/-! ## Modems and their copies -/

/-- `core::dbus::types::Variant`, as far as it holds a string. -/
inductive Variant where
  | string (value : String)
  | other
  deriving DecidableEq

/-- `NetworkRegistration::GetProperties::ValueType` -/
abbrev Properties := Std.ExtTreeMap String Variant

/-- `NetworkRegistration::Status::name()` -/
def statusName : String := "Status"

/-- `NetworkRegistration::Status::roaming` -/
def statusRoaming : String := "roaming"

/-- A copy of `Modem`, with its own map of network registration properties. -/
structure Modem where
  properties : Properties := ∅

/-- `NetworkRegistration::get<Status>(false)`: a missing property is read as an
empty string, and one of another type throws. -/
def Modem.getStatus (m : Modem) : Except Unit String :=
  match m.properties[statusName]? with
  | .none => .ok ""
  | .some (.string value) => .ok value
  | .some .other => .error ()

namespace Characteristics

/-- The body of the loop over the known modems. -/
def addModem (c : Characteristics) (m : Modem) : Characteristics :=
  match m.getStatus with
  | .ok status => if status = statusRoaming then c ||| connectionIsRoaming else c
  | .error _ => c ||| connectionIsRoaming

/-- The body of the loop over the devices of the connection. -/
def addDevice (nmDevices : Std.ExtTreeMap ObjectPath DeviceType)
    (modems : Std.ExtTreeMap ObjectPath Modem) (c : Characteristics)
    (path : ObjectPath) : Characteristics :=
  let type := nmDevices[path]?.getD .unknown
  if type = .modem then
    (modems.toList.foldl (fun c pair => c.addModem pair.2)
      (c ||| connectionGoesViaWwan)) ||| allCharacteristics
  else if type = .wifi then c ||| connectionGoesViaWifi
  else c

end Characteristics

/-- `Private::characteristics_for_connection`, given the devices of the
connection, or `none` if they cannot be enumerated. -/
def characteristicsForConnection
    (nmDevices : Std.ExtTreeMap ObjectPath DeviceType)
    (modems : Std.ExtTreeMap ObjectPath Modem) :
    Option (List ObjectPath) → Characteristics
  | .none => .none
  | .some devices => devices.foldl (.addDevice nmDevices modems) .none

namespace Characteristics

/-- The status of a copy counts as roaming. -/
def CountsAsRoaming (m : Modem) : Prop :=
  m.getStatus = .ok statusRoaming ∨ m.getStatus = .error ()

theorem addModem_roaming_iff (c : Characteristics) (m : Modem) :
    (c.addModem m).Contains connectionIsRoaming ↔
      c.Contains connectionIsRoaming ∨ CountsAsRoaming m := by
  have hflag : connectionIsRoaming.Contains connectionIsRoaming := by decide
  unfold addModem CountsAsRoaming
  cases hstatus : m.getStatus with
  | error e => simp [or_contains_iff, hflag]
  | ok status =>
      by_cases hroaming : status = statusRoaming
      · simp [hroaming, or_contains_iff, hflag]
      · simp [hroaming]

theorem addModems_roaming_iff (pairs : List (ObjectPath × Modem)) :
    ∀ c : Characteristics,
    (pairs.foldl (fun c pair => c.addModem pair.2) c).Contains
        connectionIsRoaming ↔
      c.Contains connectionIsRoaming ∨ ∃ pair ∈ pairs,
        CountsAsRoaming pair.2 := by
  induction pairs with
  | nil =>
      intro c
      simp
  | cons pair pairs ih =>
      intro c
      rw [List.foldl_cons, ih, addModem_roaming_iff, List.exists_mem_cons_iff,
        or_assoc]

variable {nmDevices : Std.ExtTreeMap ObjectPath DeviceType}
  {modems : Std.ExtTreeMap ObjectPath Modem}

theorem addDevice_roaming_iff (c : Characteristics) (path : ObjectPath) :
    (c.addDevice nmDevices modems path).Contains connectionIsRoaming ↔
      c.Contains connectionIsRoaming ∨ nmDevices[path]? = some .modem ∧
        ∃ (p : ObjectPath) (m : Modem),
          modems[p]? = some m ∧ CountsAsRoaming m := by
  have hwwan : ¬ connectionGoesViaWwan.Contains connectionIsRoaming := by decide
  have hwifi : ¬ connectionGoesViaWifi.Contains connectionIsRoaming := by decide
  have hall : ¬ allCharacteristics.Contains connectionIsRoaming := by decide
  have htype : nmDevices[path]?.getD .unknown = .modem ↔
      nmDevices[path]? = some .modem := by
    cases nmDevices[path]? with
    | none => simp [DeviceType.unknown, DeviceType.modem]
    | some type => simp
  have hpairs : (∃ pair ∈ modems.toList, CountsAsRoaming pair.2) ↔
      ∃ (p : ObjectPath) (m : Modem),
        modems[p]? = some m ∧ CountsAsRoaming m := by
    simp only [Prod.exists, Std.ExtTreeMap.mem_toList_iff_getElem?_eq_some]
  unfold addDevice
  simp only [htype]
  by_cases hmodem : nmDevices[path]? = some .modem
  · simp [hmodem, or_contains_iff, addModems_roaming_iff, hwwan, hall, hpairs]
  · by_cases hw : nmDevices[path]?.getD .unknown = .wifi
    · simp [hmodem, hw, or_contains_iff, hwifi]
    · simp [hmodem, hw]

/-- The result is roaming exactly if there is a modem device among the
connection's and the copy of some known modem counts as roaming. -/
theorem roaming_iff (devices : List ObjectPath) :
    (characteristicsForConnection nmDevices modems (some devices)).Contains
        connectionIsRoaming ↔
      (∃ d ∈ devices, nmDevices[d]? = some .modem) ∧
        ∃ (p : ObjectPath) (m : Modem),
          modems[p]? = some m ∧ CountsAsRoaming m := by
  have hfold : ∀ c : Characteristics,
      (devices.foldl (.addDevice nmDevices modems) c).Contains
          connectionIsRoaming ↔
        c.Contains connectionIsRoaming ∨
          (∃ d ∈ devices, nmDevices[d]? = some .modem) ∧
            ∃ (p : ObjectPath) (m : Modem),
              modems[p]? = some m ∧ CountsAsRoaming m := by
    induction devices with
    | nil =>
        intro c
        simp
    | cons d devices ih =>
        intro c
        rw [List.foldl_cons, ih, addDevice_roaming_iff,
          List.exists_mem_cons_iff, or_assoc, or_and_right]
  have hnone : ¬ Characteristics.none.Contains connectionIsRoaming := by decide
  have hiff := hfold .none
  simp only [hnone, false_or] at hiff
  exact hiff

end Characteristics

/-! ## What the copies know -/

/-- What happens to modems.  A refresh is a copy's call of `GetProperties`,
which may fail. -/
inductive ModemEvent where
  | reported (path : ObjectPath) (properties : Properties)
  | modemAdded (path : ObjectPath)
  | modemRemoved (path : ObjectPath)
  | cellCreated (path : ObjectPath)
  | cellRefreshed (path : ObjectPath) (succeeds : Bool)

/-- What ofono has last reported, the cached modems, and the copies inside the
cached radio cells. -/
structure ModemCopies where
  ofono : Std.ExtTreeMap ObjectPath Properties := ∅
  modems : Std.ExtTreeMap ObjectPath Modem := ∅
  cells : Std.ExtTreeMap ObjectPath Modem := ∅

namespace ModemCopies

/-- `NetworkRegistration::refresh_properties` on the copy inside a cell. -/
def refresh (path : ObjectPath) (succeeds : Bool) (s : ModemCopies) :
    ModemCopies :=
  match s.cells[path]?, succeeds with
  | some m, true =>
      { s with
        cells := s.cells.insert path
          { m with properties := s.ofono[path]?.getD ∅ } }
  | _, _ => s

/-- `Private::on_modem_added` copies the modem into the cache and into its
cell. -/
def onModemAdded (path : ObjectPath) (s : ModemCopies) : ModemCopies :=
  if path ∈ s.modems then s
  else
    { s with
      modems := s.modems.insert path {}
      cells := s.cells.insertIfNew path {} }

/-- A lost cell is made anew with a copy of the cached modem. -/
def createCell (path : ObjectPath) (s : ModemCopies) : ModemCopies :=
  match s.modems[path]? with
  | some m => { s with cells := s.cells.insertIfNew path m }
  | none => s

def next : ModemEvent → ModemCopies → ModemCopies
  | .reported path properties, s =>
      { s with ofono := s.ofono.insert path properties }
  | .modemAdded path, s => s.onModemAdded path
  | .modemRemoved path, s =>
      { s with
        modems := s.modems.erase path
        cells := s.cells.erase path }
  | .cellCreated path, s => s.createCell path
  | .cellRefreshed path succeeds, s => s.refresh path succeeds

/-- The copies after a sequence of events. -/
def run (events : List ModemEvent) : ModemCopies :=
  events.foldl (fun s e => next e s) {}

/-- The status of a modem that ofono has last reported, if it can be
determined. -/
def lastStatus (s : ModemCopies) (path : ObjectPath) : Option String :=
  match (s.ofono[path]?.getD ∅)[statusName]? with
  | some (.string value) => some value
  | _ => none

/-- The connection has a modem device, and some known modem is roaming or of
undetermined status. -/
def MustReportRoaming (s : ModemCopies)
    (nmDevices : Std.ExtTreeMap ObjectPath DeviceType)
    (devices : List ObjectPath) : Prop :=
  (∃ d ∈ devices, nmDevices[d]? = some .modem) ∧
    ∃ p ∈ s.modems, s.lastStatus p = some statusRoaming ∨
      s.lastStatus p = none

/-- The cached copy of a modem never gets any properties. -/
def Blank (s : ModemCopies) : Prop :=
  ∀ (path : ObjectPath) (m : Modem), s.modems[path]? = some m →
    m.properties = ∅

theorem Blank.next {s : ModemCopies} (h : s.Blank) (e : ModemEvent) :
    (next e s).Blank := by
  cases e with
  | reported path properties => exact h
  | modemAdded path =>
      show (s.onModemAdded path).Blank
      unfold onModemAdded
      split
      · exact h
      · intro p m hp
        rw [Std.ExtTreeMap.getElem?_insert] at hp
        split at hp
        · have heq : ({} : Modem) = m := Option.some.inj hp
          rw [← heq]
        · exact h p m hp
  | modemRemoved path =>
      intro p m hp
      have hm : (s.modems.erase path)[p]? = some m := hp
      rw [Std.ExtTreeMap.getElem?_erase] at hm
      split at hm
      · cases hm
      · exact h p m hm
  | cellCreated path =>
      show (s.createCell path).Blank
      unfold createCell
      split
      · exact h
      · exact h
  | cellRefreshed path succeeds =>
      show (s.refresh path succeeds).Blank
      unfold refresh
      split
      · exact h
      · exact h

theorem blank_run (events : List ModemEvent) : (run events).Blank := by
  have hfold : ∀ s : ModemCopies, s.Blank →
      (events.foldl (fun s e => ModemCopies.next e s) s).Blank := by
    induction events with
    | nil =>
        intro s h
        exact h
    | cons e events ih =>
        intro s h
        exact ih _ (h.next e)
  apply hfold
  intro path m hm
  simp at hm

/-- No connection is ever reported as roaming. -/
theorem Blank.not_roaming {s : ModemCopies} (h : s.Blank)
    (nmDevices : Std.ExtTreeMap ObjectPath DeviceType)
    (devices : List ObjectPath) :
    ¬ (characteristicsForConnection nmDevices s.modems (some devices)).Contains
      .connectionIsRoaming := by
  rw [Characteristics.roaming_iff]
  rintro ⟨-, p, m, hm, hcounts⟩
  have hstatus : m.getStatus = .ok "" := by
    simp [Modem.getStatus, h p m hm]
  rcases hcounts with hcounts | hcounts
  · rw [hstatus] at hcounts
    have hempty : "" = statusRoaming := Except.ok.inj hcounts
    exact absurd hempty (by decide)
  · rw [hstatus] at hcounts
    cases hcounts

/-- Roaming is reported as it must be exactly if the connection has no modem
device or every known modem has a determined status other than roaming. -/
theorem roaming_reported_iff (events : List ModemEvent)
    (nmDevices : Std.ExtTreeMap ObjectPath DeviceType)
    (devices : List ObjectPath) :
    ((characteristicsForConnection nmDevices (run events).modems
        (some devices)).Contains .connectionIsRoaming ↔
      (run events).MustReportRoaming nmDevices devices) ↔
    ((∀ d ∈ devices, nmDevices[d]? ≠ some DeviceType.modem) ∨
      ∀ p ∈ (run events).modems, ∃ status,
        (run events).lastStatus p = some status ∧ status ≠ statusRoaming) := by
  have hnot := (blank_run events).not_roaming nmDevices devices
  have hstatus : ∀ p : ObjectPath,
      (¬ ((run events).lastStatus p = some statusRoaming ∨
        (run events).lastStatus p = none)) ↔
      ∃ status, (run events).lastStatus p = some status ∧
        status ≠ statusRoaming := by
    intro p
    cases (run events).lastStatus p with
    | none => simp
    | some status => simp
  rw [iff_false_left hnot]
  unfold MustReportRoaming
  rw [not_and_or]
  apply or_congr
  · simp only [not_exists, not_and, ne_eq]
  · simp only [not_exists, not_and, hstatus]

/-- The modem of the only device of the connection is roaming, and its cell has
fetched the status. -/
theorem roaming_not_reported :
    ¬ ∀ (events : List ModemEvent)
      (nmDevices : Std.ExtTreeMap ObjectPath DeviceType)
      (devices : List ObjectPath),
      (characteristicsForConnection nmDevices (run events).modems
          (some devices)).Contains .connectionIsRoaming ↔
        (run events).MustReportRoaming nmDevices devices := by
  intro hall
  have hiff := hall
    [.reported "/ril_0"
        ((∅ : Properties).insert statusName (.string statusRoaming)),
      .modemAdded "/ril_0", .cellRefreshed "/ril_0" true]
    ((∅ : Std.ExtTreeMap ObjectPath DeviceType).insert "/device/0" .modem)
    ["/device/0"]
  have hmust := hiff.mpr
    ⟨⟨"/device/0", by decide, by decide⟩, "/ril_0", by decide,
      .inl (by decide)⟩
  exact absurd hmust (by decide)

end ModemCopies

end LocationService
