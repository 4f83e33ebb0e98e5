import LocationService.Library.Announcements
import LocationService.Library.Machine
import Mathlib.Data.List.Basic

/-!
# The wifi cache of the connectivity manager

`OfonoNmConnectivityManager` follows the devices and the access points of
NetworkManager in two caches.  An access point is cached with the device that
sees it; removing a device leaves its access points behind, and an access point
that is announced again is reported as a second appearance.

The handlers ask devices and access points over the bus, and every such call may
throw.  What throws for one access point is caught around it.  What throws for a
device ends its handler: it is not known then, or known without its access points
and without the handlers for those that come and go.  The handlers of a device
are gone with it.

The devices that are there from the start are added in the same way.  What throws
then would abandon the setup and is left out.

`addedTo` and `knownType` state from the events alone which access points
belong to which device of NetworkManager, and whether the reported networks are
the right ones is decided event by event.
-/

namespace LocationService

open Library

/-- `core::dbus::types::ObjectPath` -/
abbrev ObjectPath := String

/-- `NetworkManager::Device::Type`: the number that NetworkManager reports. -/
structure DeviceType where
  value : UInt32
  deriving DecidableEq

namespace DeviceType

def unknown : DeviceType := ⟨0⟩
def wifi : DeviceType := ⟨2⟩
def modem : DeviceType := ⟨8⟩

end DeviceType

/-- Which calls over the bus throw that `on_device_added` makes: the two of
`type()`, and `GetAccessPoints` of a wifi device. -/
structure DeviceCalls where
  typeThrows : Bool := false
  typeThrowsAgain : Bool := false
  accessPointsThrow : Bool := false
  deriving DecidableEq

/-- None of the calls throws. -/
def DeviceCalls.Return (calls : DeviceCalls) : Prop := calls = {}

instance (calls : DeviceCalls) : Decidable calls.Return :=
  inferInstanceAs (Decidable (_ = _))

/-- What NetworkManager reports.  A new device comes with its type and the
access points that it sees.  Each access point comes with whether a call throws
when it is to be cached. -/
inductive WifiEvent where
  | deviceAdded (path : ObjectPath) (type : DeviceType) (calls : DeviceCalls)
      (accessPoints : List (ObjectPath × Bool))
  | deviceRemoved (path : ObjectPath)
  | accessPointAdded (path device : ObjectPath) (throws : Bool)
  | accessPointRemoved (path device : ObjectPath)

/-- The cached devices by type, those whose access points are listened for, the
cached access points with the device of each, and the announcements that were
made about access points. -/
structure WifiCache where
  nmDevices : Std.ExtTreeMap ObjectPath DeviceType := ∅
  connected : Std.ExtTreeSet ObjectPath := ∅
  wifis : Std.ExtTreeMap ObjectPath ObjectPath := ∅
  announced : Announcements ObjectPath := []

namespace WifiCache

/-- `enumerate_visible_wireless_networks`, by the paths of the networks. -/
def enumerateVisibleWirelessNetworks (s : WifiCache) : List ObjectPath :=
  s.wifis.keys

/-- `Private::on_access_point_added`, with what its callers catch. -/
def onAccessPointAdded (path device : ObjectPath) (throws : Bool)
    (s : WifiCache) : WifiCache :=
  if s.nmDevices[device]? = some .wifi then
    if throws then s
    else
      { s with
        wifis := s.wifis.insert path device
        announced := (path, true) :: s.announced }
  else s

/-- `Private::on_access_point_removed` -/
def onAccessPointRemoved (path : ObjectPath) (s : WifiCache) : WifiCache :=
  if path ∈ s.wifis then
    { s with
      wifis := s.wifis.erase path
      announced := (path, false) :: s.announced }
  else s

/-- The loop over the access points of a new device. -/
def addAccessPoints (aps : List (ObjectPath × Bool)) (device : ObjectPath)
    (s : WifiCache) : WifiCache :=
  aps.foldl (fun s ap => s.onAccessPointAdded ap.1 device ap.2) s

/-- `Private::on_device_added`: other types of devices are not cached.  The type
is asked for twice, and the handlers for the access points are connected last. -/
def onDeviceAdded (path : ObjectPath) (type : DeviceType) (calls : DeviceCalls)
    (aps : List (ObjectPath × Bool)) (s : WifiCache) : WifiCache :=
  if path ∈ s.nmDevices then s
  else if calls.typeThrows then s
  else
    let s :=
      if type = .modem then
        { s with nmDevices := s.nmDevices.insert path type }
      else s
    if calls.typeThrowsAgain then s
    else if type = .wifi then
      let s := { s with nmDevices := s.nmDevices.insert path type }
      if calls.accessPointsThrow then s
      else
        let s := s.addAccessPoints aps path
        { s with connected := s.connected.insert path }
    else s

/-- `Private::on_device_removed` -/
def onDeviceRemoved (path : ObjectPath) (s : WifiCache) : WifiCache :=
  { s with
    nmDevices := s.nmDevices.erase path
    connected := s.connected.erase path }

def handle : WifiEvent → WifiCache → WifiCache
  | .deviceAdded path type calls aps, s => s.onDeviceAdded path type calls aps
  | .deviceRemoved path, s => s.onDeviceRemoved path
  | .accessPointAdded path device throws, s =>
      if device ∈ s.connected then s.onAccessPointAdded path device throws
      else s
  | .accessPointRemoved path device, s =>
      if device ∈ s.connected then s.onAccessPointRemoved path else s

end WifiCache

/-! ## What NetworkManager has -/

/-- The type of a device that was added and not removed since; only modems and
wifi devices count. -/
def knownType (device : ObjectPath) : List WifiEvent → Option DeviceType
  | [] => none
  | .deviceAdded path type _ _ :: older =>
      if path = device ∧ knownType device older = none ∧
          (type = .modem ∨ type = .wifi) then some type
      else knownType device older
  | .deviceRemoved path :: older =>
      if path = device then none else knownType device older
  | .accessPointAdded .. :: older => knownType device older
  | .accessPointRemoved .. :: older => knownType device older

/-- The access points that come with a device: it is a wifi device and new. -/
def broughtBy (path : ObjectPath) (type : DeviceType)
    (aps : List (ObjectPath × Bool)) (events : List WifiEvent) :
    List ObjectPath :=
  if knownType path events = none ∧ type = .wifi then aps.map Prod.fst else []

/-- The access point that is added to a device: it is a known wifi device. -/
def addedAt (path device : ObjectPath) (events : List WifiEvent) :
    List ObjectPath :=
  if knownType device events = some .wifi then [path] else []

/-- The wifi device to which an access point was added last, unless it was
removed since. -/
def addedTo (ap : ObjectPath) : List WifiEvent → Option ObjectPath
  | [] => none
  | .deviceAdded path type _ aps :: older =>
      if ap ∈ broughtBy path type aps older then some path
      else addedTo ap older
  | .deviceRemoved _ :: older => addedTo ap older
  | .accessPointAdded path device _ :: older =>
      if ap ∈ addedAt path device older then some device
      else addedTo ap older
  | .accessPointRemoved path _ :: older =>
      if path = ap then none else addedTo ap older

/-- The access point was added and not removed yet, and its device is still
known. -/
def IsVisible (ap : ObjectPath) (events : List WifiEvent) : Prop :=
  ∃ device ∈ addedTo ap events, (knownType device events).isSome = true

/-- The caches, with the events that led to them, newest first. -/
structure WifiRun where
  cache : WifiCache := {}
  events : List WifiEvent := []

namespace WifiRun

def next (e : WifiEvent) (s : WifiRun) : WifiRun :=
  ⟨s.cache.handle e, e :: s.events⟩

/-- The reported networks are the visible access points, and the announcements
about each access point alternate. -/
def FollowsNetworkManager (s : WifiRun) : Prop :=
  s.cache.announced.Alternate ∧
    ∀ ap, ap ∈ s.cache.enumerateVisibleWirelessNetworks ↔ IsVisible ap s.events

end WifiRun

namespace WifiCache

/-! ## What an event adds to the cache -/

/-- The access points that are cached with a new device. -/
def cachedWith (path : ObjectPath) (type : DeviceType) (calls : DeviceCalls)
    (aps : List (ObjectPath × Bool)) (s : WifiCache) : List ObjectPath :=
  if path ∉ s.nmDevices ∧ type = .wifi ∧ calls.Return then
    (aps.filter fun ap => !ap.2).map Prod.fst
  else []

/-- The access point that is cached when it is announced. -/
def cachedAt (path device : ObjectPath) (throws : Bool) (s : WifiCache) :
    List ObjectPath :=
  if device ∈ s.connected ∧ s.nmDevices[device]? = some .wifi ∧
      throws = false then [path]
  else []

/-- The second cache has more access points, and announced them. -/
structure Adds (paths : List ObjectPath) (s t : WifiCache) : Prop where
  mem_wifis : ∀ ap, ap ∈ t.wifis ↔ ap ∈ paths ∨ ap ∈ s.wifis
  announced : t.announced = Announcements.appeared paths s.announced

theorem Adds.refl (s : WifiCache) : Adds [] s s :=
  { mem_wifis := by simp
    announced := rfl }

private theorem mem_insert_iff {m : Std.ExtTreeMap ObjectPath ObjectPath}
    {path device ap : ObjectPath} :
    ap ∈ m.insert path device ↔ ap = path ∨ ap ∈ m := by
  rw [Std.ExtTreeMap.mem_insert, Std.LawfulEqCmp.compare_eq_iff_eq, eq_comm]

/-- Only access points and announcements matter. -/
theorem Adds.congr {paths : List ObjectPath} {s t s' t' : WifiCache}
    (h : Adds paths s t) (hs : s'.wifis = s.wifis)
    (hs' : s'.announced = s.announced) (ht : t'.wifis = t.wifis)
    (ht' : t'.announced = t.announced) : Adds paths s' t' := by
  constructor
  · rw [hs, ht]
    exact h.mem_wifis
  · rw [hs', ht']
    exact h.announced

theorem nmDevices_onAccessPointAdded (path device : ObjectPath) (throws : Bool)
    (s : WifiCache) :
    (s.onAccessPointAdded path device throws).nmDevices = s.nmDevices := by
  unfold onAccessPointAdded
  split
  · split <;> rfl
  · rfl

/-- Every access point of the loop for which nothing throws is cached. -/
theorem adds_addAccessPoints {device : ObjectPath}
    (aps : List (ObjectPath × Bool)) {s : WifiCache}
    (h : s.nmDevices[device]? = some .wifi) :
    Adds ((aps.filter fun ap => !ap.2).map Prod.fst) s
      (s.addAccessPoints aps device) := by
  induction aps generalizing s with
  | nil => exact Adds.refl s
  | cons p aps ih =>
      obtain ⟨path, throws⟩ := p
      have htail := ih (s := s.onAccessPointAdded path device throws)
        (by rw [nmDevices_onAccessPointAdded]; exact h)
      cases throws with
      | true =>
          have hsame : s.onAccessPointAdded path device true = s := by
            simp [onAccessPointAdded]
          rw [hsame] at htail
          simp only [addAccessPoints, List.foldl_cons, hsame]
          exact htail
      | false =>
          have hhead : s.onAccessPointAdded path device false =
              { s with
                wifis := s.wifis.insert path device
                announced := (path, true) :: s.announced } := by
            simp [onAccessPointAdded, h]
          rw [hhead] at htail
          simp only [addAccessPoints, List.foldl_cons, hhead]
          constructor
          · intro ap
            refine (htail.mem_wifis ap).trans ?_
            rw [mem_insert_iff]
            simp [or_left_comm, or_assoc]
          · exact htail.announced

/-- A device that brings no access points to the cache. -/
private theorem onDeviceAdded_keeps {path : ObjectPath} {type : DeviceType}
    {calls : DeviceCalls} (aps : List (ObjectPath × Bool)) {s : WifiCache}
    (h : ¬ (path ∉ s.nmDevices ∧ type = .wifi ∧ calls.Return)) :
    (s.onDeviceAdded path type calls aps).wifis = s.wifis ∧
      (s.onDeviceAdded path type calls aps).announced = s.announced := by
  obtain ⟨typeThrows, typeThrowsAgain, accessPointsThrow⟩ := calls
  have hreturn : ¬ (path ∉ s.nmDevices ∧ type = .wifi ∧ typeThrows = false ∧
      typeThrowsAgain = false ∧ accessPointsThrow = false) := by
    rintro ⟨hnew, hwifi, rfl, rfl, rfl⟩
    exact h ⟨hnew, hwifi, rfl⟩
  unfold onDeviceAdded
  by_cases hknown : path ∈ s.nmDevices
  · simp [hknown]
  · cases typeThrows with
    | true => simp [hknown]
    | false =>
        by_cases hmodem : type = .modem
        · have hwifi : DeviceType.modem ≠ .wifi := by decide
          cases typeThrowsAgain <;> simp [hknown, hmodem, hwifi]
        · cases typeThrowsAgain with
          | true => simp [hknown, hmodem]
          | false =>
              by_cases hwifi : type = .wifi
              · have hthrow : accessPointsThrow = true := by
                  by_contra hfalse
                  exact hreturn ⟨hknown, hwifi, rfl, rfl, by simpa using hfalse⟩
                subst hwifi
                simp [hknown, hmodem, hthrow]
              · simp [hknown, hmodem, hwifi]

theorem adds_onDeviceAdded (path : ObjectPath) (type : DeviceType)
    (calls : DeviceCalls) (aps : List (ObjectPath × Bool)) (s : WifiCache) :
    Adds (s.cachedWith path type calls aps) s
      (s.onDeviceAdded path type calls aps) := by
  unfold cachedWith
  by_cases hcached : path ∉ s.nmDevices ∧ type = .wifi ∧ calls.Return
  · rw [if_pos hcached]
    obtain ⟨hnew, rfl, rfl⟩ := hcached
    have hmodem : DeviceType.wifi ≠ .modem := by decide
    have hloop := @adds_addAccessPoints path aps
      { s with nmDevices := s.nmDevices.insert path .wifi } (by simp)
    refine hloop.congr rfl rfl ?_ ?_ <;>
      simp [onDeviceAdded, hnew, hmodem]
  · rw [if_neg hcached]
    obtain ⟨hwifis, hannounced⟩ := onDeviceAdded_keeps aps hcached
    exact (Adds.refl s).congr rfl rfl hwifis hannounced

theorem adds_accessPointAdded (path device : ObjectPath) (throws : Bool)
    (s : WifiCache) :
    Adds (s.cachedAt path device throws) s
      (s.handle (.accessPointAdded path device throws)) := by
  unfold handle cachedAt onAccessPointAdded
  by_cases hconnected : device ∈ s.connected
  · by_cases hwifi : s.nmDevices[device]? = some .wifi
    · cases throws with
      | true => simpa [hconnected, hwifi] using Adds.refl s
      | false =>
          simp only [hconnected, hwifi, if_true, true_and, if_false,
            Bool.false_eq_true]
          constructor
          · intro ap
            rw [mem_insert_iff]
            simp
          · rfl
    · simpa [hconnected, hwifi] using Adds.refl s
  · simpa [hconnected] using Adds.refl s

/-! ## Announcements and the cache -/

/-- The last announcements are about the cached access points. -/
def AnnouncesCached (s : WifiCache) : Prop :=
  ∀ ap, Announcements.isPresent ap s.announced = true ↔ ap ∈ s.wifis

theorem Adds.announcesCached {paths : List ObjectPath} {s t : WifiCache}
    (hadds : Adds paths s t) (h : s.AnnouncesCached) : t.AnnouncesCached := by
  intro ap
  rw [hadds.announced, Announcements.isPresent_appeared_iff, h ap,
    hadds.mem_wifis ap]

theorem AnnouncesCached.onAccessPointRemoved {s : WifiCache}
    (h : s.AnnouncesCached) (path : ObjectPath) :
    (s.onAccessPointRemoved path).AnnouncesCached := by
  unfold WifiCache.onAccessPointRemoved
  split
  · intro ap
    by_cases heq : path = ap
    · simp [heq]
    · simp [Announcements.isPresent_cons_of_ne heq, heq, h ap]
  · exact h

theorem AnnouncesCached.handle {s : WifiCache} (h : s.AnnouncesCached)
    (e : WifiEvent) : (s.handle e).AnnouncesCached := by
  cases e with
  | deviceAdded path type calls aps =>
      exact (s.adds_onDeviceAdded path type calls aps).announcesCached h
  | deviceRemoved path => exact h
  | accessPointAdded path device throws =>
      exact (s.adds_accessPointAdded path device throws).announcesCached h
  | accessPointRemoved path device =>
      show (if device ∈ s.connected then _ else s).AnnouncesCached
      split
      · exact h.onAccessPointRemoved path
      · exact h

/-- The disappearance of a cached access point is no repetition. -/
theorem alternate_onAccessPointRemoved {s : WifiCache}
    (h : s.AnnouncesCached) (halternate : s.announced.Alternate)
    (path : ObjectPath) :
    (s.onAccessPointRemoved path).announced.Alternate := by
  unfold onAccessPointRemoved
  split
  · rename_i hmem
    have hpresent := (h path).mpr hmem
    exact ⟨by simp [hpresent], halternate⟩
  · exact halternate

theorem mem_wifis_onAccessPointRemoved (path : ObjectPath) (s : WifiCache)
    (ap : ObjectPath) :
    ap ∈ (s.onAccessPointRemoved path).wifis ↔ path ≠ ap ∧ ap ∈ s.wifis := by
  unfold onAccessPointRemoved
  split
  · simp [Std.ExtTreeMap.mem_erase]
  · rename_i hmem
    constructor
    · intro hap
      exact ⟨fun heq => hmem (heq ▸ hap), hap⟩
    · exact fun hap => hap.2

/-- What is cached is what is new, and it is cached once. -/
def AddsExactly (cached new : List ObjectPath) (s : WifiCache) : Prop :=
  cached.Nodup ∧ (∀ ap ∈ cached, ap ∉ s.wifis ∧ ap ∈ new) ∧
    ∀ ap ∈ new, ap ∈ cached ∨ ap ∈ s.wifis

instance (cached new : List ObjectPath) (s : WifiCache) :
    Decidable (s.AddsExactly cached new) :=
  inferInstanceAs (Decidable (_ ∧ _ ∧ _))

end WifiCache

namespace WifiRun

/-- The event neither repeats an announcement, nor leaves an access point without
its device, nor is something thrown for an access point that is not cached, nor
is a cached access point removed from a device whose handlers are missing. -/
def Accepts : WifiEvent → WifiRun → Prop
  | .deviceAdded path type calls aps, s =>
      s.cache.AddsExactly (s.cache.cachedWith path type calls aps)
        (broughtBy path type aps s.events)
  | .deviceRemoved path, s =>
      ∀ ap ∈ s.cache.wifis.keys, addedTo ap s.events ≠ some path
  | .accessPointAdded path device throws, s =>
      s.cache.AddsExactly (s.cache.cachedAt path device throws)
        (addedAt path device s.events)
  | .accessPointRemoved path device, s =>
      path ∈ s.cache.wifis → device ∈ s.cache.connected

instance : ∀ e s, Decidable (Accepts e s)
  | .deviceAdded .., _ => inferInstanceAs (Decidable (WifiCache.AddsExactly ..))
  | .deviceRemoved _, _ => inferInstanceAs (Decidable (∀ _ ∈ _, _))
  | .accessPointAdded .., _ =>
      inferInstanceAs (Decidable (WifiCache.AddsExactly ..))
  | .accessPointRemoved .., _ => inferInstanceAs (Decidable (_ → _))

/-! ## What is visible -/

/-- Every access point that was added and not removed has a known device. -/
def Owned (events : List WifiEvent) : Prop :=
  ∀ ap d, addedTo ap events = some d → (knownType d events).isSome = true

theorem Owned.isVisible_iff {events : List WifiEvent} (h : Owned events)
    (ap : ObjectPath) :
    IsVisible ap events ↔ (addedTo ap events).isSome = true := by
  unfold IsVisible
  rw [Option.isSome_iff_exists]
  exact exists_congr fun d => ⟨fun hd => hd.1, fun hd => ⟨hd, h ap d hd⟩⟩

/-- A device that is known stays so when another one is added. -/
theorem isSome_knownType_deviceAdded {d : ObjectPath} {events : List WifiEvent}
    (h : (knownType d events).isSome = true) (path : ObjectPath)
    (type : DeviceType) (calls : DeviceCalls)
    (aps : List (ObjectPath × Bool)) :
    (knownType d (.deviceAdded path type calls aps :: events)).isSome =
      true := by
  rw [knownType]
  split
  · rfl
  · exact h

theorem Owned.deviceAdded {events : List WifiEvent} (h : Owned events)
    (path : ObjectPath) (type : DeviceType) (calls : DeviceCalls)
    (aps : List (ObjectPath × Bool)) :
    Owned (.deviceAdded path type calls aps :: events) := by
  intro ap d hap
  rw [addedTo] at hap
  split at hap
  · rename_i hnew
    obtain rfl := Option.some.inj hap
    unfold broughtBy at hnew
    split at hnew
    · rename_i hwifi
      rw [knownType, if_pos ⟨rfl, hwifi.1, .inr hwifi.2⟩]
      rfl
    · cases hnew
  · exact isSome_knownType_deviceAdded (h ap d hap) path type calls aps

theorem Owned.accessPointAdded {events : List WifiEvent} (h : Owned events)
    (path device : ObjectPath) (throws : Bool) :
    Owned (.accessPointAdded path device throws :: events) := by
  intro ap d hap
  rw [addedTo] at hap
  split at hap
  · rename_i hnew
    obtain rfl := Option.some.inj hap
    unfold addedAt at hnew
    split at hnew
    · rename_i hwifi
      rw [knownType, hwifi]
      rfl
    · cases hnew
  · exact h ap d hap

theorem Owned.accessPointRemoved {events : List WifiEvent} (h : Owned events)
    (path device : ObjectPath) :
    Owned (.accessPointRemoved path device :: events) := by
  intro ap d hap
  rw [addedTo] at hap
  split at hap
  · cases hap
  · exact h ap d hap

/-! ## One event -/

/-- What a run keeps as long as its events are acceptable. -/
structure Sound (s : WifiRun) : Prop where
  announces : s.cache.AnnouncesCached
  follows : s.FollowsNetworkManager
  owned : Owned s.events

theorem Sound.mem_wifis_iff {s : WifiRun} (h : s.Sound) (ap : ObjectPath) :
    ap ∈ s.cache.wifis ↔ (addedTo ap s.events).isSome = true := by
  rw [← h.owned.isVisible_iff ap, ← h.follows.2 ap,
    WifiCache.enumerateVisibleWirelessNetworks, Std.ExtTreeMap.mem_keys]

/-- An event that brings new access points is followed exactly if these are what
it adds to the cache. -/
theorem Sound.adds_follows_iff {s t : WifiRun} (h : s.Sound)
    {cached new : List ObjectPath} (hadds : s.cache.Adds cached t.cache)
    (howned : Owned t.events)
    (hnew : ∀ ap, (addedTo ap t.events).isSome = true ↔
      ap ∈ new ∨ (addedTo ap s.events).isSome = true) :
    t.FollowsNetworkManager ↔ s.cache.AddsExactly cached new := by
  have halternate : t.cache.announced.Alternate ↔
      cached.Nodup ∧ ∀ ap ∈ cached, ap ∉ s.cache.wifis := by
    rw [hadds.announced, Announcements.alternate_appeared_iff,
      and_iff_left h.follows.1]
    simp only [h.announces _]
  unfold FollowsNetworkManager WifiCache.enumerateVisibleWirelessNetworks
  rw [halternate]
  simp only [Std.ExtTreeMap.mem_keys, howned.isVisible_iff, hnew,
    ← h.mem_wifis_iff, hadds.mem_wifis]
  constructor
  · rintro ⟨⟨hnodup, hfresh⟩, hsame⟩
    refine ⟨hnodup, fun ap hap => ⟨hfresh ap hap, ?_⟩, fun ap hap => ?_⟩
    · exact ((hsame ap).mp (.inl hap)).resolve_right (hfresh ap hap)
    · exact (hsame ap).mpr (.inl hap)
  · rintro ⟨hnodup, hcached, hall⟩
    refine ⟨⟨hnodup, fun ap hap => (hcached ap hap).1⟩, fun ap => ?_⟩
    constructor
    · rintro (hap | hap)
      · exact .inl (hcached ap hap).2
      · exact .inr hap
    · rintro (hap | hap)
      · exact hall ap hap
      · exact .inr hap

theorem addedTo_deviceAdded (path : ObjectPath) (type : DeviceType)
    (calls : DeviceCalls) (aps : List (ObjectPath × Bool))
    (events : List WifiEvent) (ap : ObjectPath) :
    (addedTo ap (.deviceAdded path type calls aps :: events)).isSome = true ↔
      ap ∈ broughtBy path type aps events ∨
        (addedTo ap events).isSome = true := by
  rw [addedTo]
  split
  · rename_i hnew
    exact iff_of_true rfl (.inl hnew)
  · rename_i hnot
    exact (or_iff_right hnot).symm

theorem addedTo_accessPointAdded (path device : ObjectPath) (throws : Bool)
    (events : List WifiEvent) (ap : ObjectPath) :
    (addedTo ap (.accessPointAdded path device throws :: events)).isSome =
        true ↔
      ap ∈ addedAt path device events ∨ (addedTo ap events).isSome = true := by
  rw [addedTo]
  split
  · rename_i hnew
    exact iff_of_true rfl (.inl hnew)
  · rename_i hnot
    exact (or_iff_right hnot).symm

/-- A removed device takes its access points along, which the cache keeps. -/
theorem Sound.deviceRemoved_follows_iff {s : WifiRun} (h : s.Sound)
    (path : ObjectPath) :
    (next (.deviceRemoved path) s).FollowsNetworkManager ↔
      ∀ ap ∈ s.cache.wifis.keys, addedTo ap s.events ≠ some path := by
  have hvisible : ∀ ap, IsVisible ap (.deviceRemoved path :: s.events) ↔
      ap ∈ s.cache.wifis ∧ addedTo ap s.events ≠ some path := by
    intro ap
    rw [h.mem_wifis_iff, Option.isSome_iff_exists]
    unfold IsVisible
    simp only [addedTo, knownType]
    constructor
    · rintro ⟨d, hd, hknown⟩
      refine ⟨⟨d, hd⟩, fun hpath => ?_⟩
      have hsame : d = path := by
        rw [Option.mem_def, hpath] at hd
        exact (Option.some.inj hd).symm
      rw [if_pos hsame.symm] at hknown
      cases hknown
    · rintro ⟨⟨d, hd⟩, hne⟩
      have hdpath : path ≠ d := fun heq => hne (heq ▸ hd)
      refine ⟨d, hd, ?_⟩
      rw [if_neg hdpath]
      exact h.owned ap d hd
  show s.cache.announced.Alternate ∧ (∀ ap, ap ∈ s.cache.wifis.keys ↔
    IsVisible ap (.deviceRemoved path :: s.events)) ↔ _
  rw [and_iff_right h.follows.1]
  simp only [hvisible, Std.ExtTreeMap.mem_keys]
  exact forall_congr' fun ap =>
    ⟨fun hiff hap => (hiff.mp hap).2, fun hne =>
      ⟨fun hap => ⟨hap, hne hap⟩, fun hap => hap.1⟩⟩

/-- A removed access point is removed from the cache, unless nobody listens. -/
theorem Sound.accessPointRemoved_follows_iff {s : WifiRun} (h : s.Sound)
    (path device : ObjectPath) :
    (next (.accessPointRemoved path device) s).FollowsNetworkManager ↔
      (path ∈ s.cache.wifis → device ∈ s.cache.connected) := by
  have hvisible : ∀ ap,
      IsVisible ap (.accessPointRemoved path device :: s.events) ↔
        path ≠ ap ∧ ap ∈ s.cache.wifis := by
    intro ap
    rw [(h.owned.accessPointRemoved path device).isVisible_iff,
      h.mem_wifis_iff, addedTo]
    by_cases heq : path = ap <;> simp [heq]
  unfold FollowsNetworkManager next WifiCache.handle
    WifiCache.enumerateVisibleWirelessNetworks
  simp only [hvisible, Std.ExtTreeMap.mem_keys]
  by_cases hconnected : device ∈ s.cache.connected
  · simp only [hconnected, if_true, implies_true, iff_true]
    exact ⟨WifiCache.alternate_onAccessPointRemoved h.announces h.follows.1 path,
      fun ap => WifiCache.mem_wifis_onAccessPointRemoved path s.cache ap⟩
  · simp only [hconnected, if_false, imp_false]
    rw [and_iff_right h.follows.1]
    constructor
    · intro hsame hmem
      exact ((hsame path).mp hmem).1 rfl
    · intro hnot ap
      refine ⟨fun hap => ⟨fun heq => hnot (heq ▸ hap), hap⟩, And.right⟩

/-- The caches go on following NetworkManager exactly if the event is
acceptable. -/
theorem Sound.next_follows_iff {s : WifiRun} (h : s.Sound) (e : WifiEvent) :
    (next e s).FollowsNetworkManager ↔ Accepts e s := by
  cases e with
  | deviceAdded path type calls aps =>
      exact h.adds_follows_iff
        (s.cache.adds_onDeviceAdded path type calls aps)
        (h.owned.deviceAdded path type calls aps)
        (addedTo_deviceAdded path type calls aps s.events)
  | deviceRemoved path => exact h.deviceRemoved_follows_iff path
  | accessPointAdded path device throws =>
      exact h.adds_follows_iff
        (s.cache.adds_accessPointAdded path device throws)
        (h.owned.accessPointAdded path device throws)
        (addedTo_accessPointAdded path device throws s.events)
  | accessPointRemoved path device =>
      exact h.accessPointRemoved_follows_iff path device

theorem Sound.next {s : WifiRun} (h : s.Sound) {e : WifiEvent}
    (haccepts : Accepts e s) : (next e s).Sound := by
  refine
    { announces := h.announces.handle e
      follows := (h.next_follows_iff e).mpr haccepts
      owned := ?_ }
  cases e with
  | deviceAdded path type calls aps =>
      exact h.owned.deviceAdded path type calls aps
  | deviceRemoved path =>
      intro ap d hap
      show (knownType d (.deviceRemoved path :: s.events)).isSome = true
      have hadded : addedTo ap s.events = some d := hap
      have hcached : ap ∈ s.cache.wifis := by
        rw [h.mem_wifis_iff, hadded]
        rfl
      have hne : path ≠ d := by
        intro heq
        exact haccepts ap (Std.ExtTreeMap.mem_keys.mpr hcached) (heq ▸ hadded)
      rw [knownType, if_neg hne]
      exact h.owned ap d hadded
  | accessPointAdded path device throws =>
      exact h.owned.accessPointAdded path device throws
  | accessPointRemoved path device =>
      exact h.owned.accessPointRemoved path device

/-! ## Every sequence of events -/

/-- The caches under the events of NetworkManager. -/
def machine : Machine WifiRun WifiEvent := .ofStep {} next

theorem sound_of_reach {s : WifiRun} (h : machine.Reach Accepts s) :
    s.Sound := by
  refine h.ofStep_invariant Sound ?_ fun e s hs haccepts => hs.next haccepts
  refine
    { announces := fun ap => by simp [Announcements.isPresent]
      follows := ⟨trivial, fun ap => ?_⟩
      owned := fun _ _ hap => nomatch hap }
  simp [WifiCache.enumerateVisibleWirelessNetworks, IsVisible, addedTo]

/-- An access point whose constructor throws is there and is not reported. -/
example : ∃ s, machine.Reach (fun _ _ => True) s ∧
    s.cache.enumerateVisibleWirelessNetworks = [] ∧
    addedTo "/ap/1" s.events = some "/device/1" := by
  have hrun : (Machine.replay (fun e s => some (next e s)) (fun _ _ => True)
      [.deviceAdded "/device/1" .wifi {} [("/ap/1", true)]] {}).any
      (fun s => decide (s.cache.enumerateVisibleWirelessNetworks = [] ∧
        addedTo "/ap/1" s.events = some "/device/1")) = true := by decide
  obtain ⟨s, hreach, hs⟩ := Machine.Reach.ofStep_exists_of_replay _ hrun
  exact ⟨s, hreach, hs⟩

end WifiRun

end LocationService
