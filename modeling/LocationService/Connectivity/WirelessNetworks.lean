import LocationService.Connectivity.CachedWirelessNetwork
import LocationService.Connectivity.Wifi

/-!
# The wireless networks of the connectivity manager

`OfonoNmConnectivityManager` caches a `CachedWirelessNetwork` for each access
point.  Constructing one asks the access point for its properties and may throw,
be it for an answer that is out of bounds.  The exception is caught around the
single access point, which is then not cached, and nothing is announced.

`WifiCache` has the same caches without the networks, and the manager simulates
it: a constructor that throws is one of the calls that throw there.
`refines_wifi_cache` also says what the cached networks are.
-/

namespace LocationService

open Library

/-- What NetworkManager reports, with the answers of the access points when they
are asked for their properties; `none` for an answer that throws. -/
inductive NetworkEvent where
  | deviceAdded (path : ObjectPath) (type : DeviceType) (calls : DeviceCalls)
      (accessPoints : List (ObjectPath × Option AccessPointProperties))
  | deviceRemoved (path : ObjectPath)
  | accessPointAdded (path device : ObjectPath)
      (answer : Option AccessPointProperties)
  | accessPointRemoved (path device : ObjectPath)
  | propertiesChanged (path : ObjectPath) (dict : List (String × NmVariant))

/-- The cached devices by type, those whose access points are listened for, the
cached networks, each with the device that sees it, and the announcements about
access points. -/
structure WirelessNetworks where
  nmDevices : Std.ExtTreeMap ObjectPath DeviceType := ∅
  connected : Std.ExtTreeSet ObjectPath := ∅
  wifis : Std.ExtTreeMap ObjectPath (ObjectPath × CachedWirelessNetwork) := ∅
  announced : Announcements ObjectPath := []

/-- The network of an access point with some answer; `none` if the constructor
throws. -/
def networkOf (bootTime : Int) (answer : Option AccessPointProperties) :
    Option CachedWirelessNetwork :=
  answer.bind (CachedWirelessNetwork.construct bootTime)

namespace WirelessNetworks

section Handlers

variable (bootTime : Int)

/-- `Private::on_access_point_added`, and the handler around it that catches
what it throws. -/
def onAccessPointAdded (path device : ObjectPath)
    (answer : Option AccessPointProperties) (s : WirelessNetworks) :
    WirelessNetworks :=
  if s.nmDevices[device]? = some .wifi then
    match networkOf bootTime answer with
    | none => s
    | some n =>
        { s with
          wifis := s.wifis.insert path (device, n)
          announced := (path, true) :: s.announced }
  else s

/-- `Private::on_access_point_removed` -/
def onAccessPointRemoved (path : ObjectPath) (s : WirelessNetworks) :
    WirelessNetworks :=
  if path ∈ s.wifis then
    { s with
      wifis := s.wifis.erase path
      announced := (path, false) :: s.announced }
  else s

/-- The loop over the access points of a new device. -/
def addAccessPoints (aps : List (ObjectPath × Option AccessPointProperties))
    (device : ObjectPath) (s : WirelessNetworks) : WirelessNetworks :=
  aps.foldl (fun s ap => s.onAccessPointAdded bootTime ap.1 device ap.2) s

/-- `Private::on_device_added` -/
def onDeviceAdded (path : ObjectPath) (type : DeviceType) (calls : DeviceCalls)
    (aps : List (ObjectPath × Option AccessPointProperties))
    (s : WirelessNetworks) : WirelessNetworks :=
  if path ∈ s.nmDevices then s
  else if calls.typeThrows then s
  else
    let s :=
      if type = .modem then
        { s with nmDevices := s.nmDevices.insert path type }
      else s
    if calls.typeThrowsAgain then s
    else if type = .wifi then
      let s := { s with nmDevices := s.nmDevices.insert path type }
      if calls.accessPointsThrow then s
      else
        let s := s.addAccessPoints bootTime aps path
        { s with connected := s.connected.insert path }
    else s

/-- `Private::on_device_removed` -/
def onDeviceRemoved (path : ObjectPath) (s : WirelessNetworks) :
    WirelessNetworks :=
  { s with
    nmDevices := s.nmDevices.erase path
    connected := s.connected.erase path }

/-- The slot on `properties_changed` of the cached network, if there is one. -/
def onPropertiesChanged (path : ObjectPath) (dict : List (String × NmVariant))
    (s : WirelessNetworks) : WirelessNetworks :=
  match s.wifis[path]? with
  | none => s
  | some (device, n) =>
      { s with
        wifis := s.wifis.insert path
          (device, n.onAccessPointPropertiesChanged bootTime dict) }

def handle : NetworkEvent → WirelessNetworks → WirelessNetworks
  | .deviceAdded path type calls aps, s =>
      s.onDeviceAdded bootTime path type calls aps
  | .deviceRemoved path, s => s.onDeviceRemoved path
  | .accessPointAdded path device answer, s =>
      if device ∈ s.connected then
        s.onAccessPointAdded bootTime path device answer
      else s
  | .accessPointRemoved path device, s =>
      if device ∈ s.connected then s.onAccessPointRemoved path else s
  | .propertiesChanged path dict, s => s.onPropertiesChanged bootTime path dict

/-- The manager after some events, the newest first. -/
def run : List NetworkEvent → WirelessNetworks
  | [] => {}
  | e :: older => (run older).handle bootTime e

end Handlers

/-- `enumerate_visible_wireless_networks`, in the order of the paths. -/
def enumerateVisibleWirelessNetworks (s : WirelessNetworks) :
    List CachedWirelessNetwork :=
  s.wifis.toList.map fun p => p.2.2

end WirelessNetworks

/-! ## What the cache without networks sees -/

/-- Some events as a run of the cache without networks. -/
def wifiRun (events : List WifiEvent) : WifiRun :=
  events.foldr WifiRun.next {}

@[simp] theorem wifiRun_events (events : List WifiEvent) :
    (wifiRun events).events = events := by
  induction events with
  | nil => rfl
  | cons e older ih => exact congrArg (e :: ·) ih

section Events

variable (bootTime : Int)

/-- The constructor of the network throws. -/
def throwsFor (answer : Option AccessPointProperties) : Bool :=
  (networkOf bootTime answer).isNone

/-- Which access points make their constructor throw. -/
def throwing (aps : List (ObjectPath × Option AccessPointProperties)) :
    List (ObjectPath × Bool) :=
  aps.map fun ap => (ap.1, throwsFor bootTime ap.2)

/-- What a cache without networks sees of an event. -/
def NetworkEvent.toWifiEvent : NetworkEvent → Option WifiEvent
  | .deviceAdded path type calls aps =>
      some (.deviceAdded path type calls (throwing bootTime aps))
  | .deviceRemoved path => some (.deviceRemoved path)
  | .accessPointAdded path device answer =>
      some (.accessPointAdded path device (throwsFor bootTime answer))
  | .accessPointRemoved path device => some (.accessPointRemoved path device)
  | .propertiesChanged _ _ => none

/-- What a cache without networks sees of some events. -/
def wifiEvents (events : List NetworkEvent) : List WifiEvent :=
  events.filterMap (NetworkEvent.toWifiEvent bootTime)

/-- The network that an access point has by some list of answers: the last one
that does not throw counts. -/
def lastNetwork (ap : ObjectPath)
    (aps : List (ObjectPath × Option AccessPointProperties)) :
    Option CachedWirelessNetwork :=
  (aps.filterMap fun p =>
    if p.1 = ap then networkOf bootTime p.2 else none).getLast?

/-- The cache without networks after some events. -/
def wifiCache (events : List NetworkEvent) : WifiCache :=
  (wifiRun (wifiEvents bootTime events)).cache

/-- An access point since it was cached last: the network it was then, and the
changes of its properties.  `none` if it is not cached. -/
def lifetime (ap : ObjectPath) : List NetworkEvent →
    Option (CachedWirelessNetwork × List (List (String × NmVariant)))
  | [] => none
  | .deviceAdded path type calls aps :: older =>
      if path ∉ (wifiCache bootTime older).nmDevices ∧ type = .wifi ∧
          calls.Return then
        ((lastNetwork bootTime ap aps).map fun n => (n, [])).or
          (lifetime ap older)
      else lifetime ap older
  | .deviceRemoved _ :: older => lifetime ap older
  | .accessPointAdded path device answer :: older =>
      let c := wifiCache bootTime older
      if path = ap ∧ device ∈ c.connected ∧
          c.nmDevices[device]? = some .wifi then
        ((networkOf bootTime answer).map fun n => (n, [])).or
          (lifetime ap older)
      else lifetime ap older
  | .accessPointRemoved path device :: older =>
      if path = ap ∧ device ∈ (wifiCache bootTime older).connected then none
      else lifetime ap older
  | .propertiesChanged path dict :: older =>
      if path = ap then
        (lifetime ap older).map fun l => (l.1, l.2 ++ [dict])
      else lifetime ap older

end Events

namespace WirelessNetworks

/-! ## The manager simulates the cache without networks -/

/-- The caches agree up to the networks. -/
structure Simulates (s : WirelessNetworks) (c : WifiCache) : Prop where
  nmDevices : s.nmDevices = c.nmDevices
  connected : s.connected = c.connected
  wifis : ∀ ap : ObjectPath, (s.wifis[ap]?).map Prod.fst = c.wifis[ap]?
  announced : s.announced = c.announced

theorem Simulates.mem_wifis {s : WirelessNetworks} {c : WifiCache}
    (h : s.Simulates c) (ap : ObjectPath) : ap ∈ s.wifis ↔ ap ∈ c.wifis := by
  rw [Std.ExtTreeMap.mem_iff_isSome_getElem?,
    Std.ExtTreeMap.mem_iff_isSome_getElem?, ← h.wifis ap, Option.isSome_map]

variable {bootTime : Int}

theorem Simulates.onAccessPointAdded {s : WirelessNetworks} {c : WifiCache}
    (h : s.Simulates c) (path device : ObjectPath)
    (answer : Option AccessPointProperties) :
    (s.onAccessPointAdded bootTime path device answer).Simulates
      (c.onAccessPointAdded path device (throwsFor bootTime answer)) := by
  unfold WirelessNetworks.onAccessPointAdded WifiCache.onAccessPointAdded
    throwsFor
  rw [h.nmDevices]
  split
  · cases networkOf bootTime answer with
    | none => exact h
    | some n =>
        simp only [Option.isNone_some, Bool.false_eq_true, if_false]
        constructor
        · rfl
        · exact h.connected
        · intro ap
          by_cases heq : path = ap
          · simp [heq]
          · simpa [Std.ExtTreeMap.getElem?_insert, heq] using h.wifis ap
        · exact congrArg _ h.announced
  · exact h

theorem Simulates.addAccessPoints (device : ObjectPath)
    (aps : List (ObjectPath × Option AccessPointProperties))
    {s : WirelessNetworks} {c : WifiCache} (h : s.Simulates c) :
    (WirelessNetworks.addAccessPoints bootTime aps device s).Simulates
      (c.addAccessPoints (throwing bootTime aps) device) := by
  induction aps generalizing s c with
  | nil => exact h
  | cons ap aps ih => exact ih (h.onAccessPointAdded ap.1 device ap.2)

theorem Simulates.insertDevice {s : WirelessNetworks} {c : WifiCache}
    (h : s.Simulates c) (path : ObjectPath) (type : DeviceType) :
    Simulates { s with nmDevices := s.nmDevices.insert path type }
      { c with nmDevices := c.nmDevices.insert path type } :=
  ⟨congrArg (·.insert path type) h.nmDevices, h.connected, h.wifis, h.announced⟩

theorem Simulates.onDeviceAdded {s : WirelessNetworks} {c : WifiCache}
    (h : s.Simulates c) (path : ObjectPath) (type : DeviceType)
    (calls : DeviceCalls)
    (aps : List (ObjectPath × Option AccessPointProperties)) :
    (s.onDeviceAdded bootTime path type calls aps).Simulates
      (c.onDeviceAdded path type calls (throwing bootTime aps)) := by
  have hmodem : Simulates
      (if type = .modem then
        { s with nmDevices := s.nmDevices.insert path type } else s)
      (if type = .modem then
        { c with nmDevices := c.nmDevices.insert path type } else c) := by
    split
    · exact h.insertDevice path type
    · exact h
  have hwifi := hmodem.insertDevice path type
  have hloop := @Simulates.addAccessPoints bootTime path aps _ _ hwifi
  have hmem : path ∈ s.nmDevices ↔ path ∈ c.nmDevices := by
    rw [h.nmDevices]
  unfold WirelessNetworks.onDeviceAdded WifiCache.onDeviceAdded
  simp only [hmem]
  split
  · exact h
  · split
    · exact h
    · split
      · exact hmodem
      · split
        · split
          · exact hwifi
          · exact ⟨hloop.nmDevices, congrArg (·.insert path) hloop.connected,
              hloop.wifis, hloop.announced⟩
        · exact hmodem

theorem Simulates.onAccessPointRemoved {s : WirelessNetworks} {c : WifiCache}
    (h : s.Simulates c) (path : ObjectPath) :
    (s.onAccessPointRemoved path).Simulates (c.onAccessPointRemoved path) := by
  have hmem := h.mem_wifis path
  unfold WirelessNetworks.onAccessPointRemoved WifiCache.onAccessPointRemoved
  simp only [hmem]
  split
  · constructor
    · exact h.nmDevices
    · exact h.connected
    · intro ap
      by_cases heq : path = ap
      · simp [heq]
      · simpa [Std.ExtTreeMap.getElem?_erase, heq] using h.wifis ap
    · exact congrArg _ h.announced
  · exact h

theorem Simulates.onPropertiesChanged {s : WirelessNetworks} {c : WifiCache}
    (h : s.Simulates c) (path : ObjectPath)
    (dict : List (String × NmVariant)) :
    (s.onPropertiesChanged bootTime path dict).Simulates c := by
  unfold WirelessNetworks.onPropertiesChanged
  split
  · exact h
  · rename_i device n hcached
    refine ⟨h.nmDevices, h.connected, ?_, h.announced⟩
    intro ap
    by_cases heq : path = ap
    · subst heq
      have hdevice := h.wifis path
      rw [hcached] at hdevice
      simpa using hdevice
    · simpa [Std.ExtTreeMap.getElem?_insert, heq] using h.wifis ap

/-- An event that the cache without networks does not see leaves it alone. -/
theorem Simulates.handle {s : WirelessNetworks} {r : WifiRun}
    (h : s.Simulates r.cache) (e : NetworkEvent) :
    (s.handle bootTime e).Simulates
      ((e.toWifiEvent bootTime).toList.foldr WifiRun.next r).cache := by
  cases e with
  | deviceAdded path type calls aps => exact h.onDeviceAdded path type calls aps
  | deviceRemoved path =>
      exact ⟨congrArg (·.erase path) h.nmDevices,
        congrArg (·.erase path) h.connected, h.wifis, h.announced⟩
  | accessPointAdded path device answer =>
      show (if device ∈ s.connected then _ else s).Simulates
        (if device ∈ r.cache.connected then _ else r.cache)
      rw [h.connected]
      split
      · exact h.onAccessPointAdded path device answer
      · exact h
  | accessPointRemoved path device =>
      show (if device ∈ s.connected then _ else s).Simulates
        (if device ∈ r.cache.connected then _ else r.cache)
      rw [h.connected]
      split
      · exact h.onAccessPointRemoved path
      · exact h
  | propertiesChanged path dict => exact h.onPropertiesChanged path dict

/-- Every run of the manager is a run of the cache without networks: the devices,
the access points with their devices and the announcements are the same. -/
theorem run_simulates_wifiRun (events : List NetworkEvent) :
    (run bootTime events).Simulates
      (wifiCache bootTime events) := by
  induction events with
  | nil =>
      constructor
      · rfl
      · rfl
      · intro ap
        rfl
      · rfl
  | cons e older ih =>
      have hstep : ((run bootTime older).handle bootTime e).Simulates _ :=
        ih.handle e
      have hevents : wifiRun (wifiEvents bootTime (e :: older)) =
          (e.toWifiEvent bootTime).toList.foldr WifiRun.next
            (wifiRun (wifiEvents bootTime older)) := by
        unfold wifiEvents
        cases hevent : e.toWifiEvent bootTime with
        | none => simp [hevent]
        | some e' => simp [hevent, wifiRun]
      rw [wifiCache, hevents]
      exact hstep

/-! ## What the cached networks are -/

/-- The network that is cached for an access point. -/
def network (s : WirelessNetworks) (ap : ObjectPath) :
    Option CachedWirelessNetwork :=
  (s.wifis[ap]?).map Prod.snd

theorem network_onAccessPointAdded (path device : ObjectPath)
    (answer : Option AccessPointProperties) (s : WirelessNetworks)
    (ap : ObjectPath) :
    (s.onAccessPointAdded bootTime path device answer).network ap =
      if path = ap ∧ s.nmDevices[device]? = some .wifi then
        (networkOf bootTime answer).or (s.network ap)
      else s.network ap := by
  unfold onAccessPointAdded network
  by_cases hwifi : s.nmDevices[device]? = some .wifi
  · cases networkOf bootTime answer with
    | none => simp [hwifi]
    | some n =>
        by_cases heq : path = ap
        · simp [hwifi, heq]
        · simp [hwifi, heq, Std.ExtTreeMap.getElem?_insert]
  · simp [hwifi]

theorem nmDevices_onAccessPointAdded (path device : ObjectPath)
    (answer : Option AccessPointProperties) (s : WirelessNetworks) :
    (s.onAccessPointAdded bootTime path device answer).nmDevices =
      s.nmDevices := by
  unfold onAccessPointAdded
  split
  · split <;> rfl
  · rfl

/-- The last access point of the loop that can be cached is. -/
theorem network_addAccessPoints {device : ObjectPath}
    (aps : List (ObjectPath × Option AccessPointProperties)) :
    ∀ s : WirelessNetworks, s.nmDevices[device]? = some .wifi → ∀ ap,
      (s.addAccessPoints bootTime aps device).network ap =
        (lastNetwork bootTime ap aps).or (s.network ap) := by
  induction aps with
  | nil =>
      intro s _ ap
      rfl
  | cons p aps ih =>
      intro s hwifi ap
      have hdevices := @nmDevices_onAccessPointAdded bootTime p.1 device p.2 s
      have htail := ih (s.onAccessPointAdded bootTime p.1 device p.2)
        (by rw [hdevices, hwifi]) ap
      show ((s.onAccessPointAdded bootTime p.1 device p.2).addAccessPoints
        bootTime aps device).network ap = _
      rw [htail, network_onAccessPointAdded]
      by_cases heq : p.1 = ap
      · cases hnetwork : networkOf bootTime p.2 with
        | none => simp [lastNetwork, heq, hnetwork]
        | some n =>
            simp [lastNetwork, heq, hnetwork, hwifi, List.getLast?_cons]
      · simp [lastNetwork, heq]

theorem network_onDeviceAdded (path : ObjectPath) (type : DeviceType)
    (calls : DeviceCalls)
    (aps : List (ObjectPath × Option AccessPointProperties))
    (s : WirelessNetworks) (ap : ObjectPath) :
    (s.onDeviceAdded bootTime path type calls aps).network ap =
      if path ∉ s.nmDevices ∧ type = .wifi ∧ calls.Return then
        (lastNetwork bootTime ap aps).or (s.network ap)
      else s.network ap := by
  obtain ⟨typeThrows, typeThrowsAgain, accessPointsThrow⟩ := calls
  unfold onDeviceAdded DeviceCalls.Return
  by_cases hknown : path ∈ s.nmDevices
  · simp [hknown]
  · cases typeThrows with
    | true => simp [hknown]
    | false =>
        by_cases hwifi : type = .wifi
        · subst hwifi
          have hmodem : DeviceType.wifi ≠ .modem := by decide
          have hloop := @network_addAccessPoints bootTime path aps
            { s with nmDevices := s.nmDevices.insert path .wifi }
            (by simp) ap
          cases typeThrowsAgain with
          | true => simp [hknown, hmodem]
          | false =>
              cases accessPointsThrow with
              | true => simp [hknown, hmodem, network]
              | false =>
                  simp only [hknown, hmodem, Bool.false_eq_true, if_false,
                    if_true, not_false_eq_true, true_and]
                  exact hloop
        · by_cases hmodem : type = .modem
          · subst hmodem
            cases typeThrowsAgain <;> simp [hknown, hwifi, network]
          · cases typeThrowsAgain <;> simp [hknown, hwifi, hmodem]

theorem network_onAccessPointRemoved (path : ObjectPath)
    (s : WirelessNetworks) (ap : ObjectPath) :
    (s.onAccessPointRemoved path).network ap =
      if path = ap then none else s.network ap := by
  unfold onAccessPointRemoved network
  split
  · by_cases heq : path = ap
    · simp [heq]
    · simp [heq, Std.ExtTreeMap.getElem?_erase]
  · rename_i hmem
    by_cases heq : path = ap
    · subst heq
      simpa using hmem
    · rw [if_neg heq]

theorem network_onPropertiesChanged (path : ObjectPath)
    (dict : List (String × NmVariant)) (s : WirelessNetworks)
    (ap : ObjectPath) :
    (s.onPropertiesChanged bootTime path dict).network ap =
      if path = ap then
        (s.network ap).map fun n =>
          n.onAccessPointPropertiesChanged bootTime dict
      else s.network ap := by
  unfold onPropertiesChanged network
  by_cases heq : path = ap
  · subst heq
    cases hcached : s.wifis[path]? with
    | none => simp [hcached]
    | some p => simp
  · cases hcached : s.wifis[path]? with
    | none => simp [heq]
    | some p => simp [heq, Std.ExtTreeMap.getElem?_insert]

/-- The network that comes of a lifetime. -/
def grown (bootTime : Int)
    (l : CachedWirelessNetwork × List (List (String × NmVariant))) :
    CachedWirelessNetwork :=
  l.2.foldl (CachedWirelessNetwork.onAccessPointPropertiesChanged bootTime) l.1

/-- What is cached for an access point is the network that it was when it was
cached last, with all changes since then. -/
theorem network_run (events : List NetworkEvent) (ap : ObjectPath) :
    (run bootTime events).network ap =
      (lifetime bootTime ap events).map (grown bootTime) := by
  induction events with
  | nil => rfl
  | cons e older ih =>
      have hsimulates := @run_simulates_wifiRun bootTime older
      have hadded : ∀ n : Option CachedWirelessNetwork,
          ((n.map fun n => (n, [])).or (lifetime bootTime ap older)).map
              (grown bootTime) =
            n.or ((lifetime bootTime ap older).map (grown bootTime)) := by
        intro n
        cases n with
        | none => rfl
        | some n => rfl
      cases e with
      | deviceAdded path type calls aps =>
          show ((run bootTime older).onDeviceAdded bootTime path type calls
            aps).network ap = _
          rw [network_onDeviceAdded, hsimulates.nmDevices, ih, lifetime]
          split
          · exact (hadded _).symm
          · rfl
      | deviceRemoved path => exact ih
      | accessPointAdded path device answer =>
          show WirelessNetworks.network (if device ∈ _ then _ else _) ap = _
          rw [hsimulates.connected, lifetime]
          by_cases hconnected :
              device ∈ (wifiCache bootTime older).connected
          · rw [if_pos hconnected, network_onAccessPointAdded,
              hsimulates.nmDevices, ih]
            simp only [hconnected, true_and]
            split
            · exact (hadded _).symm
            · rfl
          · rw [if_neg hconnected, if_neg fun h => hconnected h.2.1]
            exact ih
      | accessPointRemoved path device =>
          show WirelessNetworks.network (if device ∈ _ then _ else _) ap = _
          rw [hsimulates.connected, lifetime]
          by_cases hconnected :
              device ∈ (wifiCache bootTime older).connected
          · rw [if_pos hconnected, network_onAccessPointRemoved, ih]
            simp only [hconnected, and_true]
            split <;> rfl
          · rw [if_neg hconnected, if_neg fun h => hconnected h.2]
            exact ih
      | propertiesChanged path dict =>
          show ((run bootTime older).onPropertiesChanged bootTime path
            dict).network ap = _
          rw [network_onPropertiesChanged, ih, lifetime]
          split
          · simp only [Option.map_map]
            congr 1
            funext l
            simp [grown, List.foldl_append]
          · rfl

/-! ## The manager refines the cache -/

theorem reach_wifiRun (events : List WifiEvent) :
    WifiRun.machine.Reach (fun _ _ => True) (wifiRun events) := by
  induction events with
  | nil => exact .initial rfl
  | cons e older ih => exact ih.step e trivial rfl

theorem networkOf_inBounds {answer : Option AccessPointProperties}
    {n : CachedWirelessNetwork} (h : networkOf bootTime answer = some n) :
    n.InBounds := by
  obtain ⟨ap, -, hap⟩ := Option.bind_eq_some_iff.mp h
  obtain ⟨hfrequency, hstrength, rfl⟩ :=
    CachedWirelessNetwork.construct_eq_some_iff.mp hap
  exact ⟨hfrequency, hstrength⟩

theorem lastNetwork_inBounds {ap : ObjectPath}
    {aps : List (ObjectPath × Option AccessPointProperties)}
    {n : CachedWirelessNetwork} (h : lastNetwork bootTime ap aps = some n) :
    n.InBounds := by
  obtain ⟨p, -, hp⟩ := List.mem_filterMap.mp (List.mem_of_getLast? h)
  split at hp
  · exact networkOf_inBounds hp
  · cases hp

/-- A lifetime begins with a network in bounds. -/
theorem lifetime_inBounds (events : List NetworkEvent) {ap : ObjectPath}
    {l : CachedWirelessNetwork × List (List (String × NmVariant))}
    (h : lifetime bootTime ap events = some l) : l.1.InBounds := by
  induction events generalizing l with
  | nil => cases h
  | cons e older ih =>
      have hadded : ∀ n : Option CachedWirelessNetwork,
          (∀ n', n = some n' → n'.InBounds) →
          (n.map fun n => (n, [])).or (lifetime bootTime ap older) = some l →
            l.1.InBounds := by
        intro n hn hl
        cases n with
        | none => exact ih hl
        | some n' =>
            obtain rfl := Option.some.inj hl
            exact hn n' rfl
      cases e with
      | deviceAdded path type calls aps =>
          rw [lifetime] at h
          split at h
          · exact hadded _ (fun _ => lastNetwork_inBounds) h
          · exact ih h
      | deviceRemoved path => exact ih h
      | accessPointAdded path device answer =>
          rw [lifetime] at h
          split at h
          · exact hadded _ (fun _ => networkOf_inBounds) h
          · exact ih h
      | accessPointRemoved path device =>
          rw [lifetime] at h
          split at h
          · cases h
          · exact ih h
      | propertiesChanged path dict =>
          rw [lifetime] at h
          split at h
          · obtain ⟨l', hl', rfl⟩ := Option.map_eq_some_iff.mp h
            have hold := ih hl'
            exact hold
          · exact ih h

/-- Changes keep a network in bounds. -/
theorem inBounds_grown
    {l : CachedWirelessNetwork × List (List (String × NmVariant))}
    (h : l.1.InBounds) : (grown bootTime l).InBounds := by
  unfold grown
  rw [CachedWirelessNetwork.foldl_changes]
  constructor
  · exact CachedWirelessNetwork.latest_of_forall
      (fun _ _ => CachedWirelessNetwork.isValid_of_readFrequency) h.frequency _
  · exact CachedWirelessNetwork.latest_of_forall
      (fun _ _ => CachedWirelessNetwork.isValid_of_readStrength)
      h.signalStrength _

end WirelessNetworks

end LocationService
