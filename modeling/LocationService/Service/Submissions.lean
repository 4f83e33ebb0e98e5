import LocationService.Connectivity.WirelessNetworks
import LocationService.Service.IchnaeaReport

/-!
# What is submitted about the networks around

The harvester reports a position with the networks that the connectivity manager
enumerates, and `ichnaea::Reporter` submits them.  From what NetworkManager
reported to the document that leaves the device: a submission has, in the order
of their paths, the access points that are cached, each with the address and the
frequency that were reported last.  There is a frequency for each of them, since
the manager only caches valid ones.  As long as the cache follows
NetworkManager, these are the access points that are visible.
-/

namespace LocationService

open Library

namespace IchnaeaReporter

open CachedWirelessNetwork

variable {bootTime : Int}

/-- What is submitted about an access point with some lifetime. -/
def submittedOfLifetime
    (l : CachedWirelessNetwork × List (List (String × NmVariant))) :
    Option SubmittedWifi :=
  let changes := l.2.flatten
  if (Text.find "_nomap".toList
      (latest .ssid readSsid changes l.1.ssid)).isSome then none
  else
    some ⟨latest .hwAddress readHwAddress changes l.1.bssid,
      some (latest .frequency readFrequency changes l.1.frequency)⟩

/-- What is submitted about a cached network, in terms of its lifetime. -/
theorem submittedOfLifetime_eq
    {l : CachedWirelessNetwork × List (List (String × NmVariant))}
    (hvalid : frequencyBounds.isValid l.1.frequency = true) :
    submittedOfLifetime l =
      let n := WirelessNetworks.grown bootTime l
      if isMappable n then some (.of n) else none := by
  have hgrown : WirelessNetworks.grown bootTime l = _ :=
    foldl_changes bootTime l.1 l.2
  have hfrequency : frequencyBounds.isValid
      (latest .frequency readFrequency l.2.flatten l.1.frequency) = true :=
    latest_of_forall (fun _ _ => isValid_of_readFrequency) hvalid _
  dsimp only
  rw [hgrown]
  unfold submittedOfLifetime isMappable SubmittedWifi.of validFrequency
  dsimp only
  rw [hfrequency]
  cases Text.find "_nomap".toList
    (latest .ssid readSsid l.2.flatten l.1.ssid) <;> rfl

/-- A map with the values that a function gives its keys lists those values in
the order of the keys. -/
theorem enumerate_eq_filterMap_keys (s : WirelessNetworks) :
    s.enumerateVisibleWirelessNetworks =
      s.wifis.keys.filterMap fun ap => s.network ap := by
  have hlookup : ∀ p ∈ s.wifis.toList, s.network p.1 = some p.2.2 := by
    intro p hp
    have hget := Std.ExtTreeMap.mem_toList_iff_getElem?_eq_some.mp hp
    unfold WirelessNetworks.network
    rw [hget]
    rfl
  unfold WirelessNetworks.enumerateVisibleWirelessNetworks
  rw [← Std.ExtTreeMap.map_fst_toList_eq_keys, List.filterMap_map]
  generalize s.wifis.toList = ps at hlookup
  induction ps with
  | nil => rfl
  | cons p ps ih =>
      have hhead := hlookup p (List.mem_cons_self ..)
      have htail := ih fun q hq => hlookup q (List.mem_cons_of_mem _ hq)
      rw [List.map_cons, List.filterMap_cons, Function.comp_apply, hhead]
      exact congrArg (p.2.2 :: ·) htail

/-- The networks of a run that may be mapped, by the events. -/
theorem submittedWifis_run (events : List NetworkEvent) :
    let s := WirelessNetworks.run bootTime events
    submittedWifis s.enumerateVisibleWirelessNetworks =
      if s.wifis.keys.isEmpty then none
      else some (s.wifis.keys.filterMap fun ap =>
        (lifetime bootTime ap events).bind submittedOfLifetime) := by
  dsimp only
  generalize hs : WirelessNetworks.run bootTime events = s
  have hempty : s.enumerateVisibleWirelessNetworks.isEmpty =
      s.wifis.keys.isEmpty := by
    unfold WirelessNetworks.enumerateVisibleWirelessNetworks
    rw [← Std.ExtTreeMap.map_fst_toList_eq_keys]
    cases s.wifis.toList <;> rfl
  have hone : ∀ ap, (lifetime bootTime ap events).bind submittedOfLifetime =
      (s.network ap).bind fun n =>
        if isMappable n then some (SubmittedWifi.of n) else none := by
    intro ap
    rw [← hs, WirelessNetworks.network_run]
    cases hlifetime : lifetime bootTime ap events with
    | none => rfl
    | some l =>
        have hbounds := WirelessNetworks.lifetime_inBounds events hlifetime
        exact submittedOfLifetime_eq hbounds.frequency
  unfold submittedWifis
  rw [hempty]
  split
  · rfl
  · simp only [hone]
    rw [enumerate_eq_filterMap_keys, List.filter_filterMap,
      List.map_filterMap]
    congr 2
    funext ap
    cases s.network ap with
    | none => rfl
    | some n => cases hmappable : isMappable n <;> simp [hmappable]

/-- A wifi device with an access point, and another access point that comes and
goes. -/
def oneNetworkEvents : List NetworkEvent :=
  [.accessPointRemoved "/ap/1" "/device/1",
    .accessPointAdded "/ap/2" "/device/1" (some ⟨0, [], [], 2, 2437, 50⟩),
    .deviceAdded "/device/1" .wifi {}
      [("/ap/1", some ⟨0, [], [], 2, 2412, 50⟩)]]

end IchnaeaReporter

end LocationService
