import LocationService.Engine.Model
import LocationService.Library.Machine
import LocationService.Values.SpaceVehicle

/-!
# The visible space vehicles of the engine

`Engine::add_provider` connects a slot to the `svs` signal of every provider,
which stores each reported vehicle under its key in
`Engine::updates.visible_space_vehicles`.  The slot never erases an entry.

The purpose of the map is stated separately, over the updates received so far:
`reportedNow` looks a key up in the most recent update of every provider.  A
report keeps the two equal exactly if whatever it drops of its provider's
previous report is still reported by another provider with the same data.
-/

namespace LocationService

open Library SpaceVehicle

/-- An emission of the `svs` signal of a provider. -/
structure SvsUpdate where
  provider : ProviderId
  value : SpaceVehicleSet

/-- The engine's map, with the updates it was made from, newest first. -/
structure VisibleVehicles where
  visibleSpaceVehicles : SpaceVehicleMap := ∅
  received : List SvsUpdate := []

/-- The body of the loop `dest[sv.key] = sv` over a report. -/
def mergeReport (dest : SpaceVehicleMap) (src : SpaceVehicleSet) :
    SpaceVehicleMap :=
  src.vehicles.foldl (fun dest sv => dest.insert sv.key sv) dest

/-- The slot that `Engine::add_provider` connects to `svs`. -/
def VisibleVehicles.onSvs (u : SvsUpdate) (s : VisibleVehicles) :
    VisibleVehicles where
  visibleSpaceVehicles := mergeReport s.visibleSpaceVehicles u.value
  received := u :: s.received

/-! ## What the map is for -/

/-- The most recent report of a provider. -/
def lastReport (p : ProviderId) : List SvsUpdate → Option SpaceVehicleSet
  | [] => none
  | u :: older =>
      if u.provider = p then some u.value else lastReport p older

/-- The vehicle under a key in the most recent reports of the providers that
are not superseded, the newest of these reports first. -/
def reportedNow (k : Key) : List ProviderId → List SvsUpdate →
    Option SpaceVehicle
  | _, [] => none
  | superseded, u :: older =>
      if u.provider ∈ superseded then reportedNow k superseded older
      else (u.value.find? k).or
        (reportedNow k (u.provider :: superseded) older)

/-- The map holds the vehicles of the most recent reports, with the newest
data, and nothing else. -/
def VisibleVehicles.Current (s : VisibleVehicles) : Prop :=
  ∀ k, s.visibleSpaceVehicles[k]? = reportedNow k [] s.received

/-- What is reported now is in the last report of some provider. -/
theorem exists_lastReport_of_reportedNow {k : Key} {sv : SpaceVehicle}
    (us : List SvsUpdate) : ∀ superseded : List ProviderId,
    reportedNow k superseded us = some sv →
    ∃ p, p ∉ superseded ∧ ∃ r, lastReport p us = some r ∧
      r.find? k = some sv := by
  induction us with
  | nil =>
      intro superseded h
      cases h
  | cons u older ih =>
      intro superseded h
      by_cases hmem : u.provider ∈ superseded
      · simp only [reportedNow, hmem, if_true] at h
        have hfound := ih superseded h
        obtain ⟨p, hp, r, hr, hsv⟩ := hfound
        have hne : u.provider ≠ p := fun heq => hp (heq ▸ hmem)
        exact ⟨p, hp, r, by simp [lastReport, hne, hr], hsv⟩
      · simp only [reportedNow, hmem, if_false] at h
        cases hfind : u.value.find? k with
        | some sv' =>
            rw [hfind] at h
            have heq : sv' = sv := Option.some.inj h
            exact ⟨u.provider, hmem, u.value, by simp [lastReport],
              heq ▸ hfind⟩
        | none =>
            rw [hfind, Option.none_or] at h
            have hfound := ih (u.provider :: superseded) h
            obtain ⟨p, hp, r, hr, hsv⟩ := hfound
            rw [List.mem_cons, not_or] at hp
            have hne : u.provider ≠ p := fun heq => hp.1 heq.symm
            exact ⟨p, hp.2, r, by simp [lastReport, hne, hr], hsv⟩

/-- What is in the last report of some provider is reported now. -/
theorem reportedNow_isSome_of_lastReport {k : Key} {p : ProviderId}
    {r : SpaceVehicleSet} (hfind : (r.find? k).isSome = true)
    (us : List SvsUpdate) : ∀ superseded : List ProviderId, p ∉ superseded →
    lastReport p us = some r → (reportedNow k superseded us).isSome = true := by
  induction us with
  | nil =>
      intro superseded _ h
      cases h
  | cons u older ih =>
      intro superseded hp h
      by_cases heq : u.provider = p
      · have hvalue : u.value = r := by simpa [lastReport, heq] using h
        simp [reportedNow, heq, hp, hvalue, hfind]
      · have hrest : lastReport p older = some r := by
          simpa [lastReport, heq] using h
        have hne : p ≠ u.provider := fun h' => heq h'.symm
        by_cases hmem : u.provider ∈ superseded
        · simpa [reportedNow, hmem] using ih superseded hp hrest
        · have htail := ih (u.provider :: superseded) (by simp [hne, hp]) hrest
          simp [reportedNow, hmem, htail]

/-- Only which providers are superseded matters. -/
theorem reportedNow_congr (k : Key) (us : List SvsUpdate) :
    ∀ superseded superseded' : List ProviderId,
    (∀ p, p ∈ superseded ↔ p ∈ superseded') →
    reportedNow k superseded us = reportedNow k superseded' us := by
  induction us with
  | nil =>
      intro _ _ _
      rfl
  | cons u older ih =>
      intro superseded superseded' hsame
      have htail := ih superseded superseded' hsame
      have hcons := ih (u.provider :: superseded) (u.provider :: superseded')
        (by simp [hsame])
      simp only [reportedNow, hsame u.provider, htail, hcons]

/-- Superseding a provider whose last report lacks a key changes nothing for
that key. -/
theorem reportedNow_cons_of_absent {k : Key} {p : ProviderId}
    (us : List SvsUpdate) : ∀ superseded : List ProviderId,
    (∀ r, lastReport p us = some r → r.find? k = none) →
    reportedNow k (p :: superseded) us = reportedNow k superseded us := by
  induction us with
  | nil =>
      intro _ _
      rfl
  | cons u older ih =>
      intro superseded habsent
      by_cases hmem : p ∈ superseded
      · apply reportedNow_congr
        intro q
        simp only [List.mem_cons, or_iff_right_iff_imp]
        intro hq
        exact hq ▸ hmem
      by_cases heq : u.provider = p
      · have hnone : u.value.find? k = none :=
          habsent u.value (by simp [lastReport, heq])
        simp [reportedNow, heq, hmem, hnone]
      · have hrest : ∀ r, lastReport p older = some r → r.find? k = none := by
          intro r hr
          exact habsent r (by simp [lastReport, heq, hr])
        have htail := ih superseded hrest
        have hswap : reportedNow k (u.provider :: p :: superseded) older =
            reportedNow k (u.provider :: superseded) older := by
          rw [← ih (u.provider :: superseded) hrest]
          apply reportedNow_congr
          intro q
          simp [or_left_comm]
        simp [reportedNow, heq, htail, hswap]

/-! ## One report -/

private theorem find?_eq_none_of_ordered {sv : SpaceVehicle}
    {svs : List SpaceVehicle}
    (h : (sv :: svs).Pairwise fun lhs rhs => lhs.key < rhs.key) :
    svs.find? (fun sv' => sv'.key = sv.key) = none := by
  rw [List.find?_eq_none]
  intro sv' hmem
  have hlt : sv.key < sv'.key := List.rel_of_pairwise_cons h hmem
  have hne : sv.key ≠ sv'.key := Key.ne_of_lt hlt
  simpa using hne.symm

private theorem getElem?_foldl_insert {k : Key} {svs : List SpaceVehicle} :
    ∀ dest : SpaceVehicleMap,
    svs.Pairwise (fun lhs rhs => lhs.key < rhs.key) →
    (svs.foldl (fun dest sv => dest.insert sv.key sv) dest)[k]? =
      (svs.find? fun sv => sv.key = k).or dest[k]? := by
  induction svs with
  | nil =>
      intro dest _
      rfl
  | cons sv svs ih =>
      intro dest hordered
      have htail := ih (dest.insert sv.key sv) hordered.of_cons
      by_cases hkey : sv.key = k
      · subst hkey
        have hnone := find?_eq_none_of_ordered hordered
        simp [htail, hnone]
      · simp [htail, hkey, Std.ExtTreeMap.getElem?_insert]

/-- A report overwrites the vehicles it contains and keeps all others. -/
theorem getElem?_mergeReport (dest : SpaceVehicleMap) (src : SpaceVehicleSet)
    (k : Key) : (mergeReport dest src)[k]? = (src.find? k).or dest[k]? :=
  getElem?_foldl_insert dest src.ordered

/-- A report is the newest one, and supersedes those of its provider. -/
theorem reportedNow_onSvs (k : Key) (u : SvsUpdate) (s : VisibleVehicles) :
    reportedNow k [] (s.onSvs u).received =
      (u.value.find? k).or (reportedNow k [u.provider] s.received) := by
  simp [VisibleVehicles.onSvs, reportedNow]

/-- Whatever the update drops of the preceding report of its provider is still
reported by another provider, with the data it is shown with. -/
def DropsNothingVisible (u : SvsUpdate) (s : VisibleVehicles) : Prop :=
  ∀ r ∈ lastReport u.provider s.received, ∀ sv ∈ r.vehicles,
    u.value.find? sv.key = none →
    reportedNow sv.key [u.provider] s.received =
      reportedNow sv.key [] s.received

instance (u : SvsUpdate) (s : VisibleVehicles) :
    Decidable (DropsNothingVisible u s) :=
  inferInstanceAs (Decidable (∀ _ ∈ _, ∀ _ ∈ _, _ → _))

/-- For a vehicle that the update lacks, superseding the provider's preceding
report changes nothing. -/
theorem DropsNothingVisible.reportedNow_eq {u : SvsUpdate}
    {s : VisibleVehicles} (h : DropsNothingVisible u s) {k : Key}
    (habsent : u.value.find? k = none) :
    reportedNow k [u.provider] s.received = reportedNow k [] s.received := by
  by_cases hlast : ∀ r, lastReport u.provider s.received = some r →
      r.find? k = none
  · exact reportedNow_cons_of_absent s.received [] hlast
  · simp only [not_forall] at hlast
    obtain ⟨r, hr, hfind⟩ := hlast
    obtain ⟨sv, hsv⟩ := Option.ne_none_iff_exists'.mp hfind
    have hkey : sv.key = k := SpaceVehicleSet.key_of_find? hsv
    have hmem : sv ∈ r.vehicles := List.mem_of_find?_eq_some hsv
    have heq := h r hr sv hmem (by rw [hkey, habsent])
    rwa [hkey] at heq

/-- A report keeps the map current exactly if it drops nothing visible. -/
theorem VisibleVehicles.Current.onSvs_iff {s : VisibleVehicles}
    (h : s.Current) (u : SvsUpdate) :
    (s.onSvs u).Current ↔ DropsNothingVisible u s := by
  have hmap : ∀ k, (s.onSvs u).visibleSpaceVehicles[k]? =
      (u.value.find? k).or (reportedNow k [] s.received) := by
    intro k
    rw [← h k]
    exact getElem?_mergeReport _ _ k
  constructor
  · intro hcurrent r _ sv _ habsent
    have hk := hcurrent sv.key
    rw [hmap, reportedNow_onSvs, habsent, Option.none_or, Option.none_or] at hk
    exact hk.symm
  · intro hdrops k
    rw [hmap, reportedNow_onSvs]
    cases hfind : u.value.find? k with
    | some sv => rfl
    | none => simp [hdrops.reportedNow_eq hfind]

/-! ## Sequences of reports -/

/-- The engine's map under the updates of any number of providers. -/
def visibleMachine : Machine VisibleVehicles SvsUpdate :=
  .ofStep {} VisibleVehicles.onSvs

/-- While every report drops nothing visible, the map is current after each of
them, and the first report that drops a visible vehicle leaves it stale. -/
theorem visible_space_vehicles_current {s : VisibleVehicles}
    (h : visibleMachine.Reach DropsNothingVisible s) :
    s.Current ∧ ∀ u, (s.onSvs u).Current ↔ DropsNothingVisible u s := by
  have hinit : VisibleVehicles.Current {} := fun k => rfl
  exact h.ofStep_keeps_itself VisibleVehicles.Current hinit
    (fun u _ hcurrent => hcurrent.onSvs_iff u)

private def vehicle (id : UInt32) (snr : Float32) : SpaceVehicle :=
  { key := ⟨.gps, id⟩, snr := snr }

private def report (svs : List SpaceVehicle)
    (h : svs.Pairwise fun lhs rhs => lhs.key < rhs.key := by decide) :
    SpaceVehicleSet := ⟨svs, h⟩

/-- Two providers see a vehicle alike, one of them loses it, and a further
vehicle rises. -/
theorem visible_space_vehicles_current_two_providers :
    ∃ s, visibleMachine.Reach DropsNothingVisible s ∧
      s.received.length = 4 ∧ s.visibleSpaceVehicles.size = 2 ∧
      s.Current ∧ ∀ u, (s.onSvs u).Current ↔ DropsNothingVisible u s := by
  have hrun : (Machine.replay (fun u s => some (VisibleVehicles.onSvs u s))
      DropsNothingVisible
      [⟨0, report [vehicle 7 40]⟩, ⟨1, report [vehicle 7 40]⟩,
        ⟨0, report []⟩, ⟨0, report [vehicle 9 35]⟩] {}).any
      (fun s => decide (s.received.length = 4 ∧
        s.visibleSpaceVehicles.size = 2)) = true := by decide
  obtain ⟨s, hreach, hlength, hsize⟩ :=
    Machine.Reach.ofStep_exists_of_replay _ hrun
  exact ⟨s, hreach, hlength, hsize, visible_space_vehicles_current hreach⟩

/-- A vehicle that sets stays in the map: its provider reports it, and then
reports nothing. -/
theorem set_vehicle_stays_visible :
    ¬ ∀ s, visibleMachine.Reach (fun _ _ => True) s → s.Current := by
  intro hall
  have hrun : (Machine.replay (fun u s => some (VisibleVehicles.onSvs u s))
      (fun _ _ => True) [⟨0, report [vehicle 7 40]⟩, ⟨0, report []⟩] {}).any
      (fun s => decide (s.visibleSpaceVehicles[Key.mk .gps 7]? ≠
        reportedNow (Key.mk .gps 7) [] s.received)) = true := by decide
  obtain ⟨s, hreach, hne⟩ := Machine.Reach.ofStep_exists_of_replay _ hrun
  exact hne (hall s hreach _)

end LocationService
