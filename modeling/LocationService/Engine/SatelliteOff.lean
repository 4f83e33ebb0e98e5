import LocationService.Engine.SwitchOff

/-!
# Switching satellite based positioning off

The satellite slot disables every provider that needs satellites.  While it
runs, no recomputed status touches the counters of these providers, so each of
them stops the streams its own counters show.  Streams whose counter was
zeroed earlier, by an engine that fell back from active to on, keep running.
-/

namespace LocationService.System

open LocationService.Library

/-- A `disable` of another provider leaves the live streams of a blocked
provider alone. -/
private theorem liveStreams_settleDisable_ne {s : System} {i j : ProviderId}
    (hij : i ≠ j) (hb : s.satelliteBlocked i = true) :
    (s.settleDisable j).liveStreams i = s.liveStreams i := by
  have hcount : ∀ x, (s.settleDisable j).counter i x = s.counter i x := by
    intro x
    rcases (swept_settleDisable s j).counter i x with
      ⟨-, hc⟩ | ⟨hf, -⟩ | ⟨hV, -⟩
    · exact hc
    · rw [hb] at hf
      cases hf
    · exact absurd hV hij
  unfold liveStreams
  simp only [hcount]

/-- In a loop that disables, a blocked provider stops what its counters
showed before the loop. -/
theorem disableWhere_impl_blocked {p : ProviderId → Bool}
    (is : List ProviderId) (hnd : is.Nodup) {s : System} {i : ProviderId}
    (hi : i ∈ is) (hp : p i = true) (hb : s.satelliteBlocked i = true) :
    ((disableWhere p is s).provider i).impl =
      (s.provider i).impl.stopAll (s.liveStreams i) := by
  induction is generalizing s with
  | nil => cases hi
  | cons j is ih =>
      obtain ⟨hfresh, hnd'⟩ := List.nodup_cons.mp hnd
      rw [disableWhere_cons]
      by_cases hij : i = j
      · subst hij
        have hrest := (swept_disableWhere p is (s.settleDisable i)).impl_ne i
          fun h => hfresh h.1
        rw [if_pos hp, hrest]
        exact settleDisable_impl_blocked hb
      · have hmem : i ∈ is := (List.mem_cons.mp hi).resolve_left hij
        by_cases hpj : p j = true
        · rw [if_pos hpj]
          have hswept := swept_settleDisable s j
          rw [ih hnd' hmem ((hswept.blocked i).trans hb),
            hswept.impl_ne i hij, liveStreams_settleDisable_ne hij hb]
        · rw [if_neg hpj]
          exact ih hnd' hmem hb

/-- No implementation that needs satellites runs. -/
def SatellitesReleased (s : System) : Prop :=
  ∀ i ∈ s.order, (s.provider i).requiresSatellites = true →
    ∀ x, ¬ s.Running i x

/-- Every implementation that needs satellites is counted once for each
stream it runs. -/
def SatellitesAccounted (s : System) : Prop :=
  ∀ i ∈ s.order, (s.provider i).requiresSatellites = true →
    ∀ x, s.implCounter i x = if 0 < s.counter i x then 1 else 0

instance (s : System) : Decidable s.SatellitesReleased :=
  inferInstanceAs (Decidable (∀ i ∈ s.order,
    (s.provider i).requiresSatellites = true → ∀ x, ¬ s.Running i x))

instance (s : System) : Decidable s.SatellitesAccounted :=
  inferInstanceAs (Decidable (∀ i ∈ s.order,
    (s.provider i).requiresSatellites = true →
      ∀ x, s.implCounter i x = if 0 < s.counter i x then 1 else 0))

/-- With satellites already off, nothing is in use, so that what is accounted
for does not run. -/
private theorem released_iff_of_off {s : System} (h : Inv s)
    (hoff : s.satelliteBasedPositioningState = .off) :
    SatellitesReleased s ↔ SatellitesAccounted s := by
  refine forall_congr' fun i => forall_congr' fun hi => forall_congr' fun hreq =>
    forall_congr' fun x => ?_
  have hb : s.satelliteBlocked i = true := by
    simp [satelliteBlocked, hreq, hoff]
  rw [h.sound.not_running_iff, h.switches.blocked_disabled i hi hb x,
    if_neg (by omega)]

private theorem released_iff_of_on {s : System} (h : Inv s) :
    SatellitesReleased (s.settleSatellite .off) ↔ SatellitesAccounted s := by
  let u : System := { s with satelliteBasedPositioningState := .off }
  let p : ProviderId → Bool := fun i => (u.provider i).requiresSatellites
  let t := disableWhere p s.order u
  have hsound : Sound u := { h.sound with }
  have hswept := swept_disableWhere p s.order u
  have hsettle : s.settleSatellite .off = t.mirrorSatellite false := by
    unfold settleSatellite
    rw [settleSatelliteOff_foldl]
    rfl
  have ht : Sound t := hswept.sound hsound
  have hstep : ∀ i ∈ s.order, (s.provider i).requiresSatellites = true →
      ∀ x, ¬ t.Running i x ↔
        s.implCounter i x = if 0 < s.counter i x then 1 else 0 := by
    intro i hi hreq x
    have hb : u.satelliteBlocked i = true := by
      simp [satelliteBlocked, u, hreq]
    rw [ht.not_running_iff]
    show (t.provider i).impl.controller.counter x = 0 ↔ _
    rw [disableWhere_impl_blocked s.order h.sound.nodup hi hreq hb]
    exact u.stopAll_live_eq_zero_iff i x
  rw [hsettle]
  constructor
  · intro hr i hi hreq x
    refine (hstep i hi hreq x).mp (hr i ?_ ?_ x)
    · exact hswept.order ▸ hi
    · exact (hswept.requires i).trans hreq
  · intro hacc i hi hreq x
    have hi' : i ∈ s.order := hswept.order ▸ hi
    have hreq' : (s.provider i).requiresSatellites = true :=
      (hswept.requires i).symm.trans hreq
    exact (hstep i hi' hreq' x).mpr (hacc i hi' hreq' x)

/-- `satellite_based_positioning_state = off` returns, and no implementation
that needs satellites runs then exactly when the counters of these providers
show what their implementations run. -/
theorem satellite_off_releases_iff {s : System} (h : Reachable s) :
    ∃ t, network.Returns (.satelliteBasedPositioningState .off) s t ∧
      (SatellitesReleased t ↔ SatellitesAccounted s) := by
  have hs := inv_of_reachable h
  refine ⟨_, returns_iff.mpr rfl, ?_⟩
  by_cases hoff : s.satelliteBasedPositioningState = .off
  · have hsame : s.settle (.satelliteBasedPositioningState .off) = s := by
      unfold settle
      rw [if_pos (by simp [holds, hoff])]
    rw [hsame]
    exact released_iff_of_off hs hoff
  · have hrun : s.settle (.satelliteBasedPositioningState .off) =
        s.settleSatellite .off := by
      unfold settle
      rw [if_neg (by simp [holds, hoff])]
      exact if_neg hoff
    rw [hrun]
    exact released_iff_of_on hs

/-- A satellite provider with one stream in use releases it. -/
theorem satellite_off_releases_position :
    ∃ s t, settleRun [.addProvider 0 true, .start 0 .position]
        (initEngine .on) = some s ∧
      network.Returns (.satelliteBasedPositioningState .off) s t ∧
      s.Running 0 .position ∧ SatellitesReleased t := by
  let run : List Action := [.addProvider 0 true, .start 0 .position]
  have hrun : (settleRun run (initEngine .on)).any (fun s =>
      decide (s.Running 0 .position ∧ s.SatellitesAccounted)) = true := by
    decide
  obtain ⟨s, hs, hreach, hposition, haccounted⟩ := exists_of_settleRun hrun
  obtain ⟨t, ht, hiff⟩ := satellite_off_releases_iff hreach
  exact ⟨s, t, hs, ht, hposition, hiff.mpr haccounted⟩

/-- Position and heading are started and position is stopped again: the engine
falls back to on and zeroes the heading counter, and switching satellites off
then finds nothing to stop. -/
theorem satellite_off_leaves_heading_running :
    ¬ ∀ s, Reachable s →
      ∀ t, network.Returns (.satelliteBasedPositioningState .off) s t →
        SatellitesReleased t := by
  intro hclaim
  have hrun : (settleRun [.addProvider 0 true, .start 0 .position,
      .start 0 .heading, .stop 0 .position] (initEngine .on)).any (fun s =>
        decide ¬ (s.settle (.satelliteBasedPositioningState .off)
          ).SatellitesReleased) = true := by
    decide
  obtain ⟨s, -, hs, hrunning⟩ := exists_of_settleRun hrun
  exact hrunning (hclaim s hs _ (returns_iff.mpr rfl))

end LocationService.System
