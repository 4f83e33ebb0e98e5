import LocationService.Engine.Counting

/-!
# Recomputing the status between two steps

The engine recomputes its status only while its service is online, except in
the loop that switches it off.  `Settled` says so in a form that the loops of
the two switches keep, and `settleDisable_kept` is the rule by which what a
recomputation keeps is kept by those loops.
-/

namespace LocationService.System

open LocationService.Library

/-! ## What a recomputation leaves -/

theorem Reset.isAnyActive {s t : System} (h : s.Reset t) :
    t.isAnyActive = s.isAnyActive := by
  simp only [System.isAnyActive, h.order, h.state]

theorem setController_isAnyActive (s : System) (i : ProviderId)
    (c : Controller) : (s.setController i c).isAnyActive = s.isAnyActive := by
  simp only [isAnyActive, setController_state]
  rfl

theorem setImpl_isAnyActive (s : System) (i : ProviderId)
    (p : Implementation) : (s.setImpl i p).isAnyActive = s.isAnyActive := by
  have hstate : ∀ j, ((s.setImpl i p).provider j).state =
      (s.provider j).state := by
    intro j
    by_cases hj : j = i
    · subst hj
      simp [setImpl]
    · simp [setImpl, hj]
  simp only [isAnyActive, hstate]
  rfl

/-- Online, a recomputed status is the one the providers call for. -/
theorem recompute_engineState_of_online {s : System} (hon : s.Online) :
    s.recompute.engineState = if s.isAnyActive then .active else .on := by
  unfold recompute
  split
  · split
    · assumption
    · unfold settleActive
      rw [if_pos hon]
  · split
    · assumption
    · rfl

private theorem settleOn_isOnline (s : System) : s.settleOn.Online := by
  unfold Online settleOn
  cases s.service <;> rfl

theorem online_settleActive (s : System) : s.settleActive.Online := by
  unfold settleActive
  split
  · rename_i hon
    unfold Online at hon ⊢
    cases hsvc : s.service <;> simp_all
  · have h := settleOn_isOnline s
    unfold Online at h ⊢
    unfold setServiceState
    cases hsvc : s.settleOn.service <;> simp_all

theorem online_recompute {s : System} (hon : s.Online) :
    s.recompute.Online := by
  unfold recompute
  split
  · split
    · exact hon
    · exact online_settleActive s
  · split
    · exact hon
    · exact settleOn_isOnline s

theorem online_settleProviderState {s : System} (hon : s.Online)
    (i : ProviderId) (v : ProviderState) :
    (s.settleProviderState i v).Online := by
  unfold settleProviderState
  split
  · exact hon
  · exact online_recompute (s := s.setProviderState i v) hon

/-- Without a service nothing comes after the loop. -/
theorem settleOff_of_none {s : System} (h : s.service = none) :
    s.settleOff = s.afterOffLoop := by
  have hnone : s.afterOffLoop.service = none := by
    have hsome := s.afterOffLoop_swept.service
    rw [h] at hsome
    simpa using hsome
  unfold settleOff
  simp only [hnone]

/-- Copying the satellite state into the service changes nothing else. -/
theorem settle_copySatellite (s : System) :
    s.settle (.doesSatelliteBasedPositioning
        (s.satelliteBasedPositioningState == .on)) =
      store (.doesSatelliteBasedPositioning
        (s.satelliteBasedPositioningState == .on)) s := by
  unfold settle
  split
  · rename_i hholds
    have hsvc : s.service = s.service.map fun svc =>
        { svc with doesSatelliteBasedPositioning :=
          s.satelliteBasedPositioningState == .on } := by
      cases hsvc : s.service with
      | none => rfl
      | some svc =>
          have hdoes : svc.doesSatelliteBasedPositioning =
              (s.satelliteBasedPositioningState == .on) := by
            simpa [holds, hsvc] using hholds
          rw [← hdoes]
          rfl
    unfold store
    dsimp only
    rw [← hsvc]
  · apply if_pos
    show s.satelliteBasedPositioningState = _
    cases s.satelliteBasedPositioningState <;> rfl

/-! ## Settled states -/

/-- The service is online, or the engine is off and nothing is in use. -/
def Settled (s : System) : Prop :=
  s.Online ∨ (s.engineState = .off ∧ ∀ i ∈ s.order, ∀ x, s.counter i x ≤ 0)

theorem Switches.settled {s : System} (h : Switches s) : s.Settled := by
  by_cases hoff : s.engineState = .off
  · refine .inr ⟨hoff, fun i hi x => ?_⟩
    rw [h.off_disabled hoff i hi x]
    omega
  · exact .inl (h.online hoff)

theorem Settled.storeDoesSatellite {s : System} (h : s.Settled) (v : Bool) :
    (store (.doesSatelliteBasedPositioning v) s).Settled := by
  rcases h with hon | hoff
  · refine .inl ?_
    unfold Online at hon ⊢
    cases hsvc : s.service <;> simp_all [store]
  · exact .inr hoff

/-- A stream in use means that the service is online. -/
theorem Settled.online {s : System} (h : s.Settled) {i : ProviderId}
    (hi : i ∈ s.order) {x : Stream} (hx : 0 < s.counter i x) : s.Online := by
  rcases h with hon | ⟨-, hquiet⟩
  · exact hon
  · have := hquiet i hi x
    omega

/-- What a change of a provider's state keeps while the service is online, and
what replacing implementations and marking counters keeps, `disable` keeps. -/
theorem settleDisable_kept {P : System → Prop}
    (hstate : ∀ s i, s.Online → P s → P (s.settleProviderState i .enabled))
    (himpl : ∀ s i p, P s → P (s.setImpl i p))
    (hmark : ∀ s i, P s → P (s.markProviderDisabled i))
    {s : System} (hset : s.Settled) {i : ProviderId} (hi : i ∈ s.order)
    (h : P s) : P (s.settleDisable i) := by
  cases hlive : s.liveStreams i with
  | nil =>
      rw [settleDisable_nil hlive]
      exact hmark s i h
  | cons x xs =>
      have hmem : x ∈ s.liveStreams i := by
        rw [hlive]
        exact List.mem_cons_self ..
      have hon := hset.online hi (mem_liveStreams.mp hmem)
      rw [settleDisable_cons hlive]
      exact hmark _ i (himpl _ i _ (hstate s i hon h))

theorem Settled.settleDisable {s : System} (h : s.Settled) {i : ProviderId}
    (hi : i ∈ s.order) : (s.settleDisable i).Settled := by
  rcases h with hon | ⟨hoff, hquiet⟩
  · refine .inl (settleDisable_kept (P := Online) ?_ ?_ ?_ (.inl hon) hi hon)
    · intro s i hon _
      exact online_settleProviderState hon i .enabled
    · exact fun _ _ _ h => h
    · exact fun _ _ h => h
  · have hlive : s.liveStreams i = [] := by
      refine List.filter_eq_nil_iff.mpr fun x _ => ?_
      have := hquiet i hi x
      simpa using this
    rw [settleDisable_nil hlive]
    refine .inr ⟨hoff, fun j hj x => ?_⟩
    rw [markProviderDisabled_counter]
    split
    · omega
    · exact hquiet j hj x

/-- The rule for the loop of a switch. -/
theorem disableWhere_kept {P : System → Prop}
    (hstate : ∀ s i, s.Online → P s → P (s.settleProviderState i .enabled))
    (himpl : ∀ s i p, P s → P (s.setImpl i p))
    (hmark : ∀ s i, P s → P (s.markProviderDisabled i))
    (p : ProviderId → Bool) {is : List ProviderId} {s : System}
    (hsub : ∀ i ∈ is, i ∈ s.order) (hset : s.Settled) (h : P s) :
    P (disableWhere p is s) := by
  induction is generalizing s with
  | nil => exact h
  | cons i is ih =>
      have hi := hsub i (List.mem_cons_self ..)
      have hrest : ∀ j ∈ is, j ∈ s.order :=
        fun j hj => hsub j (List.mem_cons_of_mem _ hj)
      rw [disableWhere_cons]
      split
      · have horder := (swept_settleDisable s i).order
        refine ih ?_ (hset.settleDisable hi)
          (settleDisable_kept hstate himpl hmark hset hi h)
        intro j hj
        rw [horder]
        exact hrest j hj
      · exact ih hrest hset h

end LocationService.System
