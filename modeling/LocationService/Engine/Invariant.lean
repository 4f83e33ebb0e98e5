import LocationService.Engine.Run

/-!
# The invariant of an engine between two external steps

`Sound` is about the reference counts: the counters of a state tracking
provider never claim a stream that its implementation does not have running.
`Switches` is about the two switches: with the engine off, or with the
satellite switch off for a provider that needs satellites, the counters are at
the disabling value, and a service that is offline sits on an engine that is
off.  Both hold initially and survive every step (`inv_of_reachable`).
-/

namespace LocationService.System

open LocationService.Library

/-- The counters of the providers are covered by their implementations. -/
structure Sound (s : System) : Prop where
  nodup : s.order.Nodup
  bound : ∀ i ∈ s.order, i < s.order.length
  consistent : ∀ i, (s.provider i).impl.Consistent
  covered : ∀ i x, 0 < s.counter i x → s.implCounter i x ≠ 0

/-- What the switches disable is disabled. -/
structure Switches (s : System) : Prop where
  off_disabled : s.engineState = .off → ∀ i ∈ s.order, ∀ x, s.counter i x = -1
  blocked_disabled : ∀ i ∈ s.order, s.satelliteBlocked i = true →
    ∀ x, s.counter i x = -1
  offline_off : ∀ svc, s.service = some svc → svc.isOnline = false →
    s.engineState = .off

/-- The invariant between two external steps. -/
structure Inv (s : System) : Prop where
  sound : Sound s
  switches : Switches s

theorem Sound.running_iff {s : System} (h : Sound s) (i : ProviderId)
    (x : Stream) : s.Running i x ↔ s.implCounter i x ≠ 0 :=
  h.consistent i x

theorem Sound.not_running_iff {s : System} (h : Sound s) (i : ProviderId)
    (x : Stream) : ¬ s.Running i x ↔ s.implCounter i x = 0 := by
  rw [h.running_iff, not_not]

/-! ## Sweeps keep the reference counts -/

theorem Swept.sound {V : ProviderId → Prop} {s t : System} (hst : Swept V s t)
    (h : Sound s) : Sound t := by
  refine
    { nodup := hst.order ▸ h.nodup
      bound := hst.order ▸ h.bound
      consistent := fun i => ?_
      covered := fun i x hx => ?_ }
  · obtain ⟨D, hD, hpos, himpl⟩ := hst.impl i
    rw [himpl]
    exact (h.consistent i).stopAll hD fun x hx => h.covered i x (hpos x hx)
  · rcases hst.counter i x with ⟨hV, hc⟩ | ⟨-, hc⟩ | ⟨-, hc⟩
    · unfold implCounter
      rw [hst.impl_ne i hV]
      exact h.covered i x (hc ▸ hx)
    · omega
    · omega

theorem Reset.sound {s t : System} (hst : s.Reset t) (h : Sound s) : Sound t :=
  hst.swept.sound h

/-! ## Assignments that enable -/

/-- A reset keeps the counters of blocked providers. -/
theorem Reset.blocked_disabled {s t : System} (hst : s.Reset t)
    (h : ∀ i ∈ s.order, s.satelliteBlocked i = true → ∀ x, s.counter i x = -1) :
    ∀ i ∈ t.order, t.satelliteBlocked i = true → ∀ x, t.counter i x = -1 := by
  intro i hi hb x
  rw [hst.order] at hi
  rw [hst.blocked] at hb
  rw [hst.counter_blocked hb]
  exact h i hi hb x

theorem settleActive_engineState (s : System) :
    s.settleActive.engineState ≠ .off := by
  unfold settleActive
  split
  · simp
  · simp [setServiceState, settleOn]

private theorem settleActive_online (s : System) (svc : Service)
    (h : s.settleActive.service = some svc) : svc.isOnline = true := by
  unfold settleActive at h
  cases hsvc : s.service with
  | none =>
      split at h <;> simp [hsvc, setServiceState, settleOn] at h
  | some old =>
      split at h
      · rename_i hon
        have hold : old.isOnline = true := by simpa [Online, hsvc] using hon
        simp only [hsvc, Option.map_some, Option.some.injEq] at h
        rw [← h]
        exact hold
      · simp only [setServiceState, settleOn, hsvc, Option.map_some,
          Option.some.injEq] at h
        rw [← h]

private theorem settleOn_online (s : System) (svc : Service)
    (h : s.settleOn.service = some svc) : svc.isOnline = true := by
  cases hsvc : s.service with
  | none => simp [settleOn, hsvc] at h
  | some old =>
      simp only [settleOn, hsvc, Option.map_some, Option.some.injEq] at h
      rw [← h]

/-- Turning the engine on establishes what the switches ask for. -/
theorem switches_settleOn {s : System}
    (h : ∀ i ∈ s.order, s.satelliteBlocked i = true → ∀ x, s.counter i x = -1) :
    Switches s.settleOn :=
  { off_disabled := fun hoff => by simp [settleOn] at hoff
    blocked_disabled := (reset_settleOn s).blocked_disabled h
    offline_off := fun svc hsvc hoff => by
      rw [settleOn_online s svc hsvc] at hoff
      cases hoff }

theorem switches_settleActive {s : System}
    (h : ∀ i ∈ s.order, s.satelliteBlocked i = true → ∀ x, s.counter i x = -1) :
    Switches s.settleActive :=
  { off_disabled := fun hoff => absurd hoff s.settleActive_engineState
    blocked_disabled := (reset_settleActive s).blocked_disabled h
    offline_off := fun svc hsvc hoff => by
      rw [settleActive_online s svc hsvc] at hoff
      cases hoff }

/-- A recomputed status leaves the switches consistent. -/
theorem Switches.recompute {s : System} (h : Switches s) :
    Switches s.recompute := by
  unfold System.recompute
  split
  · split
    · exact h
    · exact switches_settleActive h.blocked_disabled
  · split
    · exact h
    · exact switches_settleOn h.blocked_disabled

/-- A recomputation never leaves the engine off unless it changes nothing. -/
theorem recompute_engineState (s : System) : s.recompute.engineState ≠ .off := by
  unfold recompute
  split
  · split
    · rename_i h
      simp [h]
    · exact s.settleActive_engineState
  · split
    · rename_i h
      simp [h]
    · simp [settleOn]

theorem Switches.setProviderState {s : System} (h : Switches s)
    (i : ProviderId) (v : ProviderState) :
    Switches (s.setProviderState i v) :=
  { off_disabled := fun hoff j hj x => by
      rw [setProviderState_counter]
      exact h.off_disabled hoff j hj x
    blocked_disabled := fun j hj hb x => by
      rw [setProviderState_counter]
      rw [setProviderState_blocked] at hb
      exact h.blocked_disabled j hj hb x
    offline_off := h.offline_off }

theorem Switches.settleProviderState {s : System} (h : Switches s)
    (i : ProviderId) (v : ProviderState) :
    Switches (s.settleProviderState i v) := by
  unfold System.settleProviderState
  split
  · exact h
  · exact (h.setProviderState i v).recompute

/-! ## Loops that disable

`OfflineOff` is what survives the loop of a switch while the other clauses of
`Switches` are suspended; a loop that ends with the engine off has not
recomputed the status at all. -/

/-- An offline service sits on an engine that is off. -/
def OfflineOff (s : System) : Prop :=
  ∀ svc, s.service = some svc → svc.isOnline = false → s.engineState = .off

private theorem OfflineOff.recompute {s : System} (h : OfflineOff s) :
    OfflineOff s.recompute := by
  intro svc hsvc hoff
  unfold System.recompute at hsvc ⊢
  split
  · rename_i hany
    rw [if_pos hany] at hsvc
    split
    · rename_i hes
      rw [if_pos hes] at hsvc
      exact h svc hsvc hoff
    · rename_i hes
      rw [if_neg hes] at hsvc
      rw [settleActive_online s svc hsvc] at hoff
      cases hoff
  · rename_i hany
    rw [if_neg hany] at hsvc
    split
    · rename_i hes
      rw [if_pos hes] at hsvc
      exact h svc hsvc hoff
    · rename_i hes
      rw [if_neg hes] at hsvc
      rw [settleOn_online s svc hsvc] at hoff
      cases hoff

private theorem OfflineOff.settleProviderState {s : System} (h : OfflineOff s)
    (i : ProviderId) (v : ProviderState) :
    OfflineOff (s.settleProviderState i v) := by
  unfold System.settleProviderState
  split
  · exact h
  · exact OfflineOff.recompute (s := s.setProviderState i v) h

private theorem OfflineOff.settleDisable {s : System} (h : OfflineOff s)
    (i : ProviderId) : OfflineOff (s.settleDisable i) := by
  cases hlive : s.liveStreams i with
  | nil =>
      rw [settleDisable_nil hlive]
      exact h
  | cons x xs =>
      rw [settleDisable_cons hlive]
      exact h.settleProviderState i .enabled

/-- A `disable` that leaves the engine off has found it off and has touched no
other provider's counters. -/
theorem settleDisable_off {s : System} {i : ProviderId}
    (h : (s.settleDisable i).engineState = .off) :
    s.engineState = .off ∧ ∀ j x, (s.settleDisable i).counter j x =
      if j = i then -1 else s.counter j x := by
  cases hlive : s.liveStreams i with
  | nil =>
      rw [settleDisable_nil hlive] at h ⊢
      exact ⟨h, markProviderDisabled_counter s i⟩
  | cons x xs =>
      rw [settleDisable_cons hlive] at h ⊢
      have hsame : s.settleProviderState i .enabled = s := by
        unfold settleProviderState at h ⊢
        split
        · rfl
        · rename_i hne
          rw [if_neg hne] at h
          exact absurd h (recompute_engineState _)
      rw [hsame] at h ⊢
      refine ⟨h, fun j y => ?_⟩
      rw [markProviderDisabled_counter, setImpl_counter]

/-- The loop of a switch, which disables the providers that `p` selects. -/
def disableWhere (p : ProviderId → Bool) (is : List ProviderId) (s : System) :
    System :=
  is.foldl (fun s i => if p i then s.settleDisable i else s) s

theorem disableWhere_cons (p : ProviderId → Bool) (i : ProviderId)
    (is : List ProviderId) (s : System) :
    disableWhere p (i :: is) s =
      disableWhere p is (if p i then s.settleDisable i else s) := rfl

theorem OfflineOff.disableWhere {p : ProviderId → Bool}
    (is : List ProviderId) {s : System} (h : OfflineOff s) :
    OfflineOff (disableWhere p is s) := by
  induction is generalizing s with
  | nil => exact h
  | cons i is ih =>
      rw [disableWhere_cons]
      apply ih
      split
      · exact h.settleDisable i
      · exact h

/-- A loop that leaves the engine off has found it off and has marked exactly
the providers it visited. -/
theorem disableWhere_off {p : ProviderId → Bool} (is : List ProviderId)
    {s : System} (h : (disableWhere p is s).engineState = .off) :
    s.engineState = .off ∧ ∀ j x, (disableWhere p is s).counter j x =
      if j ∈ is ∧ p j = true then -1 else s.counter j x := by
  induction is generalizing s with
  | nil =>
      refine ⟨h, fun j x => ?_⟩
      simp [disableWhere]
  | cons i is ih =>
      rw [disableWhere_cons] at h ⊢
      obtain ⟨hoff, hcount⟩ := ih h
      by_cases hp : p i = true
      · rw [if_pos hp] at hoff hcount ⊢
        obtain ⟨hoff', hcount'⟩ := settleDisable_off hoff
        refine ⟨hoff', fun j x => ?_⟩
        rw [hcount j x, hcount']
        by_cases hji : j = i
        · subst hji
          simp [hp]
        · simp [hji]
      · rw [if_neg hp] at hoff hcount ⊢
        refine ⟨hoff, fun j x => ?_⟩
        rw [hcount j x]
        by_cases hji : j = i
        · subst hji
          simp [hp]
        · simp [hji]

theorem swept_disableWhere (p : ProviderId → Bool) (is : List ProviderId)
    (s : System) :
    Swept (fun i => i ∈ is ∧ p i = true) s (disableWhere p is s) := by
  induction is generalizing s with
  | nil => exact (Reset.refl s).swept.mono fun i => by simp
  | cons i is ih =>
      rw [disableWhere_cons]
      by_cases hp : p i = true
      · rw [if_pos hp]
        apply ((swept_settleDisable s i).trans (ih (s.settleDisable i))).mono
        intro j
        constructor
        · rintro (rfl | ⟨hj, hpj⟩)
          · exact ⟨List.mem_cons_self .., hp⟩
          · exact ⟨List.mem_cons_of_mem _ hj, hpj⟩
        · rintro ⟨hj, hpj⟩
          rcases List.mem_cons.mp hj with rfl | hj
          · exact .inl rfl
          · exact .inr ⟨hj, hpj⟩
      · rw [if_neg hp]
        refine (ih s).mono fun j => ?_
        constructor
        · exact fun ⟨hj, hpj⟩ => ⟨List.mem_cons_of_mem _ hj, hpj⟩
        · rintro ⟨hj, hpj⟩
          rcases List.mem_cons.mp hj with rfl | hj
          · exact absurd hpj hp
          · exact ⟨hj, hpj⟩

/-! ## Switching off -/

theorem afterOffLoop_eq (s : System) :
    s.afterOffLoop =
      { disableWhere (fun _ => true) s.order
          { s with engineState := .off } with
        persistedEngineState := .off } := by
  simp [afterOffLoop, disableWhere]

private theorem offlineOff_afterOffLoop (s : System) :
    OfflineOff s.afterOffLoop := by
  rw [afterOffLoop_eq]
  exact OfflineOff.disableWhere (s := { s with engineState := .off }) s.order
    fun _ _ _ => rfl

private theorem afterOffLoop_off {s : System}
    (h : s.afterOffLoop.engineState = .off) (i : ProviderId) (hi : i ∈ s.order)
    (x : Stream) : s.afterOffLoop.counter i x = -1 := by
  rw [afterOffLoop_eq] at h ⊢
  have := (disableWhere_off (p := fun _ => true) s.order h).2 i x
  rw [if_pos ⟨hi, rfl⟩] at this
  exact this

/-- Switching off only ever sweeps the known providers. -/
theorem swept_settleOff (s : System) : Swept (· ∈ s.order) s s.settleOff := by
  have h := s.afterOffLoop_swept
  unfold settleOff
  dsimp only
  split
  · exact h
  · split
    · rename_i hcase
      refine
        { order := h.order
          service := by simpa [goOffline, markAll] using h.service
          satellite := h.satellite
          requires := fun i => ?_
          impl := fun i => ?_
          impl_ne := fun i hi => ?_
          counter := fun i x => ?_ }
      · rw [← h.requires i]
        show (if _ then _ else _ : StateTrackingProvider).requiresSatellites = _
        split <;> rfl
      · obtain ⟨D, hD, hpos, himpl⟩ := h.impl i
        refine ⟨D, hD, hpos, ?_⟩
        rw [← himpl]
        show (if _ then _ else _ : StateTrackingProvider).impl = _
        split <;> rfl
      · rw [← h.impl_ne i hi]
        show (if _ then _ else _ : StateTrackingProvider).impl = _
        split <;> rfl
      · have hc := markAll_counter s.afterOffLoop s.afterOffLoop.order i x
        rw [h.order] at hc
        by_cases hi : i ∈ s.order
        · rw [if_pos hi] at hc
          refine .inr (.inr ⟨hi, ?_⟩)
          rw [h.order]
          exact hc
        · rw [if_neg hi] at hc
          rcases h.counter i x with ⟨-, hs⟩ | hs | ⟨hV, -⟩
          · refine .inl ⟨hi, ?_⟩
            rw [h.order]
            exact hc.trans hs
          · refine .inr (.inl ⟨hs.1, ?_⟩)
            rw [h.order]
            exact hc.trans hs.2
          · exact absurd hV hi
    · exact { h with service := by simpa [goOffline] using h.service }

/-- With a service, switching off ends with the engine off. -/
theorem settleOff_engineState {s : System} (h : s.service.isSome) :
    s.settleOff.engineState = .off := by
  have hsome := s.afterOffLoop_swept.service.trans h
  obtain ⟨svc, hsvc⟩ := Option.isSome_iff_exists.mp hsome
  unfold settleOff
  simp only [hsvc]
  split
  · rfl
  · rename_i hcase
    show s.afterOffLoop.engineState = .off
    by_cases hoff : s.afterOffLoop.engineState = .off
    · exact hoff
    · by_cases hon : svc.isOnline = true
      · exact absurd ⟨hon, hoff⟩ hcase
      · exact offlineOff_afterOffLoop s svc hsvc (by simpa using hon)

/-- If the engine is off after switching it off, everything is disabled.
Without a service a stop hook may have turned it on again. -/
theorem settleOff_disabled {s : System} (h : s.settleOff.engineState = .off)
    (i : ProviderId) (hi : i ∈ s.order) (x : Stream) :
    s.settleOff.counter i x = -1 := by
  unfold settleOff at h ⊢
  dsimp only at h ⊢
  split at h
  · exact afterOffLoop_off h i hi x
  · split at h
    · rename_i hcase
      rw [if_pos hcase]
      have hc := markAll_counter s.afterOffLoop s.afterOffLoop.order i x
      rw [s.afterOffLoop_swept.order, if_pos hi] at hc
      rw [s.afterOffLoop_swept.order]
      exact hc
    · rename_i hcase
      rw [if_neg hcase]
      exact afterOffLoop_off h i hi x

end LocationService.System
