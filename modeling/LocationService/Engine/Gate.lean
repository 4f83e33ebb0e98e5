import LocationService.Engine.Reachable

/-!
# The satellite gate

While satellite based positioning is off, the controllers of all providers that
need satellites are at the disabling value (`Switches.blocked_disabled`), so a
start on one of them goes no further.  What reaches the implementations behind
them are stops.
-/

namespace LocationService

/-- What happened to an implementation between two states were stops. -/
def Implementation.OnlyStopped (p q : Implementation) : Prop :=
  ∃ xs : List Stream, q = p.stopAll xs

namespace Implementation

theorem OnlyStopped.refl (p : Implementation) : p.OnlyStopped p := ⟨[], rfl⟩

theorem OnlyStopped.trans {p q r : Implementation} (hpq : p.OnlyStopped q)
    (hqr : q.OnlyStopped r) : p.OnlyStopped r := by
  obtain ⟨xs, rfl⟩ := hpq
  obtain ⟨ys, rfl⟩ := hqr
  refine ⟨xs ++ ys, ?_⟩
  simp [stopAll, List.foldl_append]

theorem OnlyStopped.stopUpdates (p : Implementation) (x : Stream) :
    p.OnlyStopped (p.stopUpdates x) := ⟨[x], rfl⟩

/-- Stops do not call a start hook. -/
theorem OnlyStopped.calls {p q : Implementation} (h : p.OnlyStopped q) :
    ∃ added, q.calls = added ++ p.calls ∧ ∀ c ∈ added, ∀ x, c ≠ .start x := by
  obtain ⟨xs, rfl⟩ := h
  induction xs generalizing p with
  | nil => exact ⟨[], rfl, by simp⟩
  | cons x xs ih =>
      obtain ⟨added, hcalls, hadded⟩ := ih (p := p.stopUpdates x)
      rcases p.controller.stopUpdates_cases x with ⟨-, hs⟩ | ⟨-, hs⟩ | ⟨-, -, hs⟩
      · refine ⟨added, ?_, hadded⟩
        rw [stopAll_cons, hcalls]
        simp [Implementation.stopUpdates, hs]
      · refine ⟨added ++ [.stop x], ?_, fun c hc y => ?_⟩
        · rw [stopAll_cons, hcalls]
          simp [Implementation.stopUpdates, hs]
        · rcases List.mem_append.mp hc with hc | hc
          · exact hadded c hc y
          · rw [List.mem_singleton.mp hc]
            simp
      · refine ⟨added, ?_, hadded⟩
        rw [stopAll_cons, hcalls]
        simp [Implementation.stopUpdates, hs]

end Implementation

namespace System

open LocationService.Library

/-! ## Steps that only stop -/

/-- No implementation is started between two states. -/
structure Stops (s t : System) : Prop where
  order : t.order = s.order
  requires : ∀ i,
    (t.provider i).requiresSatellites = (s.provider i).requiresSatellites
  impl : ∀ i, (s.provider i).impl.OnlyStopped (t.provider i).impl

theorem Stops.refl (s : System) : s.Stops s :=
  { order := rfl
    requires := fun _ => rfl
    impl := fun _ => .refl _ }

theorem Stops.trans {s t u : System} (hst : s.Stops t) (htu : t.Stops u) :
    s.Stops u :=
  { order := htu.order.trans hst.order
    requires := fun i => (htu.requires i).trans (hst.requires i)
    impl := fun i => (hst.impl i).trans (htu.impl i) }

/-- Replacing one provider by one that has at most been stopped. -/
theorem stops_setProvider {s : System} {i : ProviderId}
    {p : StateTrackingProvider}
    (hreq : p.requiresSatellites = (s.provider i).requiresSatellites)
    (himpl : (s.provider i).impl.OnlyStopped p.impl) :
    s.Stops (s.setProvider i p) := by
  refine { order := rfl, requires := fun j => ?_, impl := fun j => ?_ }
  · by_cases hj : j = i
    · subst hj
      rw [setProvider_self]
      exact hreq
    · rw [setProvider_ne s p hj]
  · by_cases hj : j = i
    · subst hj
      rw [setProvider_self]
      exact himpl
    · rw [setProvider_ne s p hj]
      exact .refl _

theorem Swept.stops {V : ProviderId → Prop} {s t : System}
    (h : Swept V s t) : s.Stops t :=
  { order := h.order
    requires := h.requires
    impl := fun i => by
      obtain ⟨D, -, -, himpl⟩ := h.impl i
      exact ⟨D, himpl⟩ }

theorem Reset.stops {s t : System} (h : s.Reset t) : s.Stops t :=
  h.swept.stops

theorem stops_setProviderState (s : System) (i : ProviderId)
    (v : ProviderState) : s.Stops (s.setProviderState i v) :=
  stops_setProvider rfl (.refl _)

theorem stops_settleProviderState (s : System) (i : ProviderId)
    (v : ProviderState) : s.Stops (s.settleProviderState i v) :=
  (stops_setProviderState s i v).trans (reset_settleProviderState s i v).stops

theorem stops_settleEngineState (v : Status) (s : System) :
    s.Stops (s.settleEngineState v) := by
  unfold settleEngineState
  split
  · exact .refl s
  · cases v with
    | on => exact (reset_settleOn s).stops
    | active => exact (reset_settleActive s).stops
    | off => exact s.swept_settleOff.stops

private theorem stops_foldl_settleSatellite
    (v : SatelliteBasedPositioningState) (is : List ProviderId) (s : System) :
    s.Stops (is.foldl (settleSatelliteProvider v) s) := by
  induction is generalizing s with
  | nil => exact .refl s
  | cons i is ih =>
      refine Stops.trans ?_ (ih _)
      unfold settleSatelliteProvider
      split
      · cases v with
        | on =>
            dsimp only
            split
            · exact stops_setProvider rfl (.refl _)
            · exact .refl s
        | off => exact (swept_settleDisable s i).stops
      · exact .refl s

theorem stops_settleSatelliteState (v : SatelliteBasedPositioningState)
    (s : System) : s.Stops (s.settleSatelliteState v) := by
  unfold settleSatelliteState
  split
  · exact .refl s
  · have hloop := stops_foldl_settleSatellite v s.order
      { s with satelliteBasedPositioningState := v }
    exact
      { order := hloop.order
        requires := hloop.requires
        impl := hloop.impl }

/-- No assignment starts anything. -/
theorem stops_settle (a : Assignment) (s : System) : s.Stops (s.settle a) := by
  unfold settle
  split
  · exact .refl s
  · cases a with
    | engineState v => exact stops_settleEngineState v s
    | satelliteBasedPositioningState v => exact stops_settleSatelliteState v s
    | isOnline v =>
        have h := stops_settleEngineState (if v then .on else .off)
          (store (.isOnline v) s)
        exact { order := h.order, requires := h.requires, impl := h.impl }
    | doesSatelliteBasedPositioning v =>
        have h := stops_settleSatelliteState (if v then .on else .off)
          (store (.doesSatelliteBasedPositioning v) s)
        exact { order := h.order, requires := h.requires, impl := h.impl }
    | providerState i v => exact stops_settleProviderState s i v

theorem stops_settleConstructService (s : System) :
    s.Stops s.settleConstructService := by
  let u := { s with service := some ⟨false, .disabled, false⟩ }
  have hcopy : u.Stops u.settleCopyEngineState := by
    unfold settleCopyEngineState
    cases u.engineState with
    | off =>
        have h := stops_settle (.isOnline false) u
        exact { order := h.order, requires := h.requires, impl := h.impl }
    | on =>
        have h := stops_settle (.isOnline true) u
        exact { order := h.order, requires := h.requires, impl := h.impl }
    | active =>
        have h := stops_settle (.isOnline true) u
        exact { order := h.order, requires := h.requires, impl := h.impl }
  have h := hcopy.trans (stops_settle (.doesSatelliteBasedPositioning
    (u.settleCopyEngineState.satelliteBasedPositioningState == .on)) _)
  exact { order := h.order, requires := h.requires, impl := h.impl }

theorem stops_settleStopUpdates (s : System) (i : ProviderId) (x : Stream) :
    s.Stops (s.settleStopUpdates i x) := by
  let c := ((s.provider i).controller.stopUpdates x).1
  have hset : s.Stops (s.setController i c) := stops_setProvider rfl (.refl _)
  unfold settleStopUpdates
  dsimp only
  split
  · have hstate := stops_settleProviderState (s.setController i c) i .enabled
    exact (hset.trans hstate).trans (stops_setProvider rfl (.stopUpdates _ x))
  · exact hset

theorem order_settleStartUpdates (s : System) (i : ProviderId)
    (x : Stream) : (s.settleStartUpdates i x).order = s.order := by
  unfold settleStartUpdates
  dsimp only
  split
  · exact (reset_settleProviderState _ i .active).order
  · rfl

/-- An engine never forgets a provider. -/
theorem order_subset {a : Action} {s t : System} (hst : Step a s t) :
    ∀ i ∈ s.order, i ∈ t.order := by
  intro j hj
  have hexec := step_iff.mp hst
  cases a with
  | start i x =>
      obtain ⟨-, rfl⟩ := step_start hst
      rwa [order_settleStartUpdates]
  | stop i x =>
      obtain ⟨-, rfl⟩ := step_stop hst
      rwa [(stops_settleStopUpdates s i x).order]
  | addProvider k req =>
      obtain rfl : s.addProvider k req = t := Option.some.inj hexec
      exact (order_addProvider_perm s k req).mem_iff.mpr
        (List.mem_cons_of_mem _ hj)
  | constructService =>
      obtain ⟨-, rfl⟩ := step_constructService hst
      rwa [(stops_settleConstructService s).order]
  | _ =>
      obtain rfl := Option.some.inj hexec
      rwa [(stops_settle _ s).order]

/-! ## The satellite state -/

theorem settleEngineState_satellite (v : Status) (s : System) :
    (s.settleEngineState v).satelliteBasedPositioningState =
      s.satelliteBasedPositioningState := by
  unfold settleEngineState
  split
  · rfl
  · cases v with
    | on => rfl
    | active => exact (reset_settleActive s).satellite
    | off => exact s.swept_settleOff.satellite

theorem settleSatelliteState_off (s : System) :
    (s.settleSatelliteState .off).satelliteBasedPositioningState = .off := by
  unfold settleSatelliteState
  split
  · assumption
  · unfold settleSatellite
    rw [settleSatelliteOff_foldl]
    exact (swept_disableWhere _ s.order _).satellite

theorem settle_isOnline_satellite (v : Bool) (s : System) :
    (s.settle (.isOnline v)).satelliteBasedPositioningState =
      s.satelliteBasedPositioningState := by
  unfold settle
  split
  · rfl
  · exact settleEngineState_satellite _ (store (.isOnline v) s)

theorem settle_doesSatellite_false {s : System}
    (h : s.satelliteBasedPositioningState = .off) :
    (s.settle (.doesSatelliteBasedPositioning false)
      ).satelliteBasedPositioningState = .off := by
  unfold settle
  split
  · exact h
  · exact settleSatelliteState_off _

theorem settleConstructService_satellite {s : System}
    (h : s.satelliteBasedPositioningState = .off) :
    s.settleConstructService.satelliteBasedPositioningState = .off := by
  let u := { s with service := some ⟨false, .disabled, false⟩ }
  have hcopy : u.settleCopyEngineState.satelliteBasedPositioningState =
      .off := by
    unfold settleCopyEngineState
    cases u.engineState with
    | off => exact (settle_isOnline_satellite false u).trans h
    | on => exact (settle_isOnline_satellite true u).trans h
    | active => exact (settle_isOnline_satellite true u).trans h
  unfold settleConstructService
  dsimp only
  rw [hcopy]
  exact settle_doesSatellite_false hcopy

/-! ## The gate -/

/-- What the gate lets through between two states: stops to the
implementations that need satellites, known and added ones alike. -/
structure Gated (s t : System) : Prop where
  grows : ∀ i ∈ s.order, i ∈ t.order
  requires : ∀ i ∈ s.order,
    (t.provider i).requiresSatellites = (s.provider i).requiresSatellites
  known : ∀ i ∈ s.order, (s.provider i).requiresSatellites = true →
    (s.provider i).impl.OnlyStopped (t.provider i).impl
  added : ∀ i ∈ t.order, i ∉ s.order →
    (t.provider i).requiresSatellites = true →
      Implementation.init.OnlyStopped (t.provider i).impl

theorem Stops.gated {s t : System} (h : s.Stops t) : s.Gated t :=
  { grows := fun _ hi => h.order ▸ hi
    requires := fun i _ => h.requires i
    known := fun i _ _ => h.impl i
    added := fun _ hi hn => absurd (h.order ▸ hi) hn }

theorem Gated.refl (s : System) : s.Gated s := (Stops.refl s).gated

theorem Gated.trans {s t u : System} (hst : s.Gated t) (htu : t.Gated u) :
    s.Gated u :=
  { grows := fun i hi => htu.grows i (hst.grows i hi)
    requires := fun i hi =>
      (htu.requires i (hst.grows i hi)).trans (hst.requires i hi)
    known := by
      intro i hi hreq
      have hreq' := (hst.requires i hi).trans hreq
      exact (hst.known i hi hreq).trans (htu.known i (hst.grows i hi) hreq')
    added := by
      intro i hi hn hreq
      by_cases hit : i ∈ t.order
      · have hreq' := (htu.requires i hit).symm.trans hreq
        exact (hst.added i hit hn hreq').trans (htu.known i hit hreq')
      · exact htu.added i hi hit hreq }

/-- Steps that do not switch satellites on. -/
def KeepsSatellitesOff (a : Action) (_ : System) : Prop :=
  a ≠ .setSatellite .on ∧ a ≠ .setDoesSatellite true

instance (a : Action) (s : System) : Decidable (KeepsSatellitesOff a s) :=
  inferInstanceAs (Decidable (_ ∧ _))

/-- A start reaches the implementation of the provider it is made on, which is
not one that needs satellites. -/
theorem gated_settleStartUpdates {s : System} (h : Inv s)
    (hoff : s.satelliteBasedPositioningState = .off) {i : ProviderId}
    (hi : i ∈ s.order) (x : Stream) : s.Gated (s.settleStartUpdates i x) := by
  by_cases hneg : s.counter i x < 0
  · rw [settleStartUpdates_of_neg hneg]
    exact Gated.refl s
  · have hfree := (h.switches.of_nonneg hi (Int.not_lt.mp hneg)).2
    have hreq : (s.provider i).requiresSatellites = false := by
      simpa [satelliteBlocked, hoff] using hfree
    let c := ((s.provider i).controller.startUpdates x).1
    let u := s.setController i c
    have hwithin : ∀ t, (∀ j, j ≠ i → (t.provider j).impl = (u.provider j).impl) →
        (∀ j, (t.provider j).requiresSatellites =
          (u.provider j).requiresSatellites) →
        t.order = s.order → s.Gated t := by
      intro t himpl hsat horder
      have hreqs : ∀ j, (t.provider j).requiresSatellites =
          (s.provider j).requiresSatellites := by
        intro j
        rw [hsat j]
        by_cases hj : j = i
        · subst hj
          simp [u, setController]
        · simp [u, setController, hj]
      refine
        { grows := fun j hj => horder ▸ hj
          requires := fun j _ => hreqs j
          known := fun j _ hjreq => ?_
          added := fun j hj hn => absurd (horder ▸ hj) hn }
      have hj : j ≠ i := by
        rintro rfl
        rw [hreq] at hjreq
        cases hjreq
      rw [himpl j hj]
      simp only [u, setController, setProvider_ne s _ hj]
      exact .refl _
    unfold settleStartUpdates
    dsimp only
    split
    · have hreset := reset_settleProviderState u i .active
      refine hwithin _ (fun j hj => ?_) (fun j => ?_) hreset.order
      · rw [settleStart, startImpl, setProvider_ne _ _ hj, hreset.impl j,
          setProviderState_impl]
      · by_cases hj : j = i
        · subst hj
          simp only [settleStart, startImpl, setProvider_self]
          rw [hreset.requires j, setProviderState_requires]
        · rw [settleStart, startImpl, setProvider_ne _ _ hj, hreset.requires j,
            setProviderState_requires]
    · exact hwithin u (fun _ _ => rfl) (fun _ => rfl) rfl

theorem gated_addProvider {s : System} (h : Inv s) (k : Nat) (req : Bool) :
    s.Gated (s.addProvider k req) := by
  have hperm := order_addProvider_perm s k req
  have hne : ∀ i ∈ s.order, i ≠ s.order.length :=
    fun i hi => Nat.ne_of_lt (h.sound.bound i hi)
  refine
    { grows := fun i hi => hperm.mem_iff.mpr (List.mem_cons_of_mem _ hi)
      requires := fun i hi => ?_
      known := fun i hi _ => ?_
      added := fun i hi hn _ => ?_ }
  · rw [addProvider_ne s k req (hne i hi)]
  · rw [addProvider_ne s k req (hne i hi)]
    exact .refl _
  · rcases List.mem_cons.mp (hperm.mem_iff.mp hi) with rfl | hi
    · rw [(addProvider_self s k req).1]
      exact .refl _
    · exact absurd hi hn

/-- One step with satellites off. -/
theorem gated_step {a : Action} {s t : System} (h : Inv s)
    (hoff : s.satelliteBasedPositioningState = .off)
    (hguard : KeepsSatellitesOff a s) (hst : Step a s t) :
    t.satelliteBasedPositioningState = .off ∧ s.Gated t := by
  have hexec := step_iff.mp hst
  cases a with
  | setEngineState v =>
      obtain rfl : s.settle (.engineState v) = t := Option.some.inj hexec
      refine ⟨?_, (stops_settle _ s).gated⟩
      rw [settle_engineState, settleEngineState_satellite]
      exact hoff
  | setSatellite v =>
      obtain rfl : s.settle (.satelliteBasedPositioningState v) = t :=
        Option.some.inj hexec
      refine ⟨?_, (stops_settle _ s).gated⟩
      cases v with
      | on => exact absurd rfl hguard.1
      | off => rwa [settle_of_holds (by simp [holds, hoff])]
  | setOnline v =>
      obtain rfl : s.settle (.isOnline v) = t := Option.some.inj hexec
      refine ⟨?_, (stops_settle _ s).gated⟩
      rw [settle_isOnline_satellite]
      exact hoff
  | setDoesSatellite v =>
      obtain rfl : s.settle (.doesSatelliteBasedPositioning v) = t :=
        Option.some.inj hexec
      refine ⟨?_, (stops_settle _ s).gated⟩
      cases v with
      | true => exact absurd rfl hguard.2
      | false => exact settle_doesSatellite_false hoff
  | start i x =>
      obtain ⟨hi, rfl⟩ := step_start hst
      refine ⟨?_, gated_settleStartUpdates h hoff hi x⟩
      unfold settleStartUpdates
      dsimp only
      split
      · exact (reset_settleProviderState _ i .active).satellite.trans hoff
      · exact hoff
  | stop i x =>
      obtain ⟨-, rfl⟩ := step_stop hst
      refine ⟨?_, (stops_settleStopUpdates s i x).gated⟩
      unfold settleStopUpdates
      dsimp only
      split
      · exact (reset_settleProviderState _ i .enabled).satellite.trans hoff
      · exact hoff
  | addProvider k req =>
      obtain rfl : s.addProvider k req = t := Option.some.inj hexec
      exact ⟨hoff, gated_addProvider h k req⟩
  | constructService =>
      obtain ⟨-, rfl⟩ := step_constructService hst
      exact ⟨settleConstructService_satellite hoff,
        (stops_settleConstructService s).gated⟩

/-- A run that starts with satellites off and does not switch them on. -/
theorem gated_run {s t : System} (hr : Reachable s)
    (hoff : s.satelliteBasedPositioningState = .off)
    (hrun : (machine.startingAt s).Reach KeepsSatellitesOff t) :
    Reachable t ∧ t.satelliteBasedPositioningState = .off ∧ s.Gated t := by
  induction hrun with
  | initial heq =>
      obtain rfl := heq
      exact ⟨hr, hoff, .refl _⟩
  | step a _ hg hst ih =>
      obtain ⟨hr', hoff', hgated⟩ := ih
      obtain ⟨hoff'', hstep⟩ := gated_step (inv_of_reachable hr') hoff' hg hst
      exact ⟨hr'.step a trivial hst, hoff'', hgated.trans hstep⟩

end System

end LocationService
