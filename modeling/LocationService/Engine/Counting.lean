import LocationService.Engine.Reachable

/-!
# What one controller call changes

A start or a stop on a provider that accepts it raises or lowers one counter,
calls the implementation when the counter leaves or reaches zero, and touches
no other counter.  For a stop the last point has a condition: when the last
active provider leaves the active state, the engine zeroes the counters of
every provider, so nothing else may be in use at that moment.
-/

namespace LocationService.System

open LocationService.Library

/-- Outside of off an engine has no service that is offline. -/
theorem Switches.online {s : System} (h : Switches s)
    (hne : s.engineState ≠ .off) : s.Online := by
  unfold Online
  cases hsvc : s.service with
  | none => rfl
  | some svc =>
      by_cases hon : svc.isOnline = true
      · simpa using hon
      · exact absurd (h.offline_off svc hsvc (by simpa using hon)) hne

/-- A property that the bookkeeping of a controller keeps, and the hooks behind
it as long as the engine is online. -/
structure SurvivesHooks (P : System → Prop) (i : ProviderId) : Prop where
  setController : ∀ s c, P s → P (s.setController i c)
  settleProviderState : ∀ s v, s.Online → P s → P (s.settleProviderState i v)
  setImpl : ∀ s p, P s → P (s.setImpl i p)

namespace SurvivesHooks

variable {P : System → Prop} {i : ProviderId} (hP : SurvivesHooks P i)
  {s : System} (hs : Switches s) (hi : i ∈ s.order) (h : P s)
include hP hs hi h

/-- A start calls its hook only while the engine is online. -/
theorem settleStartUpdates (x : Stream) : P (s.settleStartUpdates i x) := by
  rcases s.settleStartUpdates_cases i x with
    ⟨-, hc⟩ | ⟨hzero, hc⟩ | ⟨-, hc⟩
  · rw [hc]
    exact h
  · rw [hc]
    have hnonneg : 0 ≤ s.counter i x := Int.le_of_eq hzero.symm
    have hon := hs.online (hs.of_nonneg hi hnonneg).1
    have hset := hP.setController s
      ((s.provider i).controller.setCounter x 1) h
    exact hP.setImpl _ _ (hP.settleProviderState _ .active hon hset)
  · rw [hc]
    exact hP.setController s _ h

theorem settleStopUpdates (x : Stream) : P (s.settleStopUpdates i x) := by
  rcases s.settleStopUpdates_cases i x with
    ⟨-, hc⟩ | ⟨hone, hc⟩ | ⟨-, -, hc⟩
  · rw [hc]
    exact h
  · rw [hc]
    have hnonneg : 0 ≤ s.counter i x := by omega
    have hon := hs.online (hs.of_nonneg hi hnonneg).1
    have hset := hP.setController s
      ((s.provider i).controller.setCounter x 0) h
    exact hP.setImpl _ _ (hP.settleProviderState _ .enabled hon hset)
  · rw [hc]
    exact hP.setController s _ h

end SurvivesHooks

/-- A recomputed status keeps the counters when some provider is active, or
when there is nothing to lose. -/
theorem recompute_counter {s : System} (hon : s.Online)
    (hquiet : s.isAnyActive = false →
      ∀ i ∈ s.order, ∀ x, s.counter i x = 0)
    (i : ProviderId) (hi : i ∈ s.order) (x : Stream) :
    s.recompute.counter i x = s.counter i x := by
  unfold recompute
  split
  · split
    · rfl
    · unfold settleActive
      rw [if_pos hon]
      rfl
  · rename_i hany
    split
    · rfl
    · rw [settleOn_counter]
      split
      · exact (hquiet (by simpa using hany) i hi x).symm
      · rfl

theorem isAnyActive_iff {s : System} :
    s.isAnyActive = true ↔ ∃ i ∈ s.order, (s.provider i).state = .active := by
  simp [isAnyActive]

theorem setProviderState_state (s : System) (i j : ProviderId)
    (v : ProviderState) :
    ((s.setProviderState i v).provider j).state =
      if j = i then v else (s.provider j).state := by
  unfold setProviderState
  by_cases h : j = i
  · subst h
    simp
  · simp [h]

theorem setController_state (s : System) (i j : ProviderId) (c : Controller) :
    ((s.setController i c).provider j).state = (s.provider j).state := by
  unfold setController
  by_cases h : j = i
  · subst h
    simp
  · simp [h]

/-- A change of a provider's state keeps the counters when some provider is
active afterwards, or when there is nothing to lose. -/
private theorem settleProviderState_counter {s : System} (hon : s.Online)
    (i : ProviderId) (v : ProviderState)
    (hquiet : (s.provider i).state ≠ v →
      (s.setProviderState i v).isAnyActive = false →
      ∀ j ∈ s.order, ∀ y, s.counter j y = 0)
    (j : ProviderId) (hj : j ∈ s.order) (y : Stream) :
    (s.settleProviderState i v).counter j y = s.counter j y := by
  unfold settleProviderState
  split
  · rfl
  · rename_i hne
    have hkeep := recompute_counter (s := s.setProviderState i v) hon
      (fun hany k hk z => by
        rw [setProviderState_counter]
        exact hquiet hne hany k hk z) j hj y
    rw [hkeep, setProviderState_counter]

/-- `t` is `s` after a start of stream `x` on provider `i` that was
accepted. -/
structure Started (s t : System) (i : ProviderId) (x : Stream) : Prop where
  order : t.order = s.order
  satellite :
    t.satelliteBasedPositioningState = s.satelliteBasedPositioningState
  service : t.service.isSome = s.service.isSome
  running : t.engineState ≠ .off
  counter : ∀ j ∈ s.order, ∀ y, t.counter j y =
    if j = i ∧ y = x then raised (s.counter j y) else s.counter j y
  implCounter : ∀ j y, t.implCounter j y =
    if (j = i ∧ y = x) ∧ s.counter i x = 0 then raised (s.implCounter j y)
    else s.implCounter j y
  state : ∀ j, (t.provider j).state =
    if j = i ∧ s.counter i x = 0 then .active else (s.provider j).state

/-- `t` is `s` after a stop of stream `x` on provider `i` that was
accepted. -/
structure Stopped (s t : System) (i : ProviderId) (x : Stream) : Prop where
  order : t.order = s.order
  satellite :
    t.satelliteBasedPositioningState = s.satelliteBasedPositioningState
  service : t.service.isSome = s.service.isSome
  running : t.engineState ≠ .off
  counter : ∀ j ∈ s.order, ∀ y, t.counter j y =
    if j = i ∧ y = x then lowered (s.counter j y) else s.counter j y
  implCounter : ∀ j y, t.implCounter j y =
    if (j = i ∧ y = x) ∧ s.counter i x = 1 then lowered (s.implCounter j y)
    else s.implCounter j y
  state : ∀ j, (t.provider j).state =
    if j = i ∧ s.counter i x = 1 then .enabled else (s.provider j).state

private theorem setCounter_counter (s : System) (i j : ProviderId)
    (x y : Stream) (v : Int) :
    (s.setController i ((s.provider i).controller.setCounter x v)).counter j y =
      if j = i ∧ y = x then v else s.counter j y := by
  rw [setController_counter]
  by_cases hji : j = i
  · subst hji
    by_cases hyx : y = x
    · subst hyx
      simp
    · rw [if_pos rfl, Controller.setCounter_ne _ v hyx, if_neg fun h => hyx h.2]
      rfl
  · rw [if_neg hji, if_neg fun h => hji h.1]

private theorem setController_implCounter (s : System) (i j : ProviderId)
    (c : Controller) (y : Stream) :
    (s.setController i c).implCounter j y = s.implCounter j y := by
  unfold implCounter setController
  by_cases h : j = i
  · subst h
    simp
  · simp [h]

private theorem setImpl_state (s : System) (i j : ProviderId)
    (p : Implementation) :
    ((s.setImpl i p).provider j).state = (s.provider j).state := by
  unfold setImpl
  by_cases h : j = i
  · subst h
    simp
  · simp [h]

private theorem setImpl_implCounter (s : System) (i j : ProviderId)
    (p : Implementation) (y : Stream) :
    (s.setImpl i p).implCounter j y =
      if j = i then p.controller.counter y else s.implCounter j y := by
  unfold implCounter setImpl
  by_cases h : j = i
  · subst h
    simp
  · simp [h]

private theorem reset_implCounter {s t : System} (h : s.Reset t)
    (j : ProviderId) (y : Stream) : t.implCounter j y = s.implCounter j y := by
  unfold implCounter
  rw [h.impl j]

private theorem setProviderState_implCounter (s : System) (i j : ProviderId)
    (v : ProviderState) (y : Stream) :
    (s.setProviderState i v).implCounter j y = s.implCounter j y := by
  unfold implCounter
  rw [setProviderState_impl]

/-- `t` is `s` after a step of the counter of stream `x` on provider `i`, and the
hook ran when it left `edge`. -/
private structure Counted (s t : System) (i : ProviderId) (x : Stream)
    (edge : Int) (step : Int → Int) (v : ProviderState) : Prop where
  order : t.order = s.order
  satellite :
    t.satelliteBasedPositioningState = s.satelliteBasedPositioningState
  service : t.service.isSome = s.service.isSome
  running : t.engineState ≠ .off
  counter : ∀ j ∈ s.order, ∀ y, t.counter j y =
    if j = i ∧ y = x then step (s.counter j y) else s.counter j y
  implCounter : ∀ j y, t.implCounter j y =
    if (j = i ∧ y = x) ∧ s.counter i x = edge then step (s.implCounter j y)
    else s.implCounter j y
  state : ∀ j, (t.provider j).state =
    if j = i ∧ s.counter i x = edge then v else (s.provider j).state

/-- The counter changes, and no hook runs. -/
private theorem counted_setController {s : System} (hne : s.engineState ≠ .off)
    {i : ProviderId} {x : Stream} {edge c : Int} {step : Int → Int}
    {v : ProviderState} (hedge : s.counter i x ≠ edge)
    (hc : c = step (s.counter i x)) :
    Counted s (s.setController i ((s.provider i).controller.setCounter x c))
      i x edge step v := by
  have hcounter : ∀ j y, (s.setController i
      ((s.provider i).controller.setCounter x c)).counter j y =
        if j = i ∧ y = x then step (s.counter j y) else s.counter j y := by
    intro j y
    rw [setCounter_counter]
    by_cases hjy : j = i ∧ y = x
    · rw [if_pos hjy, if_pos hjy, hjy.1, hjy.2, hc]
    · rw [if_neg hjy, if_neg hjy]
  exact
    { order := rfl
      satellite := rfl
      service := rfl
      running := hne
      counter := fun j _ y => hcounter j y
      implCounter := by
        intro j y
        rw [if_neg fun h => hedge h.2]
        exact setController_implCounter s i j _ y
      state := by
        intro j
        rw [if_neg fun h => hedge h.2]
        exact setController_state s i j _ }

/-- The counter leaves the edge, the provider's state changes, which costs no
other counter, and the hook counts on the implementation. -/
private theorem counted_hook {s : System} (hne : s.engineState ≠ .off)
    {i : ProviderId} {x : Stream} {edge c : Int} {step : Int → Int}
    {v : ProviderState} {p : Implementation} (hedge : s.counter i x = edge)
    (hc : c = step edge)
    (hcount : ∀ j ∈ s.order, ∀ y,
      ((s.setController i ((s.provider i).controller.setCounter x c)
        ).settleProviderState i v).counter j y =
      (s.setController i ((s.provider i).controller.setCounter x c)
        ).counter j y)
    (hself : p.controller.counter x = step (s.implCounter i x))
    (hother : ∀ y, y ≠ x → p.controller.counter y = s.implCounter i y) :
    Counted s (((s.setController i ((s.provider i).controller.setCounter x c)
      ).settleProviderState i v).setImpl i p) i x edge step v := by
  let u := s.setController i ((s.provider i).controller.setCounter x c)
  let w := u.settleProviderState i v
  have hreset : (u.setProviderState i v).Reset w :=
    reset_settleProviderState u i v
  have himpl : ∀ j y, w.implCounter j y = s.implCounter j y := by
    intro j y
    rw [reset_implCounter hreset, setProviderState_implCounter,
      setController_implCounter]
  show Counted s (w.setImpl i p) i x edge step v
  exact
    { order := hreset.order
      satellite := hreset.satellite
      service := hreset.service
      running := by
        show (u.settleProviderState i v).engineState ≠ .off
        unfold settleProviderState
        split
        · exact hne
        · exact recompute_engineState _
      counter := by
        intro j hj y
        rw [setImpl_counter, hcount j hj y, setCounter_counter]
        by_cases hjy : j = i ∧ y = x
        · rw [if_pos hjy, if_pos hjy, hjy.1, hjy.2, hedge, hc]
        · rw [if_neg hjy, if_neg hjy]
      implCounter := by
        intro j y
        rw [setImpl_implCounter]
        by_cases hji : j = i
        · subst hji
          rw [if_pos rfl]
          by_cases hyx : y = x
          · rw [if_pos ⟨⟨rfl, hyx⟩, hedge⟩, hyx]
            exact hself
          · rw [if_neg fun h => hyx h.1.2]
            exact hother y hyx
        · rw [if_neg hji, if_neg fun h => hji h.1.1]
          exact himpl j y
      state := by
        intro j
        rw [setImpl_state, hreset.state, setProviderState_state,
          setController_state]
        by_cases hji : j = i
        · rw [if_pos hji, if_pos ⟨hji, hedge⟩]
        · rw [if_neg hji, if_neg fun h => hji h.1] }

private theorem settleProviderState_setController_impl (s : System)
    (i : ProviderId) (c : Controller) (v : ProviderState) :
    (((s.setController i c).settleProviderState i v).provider i).impl =
      (s.provider i).impl := by
  rw [(reset_settleProviderState (s.setController i c) i v).impl i,
    setProviderState_impl, setController_impl]

/-- An accepted start. -/
theorem started_settleStartUpdates {s : System} (h : Inv s) {i : ProviderId}
    (hi : i ∈ s.order) {x : Stream} (hx : 0 ≤ s.counter i x) :
    Started s (s.settleStartUpdates i x) i x := by
  have hne := (h.switches.of_nonneg hi hx).1
  have hon := h.switches.online hne
  have hcounted : Counted s (s.settleStartUpdates i x) i x 0 raised .active := by
    rcases s.settleStartUpdates_cases i x with
      ⟨hc, -⟩ | ⟨hc, hs⟩ | ⟨hc, hs⟩
    · omega
    · let u := s.setController i ((s.provider i).controller.setCounter x 1)
      have hcount : ∀ j ∈ s.order, ∀ y,
          (u.settleProviderState i .active).counter j y = u.counter j y := by
        refine settleProviderState_counter (s := u) hon i .active
          fun _ hany => ?_
        have hactive : (u.setProviderState i .active).isAnyActive = true :=
          isAnyActive_iff.mpr
            ⟨i, hi, by rw [setProviderState_state, if_pos rfl]⟩
        rw [hactive] at hany
        cases hany
      rw [hs]
      let w := u.settleProviderState i .active
      show Counted s (w.setImpl i ((w.provider i).impl.startUpdates x)) i x _ _ _
      rw [settleProviderState_setController_impl]
      exact counted_hook hne hc rfl hcount
        (Implementation.startUpdates_counter_self _ x)
        fun y hyx => Implementation.startUpdates_counter_ne _ hyx
    · rw [hs]
      have hraised : incrementCounter (s.counter i x) = raised (s.counter i x) :=
        (if_neg (by omega)).symm
      exact counted_setController hne (Int.ne_of_gt hc) hraised
  exact { hcounted with }

/-- If a stop takes the last provider out of the active state, nothing else
is in use. -/
def StopsAlone (s : System) (i : ProviderId) (x : Stream) : Prop :=
  s.counter i x = 1 → (s.provider i).state = .active →
    (∀ j ∈ s.order, (s.provider j).state = .active → j = i) →
    ∀ j ∈ s.order, ∀ y, ¬ (j = i ∧ y = x) → s.counter j y = 0

/-- An accepted stop that does not take the engine out of active while
something else is in use. -/
theorem stopped_settleStopUpdates {s : System} (h : Inv s) {i : ProviderId}
    (hi : i ∈ s.order) {x : Stream} (hx : 0 < s.counter i x)
    (halone : StopsAlone s i x) :
    Stopped s (s.settleStopUpdates i x) i x := by
  have hne := (h.switches.of_nonneg hi (Int.le_of_lt hx)).1
  have hon := h.switches.online hne
  have hcounted :
      Counted s (s.settleStopUpdates i x) i x 1 lowered .enabled := by
    rcases s.settleStopUpdates_cases i x with
      ⟨hc, -⟩ | ⟨hc, hs⟩ | ⟨hnonneg, hc, hs⟩
    · omega
    · let u := s.setController i ((s.provider i).controller.setCounter x 0)
      have hcount : ∀ j ∈ s.order, ∀ y,
          (u.settleProviderState i .enabled).counter j y = u.counter j y := by
        refine settleProviderState_counter (s := u) hon i .enabled
          fun hstate hany j hj y => ?_
        have hactive : (s.provider i).state = .active := by
          rw [setController_state] at hstate
          cases hst : (s.provider i).state with
          | active => rfl
          | enabled => exact absurd hst hstate
        have honly : ∀ k ∈ s.order, (s.provider k).state = .active → k = i := by
          intro k hk hkact
          by_cases hki : k = i
          · exact hki
          · have hsome :
                (u.setProviderState i .enabled).isAnyActive = true := by
              refine isAnyActive_iff.mpr ⟨k, hk, ?_⟩
              rw [setProviderState_state, if_neg hki, setController_state]
              exact hkact
            rw [hsome] at hany
            cases hany
        rw [setCounter_counter]
        by_cases hjy : j = i ∧ y = x
        · rw [if_pos hjy]
        · rw [if_neg hjy]
          exact halone hc hactive honly j hj y hjy
      rw [hs]
      let w := u.settleProviderState i .enabled
      show Counted s (w.setImpl i ((w.provider i).impl.stopUpdates x)) i x _ _ _
      rw [settleProviderState_setController_impl]
      exact counted_hook hne hc rfl hcount
        (Implementation.stopUpdates_counter_self _ x)
        fun y hyx => Implementation.stopUpdates_counter_ne _ hyx
    · rw [hs]
      exact counted_setController hne hc (lowered_of_nonneg hnonneg).symm
  exact { hcounted with }

/-! ## The service on top of the engine -/

/-- `t` is `s` after the service has been constructed on top of it. -/
structure Attached (s t : System) : Prop where
  order : t.order = s.order
  satellite :
    t.satelliteBasedPositioningState = s.satelliteBasedPositioningState
  service : t.service.isSome
  engineState : t.engineState = .off ↔ s.engineState = .off
  impl : ∀ i, (t.provider i).impl = (s.provider i).impl
  counter : ∀ i x, t.counter i x = s.counter i x ∨ t.counter i x = 0

private theorem attached_settleCopyEngineState (s : System) :
    Attached s { s with
      service := some ⟨false, .disabled, false⟩ }.settleCopyEngineState := by
  let u : System := { s with service := some ⟨false, .disabled, false⟩ }
  show Attached s u.settleCopyEngineState
  unfold settleCopyEngineState
  cases hes : u.engineState with
  | off =>
      have hsame : u.settle (.isOnline false) = u := by
        unfold settle
        rw [if_pos (by simp [holds, u])]
      rw [hsame]
      exact
        { order := rfl
          satellite := rfl
          service := rfl
          engineState := Iff.rfl
          impl := fun _ => rfl
          counter := fun _ _ => .inl rfl }
  | on =>
      have hsame : u.settle (.isOnline true) = store (.isOnline true) u := by
        unfold settle
        rw [if_neg (by simp [holds, u])]
        exact if_pos hes
      rw [hsame]
      exact
        { order := rfl
          satellite := rfl
          service := rfl
          engineState := Iff.rfl
          impl := fun _ => rfl
          counter := fun _ _ => .inl rfl }
  | active =>
      -- The slot of `isOnline` assigns `on` over an engine that is active.
      let v := store (.isOnline true) u
      have hne : v.engineState ≠ .on := by
        show u.engineState ≠ .on
        rw [hes]
        simp
      have hsame : u.settle (.isOnline true) = v.settleOn := by
        unfold settle
        rw [if_neg (by simp [holds, u])]
        exact if_neg hne
      have hreset := reset_settleOn v
      rw [hsame]
      refine
        { order := hreset.order
          satellite := hreset.satellite
          service := rfl
          engineState := ?_
          impl := hreset.impl
          counter := fun i x => ?_ }
      · have hs : s.engineState = .active := hes
        rw [hs]
        simp [setServiceState, settleOn]
      · rcases hreset.counter i x with hc | ⟨-, hc⟩
        · exact .inl hc
        · exact .inr hc

/-- With satellites on, the constructor of the service stops and starts
nothing. -/
theorem attached_settleConstructService {s : System}
    (hsat : s.satelliteBasedPositioningState = .on) :
    Attached s s.settleConstructService := by
  have hcopy := attached_settleCopyEngineState s
  let u := { s with
    service := some ⟨false, .disabled, false⟩ : System }.settleCopyEngineState
  have hu : u.satelliteBasedPositioningState = .on :=
    hcopy.satellite.trans hsat
  have hlast : s.settleConstructService =
      u.settle (.doesSatelliteBasedPositioning true) := by
    show u.settle (.doesSatelliteBasedPositioning
      (u.satelliteBasedPositioningState == .on)) = _
    rw [hu]
    rfl
  have hsettle : s.settleConstructService = u ∨
      s.settleConstructService =
        store (.doesSatelliteBasedPositioning true) u := by
    rw [hlast]
    unfold settle
    split
    · exact .inl rfl
    · exact .inr (if_pos hu)
  rcases hsettle with h | h
  · rw [h]
    exact hcopy
  · rw [h]
    exact
      { order := hcopy.order
        satellite := hcopy.satellite
        service := by
          have := hcopy.service
          simpa [store] using this
        engineState := hcopy.engineState
        impl := hcopy.impl
        counter := hcopy.counter }

/-- A new provider counts nothing. -/
theorem addProvider_counter {s : System} (k : Nat) (req : Bool)
    (hsat : s.satelliteBasedPositioningState = .on) :
    let t := s.addProvider k req
    (∀ i, i ≠ s.order.length → t.provider i = s.provider i) ∧
      (∀ x, t.implCounter s.order.length x = 0) ∧
      (s.engineState ≠ .off → ∀ x, t.counter s.order.length x = 0) := by
  obtain ⟨himpl, -, hcount⟩ := addProvider_self s k req
  refine ⟨fun i hi => addProvider_ne s k req hi, fun x => ?_, fun hne x => ?_⟩
  · unfold implCounter
    rw [himpl]
    rfl
  · unfold counter
    rw [hcount x, if_neg]
    rintro (h | h)
    · simp [hsat] at h
    · exact hne h

end LocationService.System
