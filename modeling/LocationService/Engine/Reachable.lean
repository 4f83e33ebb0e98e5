import LocationService.Engine.Invariant

/-!
# Every reachable engine satisfies the invariant

One lemma for each external step, and the induction over runs.
-/

namespace LocationService.System

open LocationService.Library

/-! ## Status assignments -/

theorem switches_settleOff {s : System}
    (h : ∀ i ∈ s.order, s.satelliteBlocked i = true → ∀ x, s.counter i x = -1) :
    Switches s.settleOff := by
  have hswept := s.swept_settleOff
  refine
    { off_disabled := fun hoff i hi x => ?_
      blocked_disabled := fun i hi hb x => ?_
      offline_off := fun svc hsvc _ => ?_ }
  · rw [hswept.order] at hi
    exact settleOff_disabled hoff i hi x
  · rw [hswept.order] at hi
    rw [hswept.blocked] at hb
    rcases hswept.counter i x with ⟨-, hc⟩ | ⟨hf, -⟩ | ⟨-, hc⟩
    · rw [hc]
      exact h i hi hb x
    · rw [hb] at hf
      cases hf
    · exact hc
  · apply settleOff_engineState
    rw [← hswept.service, hsvc]
    rfl

/-- What a status assignment needs of the state it starts from. -/
theorem inv_settleEngineState {s : System} (hs : Sound s)
    (hb : ∀ i ∈ s.order, s.satelliteBlocked i = true → ∀ x, s.counter i x = -1)
    (v : Status) (heq : s.engineState = v → Switches s) :
    Inv (s.settleEngineState v) := by
  unfold settleEngineState
  split
  · rename_i h
    exact ⟨hs, heq h⟩
  · cases v with
    | on => exact ⟨(reset_settleOn s).sound hs, switches_settleOn hb⟩
    | active =>
        exact ⟨(reset_settleActive s).sound hs, switches_settleActive hb⟩
    | off => exact ⟨s.swept_settleOff.sound hs, switches_settleOff hb⟩

/-! ## Satellite assignments -/

/-- Switching satellites on enables providers, and only while the engine is
on. -/
theorem settleSatelliteOn_foldl (is : List ProviderId) (s : System)
    (hsat : s.satelliteBasedPositioningState = .on) :
    let t := is.foldl (settleSatelliteProvider .on) s
    s.Reset t ∧ t.engineState = s.engineState ∧ t.service = s.service ∧
      (s.engineState = .off → t = s) := by
  induction is generalizing s with
  | nil => exact ⟨Reset.refl s, rfl, rfl, fun _ => rfl⟩
  | cons i is ih =>
      simp only [List.foldl_cons]
      by_cases hen : (s.provider i).requiresSatellites = true ∧
          s.engineState = .on
      · have hstep : settleSatelliteProvider .on s i = s.enableProvider i := by
          simp [settleSatelliteProvider, hen.1, hen.2]
        rw [hstep]
        obtain ⟨hreset, hes, hsvc, -⟩ := ih (s.enableProvider i) hsat
        have hfirst : s.Reset (s.enableProvider i) :=
          reset_enableProvider (by simp [satelliteBlocked, hsat])
        exact ⟨hfirst.trans hreset, hes, hsvc,
          fun hoff => by rw [hen.2] at hoff; cases hoff⟩
      · have hstep : settleSatelliteProvider .on s i = s := by
          unfold settleSatelliteProvider
          split
          · rename_i hreq
            have hne : s.engineState ≠ .on := fun h => hen ⟨hreq, h⟩
            simp [hne]
          · rfl
        rw [hstep]
        exact ih s hsat

/-- Switching satellites off disables the providers that need them. -/
theorem settleSatelliteOff_foldl (is : List ProviderId) (s : System) :
    is.foldl (settleSatelliteProvider .off) s =
      disableWhere (fun i => (s.provider i).requiresSatellites) is s := by
  induction is generalizing s with
  | nil => rfl
  | cons i is ih =>
      rw [List.foldl_cons, disableWhere_cons, ih]
      by_cases hreq : (s.provider i).requiresSatellites = true
      · have hstep : settleSatelliteProvider .off s i = s.settleDisable i := by
          simp [settleSatelliteProvider, hreq]
        rw [hstep, if_pos hreq]
        congr 1
        funext j
        exact (swept_settleDisable s i).requires j
      · have hstep : settleSatelliteProvider .off s i = s := by
          simp [settleSatelliteProvider, hreq]
        rw [hstep, if_neg hreq]

private theorem mirrorSatellite_offline (s : System) (v : Bool)
    (h : OfflineOff s) : OfflineOff (s.mirrorSatellite v) := by
  intro svc hsvc hoff
  cases hs : s.service with
  | none => simp [mirrorSatellite, hs] at hsvc
  | some old =>
      simp only [mirrorSatellite, hs, Option.map_some, Option.some.injEq]
        at hsvc
      rw [← hsvc] at hoff
      exact h old hs hoff

/-- Mirroring the satellite state touches only the service. -/
theorem Inv.mirrorSatellite {s : System} (h : Inv s) (v : Bool) :
    Inv (s.mirrorSatellite v) :=
  { sound := { h.sound with }
    switches :=
      { off_disabled := h.switches.off_disabled
        blocked_disabled := h.switches.blocked_disabled
        offline_off := mirrorSatellite_offline s v h.switches.offline_off } }

theorem inv_settleSatellite {s : System} (h : Inv s)
    (v : SatelliteBasedPositioningState)
    (hne : s.satelliteBasedPositioningState ≠ v) :
    Inv (s.settleSatellite v) := by
  unfold settleSatellite
  let s' : System := { s with satelliteBasedPositioningState := v }
  have hsound : Sound s' := { h.sound with }
  refine Inv.mirrorSatellite ?_ _
  cases v with
  | on =>
      obtain ⟨hreset, hes, hsvc, hoff⟩ :=
        settleSatelliteOn_foldl s.order s' rfl
      refine ⟨hreset.sound hsound, ?_⟩
      refine
        { off_disabled := fun h' i hi x => ?_
          blocked_disabled := fun i _ hb _ => ?_
          offline_off := fun svc hs ho => ?_ }
      · rw [hes] at h'
        rw [hoff h'] at hi ⊢
        exact h.switches.off_disabled h' i hi x
      · rw [hreset.blocked] at hb
        simp [satelliteBlocked, s'] at hb
      · rw [hes]
        exact h.switches.offline_off svc (hsvc ▸ hs) ho
  | off =>
      rw [settleSatelliteOff_foldl]
      have hswept := swept_disableWhere
        (fun i => (s'.provider i).requiresSatellites) s.order s'
      refine ⟨hswept.sound hsound, ?_⟩
      refine
        { off_disabled := fun h' i hi x => ?_
          blocked_disabled := fun i hi hb x => ?_
          offline_off := OfflineOff.disableWhere s.order
            (show OfflineOff s' from h.switches.offline_off) }
      · obtain ⟨hoff, hcount⟩ := disableWhere_off s.order h'
        rw [hswept.order] at hi
        rw [hcount]
        split
        · rfl
        · exact h.switches.off_disabled hoff i hi x
      · rw [hswept.order] at hi
        rw [hswept.blocked] at hb
        have hreq : (s'.provider i).requiresSatellites = true := by
          have hb' := hb
          simp only [satelliteBlocked, Bool.and_eq_true] at hb'
          exact hb'.1
        rcases hswept.counter i x with ⟨hn, -⟩ | ⟨hf, -⟩ | ⟨-, hc⟩
        · exact absurd ⟨hi, hreq⟩ hn
        · rw [hb] at hf
          cases hf
        · exact hc

theorem inv_settleSatelliteState {s : System} (h : Inv s)
    (v : SatelliteBasedPositioningState) : Inv (s.settleSatelliteState v) := by
  unfold settleSatelliteState
  split
  · exact h
  · rename_i hne
    exact inv_settleSatellite h v hne

/-! ## The service's boolean properties -/

theorem inv_settle_isOnline {s : System} (h : Inv s) (v : Bool) :
    Inv (s.settle (.isOnline v)) := by
  unfold settle
  split
  · exact h
  · refine inv_settleEngineState (s := store (.isOnline v) s)
      { h.sound with } h.switches.blocked_disabled _ fun hes => ?_
    exact
      { off_disabled := h.switches.off_disabled
        blocked_disabled := h.switches.blocked_disabled
        offline_off := fun svc hsvc hoff => by
          cases hs : s.service with
          | none => simp [store, hs] at hsvc
          | some old =>
              simp only [store, hs, Option.map_some, Option.some.injEq]
                at hsvc
              rw [← hsvc] at hoff
              dsimp only at hoff
              rw [hoff] at hes
              exact hes }

theorem inv_settle_doesSatellite {s : System} (h : Inv s) (v : Bool) :
    Inv (s.settle (.doesSatelliteBasedPositioning v)) := by
  unfold settle
  split
  · exact h
  · refine inv_settleSatelliteState
      (s := store (.doesSatelliteBasedPositioning v) s) ?_ _
    exact Inv.mirrorSatellite h v

/-! ## Controller calls -/

/-- A known provider that accepts a start is neither off nor blocked. -/
theorem Switches.of_nonneg {s : System} (h : Switches s) {i : ProviderId}
    (hi : i ∈ s.order) {x : Stream} (hx : 0 ≤ s.counter i x) :
    s.engineState ≠ .off ∧ s.satelliteBlocked i = false := by
  constructor
  · intro hoff
    have := h.off_disabled hoff i hi x
    omega
  · by_cases hb : s.satelliteBlocked i = true
    · have := h.blocked_disabled i hi hb x
      omega
    · simpa using hb

theorem setController_counter (s : System) (i j : ProviderId) (c : Controller)
    (x : Stream) :
    (s.setController i c).counter j x =
      if j = i then c.counter x else s.counter j x := by
  unfold setController counter
  by_cases h : j = i
  · subst h
    simp
  · simp [h]

theorem setController_impl (s : System) (i j : ProviderId)
    (c : Controller) :
    ((s.setController i c).provider j).impl = (s.provider j).impl := by
  unfold setController
  by_cases h : j = i
  · subst h
    simp
  · simp [h]

private theorem setController_requires (s : System) (i j : ProviderId)
    (c : Controller) :
    ((s.setController i c).provider j).requiresSatellites =
      (s.provider j).requiresSatellites := by
  unfold setController
  by_cases h : j = i
  · subst h
    simp
  · simp [h]

/-- Counting on a provider that accepts starts keeps the switches
consistent. -/
theorem Switches.setController {s : System} (h : Switches s) {i : ProviderId}
    (hi : i ∈ s.order) {x : Stream} (hx : 0 ≤ s.counter i x)
    (c : Controller) : Switches (s.setController i c) := by
  obtain ⟨hoff, hblocked⟩ := h.of_nonneg hi hx
  refine
    { off_disabled := fun h' => absurd h' hoff
      blocked_disabled := fun j hj hb y => ?_
      offline_off := h.offline_off }
  have hb' : s.satelliteBlocked j = true := by
    have heq : (s.setController i c).satelliteBlocked j =
        s.satelliteBlocked j := by
      unfold satelliteBlocked
      rw [setController_requires]
      rfl
    rw [← heq]
    exact hb
  rw [setController_counter]
  split
  · rename_i hji
    rw [hji, hblocked] at hb'
    cases hb'
  · exact h.blocked_disabled j hj hb' y

theorem setController_self (s : System) (i : ProviderId) :
    s.setController i (s.provider i).controller = s := by
  unfold setController setProvider
  rw [Function.update_eq_self]

/-- Counters that an implementation covers may be stored. -/
theorem Sound.setController {s : System} (h : Sound s) {i : ProviderId}
    {c : Controller} (hc : ∀ x, 0 < c.counter x → s.implCounter i x ≠ 0) :
    Sound (s.setController i c) := by
  refine
    { nodup := h.nodup
      bound := h.bound
      consistent := fun j => ?_
      covered := fun j x hx => ?_ }
  · rw [setController_impl]
    exact h.consistent j
  · unfold implCounter
    rw [setController_impl]
    rw [setController_counter] at hx
    by_cases hji : j = i
    · rw [if_pos hji] at hx
      rw [hji]
      exact hc x hx
    · rw [if_neg hji] at hx
      exact h.covered j x hx

/-- The implementation behind a provider changes nothing the switches talk
about. -/
theorem Switches.setImpl {s : System} (h : Switches s) (i : ProviderId)
    (p : Implementation) : Switches (s.setImpl i p) := by
  refine
    { off_disabled := fun hoff j hj x => ?_
      blocked_disabled := fun j hj hb x => ?_
      offline_off := h.offline_off }
  · rw [setImpl_counter]
    exact h.off_disabled hoff j hj x
  · have hb' : s.satelliteBlocked j = true := by
      unfold satelliteBlocked at hb ⊢
      by_cases hji : j = i
      · subst hji
        simpa [System.setImpl] using hb
      · simpa [System.setImpl, hji] using hb
    rw [setImpl_counter]
    exact h.blocked_disabled j hj hb' x

theorem setImpl_impl_ne (s : System) {i j : ProviderId}
    (p : Implementation) (h : j ≠ i) :
    ((s.setImpl i p).provider j).impl = (s.provider j).impl := by
  simp [System.setImpl, h]

/-- A start hook behind a counter that has just been raised. -/
private theorem sound_settleStart {s : System} (h : Sound s) (i : ProviderId)
    (x : Stream) (v : Int) :
    Sound ((s.setController i ((s.provider i).controller.setCounter x v)
      ).settleStart i x) := by
  let u := s.setController i ((s.provider i).controller.setCounter x v)
  let w := u.settleProviderState i .active
  have hreset : (u.setProviderState i .active).Reset w :=
    reset_settleProviderState u i .active
  have himpl : ∀ j, (w.provider j).impl = (s.provider j).impl := by
    intro j
    rw [hreset.impl j, setProviderState_impl, setController_impl]
  have hcount : ∀ j y, 0 < w.counter j y → ¬ (j = i ∧ y = x) →
      0 < s.counter j y := by
    intro j y hy hne
    have h₁ := hreset.counter_pos hy
    rw [setProviderState_counter, setController_counter] at h₁
    by_cases hji : j = i
    · have hyx : y ≠ x := fun e => hne ⟨hji, e⟩
      rw [if_pos hji, Controller.setCounter_ne _ v hyx] at h₁
      rw [hji] at h₁ hy ⊢
      show 0 < (s.provider i).controller.counter y
      omega
    · rw [if_neg hji] at h₁
      omega
  refine
    { nodup := hreset.order ▸ h.nodup
      bound := hreset.order ▸ h.bound
      consistent := fun j => ?_
      covered := fun j y hy => ?_ }
  · show ((w.setImpl i _).provider j).impl.Consistent
    by_cases hji : j = i
    · subst hji
      rw [setImpl_impl_self, himpl]
      exact (h.consistent j).startUpdates x
    · rw [setImpl_impl_ne w _ hji, himpl]
      exact h.consistent j
  · have hy' : 0 < w.counter j y := by
      have hc := setImpl_counter w i j ((w.provider i).impl.startUpdates x) y
      rw [← hc]
      exact hy
    show ((w.setImpl i _).provider j).impl.controller.counter y ≠ 0
    by_cases hji : j = i
    · subst hji
      rw [setImpl_impl_self, himpl]
      by_cases hyx : y = x
      · subst hyx
        rw [Implementation.startUpdates_counter_self]
        exact raised_ne_zero _
      · rw [Implementation.startUpdates_counter_ne _ hyx]
        exact h.covered j y (hcount j y hy' fun e => hyx e.2)
    · rw [setImpl_impl_ne w _ hji, himpl]
      exact h.covered j y (hcount j y hy' fun e => hji e.1)

/-- A stop hook behind a counter that has just come back to zero. -/
private theorem sound_settleStop {s : System} (h : Sound s) {i : ProviderId}
    {x : Stream} (hx : 0 < s.counter i x) :
    Sound ((s.setController i ((s.provider i).controller.setCounter x 0)
      ).settleStop i x) := by
  let u := s.setController i ((s.provider i).controller.setCounter x 0)
  let w := u.settleProviderState i .enabled
  have hreset : (u.setProviderState i .enabled).Reset w :=
    reset_settleProviderState u i .enabled
  have himpl : ∀ j, (w.provider j).impl = (s.provider j).impl := by
    intro j
    rw [hreset.impl j, setProviderState_impl, setController_impl]
  have hcount : ∀ j y, 0 < w.counter j y →
      ¬ (j = i ∧ y = x) ∧ 0 < s.counter j y := by
    intro j y hy
    have h₁ := hreset.counter_pos hy
    rw [setProviderState_counter, setController_counter] at h₁
    by_cases hji : j = i
    · rw [if_pos hji] at h₁
      by_cases hyx : y = x
      · rw [hyx, Controller.setCounter_self] at h₁
        rw [hyx] at hy
        omega
      · rw [Controller.setCounter_ne _ 0 hyx] at h₁
        refine ⟨fun e => hyx e.2, ?_⟩
        rw [hji] at h₁ hy ⊢
        show 0 < (s.provider i).controller.counter y
        omega
    · rw [if_neg hji] at h₁
      exact ⟨fun e => hji e.1, by omega⟩
  refine
    { nodup := hreset.order ▸ h.nodup
      bound := hreset.order ▸ h.bound
      consistent := fun j => ?_
      covered := fun j y hy => ?_ }
  · show ((w.setImpl i _).provider j).impl.Consistent
    by_cases hji : j = i
    · subst hji
      rw [setImpl_impl_self, himpl]
      exact (h.consistent j).stopUpdates (h.covered j x hx)
    · rw [setImpl_impl_ne w _ hji, himpl]
      exact h.consistent j
  · have hc := setImpl_counter w i j ((w.provider i).impl.stopUpdates x) y
    obtain ⟨hne, hs⟩ := hcount j y (hc ▸ hy)
    show ((w.setImpl i _).provider j).impl.controller.counter y ≠ 0
    by_cases hji : j = i
    · subst hji
      have hyx : y ≠ x := fun e => hne ⟨rfl, e⟩
      rw [setImpl_impl_self, himpl,
        Implementation.stopUpdates_counter_ne _ hyx]
      exact h.covered j y hs
    · rw [setImpl_impl_ne w _ hji, himpl]
      exact h.covered j y hs

/-- A start on a disabled controller changes nothing; from zero it calls the
hook, and otherwise it is only counted, by a counter that may wrap around. -/
theorem settleStartUpdates_cases (s : System) (i : ProviderId) (x : Stream) :
    (s.counter i x < 0 ∧ s.settleStartUpdates i x = s) ∨
    (s.counter i x = 0 ∧ s.settleStartUpdates i x =
      (s.setController i ((s.provider i).controller.setCounter x 1)).settleStart
        i x) ∨
    (0 < s.counter i x ∧ s.settleStartUpdates i x =
      s.setController i ((s.provider i).controller.setCounter x
        (incrementCounter (s.counter i x)))) := by
  unfold settleStartUpdates
  rcases (s.provider i).controller.startUpdates_cases x with
    ⟨hc, hs⟩ | ⟨hc, hs⟩ | ⟨hc, hmax, hs⟩ | ⟨hmax, hs⟩
  · rw [hs]
    exact .inl ⟨hc, setController_self s i⟩
  · rw [hs]
    exact .inr (.inl ⟨hc, rfl⟩)
  · have hne : s.counter i x ≠ maxCounter := hmax
    rw [hs]
    refine .inr (.inr ⟨hc, ?_⟩)
    rw [incrementCounter, if_neg hne]
    rfl
  · have hc : s.counter i x = maxCounter := hmax
    rw [hs]
    refine .inr (.inr ⟨?_, ?_⟩)
    · rw [hc]
      decide
    · rw [incrementCounter, if_pos hc]
      rfl

/-- A stop on a disabled controller changes nothing; from one it calls the
hook, and otherwise it is only counted. -/
theorem settleStopUpdates_cases (s : System) (i : ProviderId) (x : Stream) :
    (s.counter i x < 0 ∧ s.settleStopUpdates i x = s) ∨
    (s.counter i x = 1 ∧ s.settleStopUpdates i x =
      (s.setController i ((s.provider i).controller.setCounter x 0)).settleStop
        i x) ∨
    (0 ≤ s.counter i x ∧ s.counter i x ≠ 1 ∧ s.settleStopUpdates i x =
      s.setController i ((s.provider i).controller.setCounter x
        (s.counter i x - 1))) := by
  unfold settleStopUpdates
  rcases (s.provider i).controller.stopUpdates_cases x with
    ⟨hc, hs⟩ | ⟨hc, hs⟩ | ⟨hc, hne, hs⟩
  · rw [hs]
    exact .inl ⟨hc, setController_self s i⟩
  · rw [hs]
    exact .inr (.inl ⟨hc, rfl⟩)
  · rw [hs]
    exact .inr (.inr ⟨hc, hne, rfl⟩)

/-- A stop that a disabled controller receives changes nothing. -/
theorem settleStopUpdates_of_neg {s : System} {i : ProviderId} {x : Stream}
    (hx : s.counter i x < 0) : s.settleStopUpdates i x = s := by
  rcases s.settleStopUpdates_cases i x with
    ⟨-, hs⟩ | ⟨hc, -⟩ | ⟨hc, -, -⟩
  · exact hs
  · omega
  · omega

/-- A start that a disabled controller receives changes nothing. -/
theorem settleStartUpdates_of_neg {s : System} {i : ProviderId} {x : Stream}
    (hx : s.counter i x < 0) : s.settleStartUpdates i x = s := by
  rcases s.settleStartUpdates_cases i x with
    ⟨-, hs⟩ | ⟨hc, -⟩ | ⟨hc, -⟩
  · exact hs
  · omega
  · omega

/-- A controller start on a known provider keeps the invariant. -/
theorem inv_settleStartUpdates {s : System} (h : Inv s) {i : ProviderId}
    (hi : i ∈ s.order) (x : Stream) : Inv (s.settleStartUpdates i x) := by
  rcases s.settleStartUpdates_cases i x with
    ⟨-, hs⟩ | ⟨hc, hs⟩ | ⟨hc, hs⟩
  · rw [hs]
    exact h
  · have hnonneg : 0 ≤ s.counter i x := Int.le_of_eq hc.symm
    rw [hs]
    refine ⟨sound_settleStart h.sound i x 1, ?_⟩
    exact ((h.switches.setController hi hnonneg _).settleProviderState
      i .active).setImpl i _
  · have hnonneg : 0 ≤ s.counter i x := Int.le_of_lt hc
    rw [hs]
    refine ⟨h.sound.setController fun y hy => ?_,
      h.switches.setController hi hnonneg _⟩
    by_cases hyx : y = x
    · rw [hyx]
      exact h.sound.covered i x hc
    · rw [Controller.setCounter_ne _ _ hyx] at hy
      exact h.sound.covered i y hy

/-- A controller stop on a known provider keeps the invariant. -/
theorem inv_settleStopUpdates {s : System} (h : Inv s) {i : ProviderId}
    (hi : i ∈ s.order) (x : Stream) : Inv (s.settleStopUpdates i x) := by
  rcases s.settleStopUpdates_cases i x with
    ⟨-, hs⟩ | ⟨hc, hs⟩ | ⟨hc, -, hs⟩
  · rw [hs]
    exact h
  · have hpos : 0 < s.counter i x := by omega
    rw [hs]
    refine ⟨sound_settleStop h.sound hpos, ?_⟩
    exact ((h.switches.setController hi (Int.le_of_lt hpos) _).settleProviderState
      i .enabled).setImpl i _
  · rw [hs]
    refine ⟨h.sound.setController fun y hy => ?_,
      h.switches.setController hi hc _⟩
    by_cases hyx : y = x
    · rw [hyx, Controller.setCounter_self] at hy
      rw [hyx]
      have hpos : 0 < s.counter i x := by omega
      exact h.sound.covered i x hpos
    · rw [Controller.setCounter_ne _ _ hyx] at hy
      exact h.sound.covered i y hy

/-! ## New providers -/

/-- The providers of an engine with one more, which is new. -/
theorem order_addProvider_perm (s : System) (k : Nat) (req : Bool) :
    (s.addProvider k req).order.Perm (s.order.length :: s.order) := by
  have h : (s.order.take k ++ s.order.length :: s.order.drop k).Perm
      (s.order.length :: (s.order.take k ++ s.order.drop k)) := List.perm_middle
  rw [List.take_append_drop] at h
  exact h

theorem addProvider_ne (s : System) (k : Nat) (req : Bool)
    {j : ProviderId} (h : j ≠ s.order.length) :
    (s.addProvider k req).provider j = s.provider j := by
  unfold addProvider
  exact setProvider_ne s _ h

theorem addProvider_self (s : System) (k : Nat) (req : Bool) :
    let p := (s.addProvider k req).provider s.order.length
    p.impl = .init ∧ p.requiresSatellites = req ∧
      ∀ x, p.controller.counter x =
        if (req && (s.satelliteBasedPositioningState == .off)) = true ∨
          s.engineState = .off then -1 else 0 := by
  have hself : (s.addProvider k req).provider s.order.length =
      let p := StateTrackingProvider.init req
      let p := if req && (s.satelliteBasedPositioningState == .off) then
        { p with controller := p.controller.markDisabled } else p
      if s.engineState == .off then
        { p with controller := p.controller.markDisabled } else p := by
    unfold addProvider
    exact setProvider_self s _ _
  dsimp only
  rw [hself]
  dsimp only
  by_cases hsat : (req && (s.satelliteBasedPositioningState == .off)) = true
  · rw [if_pos hsat]
    refine ⟨by split <;> rfl, by split <;> rfl, fun x => ?_⟩
    have hor : (req && (s.satelliteBasedPositioningState == .off)) = true ∨
        s.engineState = .off := .inl hsat
    rw [if_pos hor]
    split <;> rfl
  · rw [if_neg hsat]
    by_cases hoff : s.engineState = .off
    · simp [hoff, StateTrackingProvider.init]
    · simp [hoff, hsat, StateTrackingProvider.init, Controller.init]

/-- A new provider joins disabled when a switch asks for it. -/
theorem inv_addProvider {s : System} (h : Inv s) (k : Nat) (req : Bool) :
    Inv (s.addProvider k req) := by
  let t := s.addProvider k req
  have hperm := order_addProvider_perm s k req
  have hfresh : s.order.length ∉ s.order := by
    intro hmem
    exact Nat.lt_irrefl _ (h.sound.bound _ hmem)
  have hmem : ∀ j, j ∈ t.order → j = s.order.length ∨
      (j ≠ s.order.length ∧ j ∈ s.order) := by
    intro j hj
    rcases List.mem_cons.mp (hperm.mem_iff.mp hj) with rfl | hj
    · exact .inl rfl
    · exact .inr ⟨fun e => hfresh (e ▸ hj), hj⟩
  obtain ⟨himpl, hreq, hcount⟩ := addProvider_self s k req
  refine ⟨?_, ?_⟩
  · refine
      { nodup := hperm.nodup_iff.mpr (List.nodup_cons.mpr ⟨hfresh, h.sound.nodup⟩)
        bound := fun j hj => ?_
        consistent := fun j => ?_
        covered := fun j x hx => ?_ }
    · rw [hperm.length_eq, List.length_cons]
      rcases hmem j hj with rfl | ⟨-, hj⟩
      · exact Nat.lt_succ_self _
      · exact Nat.lt_succ_of_lt (h.sound.bound j hj)
    · by_cases hj : j = s.order.length
      · rw [hj, himpl]
        exact Implementation.consistent_init
      · rw [addProvider_ne s k req hj]
        exact h.sound.consistent j
    · by_cases hj : j = s.order.length
      · rw [hj] at hx
        have := hcount x
        unfold counter at hx
        split at this <;> omega
      · unfold counter at hx
        unfold implCounter
        rw [addProvider_ne s k req hj] at hx ⊢
        exact h.sound.covered j x hx
  · refine
      { off_disabled := fun hoff j hj x => ?_
        blocked_disabled := fun j hj hb x => ?_
        offline_off := h.switches.offline_off }
    · unfold counter
      rcases hmem j hj with rfl | ⟨hne, hj⟩
      · rw [hcount x, if_pos (.inr hoff)]
      · rw [addProvider_ne s k req hne]
        exact h.switches.off_disabled hoff j hj x
    · unfold counter
      unfold satelliteBlocked at hb
      rcases hmem j hj with rfl | ⟨hne, hj⟩
      · rw [hreq] at hb
        rw [hcount x, if_pos (.inl hb)]
      · rw [addProvider_ne s k req hne] at hb ⊢
        exact h.switches.blocked_disabled j hj hb x

/-! ## The service on top of the engine -/

theorem Inv.setServiceState {s : System} (h : Inv s) (v : ServiceState) :
    Inv (s.setServiceState v) :=
  { sound := { h.sound with }
    switches :=
      { off_disabled := h.switches.off_disabled
        blocked_disabled := h.switches.blocked_disabled
        offline_off := fun svc hsvc hoff => by
          cases hs : s.service with
          | none => simp [System.setServiceState, hs] at hsvc
          | some old =>
              simp only [System.setServiceState, hs, Option.map_some,
                Option.some.injEq] at hsvc
              rw [← hsvc] at hoff
              exact h.switches.offline_off old hs hoff } }

/-- Going online reaches the invariant also from a service that is offline on
an engine that is not off, as the constructor finds it. -/
private theorem inv_settle_online {s : System} (hs : Sound s)
    (hb : ∀ i ∈ s.order, s.satelliteBlocked i = true → ∀ x, s.counter i x = -1)
    (hne : s.engineState ≠ .off)
    (hoff : s.service = some ⟨false, .disabled, false⟩) :
    Inv (s.settle (.isOnline true)) := by
  unfold settle
  rw [if_neg (by simp [holds, hoff])]
  refine inv_settleEngineState (s := store (.isOnline true) s) { hs with } hb _
    fun hes => ?_
  exact
    { off_disabled := fun h => absurd h hne
      blocked_disabled := hb
      offline_off := fun svc hsvc h => by
        simp only [store, hoff, Option.map_some, Option.some.injEq] at hsvc
        rw [← hsvc] at h
        cases h }

theorem inv_settleConstructService {s : System} (h : Inv s) :
    Inv s.settleConstructService := by
  unfold settleConstructService
  refine inv_settle_doesSatellite ?_ _
  let t : System := { s with service := some ⟨false, .disabled, false⟩ }
  have hsound : Sound t := { h.sound with }
  have hb := h.switches.blocked_disabled
  show Inv t.settleCopyEngineState
  unfold settleCopyEngineState
  cases hes : t.engineState with
  | off =>
      have hholds : t.settle (.isOnline false) = t := by
        unfold settle
        rw [if_pos (by simp [holds, t])]
      rw [hholds]
      refine Inv.setServiceState ⟨hsound, ?_⟩ _
      exact
        { off_disabled := h.switches.off_disabled
          blocked_disabled := hb
          offline_off := fun _ _ _ => hes }
  | on =>
      exact (inv_settle_online hsound hb (by simp [hes]) rfl).setServiceState _
  | active =>
      exact (inv_settle_online hsound hb (by simp [hes]) rfl).setServiceState _

/-! ## Runs -/

theorem inv_initEngine (v : Status) : Inv (initEngine v) := by
  refine ⟨?_, ?_⟩
  · exact
      { nodup := List.nodup_nil
        bound := fun i hi => nomatch hi
        consistent := fun _ => Implementation.consistent_init
        covered := fun _ _ hx => absurd hx (Int.lt_irrefl 0) }
  · exact
      { off_disabled := fun _ i hi => nomatch hi
        blocked_disabled := fun i hi => nomatch hi
        offline_off := fun svc hsvc => nomatch hsvc }

/-- Every external step keeps the invariant. -/
theorem inv_step {a : Action} {s t : System} (h : Inv s) (hst : Step a s t) :
    Inv t := by
  have hexec := step_iff.mp hst
  cases a with
  | setEngineState v =>
      obtain rfl : s.settle (.engineState v) = t := Option.some.inj hexec
      unfold settle
      split
      · exact h
      · exact inv_settleEngineState h.sound h.switches.blocked_disabled v
          fun _ => h.switches
  | setSatellite v =>
      obtain rfl : s.settle (.satelliteBasedPositioningState v) = t :=
        Option.some.inj hexec
      unfold settle
      split
      · exact h
      · exact inv_settleSatelliteState h v
  | setOnline v =>
      obtain rfl : s.settle (.isOnline v) = t := Option.some.inj hexec
      exact inv_settle_isOnline h v
  | setDoesSatellite v =>
      obtain rfl : s.settle (.doesSatelliteBasedPositioning v) = t :=
        Option.some.inj hexec
      exact inv_settle_doesSatellite h v
  | start i x =>
      obtain ⟨hi, rfl⟩ := step_start hst
      exact inv_settleStartUpdates h hi x
  | stop i x =>
      obtain ⟨hi, rfl⟩ := step_stop hst
      exact inv_settleStopUpdates h hi x
  | addProvider k req =>
      obtain rfl : s.addProvider k req = t := Option.some.inj hexec
      exact inv_addProvider h k req
  | constructService =>
      obtain ⟨-, rfl⟩ := step_constructService hst
      exact inv_settleConstructService h

/-- The invariant holds in every reachable state. -/
theorem inv_of_reachable {s : System} (h : Reachable s) : Inv s := by
  refine Machine.Reach.invariant (fun s hs => ?_) (fun a s t hs _ hst => ?_) h
  · obtain ⟨v, rfl⟩ := hs
    exact inv_initEngine v
  · exact inv_step hs hst

end LocationService.System
