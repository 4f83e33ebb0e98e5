import LocationService.Engine.Settle

/-!
# What disabling a provider does to the whole system

A stop hook that moves a provider out of its active state makes the engine
recompute its status in the middle of `Controller::disable`.  `Reset` says
what such a recomputation can touch: it never stops or starts an
implementation, but it may put counters back to zero.  `settleDisable_cons`
then gives the exact result of one `disable`, and `disableLoop_spec` what the
loop over all providers preserves.
-/

namespace LocationService

/-! ## Stopping a list of streams -/

namespace Implementation

/-- Stops the streams of a list, one after the other. -/
def stopAll (p : Implementation) (xs : List Stream) : Implementation :=
  xs.foldl stopUpdates p

@[simp] theorem stopAll_nil (p : Implementation) : p.stopAll [] = p := rfl

@[simp] theorem stopAll_cons (p : Implementation) (x : Stream)
    (xs : List Stream) :
    p.stopAll (x :: xs) = (p.stopUpdates x).stopAll xs := rfl

/-- Stopping each stream of a list once lowers exactly its counters. -/
theorem stopAll_counter {xs : List Stream} (hnd : xs.Nodup)
    (p : Implementation) (y : Stream) :
    (p.stopAll xs).controller.counter y =
      if y ∈ xs then lowered (p.controller.counter y)
      else p.controller.counter y := by
  induction xs generalizing p with
  | nil => simp
  | cons x xs ih =>
      obtain ⟨hx, hnd'⟩ := List.nodup_cons.mp hnd
      rw [stopAll_cons, ih hnd']
      by_cases hy : y = x
      · subst hy
        rw [if_neg hx, if_pos List.mem_cons_self, stopUpdates_counter_self]
      · rw [stopUpdates_counter_ne p hy]
        simp [hy]

/-- Stopping streams that run keeps the streams that run in step with the
counters. -/
theorem Consistent.stopAll {xs : List Stream} (hnd : xs.Nodup)
    {p : Implementation} (h : p.Consistent)
    (hne : ∀ x ∈ xs, p.controller.counter x ≠ 0) :
    (p.stopAll xs).Consistent := by
  induction xs generalizing p with
  | nil => exact h
  | cons x xs ih =>
      obtain ⟨hx, hnd'⟩ := List.nodup_cons.mp hnd
      refine ih hnd' (h.stopUpdates (hne x List.mem_cons_self)) ?_
      intro z hz
      have hzx : z ≠ x := fun e => hx (e ▸ hz)
      rw [stopUpdates_counter_ne p hzx]
      exact hne z (List.mem_cons_of_mem _ hz)

end Implementation

namespace System

/-! ## Status changes that enable -/

/-- `t` differs from `s` in the status, in the service and in counters that
went back to zero, and in nothing else. -/
structure Reset (s t : System) : Prop where
  order : t.order = s.order
  service : t.service.isSome = s.service.isSome
  satellite :
    t.satelliteBasedPositioningState = s.satelliteBasedPositioningState
  requires : ∀ i,
    (t.provider i).requiresSatellites = (s.provider i).requiresSatellites
  state : ∀ i, (t.provider i).state = (s.provider i).state
  impl : ∀ i, (t.provider i).impl = (s.provider i).impl
  counter : ∀ i x, t.counter i x = s.counter i x ∨
    (s.satelliteBlocked i = false ∧ t.counter i x = 0)

theorem Reset.refl (s : System) : s.Reset s :=
  { order := rfl
    service := rfl
    satellite := rfl
    requires := fun _ => rfl
    state := fun _ => rfl
    impl := fun _ => rfl
    counter := fun _ _ => .inl rfl }

theorem Reset.blocked {s t : System} (h : s.Reset t) (i : ProviderId) :
    t.satelliteBlocked i = s.satelliteBlocked i := by
  simp [satelliteBlocked, h.satellite, h.requires]

theorem Reset.trans {s t u : System} (hst : s.Reset t) (htu : t.Reset u) :
    s.Reset u :=
  { order := htu.order.trans hst.order
    service := htu.service.trans hst.service
    satellite := htu.satellite.trans hst.satellite
    requires := fun i => (htu.requires i).trans (hst.requires i)
    state := fun i => (htu.state i).trans (hst.state i)
    impl := fun i => (htu.impl i).trans (hst.impl i)
    counter := fun i x => by
      rcases htu.counter i x with hc | ⟨hb, hc⟩
      · rw [hc]
        exact hst.counter i x
      · exact .inr ⟨hst.blocked i ▸ hb, hc⟩ }

/-- A reset never makes a counter positive. -/
theorem Reset.counter_pos {s t : System} (h : s.Reset t) {i : ProviderId}
    {x : Stream} (hpos : 0 < t.counter i x) : t.counter i x = s.counter i x := by
  rcases h.counter i x with hc | ⟨-, hc⟩
  · exact hc
  · omega

/-- The counters of a blocked provider survive a reset. -/
theorem Reset.counter_blocked {s t : System} (h : s.Reset t) {i : ProviderId}
    (hb : s.satelliteBlocked i = true) (x : Stream) :
    t.counter i x = s.counter i x := by
  rcases h.counter i x with hc | ⟨hf, -⟩
  · exact hc
  · rw [hb] at hf
    cases hf

/-- Enabling a provider that is not blocked is a reset. -/
theorem reset_enableProvider {s : System} {i : ProviderId}
    (h : s.satelliteBlocked i = false) : s.Reset (s.enableProvider i) := by
  have hne : ∀ j, j ≠ i → (s.enableProvider i).provider j = s.provider j :=
    fun j hj => setProvider_ne s _ hj
  have hself : (s.enableProvider i).provider i =
      { s.provider i with controller := (s.provider i).controller.enable } :=
    setProvider_self s i _
  refine
    { order := rfl
      service := rfl
      satellite := rfl
      requires := fun j => ?_
      state := fun j => ?_
      impl := fun j => ?_
      counter := fun j x => ?_ }
  all_goals by_cases hj : j = i
  · rw [hj, hself]
  · rw [hne j hj]
  · rw [hj, hself]
  · rw [hne j hj]
  · rw [hj, hself]
  · rw [hne j hj]
  · refine .inr ⟨hj ▸ h, ?_⟩
    rw [hj, counter, hself]
    rfl
  · exact .inl (by rw [counter, counter, hne j hj])

theorem settleOn_counter (s : System) (i : ProviderId) (x : Stream) :
    s.settleOn.counter i x =
      if i ∈ s.order ∧ s.satelliteBlocked i = false then 0
      else s.counter i x := by
  unfold settleOn enableAll counter
  dsimp only
  split <;> rfl

theorem reset_settleOn (s : System) : s.Reset s.settleOn := by
  refine
    { order := rfl
      service := by simp [settleOn]
      satellite := rfl
      requires := fun i => ?_
      state := fun i => ?_
      impl := fun i => ?_
      counter := fun i x => ?_ }
  · show (if _ then _ else _ : StateTrackingProvider).requiresSatellites = _
    split <;> rfl
  · show (if _ then _ else _ : StateTrackingProvider).state = _
    split <;> rfl
  · show (if _ then _ else _ : StateTrackingProvider).impl = _
    split <;> rfl
  · rw [settleOn_counter]
    by_cases h : i ∈ s.order ∧ s.satelliteBlocked i = false
    · rw [if_pos h]
      exact .inr ⟨h.2, rfl⟩
    · rw [if_neg h]
      exact .inl rfl

theorem reset_settleActive (s : System) : s.Reset s.settleActive := by
  unfold settleActive
  split
  · exact { Reset.refl s with service := by simp }
  · exact { reset_settleOn s with
      service := by simp [setServiceState, settleOn] }

/-- A recomputation of the status only resets counters. -/
theorem reset_recompute (s : System) : s.Reset s.recompute := by
  unfold recompute
  split
  · split
    · exact Reset.refl s
    · exact reset_settleActive s
  · split
    · exact Reset.refl s
    · exact reset_settleOn s

theorem setProviderState_eq_self {s : System} {i : ProviderId}
    {v : ProviderState} (h : (s.provider i).state = v) :
    s.setProviderState i v = s := by
  subst h
  unfold setProviderState setProvider
  rw [Function.update_eq_self]

theorem settleProviderState_of_eq {s : System} {i : ProviderId}
    {v : ProviderState} (h : (s.provider i).state = v) :
    s.settleProviderState i v = s := if_pos h

theorem reset_settleProviderState (s : System) (i : ProviderId)
    (v : ProviderState) :
    (s.setProviderState i v).Reset (s.settleProviderState i v) := by
  unfold settleProviderState
  split
  · rename_i h
    rw [setProviderState_eq_self h]
    exact Reset.refl s
  · exact reset_recompute _

/-! ## Disabling one provider -/

/-- The streams of a provider that its controller counts as used. -/
def liveStreams (s : System) (i : ProviderId) : List Stream :=
  Stream.all.filter fun x => decide (0 < s.counter i x)

theorem mem_liveStreams {s : System} {i : ProviderId} {x : Stream} :
    x ∈ s.liveStreams i ↔ 0 < s.counter i x := by
  simp [liveStreams]

theorem nodup_liveStreams (s : System) (i : ProviderId) :
    (s.liveStreams i).Nodup :=
  Stream.nodup_all.filter _

/-- Replaces the implementation behind a provider. -/
def setImpl (s : System) (i : ProviderId) (p : Implementation) : System :=
  s.setProvider i { s.provider i with impl := p }

theorem setImpl_self (s : System) (i : ProviderId) :
    s.setImpl i (s.provider i).impl = s := by
  unfold setImpl setProvider
  rw [Function.update_eq_self]

@[simp] theorem setImpl_counter (s : System) (i j : ProviderId)
    (p : Implementation) (x : Stream) :
    (s.setImpl i p).counter j x = s.counter j x := by
  unfold counter setImpl
  by_cases h : j = i
  · subst h
    rw [setProvider_self]
  · rw [setProvider_ne s _ h]

@[simp] theorem setImpl_impl_self (s : System) (i : ProviderId)
    (p : Implementation) : ((s.setImpl i p).provider i).impl = p := by
  simp [setImpl]

private theorem setImpl_setImpl (s : System) (i : ProviderId)
    (p q : Implementation) : (s.setImpl i p).setImpl i q = s.setImpl i q := by
  unfold setImpl setProvider
  simp

private theorem settleDisableStream_foldl_enabled (i : ProviderId)
    (xs : List Stream) (s : System) (h : (s.provider i).state = .enabled) :
    xs.foldl (settleDisableStream i) s =
      s.setImpl i ((s.provider i).impl.stopAll
        (xs.filter fun x => decide (0 < s.counter i x))) := by
  induction xs generalizing s with
  | nil => exact (setImpl_self s i).symm
  | cons x xs ih =>
      rw [List.foldl_cons]
      by_cases hpos : 0 < s.counter i x
      · have hstop : settleDisableStream i s x =
            s.setImpl i ((s.provider i).impl.stopUpdates x) := by
          simp only [settleDisableStream, if_pos hpos, settleStop,
            settleProviderState_of_eq h]
          rfl
        rw [hstop, ih _ (by simpa [setImpl] using h), setImpl_setImpl]
        rw [setImpl_impl_self, List.filter_cons_of_pos (by simpa using hpos)]
        simp only [setImpl_counter, Implementation.stopAll_cons]
      · have hskip : settleDisableStream i s x = s := if_neg hpos
        rw [hskip, ih s h]
        simp [hpos]

private theorem settleDisableStream_foldl (i : ProviderId) (xs : List Stream)
    (s : System) :
    (xs.filter (fun x => decide (0 < s.counter i x)) = [] →
      xs.foldl (settleDisableStream i) s = s) ∧
    ∀ x ys, xs.filter (fun x => decide (0 < s.counter i x)) = x :: ys →
      xs.foldl (settleDisableStream i) s =
        (s.settleProviderState i .enabled).setImpl i
          ((s.provider i).impl.stopAll (x :: ys.filter fun y =>
            decide (0 < (s.settleProviderState i .enabled).counter i y))) := by
  induction xs with
  | nil => simp
  | cons z xs ih =>
      by_cases hpos : 0 < s.counter i z
      · refine ⟨fun h => by simp [hpos] at h, fun x ys h => ?_⟩
        have hcons : z = x ∧
            xs.filter (fun x => decide (0 < s.counter i x)) = ys := by
          simpa [hpos] using h
        obtain ⟨rfl, hys⟩ := hcons
        let t := s.settleProviderState i .enabled
        have hreset := reset_settleProviderState s i .enabled
        have hstate : (t.provider i).state = .enabled := by
          show ((s.settleProviderState i .enabled).provider i).state = _
          rw [hreset.state i]
          simp [setProviderState]
        have himpl : (t.provider i).impl = (s.provider i).impl := by
          show ((s.settleProviderState i .enabled).provider i).impl = _
          rw [hreset.impl i]
          simp [setProviderState]
        have hcounter : ∀ y, 0 < t.counter i y → 0 < s.counter i y := by
          intro y hy
          have := hreset.counter_pos hy
          simp only [setProviderState, counter, setProvider_self] at this
          simp only [counter]
          rw [← this]
          exact hy
        have hstep : settleDisableStream i s z =
            t.setImpl i ((t.provider i).impl.stopUpdates z) := by
          simp only [settleDisableStream, if_pos hpos, settleStop]
          rfl
        rw [List.foldl_cons, hstep,
          settleDisableStream_foldl_enabled i xs _
            (by simpa [setImpl] using hstate), setImpl_setImpl]
        have hfilter : xs.filter (fun y => decide (0 < t.counter i y)) =
            ys.filter fun y => decide (0 < t.counter i y) := by
          rw [← hys, List.filter_filter]
          refine List.filter_congr fun y _ => ?_
          by_cases hy : 0 < t.counter i y
          · simp [hy, hcounter y hy]
          · simp [hy]
        simp only [setImpl_counter, hfilter]
        simp [setImpl, himpl, t]
      · have hskip : settleDisableStream i s z = s := if_neg hpos
        rw [List.foldl_cons, hskip]
        simpa [hpos] using ih

/-- Disabling a provider nobody uses only marks its counters. -/
theorem settleDisable_nil {s : System} {i : ProviderId}
    (h : s.liveStreams i = []) :
    s.settleDisable i = s.markProviderDisabled i := by
  unfold settleDisable
  rw [(settleDisableStream_foldl i Stream.all s).1 h]

/-- Disabling a used provider stops its first live stream, lets the engine
recompute its status, and then stops those of the other streams whose counters
the recomputation left alone. -/
theorem settleDisable_cons {s : System} {i : ProviderId} {x : Stream}
    {xs : List Stream} (h : s.liveStreams i = x :: xs) :
    s.settleDisable i =
      ((s.settleProviderState i .enabled).setImpl i
        ((s.provider i).impl.stopAll (x :: xs.filter fun y =>
          decide (0 < (s.settleProviderState i .enabled).counter i y)))
      ).markProviderDisabled i := by
  unfold settleDisable
  rw [(settleDisableStream_foldl i Stream.all s).2 x xs h]

/-- When the first live stream of a provider is blocked by the satellite
switch, the recomputation leaves all its counters alone. -/
theorem settleDisable_impl_blocked {s : System} {i : ProviderId}
    (hb : s.satelliteBlocked i = true) :
    ((s.settleDisable i).provider i).impl =
      (s.provider i).impl.stopAll (s.liveStreams i) := by
  cases hlive : s.liveStreams i with
  | nil =>
      rw [settleDisable_nil hlive]
      simp [markProviderDisabled]
  | cons x xs =>
      have hkeep : xs.filter (fun y => decide
          (0 < (s.settleProviderState i .enabled).counter i y)) = xs := by
        refine List.filter_eq_self.mpr fun y hy => ?_
        have hmem : y ∈ s.liveStreams i := by
          rw [hlive]
          exact List.mem_cons_of_mem _ hy
        have hreset := reset_settleProviderState s i .enabled
        have hblocked : (s.setProviderState i .enabled).satelliteBlocked i =
            true := by
          simpa [satelliteBlocked, setProviderState] using hb
        have hcount := hreset.counter_blocked hblocked y
        have hs : (s.setProviderState i .enabled).counter i y =
            s.counter i y := by
          simp [setProviderState, counter]
        rw [hcount, hs]
        exact decide_eq_true (mem_liveStreams.mp hmem)
      rw [settleDisable_cons hlive, hkeep]
      simp [markProviderDisabled]

/-! ## Sweeps

A sweep disables a set of providers, possibly with status recomputations in
between.  The relation composes, so it describes the loop over all providers
as well as a single `disable`. -/

/-- `t` comes from `s` by disabling the providers in `V` and by resets. -/
structure Swept (V : ProviderId → Prop) (s t : System) : Prop where
  order : t.order = s.order
  service : t.service.isSome = s.service.isSome
  satellite :
    t.satelliteBasedPositioningState = s.satelliteBasedPositioningState
  requires : ∀ i,
    (t.provider i).requiresSatellites = (s.provider i).requiresSatellites
  impl : ∀ i, ∃ D : List Stream, D.Nodup ∧ (∀ x ∈ D, 0 < s.counter i x) ∧
    (t.provider i).impl = (s.provider i).impl.stopAll D
  impl_ne : ∀ i, ¬ V i → (t.provider i).impl = (s.provider i).impl
  counter : ∀ i x, (¬ V i ∧ t.counter i x = s.counter i x) ∨
    (s.satelliteBlocked i = false ∧ t.counter i x = 0) ∨
    (V i ∧ t.counter i x = -1)

theorem Reset.swept {s t : System} (h : s.Reset t) : Swept (fun _ => False) s t :=
  { order := h.order
    service := h.service
    satellite := h.satellite
    requires := h.requires
    impl := fun i => ⟨[], List.nodup_nil, by simp, h.impl i⟩
    impl_ne := fun i _ => h.impl i
    counter := fun i x => by
      rcases h.counter i x with hc | hc
      · exact .inl ⟨id, hc⟩
      · exact .inr (.inl hc) }

theorem Swept.blocked {V : ProviderId → Prop} {s t : System} (h : Swept V s t)
    (i : ProviderId) : t.satelliteBlocked i = s.satelliteBlocked i := by
  simp [satelliteBlocked, h.satellite, h.requires]

/-- A swept provider is not counted as used any more. -/
theorem Swept.counter_le {V : ProviderId → Prop} {s t : System}
    (h : Swept V s t) {i : ProviderId} (hi : V i) (x : Stream) :
    t.counter i x ≤ 0 := by
  rcases h.counter i x with ⟨hn, -⟩ | ⟨-, hc⟩ | ⟨-, hc⟩
  · exact absurd hi hn
  · omega
  · omega

/-- A sweep never makes a counter positive. -/
theorem Swept.counter_pos {V : ProviderId → Prop} {s t : System}
    (h : Swept V s t) {i : ProviderId} {x : Stream}
    (hpos : 0 < t.counter i x) : t.counter i x = s.counter i x := by
  rcases h.counter i x with ⟨-, hc⟩ | ⟨-, hc⟩ | ⟨-, hc⟩
  · exact hc
  · omega
  · omega

theorem Swept.mono {V W : ProviderId → Prop} {s t : System}
    (hVW : ∀ i, V i ↔ W i) (h : Swept V s t) : Swept W s t := by
  have : V = W := funext fun i => propext (hVW i)
  exact this ▸ h

/-- Sweeps compose. -/
theorem Swept.trans {V W : ProviderId → Prop} {s t u : System}
    (hst : Swept V s t) (htu : Swept W t u) :
    Swept (fun i => V i ∨ W i) s u := by
  refine
    { order := htu.order.trans hst.order
      service := htu.service.trans hst.service
      satellite := htu.satellite.trans hst.satellite
      requires := fun i => (htu.requires i).trans (hst.requires i)
      impl := fun i => ?_
      impl_ne := fun i hi => ?_
      counter := fun i x => ?_ }
  · obtain ⟨D, hD, hpos, himpl⟩ := hst.impl i
    obtain ⟨E, hE, hpos', himpl'⟩ := htu.impl i
    by_cases hV : V i
    · -- A provider swept before has no live stream left.
      have hnil : E = [] := by
        cases E with
        | nil => rfl
        | cons x xs =>
            have h₁ := hpos' x (List.mem_cons_self ..)
            have h₂ := hst.counter_le hV x
            omega
      subst hnil
      exact ⟨D, hD, hpos, by rw [himpl', himpl]; rfl⟩
    · refine ⟨E, hE, fun x hx => ?_, by rw [himpl', hst.impl_ne i hV]⟩
      have h := hpos' x hx
      rw [hst.counter_pos h] at h
      exact h
  · rw [htu.impl_ne i fun h => hi (.inr h), hst.impl_ne i fun h => hi (.inl h)]
  · rcases htu.counter i x with ⟨hW, hc⟩ | ⟨hb, hc⟩ | ⟨hW, hc⟩
    · rcases hst.counter i x with ⟨hV, hc'⟩ | ⟨hb', hc'⟩ | ⟨hV, hc'⟩
      · exact .inl ⟨fun h => h.elim hV hW, hc.trans hc'⟩
      · exact .inr (.inl ⟨hb', hc.trans hc'⟩)
      · exact .inr (.inr ⟨.inl hV, hc.trans hc'⟩)
    · exact .inr (.inl ⟨hst.blocked i ▸ hb, hc⟩)
    · exact .inr (.inr ⟨.inr hW, hc⟩)

theorem markProviderDisabled_counter (s : System) (i j : ProviderId)
    (x : Stream) :
    (s.markProviderDisabled i).counter j x =
      if j = i then -1 else s.counter j x := by
  unfold markProviderDisabled counter
  by_cases h : j = i
  · subst h
    simp
  · simp [h]

theorem setProviderState_counter (s : System) (i j : ProviderId)
    (v : ProviderState) (x : Stream) :
    (s.setProviderState i v).counter j x = s.counter j x := by
  unfold setProviderState counter
  by_cases h : j = i
  · subst h
    simp
  · simp [h]

theorem setProviderState_impl (s : System) (i j : ProviderId)
    (v : ProviderState) :
    ((s.setProviderState i v).provider j).impl = (s.provider j).impl := by
  unfold setProviderState
  by_cases h : j = i
  · subst h
    simp
  · simp [h]

theorem setProviderState_requires (s : System) (i j : ProviderId)
    (v : ProviderState) :
    ((s.setProviderState i v).provider j).requiresSatellites =
      (s.provider j).requiresSatellites := by
  unfold setProviderState
  by_cases h : j = i
  · subst h
    simp
  · simp [h]

theorem setProviderState_blocked (s : System) (i j : ProviderId)
    (v : ProviderState) :
    (s.setProviderState i v).satelliteBlocked j = s.satelliteBlocked j := by
  unfold satelliteBlocked
  rw [setProviderState_requires]
  rfl

/-- One `disable` sweeps one provider. -/
theorem swept_settleDisable (s : System) (i : ProviderId) :
    Swept (· = i) s (s.settleDisable i) := by
  cases hlive : s.liveStreams i with
  | nil =>
      rw [settleDisable_nil hlive]
      refine
        { order := rfl
          service := rfl
          satellite := rfl
          requires := fun j => ?_
          impl := fun j => ⟨[], List.nodup_nil, by simp, ?_⟩
          impl_ne := fun j hj => ?_
          counter := fun j x => ?_ }
      · by_cases h : j = i
        · subst h
          simp [markProviderDisabled]
        · simp [markProviderDisabled, h]
      · by_cases h : j = i
        · subst h
          simp [markProviderDisabled]
        · simp [markProviderDisabled, h]
      · simp [markProviderDisabled, hj]
      · rw [markProviderDisabled_counter]
        by_cases h : j = i
        · rw [if_pos h]
          exact .inr (.inr ⟨h, rfl⟩)
        · rw [if_neg h]
          exact .inl ⟨h, rfl⟩
  | cons x xs =>
      have hreset := reset_settleProviderState s i .enabled
      have hnd : (x :: xs).Nodup := hlive ▸ s.nodup_liveStreams i
      rw [settleDisable_cons hlive]
      refine
        { order := hreset.order
          service := hreset.service
          satellite := hreset.satellite
          requires := fun j => ?_
          impl := fun j => ?_
          impl_ne := fun j hj => ?_
          counter := fun j y => ?_ }
      · by_cases h : j = i
        · subst h
          simpa [markProviderDisabled, setImpl, setProviderState_requires]
            using hreset.requires j
        · simpa [markProviderDisabled, setImpl, h, setProviderState_requires]
            using hreset.requires j
      · by_cases h : j = i
        · subst h
          refine ⟨x :: xs.filter fun y => decide
            (0 < (s.settleProviderState j .enabled).counter j y), ?_, ?_, ?_⟩
          · exact hnd.sublist (List.filter_sublist.cons_cons x)
          · intro y hy
            apply mem_liveStreams.mp
            rw [hlive]
            rcases List.mem_cons.mp hy with rfl | hy
            · exact List.mem_cons_self ..
            · exact List.mem_cons_of_mem _ (List.mem_filter.mp hy).1
          · simp [markProviderDisabled]
        · refine ⟨[], List.nodup_nil, by simp, ?_⟩
          simpa [markProviderDisabled, setImpl, h, setProviderState_impl]
            using hreset.impl j
      · simpa [markProviderDisabled, setImpl, hj, setProviderState_impl]
          using hreset.impl j
      · rw [markProviderDisabled_counter, setImpl_counter]
        by_cases h : j = i
        · rw [if_pos h]
          exact .inr (.inr ⟨h, rfl⟩)
        · rw [if_neg h]
          rcases hreset.counter j y with hc | ⟨hb, hc⟩
          · rw [setProviderState_counter] at hc
            exact .inl ⟨h, hc⟩
          · rw [setProviderState_blocked] at hb
            exact .inr (.inl ⟨hb, hc⟩)

/-- The loop over the providers sweeps those it visits. -/
theorem swept_foldl (is : List ProviderId) (s : System) :
    Swept (· ∈ is) s (is.foldl settleDisable s) := by
  induction is generalizing s with
  | nil =>
      refine (Reset.refl s).swept.mono fun i => ?_
      simp
  | cons i is ih =>
      apply ((swept_settleDisable s i).trans (ih (s.settleDisable i))).mono
      intro j
      simp

end System

end LocationService
