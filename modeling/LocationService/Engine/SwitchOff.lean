import LocationService.Engine.Reachable

/-!
# Switching the service offline

`is_online() = false` ends with the engine off and every controller disabled,
but not always with every implementation stopped.  The stop hook of the first
provider that is active and used turns the engine on again, which enables all
the other providers, so that nothing after it is stopped any more.
`offline_stops_all_iff` gives the states from which everything stops.
-/

namespace LocationService.System

open LocationService.Library

/-! ## Running streams and reference counts -/

/-- Stopping the live streams of a provider once each leaves its implementation
without references if it had exactly these. -/
theorem stopAll_live_eq_zero_iff (s : System) (i : ProviderId) (x : Stream) :
    ((s.provider i).impl.stopAll (s.liveStreams i)).controller.counter x = 0 ↔
      s.implCounter i x = if 0 < s.counter i x then 1 else 0 := by
  rw [Implementation.stopAll_counter (s.nodup_liveStreams i)]
  simp only [mem_liveStreams]
  split
  · exact lowered_eq_zero_iff _
  · rfl

/-! ## One provider in the loop -/

/-- A provider that is not active, or that nobody uses, is disabled without
any effect on the others. -/
theorem settleDisable_plain {s : System} {i : ProviderId}
    (h : (s.provider i).state = .enabled ∨ s.liveStreams i = []) :
    s.settleDisable i =
      (s.setImpl i ((s.provider i).impl.stopAll (s.liveStreams i))
        ).markProviderDisabled i := by
  cases hlive : s.liveStreams i with
  | nil =>
      rw [settleDisable_nil hlive, Implementation.stopAll_nil, setImpl_self]
  | cons x xs =>
      have hstate : (s.provider i).state = .enabled := by
        rcases h with h | h
        · exact h
        · rw [hlive] at h
          cases h
      have hkeep : xs.filter (fun y => decide (0 < s.counter i y)) = xs := by
        refine List.filter_eq_self.mpr fun y hy => ?_
        have hmem : y ∈ s.liveStreams i := by
          rw [hlive]
          exact List.mem_cons_of_mem _ hy
        exact decide_eq_true (mem_liveStreams.mp hmem)
      rw [settleDisable_cons hlive, settleProviderState_of_eq hstate, hkeep]

/-- With the engine off and the service offline, a recomputed status turns
the engine on and enables whatever it may. -/
theorem recompute_counter_of_offline {s : System} (hoff : s.engineState = .off)
    (honline : ¬ s.Online) (i : ProviderId) (x : Stream) :
    s.recompute.counter i x =
      if i ∈ s.order ∧ s.satelliteBlocked i = false then 0
      else s.counter i x := by
  unfold recompute
  split
  · rw [if_neg (by simp [hoff])]
    unfold settleActive
    rw [if_neg honline]
    exact settleOn_counter s i x
  · rw [if_neg (by simp [hoff])]
    exact settleOn_counter s i x

/-- What the loop of a switched off engine finds: the service is already
offline, and no blocked provider is in use. -/
structure Sweeping (s : System) : Prop where
  sound : Sound s
  off : s.engineState = .off
  offline : ¬ s.Online
  blocked : ∀ i ∈ s.order, s.satelliteBlocked i = true →
    ∀ x, s.counter i x ≤ 0

/-- A plain disable leaves a state of the same kind. -/
theorem Sweeping.plain {s : System} (h : Sweeping s) {i : ProviderId}
    (hplain : (s.provider i).state = .enabled ∨ s.liveStreams i = []) :
    Sweeping (s.settleDisable i) := by
  have hswept := swept_settleDisable s i
  refine
    { sound := hswept.sound h.sound
      off := ?_
      offline := ?_
      blocked := fun j hj hb x => ?_ }
  · rw [settleDisable_plain hplain]
    exact h.off
  · rw [settleDisable_plain hplain]
    exact h.offline
  · rw [hswept.order] at hj
    rw [hswept.blocked] at hb
    rcases hswept.counter j x with ⟨-, hc⟩ | ⟨hf, -⟩ | ⟨-, hc⟩
    · rw [hc]
      exact h.blocked j hj hb x
    · rw [hb] at hf
      cases hf
    · omega

/-- The first provider that is active and used: one of its streams is
stopped, and afterwards nothing is counted as used. -/
theorem Sweeping.trigger {s : System} (h : Sweeping s) {i : ProviderId}
    (hi : i ∈ s.order) (hstate : (s.provider i).state = .active)
    {x : Stream} {xs : List Stream} (hlive : s.liveStreams i = x :: xs) :
    ((s.settleDisable i).provider i).impl =
        (s.provider i).impl.stopUpdates x ∧
      ∀ j ∈ s.order, ∀ y, (s.settleDisable i).counter j y ≤ 0 := by
  let u := s.setProviderState i .enabled
  have hsettle : s.settleProviderState i .enabled = u.recompute := by
    unfold settleProviderState
    rw [if_neg (by simp [hstate])]
  have hcount : ∀ j ∈ s.order, ∀ y,
      (s.settleProviderState i .enabled).counter j y ≤ 0 := by
    intro j hj y
    rw [hsettle, recompute_counter_of_offline (s := u) h.off h.offline]
    split
    · exact Int.le_refl 0
    · rename_i hcase
      have hb : s.satelliteBlocked j = true := by
        rw [setProviderState_blocked] at hcase
        cases hval : s.satelliteBlocked j with
        | true => rfl
        | false => exact absurd ⟨hj, hval⟩ hcase
      rw [setProviderState_counter]
      exact h.blocked j hj hb y
  have hnone : xs.filter (fun y => decide
      (0 < (s.settleProviderState i .enabled).counter i y)) = [] := by
    refine List.filter_eq_nil_iff.mpr fun y _ => ?_
    have := hcount i hi y
    simpa using this
  rw [settleDisable_cons hlive, hnone]
  refine ⟨by simp [markProviderDisabled], fun j hj y => ?_⟩
  rw [markProviderDisabled_counter, setImpl_counter]
  split
  · omega
  · exact hcount j hj y

/-! ## The loop -/

/-- The providers of a list, taken in this order, stop completely: every
implementation is counted once for each stream it runs, and a provider that is
active and used has a single live stream and nothing in use behind it. -/
structure StopsCleanly (is : List ProviderId) (s : System) : Prop where
  accounted : ∀ i ∈ is, ∀ x,
    s.implCounter i x = if 0 < s.counter i x then 1 else 0
  single : ∀ i ∈ is, (s.provider i).state = .active →
    ∀ x y, 0 < s.counter i x → 0 < s.counter i y → y = x
  last : is.Pairwise fun i j => (s.provider i).state = .active →
    ∀ x, 0 < s.counter i x → ∀ y, s.counter j y ≤ 0

instance (is : List ProviderId) (s : System) : Decidable (StopsCleanly is s) :=
  decidable_of_iff
    ((∀ i ∈ is, ∀ x, s.implCounter i x = if 0 < s.counter i x then 1 else 0) ∧
      (∀ i ∈ is, (s.provider i).state = .active →
        ∀ x y, 0 < s.counter i x → 0 < s.counter i y → y = x) ∧
      is.Pairwise fun i j => (s.provider i).state = .active →
        ∀ x, 0 < s.counter i x → ∀ y, s.counter j y ≤ 0)
    ⟨fun ⟨ha, hs, hl⟩ => ⟨ha, hs, hl⟩, fun h => ⟨h.accounted, h.single, h.last⟩⟩

/-- The condition only reads the providers of the list. -/
theorem StopsCleanly.congr {is : List ProviderId} {s t : System}
    (hcount : ∀ i ∈ is, ∀ x, t.counter i x = s.counter i x)
    (himpl : ∀ i ∈ is, (t.provider i).impl = (s.provider i).impl)
    (hstate : ∀ i ∈ is, (t.provider i).state = (s.provider i).state)
    (h : StopsCleanly is s) : StopsCleanly is t := by
  refine
    { accounted := fun i hi x => ?_
      single := fun i hi hact x y hx hy => ?_
      last := ?_ }
  · unfold implCounter
    rw [himpl i hi, hcount i hi x]
    exact h.accounted i hi x
  · rw [hcount i hi] at hx hy
    rw [hstate i hi] at hact
    exact h.single i hi hact x y hx hy
  · refine h.last.imp_of_mem fun hi hj hij hact x hx y => ?_
    rw [hcount _ hi] at hx
    rw [hstate _ hi] at hact
    rw [hcount _ hj]
    exact hij hact x hx y

/-- A provider in front that is not both active and used adds only its own
reference counts to the condition. -/
private theorem stopsCleanly_cons_plain {i : ProviderId}
    {is : List ProviderId} {s : System}
    (h : ∀ x, (s.provider i).state = .active → s.counter i x ≤ 0) :
    StopsCleanly (i :: is) s ↔
      (∀ x, s.implCounter i x = if 0 < s.counter i x then 1 else 0) ∧
        StopsCleanly is s := by
  constructor
  · intro hc
    refine ⟨fun x => hc.accounted i (List.mem_cons_self ..) x, ?_⟩
    exact
      { accounted := fun j hj => hc.accounted j (List.mem_cons_of_mem _ hj)
        single := fun j hj => hc.single j (List.mem_cons_of_mem _ hj)
        last := (List.pairwise_cons.mp hc.last).2 }
  · rintro ⟨hi, hc⟩
    refine
      { accounted := fun j hj x => ?_
        single := fun j hj hact x y hx hy => ?_
        last := List.pairwise_cons.mpr ⟨fun j _ hact x hx => ?_, hc.last⟩ }
    · rcases List.mem_cons.mp hj with rfl | hj
      · exact hi x
      · exact hc.accounted j hj x
    · rcases List.mem_cons.mp hj with rfl | hj
      · have := h x hact
        omega
      · exact hc.single j hj hact x y hx hy
    · have := h x hact
      omega

/-- A provider in front that is active and used must be the only one in use,
with a single stream. -/
private theorem stopsCleanly_cons_trigger {i : ProviderId}
    {is : List ProviderId} {s : System} (hs : Sound s)
    (hact : (s.provider i).state = .active) {x : Stream}
    (hx : 0 < s.counter i x) :
    StopsCleanly (i :: is) s ↔
      (∀ y, s.implCounter i y = if y = x then 1 else 0) ∧
        ∀ j ∈ is, ∀ y, s.implCounter j y = 0 := by
  constructor
  · intro hc
    refine ⟨fun y => ?_, fun j hj y => ?_⟩
    · have hacc := hc.accounted i (List.mem_cons_self ..) y
      by_cases hy : 0 < s.counter i y
      · have hyx : y = x :=
          hc.single i (List.mem_cons_self ..) hact x y hx hy
        rw [if_pos hy] at hacc
        rw [if_pos hyx]
        exact hacc
      · have hyx : y ≠ x := fun e => hy (e ▸ hx)
        rw [if_neg hy] at hacc
        rw [if_neg hyx]
        exact hacc
    · have hle := (List.pairwise_cons.mp hc.last).1 j hj hact x hx y
      have hacc := hc.accounted j (List.mem_cons_of_mem _ hj) y
      rw [if_neg (by omega)] at hacc
      exact hacc
  · rintro ⟨hi, hrest⟩
    -- Whatever is in use is covered by its implementation.
    have hself : ∀ y, 0 < s.counter i y → y = x := by
      intro y hy
      have hcov := hs.covered i y hy
      by_cases hyx : y = x
      · exact hyx
      · rw [hi y, if_neg hyx] at hcov
        omega
    have hquiet : ∀ j ∈ is, ∀ y, s.counter j y ≤ 0 := by
      intro j hj y
      by_cases hy : 0 < s.counter j y
      · have hcov := hs.covered j y hy
        rw [hrest j hj y] at hcov
        omega
      · omega
    refine
      { accounted := fun j hj y => ?_
        single := fun j hj _ y z hy hz => ?_
        last := List.pairwise_cons.mpr
          ⟨fun j hj _ _ _ => hquiet j hj, ?_⟩ }
    · rcases List.mem_cons.mp hj with rfl | hj
      · rw [hi y]
        by_cases hyx : y = x
        · rw [if_pos hyx, if_pos (hyx ▸ hx)]
        · rw [if_neg hyx, if_neg fun hy => hyx (hself y hy)]
      · have := hquiet j hj y
        rw [hrest j hj y, if_neg (by omega)]
    · rcases List.mem_cons.mp hj with rfl | hj
      · rw [hself y hy, hself z hz]
      · have := hquiet j hj y
        omega
    · refine List.pairwise_of_forall_mem_list fun j hj k _ _ y hy => ?_
      have := hquiet j hj y
      omega

private theorem foldl_settleDisable_impl_ne (is : List ProviderId)
    (s : System) {i : ProviderId} (hi : i ∉ is) :
    ((is.foldl settleDisable s).provider i).impl = (s.provider i).impl :=
  (swept_foldl is s).impl_ne i hi

/-- Once nothing is counted as used, the loop stops nothing. -/
private theorem foldl_settleDisable_quiet_impl (is : List ProviderId)
    (s : System) (h : ∀ i ∈ is, ∀ x, s.counter i x ≤ 0) (i : ProviderId) :
    ((is.foldl settleDisable s).provider i).impl = (s.provider i).impl := by
  have hquiet : ∀ j ∈ is, s.liveStreams j = [] := by
    intro j hj
    refine List.filter_eq_nil_iff.mpr fun x _ => ?_
    have := h j hj x
    simpa using this
  rw [foldl_settleDisable_quiet is s hquiet]
  show (if _ then _ else _ : StateTrackingProvider).impl = _
  split <;> rfl

/-! ## Disabling the provider in front -/

/-- The condition reads nothing but the providers of the list. -/
private theorem stopsCleanly_congr {is : List ProviderId} {s t : System}
    (h : ∀ j ∈ is, t.provider j = s.provider j) :
    StopsCleanly is t ↔ StopsCleanly is s := by
  have hcongr : ∀ {s t : System}, (∀ j ∈ is, t.provider j = s.provider j) →
      StopsCleanly is s → StopsCleanly is t := by
    intro s t h
    refine StopsCleanly.congr (fun j hj x => ?_) (fun j hj => ?_)
      fun j hj => ?_
    · rw [counter, counter, h j hj]
    · rw [h j hj]
    · rw [h j hj]
  exact ⟨hcongr fun j hj => (h j hj).symm, hcongr h⟩

section Plain

variable {s : System} {i : ProviderId}
  (hplain : (s.provider i).state = .enabled ∨ s.liveStreams i = [])
include hplain

private theorem settleDisable_plain_provider_ne {j : ProviderId} (hj : j ≠ i) :
    (s.settleDisable i).provider j = s.provider j := by
  rw [settleDisable_plain hplain]
  simp [markProviderDisabled, setImpl, hj]

/-- An implementation that is stopped once for each stream in use is left
without references if it had exactly these. -/
private theorem settleDisable_plain_released_iff (x : Stream) :
    (s.settleDisable i).implCounter i x = 0 ↔
      s.implCounter i x = if 0 < s.counter i x then 1 else 0 := by
  have himpl : (s.settleDisable i).implCounter i x =
      ((s.provider i).impl.stopAll (s.liveStreams i)
        ).controller.counter x := by
    unfold implCounter
    rw [settleDisable_plain hplain]
    simp [markProviderDisabled, setImpl]
  rw [himpl, stopAll_live_eq_zero_iff]

private theorem counter_nonpos_of_plain (x : Stream)
    (hact : (s.provider i).state = .active) : s.counter i x ≤ 0 := by
  rcases hplain with he | hnil
  · rw [he] at hact
    cases hact
  · have hidle := List.filter_eq_nil_iff.mp hnil x (Stream.mem_all x)
    simpa using hidle

end Plain

/-- One stop leaves an implementation without references if it had that one
alone. -/
private theorem settleDisable_trigger_released_iff {s : System}
    {i : ProviderId} {x : Stream}
    (himpl : ((s.settleDisable i).provider i).impl =
      (s.provider i).impl.stopUpdates x) (y : Stream) :
    (s.settleDisable i).implCounter i y = 0 ↔
      s.implCounter i y = if y = x then 1 else 0 := by
  unfold implCounter
  rw [himpl]
  by_cases hy : y = x
  · subst hy
    rw [Implementation.stopUpdates_counter_self, if_pos rfl]
    exact lowered_eq_zero_iff _
  · rw [Implementation.stopUpdates_counter_ne _ hy, if_neg hy]

/-- The loop over the providers leaves no reference on an implementation
exactly when it stops cleanly. -/
theorem foldl_settleDisable_released_iff (is : List ProviderId)
    (hnd : is.Nodup) {s : System} (h : Sweeping s) (hsub : ∀ i ∈ is, i ∈ s.order) :
    (∀ i ∈ is, ∀ x, (is.foldl settleDisable s).implCounter i x = 0) ↔
      StopsCleanly is s := by
  induction is generalizing s with
  | nil =>
      refine ⟨fun _ => ?_, fun _ i hi => nomatch hi⟩
      exact
        { accounted := fun i hi => nomatch hi
          single := fun i hi => nomatch hi
          last := List.Pairwise.nil }
  | cons i is ih =>
      obtain ⟨hfresh, hnd'⟩ := List.nodup_cons.mp hnd
      have hi := hsub i (List.mem_cons_self ..)
      have hsub' : ∀ j ∈ is, j ∈ s.order :=
        fun j hj => hsub j (List.mem_cons_of_mem _ hj)
      have hswept := swept_settleDisable s i
      have hne : ∀ j ∈ is, j ≠ i := fun j hj e => hfresh (e ▸ hj)
      rw [List.foldl_cons]
      have hhead : ∀ x, (is.foldl settleDisable (s.settleDisable i)).implCounter
          i x = (s.settleDisable i).implCounter i x := by
        intro x
        unfold implCounter
        rw [foldl_settleDisable_impl_ne is _ hfresh]
      by_cases hplain : (s.provider i).state = .enabled ∨ s.liveStreams i = []
      · -- the other providers are as before
        have hrest : StopsCleanly is (s.settleDisable i) ↔ StopsCleanly is s :=
          stopsCleanly_congr fun j hj =>
            settleDisable_plain_provider_ne hplain (hne j hj)
        have hih := ih hnd' (h.plain hplain)
          fun j hj => hswept.order ▸ hsub' j hj
        rw [stopsCleanly_cons_plain (counter_nonpos_of_plain hplain), ← hrest,
          ← hih, List.forall_mem_cons]
        refine and_congr ?_ Iff.rfl
        exact forall_congr' fun x => by
          rw [hhead x, settleDisable_plain_released_iff hplain]
      · have hact : (s.provider i).state = .active := by
          cases hst : (s.provider i).state with
          | active => rfl
          | enabled => exact absurd (.inl hst) hplain
        cases hlive : s.liveStreams i with
        | nil => exact absurd (.inr hlive) hplain
        | cons x xs =>
            have hx : 0 < s.counter i x := by
              apply mem_liveStreams.mp
              rw [hlive]
              exact List.mem_cons_self ..
            -- the nested loop has disabled all others already
            obtain ⟨himpl, hquiet⟩ := h.trigger hi hact hlive
            rw [stopsCleanly_cons_trigger h.sound hact hx, List.forall_mem_cons]
            refine and_congr (forall_congr' fun y => ?_)
              (forall_congr' fun j => forall_congr' fun hj =>
                forall_congr' fun y => ?_)
            · rw [hhead y, settleDisable_trigger_released_iff himpl]
            · unfold implCounter
              rw [foldl_settleDisable_quiet_impl is _
                fun k hk z => hquiet k (hsub' k hk) z,
                hswept.impl_ne j (hne j hj)]

/-! ## The assignment -/

/-- The engine is off, every controller refuses starts, and every
implementation that was started for a stream has been stopped for it. -/
structure EverythingOff (s : System) : Prop where
  off : s.engineState = .off
  disabled : ∀ i ∈ s.order, (s.provider i).controller.Disabled
  stopped : ∀ i ∈ s.order, ∀ x, ¬ s.Running i x

/-- The states from which going offline stops everything. -/
def OfflineIsClean (s : System) : Prop := StopsCleanly s.order s

private theorem stopsCleanly_of_disabled {s : System}
    (h : ∀ i ∈ s.order, ∀ x, s.counter i x = -1) :
    StopsCleanly s.order s ↔ ∀ i ∈ s.order, ∀ x, s.implCounter i x = 0 := by
  constructor
  · intro hc i hi x
    have := hc.accounted i hi x
    rwa [h i hi x, if_neg (by omega)] at this
  · intro hz
    refine
      { accounted := fun i hi x => ?_
        single := fun i hi _ x y hx _ => ?_
        last := List.pairwise_of_forall_mem_list fun i hi j _ _ x hx => ?_ }
    · rw [h i hi x, hz i hi x, if_neg (by omega)]
    · have := h i hi x
      omega
    · have := h i hi x
      omega

/-- An engine that is off has everything off exactly when no implementation
was left running. -/
private theorem everythingOff_iff_of_off {s : System} (h : Inv s)
    (hoff : s.engineState = .off) :
    EverythingOff s ↔ ∀ i ∈ s.order, ∀ x, s.implCounter i x = 0 := by
  constructor
  · intro he i hi x
    exact (h.sound.not_running_iff i x).mp (he.stopped i hi x)
  · intro hz
    exact
      { off := hoff
        disabled := fun i hi x => by
          have : (s.provider i).controller.counter x = -1 :=
            h.switches.off_disabled hoff i hi x
          omega
        stopped := fun i hi x =>
          (h.sound.not_running_iff i x).mpr (hz i hi x) }

/-- Going offline from a state with the engine off changes no provider. -/
private theorem everythingOff_iff_of_found_off {s t : System} (hs : Inv s)
    (ht : Inv t) (hes : s.engineState = .off) (het : t.engineState = .off)
    (horder : t.order = s.order) (hprov : t.provider = s.provider) :
    EverythingOff t ↔ OfflineIsClean s := by
  rw [everythingOff_iff_of_off ht het, OfflineIsClean,
    stopsCleanly_of_disabled (hs.switches.off_disabled hes), horder]
  unfold implCounter
  rw [hprov]

private theorem settleOff_impl (s : System) (i : ProviderId) :
    (s.settleOff.provider i).impl =
      ((s.order.foldl settleDisable { s with engineState := .off }).provider
        i).impl := by
  have hmark : ∀ (t : System) (is : List ProviderId),
      ((t.markAll is).provider i).impl = (t.provider i).impl := by
    intro t is
    show (if _ then _ else _ : StateTrackingProvider).impl = _
    split <;> rfl
  unfold settleOff
  dsimp only
  split
  · rfl
  · split
    · exact hmark s.afterOffLoop _
    · rfl

/-- `is_online() = false` returns, and everything is off then exactly when the
state before it stops cleanly. -/
theorem offline_stops_all_iff {s : System} (h : Reachable s)
    (hsvc : s.service.isSome) :
    ∃ t, network.Returns (.isOnline false) s t ∧
      (EverythingOff t ↔ OfflineIsClean s) := by
  have hs := inv_of_reachable h
  refine ⟨s.settle (.isOnline false), returns_iff.mpr rfl, ?_⟩
  have ht : Inv (s.settle (.isOnline false)) := inv_settle_isOnline hs false
  obtain ⟨svc, hsome⟩ := Option.isSome_iff_exists.mp hsvc
  by_cases hon : svc.isOnline = true
  · let u : System := store (.isOnline false) s
    have hsettle : s.settle (.isOnline false) = u.settleEngineState .off := by
      unfold settle
      rw [if_neg (by simp [holds, hsome, hon])]
      rfl
    rw [hsettle] at ht ⊢
    by_cases hoff : s.engineState = .off
    · have hsame : u.settleEngineState .off = u := if_pos hoff
      rw [hsame] at ht ⊢
      exact everythingOff_iff_of_found_off hs ht hoff hoff rfl rfl
    · have hrun : u.settleEngineState .off = u.settleOff := if_neg hoff
      have husvc : u.service.isSome := by simp [u, store, hsome]
      rw [hrun] at ht ⊢
      have hsweep : Sweeping { u with engineState := .off } :=
        { sound := { hs.sound with }
          off := rfl
          offline := by simp [Online, u, store, hsome]
          blocked := fun i hi hb x => by
            have hc : s.counter i x = -1 :=
              hs.switches.blocked_disabled i hi hb x
            show s.counter i x ≤ 0
            omega }
      have hloop := foldl_settleDisable_released_iff s.order hs.sound.nodup
        hsweep fun i hi => hi
      rw [everythingOff_iff_of_off ht (settleOff_engineState husvc),
        u.swept_settleOff.order]
      have himpl : ∀ i x, u.settleOff.implCounter i x =
          (s.order.foldl settleDisable { u with engineState := .off }
            ).implCounter i x := by
        intro i x
        unfold implCounter
        rw [settleOff_impl]
        rfl
      simp only [himpl]
      exact hloop.trans
        ⟨StopsCleanly.congr (fun _ _ _ => rfl) (fun _ _ => rfl) fun _ _ => rfl,
          StopsCleanly.congr (fun _ _ _ => rfl) (fun _ _ => rfl) fun _ _ => rfl⟩
  · have hf : svc.isOnline = false := by simpa using hon
    have hsame : s.settle (.isOnline false) = s := by
      unfold settle
      rw [if_pos (by simp [holds, hsome, hf])]
    rw [hsame]
    have hoff := hs.switches.offline_off svc hsome hf
    exact everythingOff_iff_of_found_off hs hs hoff hoff rfl rfl

/-- Of two streams of the only provider, going offline stops the first; its
stop hook has the engine zero the counter of the second. -/
theorem offline_leaves_heading_running :
    ¬ ∀ s, Reachable s → s.service.isSome →
      ∀ t, network.Returns (.isOnline false) s t → EverythingOff t := by
  intro hclaim
  have hrun : (settleRun [.addProvider 0 false, .constructService,
      .start 0 .position, .start 0 .heading] (initEngine .on)).any (fun s =>
        decide (s.service.isSome ∧
          0 ∈ (s.settle (.isOnline false)).order ∧
          (s.settle (.isOnline false)).Running 0 .heading)) = true := by
    decide
  obtain ⟨s, -, hs, hsvc, hmem, hrunning⟩ := exists_of_settleRun hrun
  have hoff := hclaim s hs hsvc _ (returns_iff.mpr rfl)
  exact hoff.stopped 0 hmem .heading hrunning

/-- One provider with one stream in use goes offline completely. -/
theorem offline_stops_single_stream :
    ∃ s t, settleRun [.addProvider 0 false, .constructService,
        .start 0 .position] (initEngine .on) = some s ∧
      network.Returns (.isOnline false) s t ∧
      s.Running 0 .position ∧ EverythingOff t := by
  let run : List Action :=
    [.addProvider 0 false, .constructService, .start 0 .position]
  have hrun : (settleRun run (initEngine .on)).any (fun s =>
      decide (s.service.isSome ∧ s.Running 0 .position ∧
        StopsCleanly s.order s)) = true := by
    decide
  obtain ⟨s, hs, hreach, hsvc, hposition, hclean⟩ := exists_of_settleRun hrun
  obtain ⟨t, ht, hiff⟩ := offline_stops_all_iff hreach hsvc
  exact ⟨s, t, hs, ht, hposition, hiff.mpr hclean⟩

end LocationService.System
