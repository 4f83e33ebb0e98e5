import LocationService.Engine.Gate
import LocationService.Engine.Quiescent

/-!
# Which providers are disabled

A disabled provider is one whose counters are negative, as they also become by
wrapping around.  The engine disables providers as its two switches ask for it,
but does not enable all of them again: switching satellites on enables providers
only while the status is on, not while it is active, and an engine without a
service that is switched off over an active provider is switched on again by the
stop hook of the first provider in the loop.
-/

namespace LocationService.System

open LocationService.Library

/-- The known providers that refuse starts are those that a switch keeps
off. -/
def DisabledBySwitches (s : System) : Prop :=
  ∀ i ∈ s.order, ∀ x, s.counter i x < 0 ↔
    s.engineState = .off ∨ s.satelliteBlocked i = true

instance (s : System) : Decidable s.DisabledBySwitches :=
  inferInstanceAs (Decidable (∀ i ∈ s.order, ∀ _, _))

/-- Every known provider that no switch keeps off accepts starts. -/
def Available (s : System) : Prop :=
  s.engineState ≠ .off → ∀ i ∈ s.order, s.satelliteBlocked i = false →
    ∀ x, 0 ≤ s.counter i x

/-- What the switches keep off is disabled in any case. -/
theorem disabledBySwitches_iff {s : System} (h : Switches s) :
    s.DisabledBySwitches ↔ s.Available := by
  constructor
  · intro hdis hne i hi hfree x
    by_contra hneg
    rcases (hdis i hi x).mp (Int.not_le.mp hneg) with hoff | hb
    · exact hne hoff
    · rw [hfree] at hb
      cases hb
  · intro hav i hi x
    constructor
    · intro hneg
      by_contra hnot
      have hne : s.engineState ≠ .off := fun hoff => hnot (.inl hoff)
      have hfree : s.satelliteBlocked i = false :=
        Bool.eq_false_iff.mpr fun hb => hnot (.inr hb)
      have := hav hne i hi hfree x
      omega
    · rintro (hoff | hb)
      · rw [h.off_disabled hoff i hi x]
        omega
      · rw [h.blocked_disabled i hi hb x]
        omega

theorem available_of_off {s : System} (h : s.engineState = .off) :
    s.Available := fun hne => absurd h hne

/-- Only providers and the two switches matter. -/
theorem Available.of_eq {s t : System} (h : s.Available)
    (hes : t.engineState = s.engineState) (horder : t.order = s.order)
    (hprov : t.provider = s.provider)
    (hsat : t.satelliteBasedPositioningState =
      s.satelliteBasedPositioningState) : t.Available := by
  intro hne i hi hfree x
  unfold satelliteBlocked at hfree
  unfold counter
  rw [hprov, hsat] at hfree
  rw [hprov]
  rw [hes] at hne
  rw [horder] at hi
  exact h hne i hi hfree x

/-! ## Recomputations -/

theorem available_settleOn (s : System) : s.settleOn.Available := by
  intro _ i hi hfree x
  have hfree' : s.satelliteBlocked i = false := by
    rw [← (reset_settleOn s).blocked i]
    exact hfree
  have hcount := settleOn_counter s i x
  rw [if_pos ⟨hi, hfree'⟩] at hcount
  exact Int.le_of_eq hcount.symm

/-- Setting the status to active enables nothing, unless going online sets it
to on. -/
theorem available_settleActive_iff (s : System) :
    s.settleActive.Available ↔ s.Online →
      ∀ i ∈ s.order, s.satelliteBlocked i = false → ∀ x, 0 ≤ s.counter i x := by
  unfold settleActive
  by_cases hon : s.Online
  · rw [if_pos hon]
    constructor
    · intro h _
      exact h (by simp)
    · intro h _
      exact h hon
  · rw [if_neg hon]
    refine iff_of_true ?_ (fun h => absurd h hon)
    exact (available_settleOn s).of_eq rfl rfl rfl rfl

theorem Available.recompute {s : System} (h : s.Available)
    (hne : s.engineState ≠ .off) : s.recompute.Available := by
  unfold System.recompute
  split
  · split
    · exact h
    · exact (available_settleActive_iff s).mpr fun _ => h hne
  · split
    · exact h
    · exact available_settleOn s

theorem Available.setProviderState {s : System} (h : s.Available)
    (i : ProviderId) (v : ProviderState) :
    (s.setProviderState i v).Available := by
  intro hne j hj hfree x
  rw [setProviderState_blocked] at hfree
  rw [setProviderState_counter]
  exact h hne j hj hfree x

theorem Available.settleProviderState {s : System} (h : s.Available)
    (hne : s.engineState ≠ .off) (i : ProviderId) (v : ProviderState) :
    (s.settleProviderState i v).Available := by
  unfold System.settleProviderState
  split
  · exact h
  · exact Available.recompute (s := s.setProviderState i v)
      (h.setProviderState i v) hne

private theorem setImpl_blocked (s : System) (i j : ProviderId)
    (p : Implementation) :
    (s.setImpl i p).satelliteBlocked j = s.satelliteBlocked j := by
  unfold satelliteBlocked setImpl
  by_cases hji : j = i
  · subst hji
    simp
  · simp [hji]

private theorem setController_blocked (s : System) (i j : ProviderId)
    (c : Controller) :
    (s.setController i c).satelliteBlocked j = s.satelliteBlocked j := by
  unfold satelliteBlocked setController
  by_cases hji : j = i
  · subst hji
    simp
  · simp [hji]

theorem Available.setImpl {s : System} (h : s.Available) (i : ProviderId)
    (p : Implementation) : (s.setImpl i p).Available := by
  intro hne j hj hfree x
  rw [setImpl_blocked] at hfree
  rw [setImpl_counter]
  exact h hne j hj hfree x

/-- Counters that stay at zero or above do not disable a provider. -/
theorem Available.setController {s : System} (h : s.Available)
    (i : ProviderId) {c : Controller} (hc : ∀ x, 0 ≤ c.counter x) :
    (s.setController i c).Available := by
  intro hne j hj hfree x
  rw [setController_blocked] at hfree
  rw [setController_counter]
  split
  · exact hc x
  · exact h hne j hj hfree x

/-! ## The loop that disables -/

/-- A provider that is disabled while the engine is off switches it on again
when it is active and in use. -/
private theorem settleDisable_off_iff {s : System} (hoff : s.engineState = .off)
    (i : ProviderId) :
    ((s.settleDisable i).engineState = .off ↔
      ((s.provider i).state = .active → ∀ x, s.counter i x ≤ 0)) ∧
    ((s.settleDisable i).engineState = .off → ∀ j, j ≠ i →
      ((s.settleDisable i).provider j).state = (s.provider j).state) := by
  cases hlive : s.liveStreams i with
  | nil =>
      have hquiet : ∀ x, s.counter i x ≤ 0 := by
        intro x
        by_contra hpos
        have hmem := mem_liveStreams.mpr (Int.not_le.mp hpos)
        rw [hlive] at hmem
        cases hmem
      rw [settleDisable_nil hlive]
      refine ⟨iff_of_true hoff fun _ => hquiet, fun _ j hj => ?_⟩
      simp [markProviderDisabled, hj]
  | cons x xs =>
      have hpos : 0 < s.counter i x := by
        apply mem_liveStreams.mp
        rw [hlive]
        exact List.mem_cons_self ..
      rw [settleDisable_cons hlive]
      by_cases hact : (s.provider i).state = .active
      · have hrun : s.settleProviderState i .enabled =
            (s.setProviderState i .enabled).recompute := by
          unfold settleProviderState
          rw [if_neg (by simp [hact])]
        have hne := recompute_engineState (s.setProviderState i .enabled)
        rw [← hrun] at hne
        refine ⟨iff_of_false hne ?_, fun h => absurd h hne⟩
        intro hquiet
        have := hquiet hact x
        omega
      · have hsame : s.settleProviderState i .enabled = s := by
          apply settleProviderState_of_eq
          cases hst : (s.provider i).state with
          | active => exact absurd hst hact
          | enabled => rfl
        rw [hsame]
        refine ⟨iff_of_true hoff fun h => absurd h hact, fun _ j hj => ?_⟩
        simp [markProviderDisabled, setImpl, hj]

/-- The loop leaves the engine off when no provider in it is active and in
use. -/
private theorem disableWhere_off_iff {p : ProviderId → Bool}
    {is : List ProviderId} (hnodup : is.Nodup) {s : System}
    (hoff : s.engineState = .off) :
    (disableWhere p is s).engineState = .off ↔
      ∀ i ∈ is, p i = true → (s.provider i).state = .active →
        ∀ x, s.counter i x ≤ 0 := by
  induction is generalizing s with
  | nil => exact iff_of_true hoff (by simp)
  | cons i is ih =>
      obtain ⟨hfresh, hrest⟩ := List.nodup_cons.mp hnodup
      rw [disableWhere_cons]
      by_cases hp : p i = true
      · rw [if_pos hp]
        obtain ⟨hiff, hstate⟩ := settleDisable_off_iff hoff i
        have hcount : (s.settleDisable i).engineState = .off →
            ∀ j ∈ is, ∀ x,
              (s.settleDisable i).counter j x = s.counter j x := by
          intro ht j hj x
          have hne : j ≠ i := fun e => hfresh (e ▸ hj)
          rw [(settleDisable_off ht).2 j x, if_neg hne]
        constructor
        · intro h
          have ht := (disableWhere_off is h).1
          have hall := (ih hrest ht).mp h
          intro j hj hpj hact
          rcases List.mem_cons.mp hj with rfl | hj
          · exact hiff.mp ht hact
          · have hne : j ≠ i := fun e => hfresh (e ▸ hj)
            intro x
            rw [← hcount ht j hj x]
            exact hall j hj hpj ((hstate ht j hne).trans hact) x
        · intro h
          have ht := hiff.mpr (h i (List.mem_cons_self ..) hp)
          refine (ih hrest ht).mpr fun j hj hpj hact x => ?_
          have hne : j ≠ i := fun e => hfresh (e ▸ hj)
          rw [hcount ht j hj x]
          exact h j (List.mem_cons_of_mem _ hj) hpj
            ((hstate ht j hne).symm.trans hact) x
      · rw [if_neg hp, ih hrest hoff]
        simp [hp]

/-- In the middle of the loop over an engine that was off, the engine is off or
a provider that no switch blocks is disabled. -/
private def LeftBehind (s : System) : Prop :=
  s.engineState = .off ∨ ∃ j ∈ s.order, s.satelliteBlocked j = false ∧
    ∀ x, s.counter j x = -1

private theorem LeftBehind.settleDisable {s : System} (h : s.LeftBehind)
    (hb : ∀ i ∈ s.order, s.satelliteBlocked i = true → ∀ x, s.counter i x = -1)
    {i : ProviderId} (hi : i ∈ s.order) : (s.settleDisable i).LeftBehind := by
  have hswept := swept_settleDisable s i
  cases hlive : s.liveStreams i with
  | nil =>
      rw [settleDisable_nil hlive] at hswept ⊢
      rcases h with hoff | ⟨j, hj, hfree, hcount⟩
      · exact .inl hoff
      · refine .inr ⟨j, hj, (hswept.blocked j).trans hfree, fun x => ?_⟩
        rw [markProviderDisabled_counter, hcount x]
        split <;> rfl
  | cons x xs =>
      have hpos : 0 < s.counter i x := by
        apply mem_liveStreams.mp
        rw [hlive]
        exact List.mem_cons_self ..
      have hfree : s.satelliteBlocked i = false := by
        by_contra hblocked
        have := hb i hi (Bool.of_not_eq_false hblocked) x
        omega
      refine .inr ⟨i, ?_, (hswept.blocked i).trans hfree, fun y => ?_⟩
      · rw [hswept.order]
        exact hi
      · rw [settleDisable_cons hlive, markProviderDisabled_counter, if_pos rfl]

private theorem LeftBehind.disableAll {is : List ProviderId} {s : System}
    (hsub : ∀ i ∈ is, i ∈ s.order) (h : s.LeftBehind)
    (hb : ∀ i ∈ s.order, s.satelliteBlocked i = true →
      ∀ x, s.counter i x = -1) :
    (is.foldl System.settleDisable s).LeftBehind := by
  induction is generalizing s with
  | nil => exact h
  | cons i is ih =>
      have hi := hsub i (List.mem_cons_self ..)
      have hswept := swept_settleDisable s i
      refine ih ?_ (h.settleDisable hb hi) ?_
      · intro j hj
        rw [hswept.order]
        exact hsub j (List.mem_cons_of_mem _ hj)
      · intro j hj hblocked x
        rw [hswept.order] at hj
        rw [hswept.blocked] at hblocked
        rcases hswept.counter j x with ⟨-, hc⟩ | ⟨hfree, -⟩ | ⟨-, hc⟩
        · rw [hc]
          exact hb j hj hblocked x
        · rw [hblocked] at hfree
          cases hfree
        · exact hc

/-- Switching the engine off disables all providers, unless no service is
there to switch it off again after a stop hook has switched it on. -/
private theorem available_settleOff_iff {s : System} (h : Inv s) :
    s.settleOff.Available ↔ s.service.isSome ∨
      ∀ i ∈ s.order, (s.provider i).state = .active →
        ∀ x, s.counter i x ≤ 0 := by
  cases hsvc : s.service with
  | some svc =>
      have hsome : s.service.isSome := by
        rw [hsvc]
        rfl
      exact iff_of_true (available_of_off (settleOff_engineState hsome))
        (.inl rfl)
  | none =>
      let u : System := { s with engineState := .off }
      have hloop : s.afterOffLoop.engineState = .off ↔
          ∀ i ∈ s.order, (s.provider i).state = .active →
            ∀ x, s.counter i x ≤ 0 := by
        rw [afterOffLoop_eq]
        apply (disableWhere_off_iff (s := u) h.sound.nodup rfl).trans
        simp only [forall_const]
        rfl
      have hleft : s.afterOffLoop.LeftBehind :=
        LeftBehind.disableAll (s := u) (fun _ hi => hi) (.inl rfl)
          h.switches.blocked_disabled
      rw [settleOff_of_none hsvc, ← hloop]
      constructor
      · intro hav
        refine .inr ?_
        rcases hleft with hoff | ⟨j, hj, hfree, hcount⟩
        · exact hoff
        · by_contra hne
          have := hav hne j hj hfree .position
          rw [hcount] at this
          omega
      · rintro (hnone | hoff)
        · cases hnone
        · exact available_of_off hoff

/-! ## Status assignments -/

theorem available_settleEngineState_on {s : System} (h : s.Available) :
    (s.settleEngineState .on).Available := by
  unfold settleEngineState
  split
  · exact h
  · exact available_settleOn s

theorem available_settleEngineState_active_iff {s : System}
    (hs : Switches s) (h : s.Available) :
    (s.settleEngineState .active).Available ↔
      s.engineState ≠ .off ∨ ¬ s.Online ∨
        ∀ i ∈ s.order, s.satelliteBlocked i = true := by
  unfold settleEngineState
  by_cases hact : s.engineState = .active
  · rw [if_pos hact]
    exact iff_of_true h (.inl (by simp [hact]))
  · rw [if_neg hact]
    show s.settleActive.Available ↔ _
    rw [available_settleActive_iff]
    by_cases hoff : s.engineState = .off
    · constructor
      · intro hall
        by_cases hon : s.Online
        · refine .inr (.inr fun i hi => ?_)
          by_contra hfree
          have hpos := hall hon i hi (Bool.of_not_eq_true hfree) .position
          rw [hs.off_disabled hoff i hi] at hpos
          omega
        · exact .inr (.inl hon)
      · rintro (hne | hoffline | hblocked)
        · exact absurd hoff hne
        · exact fun hon => absurd hon hoffline
        · intro _ i hi hfree
          rw [hblocked i hi] at hfree
          cases hfree
    · exact iff_of_true (fun _ => h hoff) (.inl hoff)

theorem available_settleEngineState_off_iff {s : System} (hs : Inv s) :
    (s.settleEngineState .off).Available ↔ s.service.isSome ∨
      ∀ i ∈ s.order, (s.provider i).state = .active →
        ∀ x, s.counter i x ≤ 0 := by
  unfold settleEngineState
  by_cases hoff : s.engineState = .off
  · rw [if_pos hoff]
    refine iff_of_true (available_of_off hoff) (.inr fun i hi _ x => ?_)
    rw [hs.switches.off_disabled hoff i hi x]
    omega
  · rw [if_neg hoff]
    exact available_settleOff_iff hs

/-- Going online or offline enables and disables as it should. -/
theorem available_settle_isOnline {s : System} (h : s.Available)
    (v : Bool) : (s.settle (.isOnline v)).Available := by
  by_cases hholds : holds (.isOnline v) s = true
  · rw [settle_of_holds hholds]
    exact h
  · rw [settle_isOnline (Bool.eq_false_iff.mpr hholds)]
    let u := store (.isOnline v) s
    have hu : u.Available := h.of_eq rfl rfl rfl rfl
    cases v with
    | true => exact available_settleEngineState_on hu
    | false =>
        have hsome : u.service.isSome := by
          show (s.service.map _).isSome = true
          cases hsvc : s.service with
          | none => simp [holds, hsvc] at hholds
          | some svc => rfl
        show (u.settleEngineState .off).Available
        unfold settleEngineState
        split
        · exact hu
        · exact available_of_off (settleOff_engineState hsome)

/-! ## Satellite assignments -/

private theorem settleSatelliteOn_of_ne (is : List ProviderId) {s : System}
    (hne : s.engineState ≠ .on) :
    is.foldl (settleSatelliteProvider .on) s = s := by
  induction is with
  | nil => rfl
  | cons i is ih =>
      have hstep : settleSatelliteProvider .on s i = s := by
        simp [settleSatelliteProvider, hne]
      rw [List.foldl_cons, hstep, ih]

private theorem enableProvider_counter (s : System) (i j : ProviderId)
    (x : Stream) : (s.enableProvider i).counter j x =
      if j = i then 0 else s.counter j x := by
  unfold enableProvider counter
  by_cases hji : j = i
  · subst hji
    simp
  · simp [hji]

private theorem settleSatelliteOn_counter (is : List ProviderId) {s : System}
    (hon : s.engineState = .on) (j : ProviderId) (x : Stream) :
    (is.foldl (settleSatelliteProvider .on) s).counter j x =
      if j ∈ is ∧ (s.provider j).requiresSatellites = true then 0
      else s.counter j x := by
  induction is generalizing s with
  | nil => simp
  | cons i is ih =>
      rw [List.foldl_cons]
      by_cases hreq : (s.provider i).requiresSatellites = true
      · have hstep : settleSatelliteProvider .on s i = s.enableProvider i := by
          simp [settleSatelliteProvider, hreq, hon]
        have hkeep : ((s.enableProvider i).provider j).requiresSatellites =
            (s.provider j).requiresSatellites := by
          unfold enableProvider
          by_cases hji : j = i
          · subst hji
            simp
          · simp [hji]
        rw [hstep, ih (s := s.enableProvider i) hon, hkeep,
          enableProvider_counter]
        by_cases hji : j = i
        · subst hji
          simp [hreq]
        · simp [hji]
      · have hstep : settleSatelliteProvider .on s i = s := by
          simp [settleSatelliteProvider, hreq]
        rw [hstep, ih hon]
        by_cases hji : j = i
        · subst hji
          simp [hreq]
        · simp [hji]

theorem available_settleSatelliteState_off {s : System} (hs : Inv s)
    (h : s.Available) : (s.settleSatelliteState .off).Available := by
  unfold settleSatelliteState
  split
  · exact h
  · let u : System := { s with satelliteBasedPositioningState := .off }
    let p : ProviderId → Bool := fun i => (u.provider i).requiresSatellites
    have hw : u.order.foldl (settleSatelliteProvider .off) u =
        disableWhere p u.order u := settleSatelliteOff_foldl u.order u
    have hswept := swept_disableWhere p u.order u
    have hav : (disableWhere p u.order u).Available := by
      intro hne i hi hfree x
      rw [hswept.order] at hi
      rw [hswept.blocked] at hfree
      have hreq : (s.provider i).requiresSatellites = false := by
        simpa [satelliteBlocked, u] using hfree
      have hne' : s.engineState ≠ .off := by
        intro hoff
        refine hne
          ((disableWhere_off_iff (s := u) hs.sound.nodup hoff).mpr ?_)
        intro j hj _ _ y
        have hmark : u.counter j y = -1 := hs.switches.off_disabled hoff j hj y
        omega
      have hfree' : s.satelliteBlocked i = false := by
        simp [satelliteBlocked, hreq]
      rcases hswept.counter i x with ⟨-, hc⟩ | ⟨-, hc⟩ | ⟨hV, -⟩
      · rw [hc]
        exact h hne' i hi hfree' x
      · omega
      · have htrue : (s.provider i).requiresSatellites = true := hV.2
        rw [hreq] at htrue
        cases htrue
    unfold settleSatellite
    rw [show u.order = s.order from rfl] at hw hav
    exact Available.of_eq (hw ▸ hav) rfl rfl rfl rfl

/-- Switching satellites on forgets the providers of an engine that is
active. -/
theorem available_settleSatelliteState_on_iff {s : System} (hs : Switches s)
    (h : s.Available) :
    (s.settleSatelliteState .on).Available ↔
      s.satelliteBasedPositioningState = .on ∨ s.engineState ≠ .active ∨
        ∀ i ∈ s.order, (s.provider i).requiresSatellites = false := by
  unfold settleSatelliteState
  by_cases hsat : s.satelliteBasedPositioningState = .on
  · rw [if_pos hsat]
    exact iff_of_true h (.inl hsat)
  · rw [if_neg hsat, or_iff_right hsat]
    have hsatoff : s.satelliteBasedPositioningState = .off := by
      cases hv : s.satelliteBasedPositioningState with
      | on => exact absurd hv hsat
      | off => rfl
    let u : System := { s with satelliteBasedPositioningState := .on }
    let w := u.order.foldl (settleSatelliteProvider .on) u
    have hmirror : (s.settleSatellite .on).Available ↔ w.Available :=
      ⟨fun h => h.of_eq rfl rfl rfl rfl, fun h => h.of_eq rfl rfl rfl rfl⟩
    rw [hmirror]
    by_cases hact : s.engineState = .active
    · have hw : w = u := settleSatelliteOn_of_ne u.order (by simp [u, hact])
      rw [hw, or_iff_right (not_not_intro hact)]
      have hne : s.engineState ≠ .off := by simp [hact]
      constructor
      · intro hav i hi
        by_contra hreq
        have hblocked : s.satelliteBlocked i = true := by
          simp [satelliteBlocked, Bool.of_not_eq_false hreq, hsatoff]
        have hnonneg : 0 ≤ u.counter i .position :=
          hav hne i hi (by simp [satelliteBlocked, u]) .position
        have hmark : u.counter i .position = -1 :=
          hs.blocked_disabled i hi hblocked .position
        omega
      · intro hall _ i hi _ x
        exact h hne i hi (by simp [satelliteBlocked, hall i hi]) x
    · refine iff_of_true ?_ (.inl hact)
      cases hes : s.engineState with
      | off =>
          have hw : w = u := settleSatelliteOn_of_ne u.order (by simp [u, hes])
          rw [hw]
          exact available_of_off hes
      | active => exact absurd hes hact
      | on =>
          obtain ⟨hreset, -, -, -⟩ := settleSatelliteOn_foldl u.order u rfl
          intro _ i hi hfree x
          have hi' : i ∈ s.order := by
            rw [hreset.order] at hi
            exact hi
          show 0 ≤ (u.order.foldl (settleSatelliteProvider .on) u).counter i x
          rw [settleSatelliteOn_counter u.order (s := u) hes]
          split
          · exact Int.le_refl 0
          · rename_i hnot
            have hreq : (s.provider i).requiresSatellites = false :=
              Bool.eq_false_iff.mpr fun htrue => hnot ⟨hi', htrue⟩
            have hne : s.engineState ≠ .off := by simp [hes]
            exact h hne i hi' (by simp [satelliteBlocked, hreq]) x

/-! ## Controller calls -/

private theorem counters_nonneg {s : System} (hs : Switches s)
    (h : s.Available) {i : ProviderId} (hi : i ∈ s.order) {x : Stream}
    (hx : 0 ≤ s.counter i x) (y : Stream) : 0 ≤ s.counter i y := by
  obtain ⟨hne, hfree⟩ := hs.of_nonneg hi hx
  exact h hne i hi hfree y

/-- A start disables the stream whose counter it makes wrap around. -/
theorem available_settleStartUpdates_iff {s : System} (hs : Switches s)
    (h : s.Available) {i : ProviderId} (hi : i ∈ s.order) (x : Stream) :
    (s.settleStartUpdates i x).Available ↔ s.counter i x ≠ maxCounter := by
  rcases s.settleStartUpdates_cases i x with
    ⟨hneg, hc⟩ | ⟨hzero, hc⟩ | ⟨hpos, hc⟩
  · rw [hc]
    refine iff_of_true h fun hmax => ?_
    rw [hmax] at hneg
    exact absurd hneg (by decide)
  · have hx : 0 ≤ s.counter i x := Int.le_of_eq hzero.symm
    have hne := (hs.of_nonneg hi hx).1
    have hset := h.setController i
      (c := (s.provider i).controller.setCounter x 1) fun y => by
        by_cases hyx : y = x
        · rw [hyx, Controller.setCounter_self]
          omega
        · rw [Controller.setCounter_ne _ _ hyx]
          exact counters_nonneg hs h hi hx y
    rw [hc]
    refine iff_of_true ?_ (by rw [hzero]; decide)
    exact (hset.settleProviderState hne i .active).setImpl i _
  · have hx : 0 ≤ s.counter i x := Int.le_of_lt hpos
    obtain ⟨hne, hfree⟩ := hs.of_nonneg hi hx
    rw [hc]
    constructor
    · intro hav hmax
      have hnonneg := hav hne i hi ((setController_blocked s i i _).trans hfree) x
      rw [setController_counter, if_pos rfl, Controller.setCounter_self, hmax]
        at hnonneg
      exact absurd hnonneg (by decide)
    · intro hmax
      refine h.setController i fun y => ?_
      by_cases hyx : y = x
      · rw [hyx, Controller.setCounter_self, incrementCounter, if_neg hmax]
        omega
      · rw [Controller.setCounter_ne _ _ hyx]
        exact counters_nonneg hs h hi hx y

/-- A stop that nobody has started for disables the stream. -/
theorem available_settleStopUpdates_iff {s : System} (hs : Switches s)
    (h : s.Available) {i : ProviderId} (hi : i ∈ s.order) (x : Stream) :
    (s.settleStopUpdates i x).Available ↔ s.counter i x ≠ 0 := by
  rcases s.settleStopUpdates_cases i x with
    ⟨hneg, hc⟩ | ⟨hone, hc⟩ | ⟨hx, hne1, hc⟩
  · rw [hc]
    exact iff_of_true h (Int.ne_of_lt hneg)
  · have hpos : 0 ≤ s.counter i x := by omega
    have hne := (hs.of_nonneg hi hpos).1
    have hset := h.setController i
      (c := (s.provider i).controller.setCounter x 0) fun y => by
        by_cases hyx : y = x
        · rw [hyx]
          exact Int.le_of_eq (Controller.setCounter_self _ x 0).symm
        · rw [Controller.setCounter_ne _ _ hyx]
          exact counters_nonneg hs h hi hpos y
    rw [hc]
    refine iff_of_true ?_ (by omega)
    exact (hset.settleProviderState hne i .enabled).setImpl i _
  · obtain ⟨hne, hfree⟩ := hs.of_nonneg hi hx
    rw [hc]
    constructor
    · intro hav hzero
      have hneg := hav hne i hi ((setController_blocked s i i _).trans hfree) x
      have hcount := setController_counter s i i
        ((s.provider i).controller.setCounter x
          ((s.provider i).controller.counter x - 1)) x
      rw [if_pos rfl, Controller.setCounter_self] at hcount
      have hsum : 0 ≤ (s.setController i ((s.provider i).controller.setCounter x
          ((s.provider i).controller.counter x - 1))).counter i x := hneg
      rw [hcount] at hsum
      have : (s.provider i).controller.counter x = 0 := hzero
      omega
    · intro hnz
      refine h.setController i fun y => ?_
      by_cases hyx : y = x
      · rw [hyx, Controller.setCounter_self]
        have : (s.provider i).controller.counter x ≠ 0 := hnz
        omega
      · rw [Controller.setCounter_ne _ _ hyx]
        exact counters_nonneg hs h hi hx y

/-! ## New providers and the service -/

theorem available_addProvider {s : System} (hs : Sound s) (h : s.Available)
    (k : Nat) (req : Bool) : (s.addProvider k req).Available := by
  intro hne i hi hfree x
  have hoff : s.engineState ≠ .off := hne
  have hperm := order_addProvider_perm s k req
  rcases List.mem_cons.mp (hperm.mem_iff.mp hi) with rfl | hi
  · obtain ⟨-, hreq, hcount⟩ := addProvider_self s k req
    unfold satelliteBlocked at hfree
    rw [hreq] at hfree
    have hnot : ¬ ((req && (s.satelliteBasedPositioningState == .off)) = true ∨
        s.engineState = .off) := by
      rintro (hb | h)
      · exact Bool.false_ne_true (hfree.symm.trans hb)
      · exact hoff h
    have hzero := hcount x
    rw [if_neg hnot] at hzero
    exact Int.le_of_eq hzero.symm
  · have hold : i ≠ s.order.length := Nat.ne_of_lt (hs.bound i hi)
    unfold satelliteBlocked at hfree
    unfold counter
    rw [addProvider_ne s k req hold] at hfree ⊢
    exact h hoff i hi hfree x

/-- The constructor of the service enables providers, if anything. -/
theorem available_settleConstructService {s : System} (h : s.Available) :
    s.settleConstructService.Available := by
  let u : System := { s with service := some ⟨false, .disabled, false⟩ }
  have hu : u.Available := h.of_eq rfl rfl rfl rfl
  have hcopy : u.settleCopyEngineState.Available := by
    unfold settleCopyEngineState
    split
    · exact (available_settle_isOnline hu false).of_eq rfl rfl rfl rfl
    · exact (available_settle_isOnline hu true).of_eq rfl rfl rfl rfl
    · exact (available_settle_isOnline hu true).of_eq rfl rfl rfl rfl
  have hlast := settle_copySatellite u.settleCopyEngineState
  show (u.settleCopyEngineState.settle _).Available
  rw [hlast]
  exact hcopy.of_eq rfl rfl rfl rfl

/-! ## Runs -/

/-- Switching satellites on while the engine is active reaches no provider
that was waiting for it. -/
def SwitchesOnAll (s : System) : Prop :=
  s.satelliteBasedPositioningState = .on ∨ s.engineState ≠ .active ∨
    ∀ i ∈ s.order, (s.provider i).requiresSatellites = false

instance (s : System) : Decidable s.SwitchesOnAll :=
  inferInstanceAs (Decidable (_ ∨ _ ∨ _))

/-- The steps that leave disabled exactly what the switches keep off. -/
def KeepsAvailable (a : Action) (s : System) : Prop :=
  match a with
  | .setEngineState .off => s.service.isSome ∨
      ∀ i ∈ s.order, (s.provider i).state = .active → ∀ x, s.counter i x ≤ 0
  | .setEngineState .active => s.engineState ≠ .off ∨ ¬ s.Online ∨
      ∀ i ∈ s.order, s.satelliteBlocked i = true
  | .setSatellite .on => s.SwitchesOnAll
  | .setDoesSatellite true =>
      holds (.doesSatelliteBasedPositioning true) s = true ∨ s.SwitchesOnAll
  | .start i x => s.counter i x ≠ maxCounter
  | .stop i x => s.counter i x ≠ 0
  | _ => True

instance KeepsAvailable.decidable : ∀ a s, Decidable (KeepsAvailable a s)
  | .setEngineState .off, _ => inferInstanceAs (Decidable (_ ∨ _))
  | .setEngineState .active, _ => inferInstanceAs (Decidable (_ ∨ _ ∨ _))
  | .setSatellite .on, s => inferInstanceAs (Decidable s.SwitchesOnAll)
  | .setDoesSatellite true, _ => inferInstanceAs (Decidable (_ ∨ _))
  | .start _ _, _ | .stop _ _, _ => inferInstanceAs (Decidable (_ ≠ _))
  | .setEngineState .on, _ | .setSatellite .off, _
  | .setDoesSatellite false, _ | .setOnline _, _
  | .addProvider _ _, _ | .constructService, _ => isTrue trivial

/-- One step from a state in which the switches decide. -/
private theorem available_step_iff {a : Action} {s t : System} (hs : Inv s)
    (h : s.Available) (hst : Step a s t) :
    t.Available ↔ KeepsAvailable a s := by
  have hexec := step_iff.mp hst
  cases a with
  | setEngineState v =>
      obtain rfl : s.settle (.engineState v) = t := Option.some.inj hexec
      rw [settle_engineState]
      cases v with
      | off => exact available_settleEngineState_off_iff hs
      | on => exact iff_of_true (available_settleEngineState_on h) trivial
      | active =>
          exact available_settleEngineState_active_iff hs.switches h
  | setSatellite v =>
      obtain rfl : s.settle (.satelliteBasedPositioningState v) = t :=
        Option.some.inj hexec
      have hrun : s.settle (.satelliteBasedPositioningState v) =
          s.settleSatelliteState v := by
        unfold settle
        split
        · rename_i hholds
          exact (if_pos (by simpa [holds] using hholds)).symm
        · rfl
      rw [hrun]
      cases v with
      | off =>
          exact iff_of_true (available_settleSatelliteState_off hs h) trivial
      | on => exact available_settleSatelliteState_on_iff hs.switches h
  | setOnline v =>
      obtain rfl : s.settle (.isOnline v) = t := Option.some.inj hexec
      exact iff_of_true (available_settle_isOnline h v) trivial
  | setDoesSatellite v =>
      obtain rfl : s.settle (.doesSatelliteBasedPositioning v) = t :=
        Option.some.inj hexec
      unfold settle
      split
      · rename_i hholds
        apply iff_of_true h
        cases v with
        | false => trivial
        | true => exact .inl hholds
      · rename_i hnot
        let u := store (.doesSatelliteBasedPositioning v) s
        have hsu : Inv u := Inv.mirrorSatellite hs v
        have hu : u.Available := h.of_eq rfl rfl rfl rfl
        cases v with
        | false =>
            exact iff_of_true (available_settleSatelliteState_off hsu hu) trivial
        | true =>
            have hiff := available_settleSatelliteState_on_iff hsu.switches hu
            exact hiff.trans (or_iff_right hnot).symm
  | start i x =>
      obtain ⟨hi, rfl⟩ := step_start hst
      exact available_settleStartUpdates_iff hs.switches h hi x
  | stop i x =>
      obtain ⟨hi, rfl⟩ := step_stop hst
      exact available_settleStopUpdates_iff hs.switches h hi x
  | addProvider k req =>
      obtain rfl : s.addProvider k req = t := Option.some.inj hexec
      exact iff_of_true (available_addProvider hs.sound h k req) trivial
  | constructService =>
      obtain ⟨-, rfl⟩ := step_constructService hst
      exact iff_of_true (available_settleConstructService h) trivial

/-- In every run that stops only what is in use, starts no stream whose counter
would wrap around, switches satellites on only when that reaches every provider
that waits for it, and neither switches off over an active provider nor sets to
active an engine without a service, the known providers that refuse starts are
those that a switch keeps off, and the first step that does one of these breaks
this. -/
theorem disabled_by_switches {v : Status} {s : System}
    (h : (machine.startingAt (initEngine v)).Reach KeepsAvailable s) :
    s.DisabledBySwitches ∧
      ∀ a t, Step a s t → (t.DisabledBySwitches ↔ KeepsAvailable a s) := by
  have hinit : ∀ s, s = initEngine v → Inv s ∧ s.Available := by
    rintro s rfl
    refine ⟨inv_initEngine v, ?_⟩
    intro _ i hi
    cases hi
  obtain ⟨hinv, hav, hexact⟩ := h.keeps_exactly hinit (fun _ _ _ => inv_step)
    (fun _ _ _ => available_step_iff)
  refine ⟨(disabledBySwitches_iff hinv.switches).mpr hav, fun a t hst => ?_⟩
  rw [disabledBySwitches_iff (inv_step hinv hst).switches]
  exact hexact a t hst

/-- A provider that needs satellites joins an engine that is on, and satellites
are switched off and on. -/
theorem disabled_by_switches_satellites :
    ∃ s, Machine.replay settleExec KeepsAvailable
        [.constructService, .addProvider 0 true, .setSatellite .off,
          .setSatellite .on, .start 0 .position] (initEngine .on) = some s ∧
      s.DisabledBySwitches ∧
      ∀ a t, Step a s t → (t.DisabledBySwitches ↔ KeepsAvailable a s) := by
  have hrun : (Machine.replay settleExec KeepsAvailable
      [.constructService, .addProvider 0 true, .setSatellite .off,
        .setSatellite .on, .start 0 .position] (initEngine .on)).isSome := by
    decide
  have hs := (Option.some_get hrun).symm
  have hinit : (machine.startingAt (initEngine .on)).Reach KeepsAvailable
      (initEngine .on) := .initial rfl
  have hreach := hinit.replay (fun _ _ _ h => step_iff.mpr h) _ hs
  exact ⟨_, hs, disabled_by_switches hreach⟩

/-- Switched on again while another provider is active, satellites do not
reach the provider that needs them. -/
theorem satellites_on_while_active :
    ∃ s, settleRun [.constructService, .addProvider 0 false,
        .addProvider 1 true, .start 0 .position, .setSatellite .off,
        .setSatellite .on] (initEngine .on) = some s ∧
      Reachable s ∧ ¬ s.DisabledBySwitches := by
  have hrun : (settleRun [.constructService, .addProvider 0 false,
      .addProvider 1 true, .start 0 .position, .setSatellite .off,
      .setSatellite .on] (initEngine .on)).any
      (fun s => decide ¬ s.DisabledBySwitches) = true := by decide
  exact exists_of_settleRun hrun

end LocationService.System
