import LocationService.Engine.Reflects

/-!
# What the service shows of the engine

`service::Implementation` binds its properties to the engine's in both
directions.  A slot that sets `is_online` before it sets `State` can have the
engine's status overwritten in between, and then shows the status it was called
with.  That happens where `is_online` is still false on the way to an active
engine: in the constructor of a service over an active engine, and when an
engine that is off is set to active.
-/

namespace LocationService

open LocationService.Library

/-- The `State` on the bus for a status of the engine. -/
def Status.shown : Status → ServiceState
  | .off => .disabled
  | .on => .enabled
  | .active => .active

namespace System

/-! ## The two halves of the mirror -/

/-- `is_online` and `State` show the status. -/
def StatusShown (s : System) : Prop :=
  ∀ svc ∈ s.service, svc.isOnline = (s.engineState != .off) ∧
    svc.state = s.engineState.shown

/-- `does_satellite_based_positioning` shows the satellite state. -/
def SatelliteShown (s : System) : Prop :=
  ∀ svc ∈ s.service, svc.doesSatelliteBasedPositioning =
    (s.satelliteBasedPositioningState == .on)

/-- The properties of the service agree with the engine. -/
def MirrorsEngine (s : System) : Prop :=
  ∀ svc ∈ s.service,
    (svc.isOnline = false ↔ s.engineState = .off) ∧
    (svc.state = .disabled ↔ s.engineState = .off) ∧
    (svc.state = .enabled ↔ s.engineState = .on) ∧
    (svc.state = .active ↔ s.engineState = .active) ∧
    (svc.doesSatelliteBasedPositioning = true ↔
      s.satelliteBasedPositioningState = .on)

instance (s : System) : Decidable s.MirrorsEngine :=
  inferInstanceAs (Decidable (∀ svc ∈ s.service, _))

theorem mirrorsEngine_iff {s : System} :
    s.MirrorsEngine ↔ s.StatusShown ∧ s.SatelliteShown := by
  have hpoint : ∀ (svc : Service) (v : Status)
      (w : SatelliteBasedPositioningState),
      ((svc.isOnline = false ↔ v = .off) ∧ (svc.state = .disabled ↔ v = .off) ∧
        (svc.state = .enabled ↔ v = .on) ∧
        (svc.state = .active ↔ v = .active) ∧
        (svc.doesSatelliteBasedPositioning = true ↔ w = .on)) ↔
      (svc.isOnline = (v != .off) ∧ svc.state = v.shown) ∧
        svc.doesSatelliteBasedPositioning = (w == .on) := by
    rintro ⟨isOnline, state, does⟩ v w
    cases isOnline <;> cases state <;> cases does <;> cases v <;> cases w <;>
      decide
  constructor
  · intro h
    constructor
    · intro svc hsvc
      exact ((hpoint svc _ _).mp (h svc hsvc)).1
    · intro svc hsvc
      exact ((hpoint svc _ _).mp (h svc hsvc)).2
  · rintro ⟨hstatus, hsat⟩ svc hsvc
    exact (hpoint svc _ _).mpr ⟨hstatus svc hsvc, hsat svc hsvc⟩

theorem mirrorsEngine_of_none {s : System} (h : s.service = none) :
    s.MirrorsEngine := by
  intro svc hsvc
  rw [h] at hsvc
  cases hsvc

/-! ## The status -/

theorem statusShown_settleOn (s : System) : s.settleOn.StatusShown := by
  intro svc hsvc
  obtain ⟨old, -, rfl⟩ := Option.map_eq_some_iff.mp hsvc
  exact ⟨rfl, rfl⟩

/-- An active engine is shown as such exactly when the service was online. -/
theorem statusShown_settleActive_iff (s : System) :
    s.settleActive.StatusShown ↔ s.Online := by
  unfold settleActive
  split
  · rename_i hon
    refine iff_of_true ?_ hon
    intro svc hsvc
    obtain ⟨old, hold, rfl⟩ := Option.map_eq_some_iff.mp hsvc
    unfold Online at hon
    rw [hold] at hon
    exact ⟨hon, rfl⟩
  · rename_i hoff
    refine iff_of_false ?_ hoff
    intro hshown
    cases hsvc : s.service with
    | none => exact hoff (by simp [Online, hsvc])
    | some old =>
        have h := hshown ⟨true, .active, old.doesSatelliteBasedPositioning⟩
          (by simp [setServiceState, settleOn, hsvc])
        cases h.2

theorem StatusShown.recompute {s : System} (h : s.StatusShown)
    (hon : s.Online) : s.recompute.StatusShown := by
  unfold System.recompute
  split
  · split
    · exact h
    · exact (statusShown_settleActive_iff s).mpr hon
  · split
    · exact h
    · exact statusShown_settleOn s

theorem StatusShown.settleProviderState {s : System} (h : s.StatusShown)
    (hon : s.Online) (i : ProviderId) (v : ProviderState) :
    (s.settleProviderState i v).StatusShown := by
  unfold System.settleProviderState
  split
  · exact h
  · exact StatusShown.recompute (s := s.setProviderState i v) h hon

theorem StatusShown.disableWhere {s : System} (h : s.StatusShown)
    (hset : s.Settled) (p : ProviderId → Bool) :
    (disableWhere p s.order s).StatusShown := by
  refine disableWhere_kept ?_ ?_ ?_ p (fun _ hi => hi) hset h
  · intro s i hon h
    exact h.settleProviderState hon i .enabled
  · exact fun _ _ _ h => h
  · exact fun _ _ h => h

/-- Switching off ends with the service offline and disabled. -/
theorem statusShown_settleOff (s : System) : s.settleOff.StatusShown := by
  intro svc hsvc
  have hsome : s.service.isSome := by
    rw [← s.swept_settleOff.service, hsvc]
    rfl
  rw [settleOff_engineState hsome]
  unfold settleOff at hsvc
  dsimp only at hsvc
  split at hsvc
  · rename_i hnone
    rw [hnone] at hsvc
    cases hsvc
  · split at hsvc
    · obtain ⟨old, -, rfl⟩ := Option.map_eq_some_iff.mp hsvc
      exact ⟨rfl, rfl⟩
    · obtain ⟨old, -, rfl⟩ := Option.map_eq_some_iff.mp hsvc
      exact ⟨rfl, rfl⟩

theorem statusShown_settleEngineState_iff {s : System} (h : s.StatusShown)
    (v : Status) :
    (s.settleEngineState v).StatusShown ↔ v = .active → s.Online := by
  unfold settleEngineState
  by_cases hv : s.engineState = v
  · rw [if_pos hv]
    apply iff_of_true h
    rintro rfl
    unfold Online
    cases hsvc : s.service with
    | none => rfl
    | some svc =>
        have hon := (h svc hsvc).1
        rw [hv] at hon
        exact hon
  · rw [if_neg hv]
    cases v with
    | off => exact iff_of_true (statusShown_settleOff s) (by simp)
    | on => exact iff_of_true (statusShown_settleOn s) (by simp)
    | active =>
        rw [statusShown_settleActive_iff]
        exact ⟨fun h _ => h, fun h => h rfl⟩

/-! ## The satellite state -/

/-- The satellite state and what the service shows of it stay. -/
structure SameSatellite (s t : System) : Prop where
  satellite :
    t.satelliteBasedPositioningState = s.satelliteBasedPositioningState
  shown : t.service.map Service.doesSatelliteBasedPositioning =
    s.service.map Service.doesSatelliteBasedPositioning

theorem SameSatellite.refl (s : System) : s.SameSatellite s := ⟨rfl, rfl⟩

theorem SameSatellite.trans {s t u : System} (hst : s.SameSatellite t)
    (htu : t.SameSatellite u) : s.SameSatellite u :=
  ⟨htu.satellite.trans hst.satellite, htu.shown.trans hst.shown⟩

theorem SatelliteShown.of_same {s t : System} (h : s.SatelliteShown)
    (hst : s.SameSatellite t) : t.SatelliteShown := by
  intro svc hsvc
  have hmap : s.service.map Service.doesSatelliteBasedPositioning =
      some svc.doesSatelliteBasedPositioning := by
    rw [← hst.shown, hsvc]
    rfl
  obtain ⟨old, hold, hdoes⟩ := Option.map_eq_some_iff.mp hmap
  rw [← hdoes, hst.satellite]
  exact h old hold

theorem sameSatellite_setProviderState (s : System) (i : ProviderId)
    (v : ProviderState) : s.SameSatellite (s.setProviderState i v) :=
  ⟨rfl, rfl⟩

/-- A change to the service that leaves the satellite property alone. -/
theorem sameSatellite_of_map {s t : System} (f : Service → Service)
    (hsat : t.satelliteBasedPositioningState =
      s.satelliteBasedPositioningState)
    (hsvc : t.service = s.service.map f)
    (hf : ∀ svc, (f svc).doesSatelliteBasedPositioning =
      svc.doesSatelliteBasedPositioning) : s.SameSatellite t := by
  refine ⟨hsat, ?_⟩
  rw [hsvc]
  cases s.service with
  | none => rfl
  | some svc => exact congrArg some (hf svc)

theorem sameSatellite_settleOn (s : System) : s.SameSatellite s.settleOn :=
  sameSatellite_of_map _ rfl rfl fun _ => rfl

theorem sameSatellite_setServiceState (s : System) (v : ServiceState) :
    s.SameSatellite (s.setServiceState v) :=
  sameSatellite_of_map _ rfl rfl fun _ => rfl

theorem sameSatellite_settleActive (s : System) :
    s.SameSatellite s.settleActive := by
  unfold settleActive
  split
  · exact sameSatellite_of_map _ rfl rfl fun _ => rfl
  · exact (sameSatellite_settleOn s).trans (sameSatellite_setServiceState _ _)

theorem sameSatellite_recompute (s : System) :
    s.SameSatellite s.recompute := by
  unfold recompute
  split
  · split
    · exact .refl s
    · exact sameSatellite_settleActive s
  · split
    · exact .refl s
    · exact sameSatellite_settleOn s

theorem sameSatellite_settleProviderState (s : System) (i : ProviderId)
    (v : ProviderState) : s.SameSatellite (s.settleProviderState i v) := by
  unfold settleProviderState
  split
  · exact .refl s
  · have hset := sameSatellite_setProviderState s i v
    exact hset.trans (sameSatellite_recompute _)

/-- Replacing an implementation or marking a controller changes neither. -/
theorem SameSatellite.of_provider {s t u : System} (h : s.SameSatellite t)
    (hsat : u.satelliteBasedPositioningState =
      t.satelliteBasedPositioningState) (hsvc : u.service = t.service) :
    s.SameSatellite u :=
  ⟨hsat.trans h.satellite, by rw [hsvc, h.shown]⟩

theorem sameSatellite_settleDisable (s : System) (i : ProviderId) :
    s.SameSatellite (s.settleDisable i) := by
  cases hlive : s.liveStreams i with
  | nil =>
      rw [settleDisable_nil hlive]
      exact (SameSatellite.refl s).of_provider rfl rfl
  | cons x xs =>
      rw [settleDisable_cons hlive]
      exact (sameSatellite_settleProviderState s i .enabled).of_provider rfl rfl

theorem sameSatellite_foldl_settleDisable (is : List ProviderId)
    (s : System) : s.SameSatellite (is.foldl settleDisable s) := by
  induction is generalizing s with
  | nil => exact .refl s
  | cons i is ih => exact (sameSatellite_settleDisable s i).trans (ih _)

theorem sameSatellite_settleOff (s : System) :
    s.SameSatellite s.settleOff := by
  have hstore : s.SameSatellite { s with engineState := .off } := ⟨rfl, rfl⟩
  have hfold := hstore.trans (sameSatellite_foldl_settleDisable s.order _)
  have hloop : s.SameSatellite s.afterOffLoop := hfold.of_provider rfl rfl
  unfold settleOff
  dsimp only
  split
  · exact hloop
  · split
    · exact hloop.trans (sameSatellite_of_map _ rfl rfl fun _ => rfl)
    · exact hloop.trans (sameSatellite_of_map _ rfl rfl fun _ => rfl)

theorem sameSatellite_settleEngineState (v : Status) (s : System) :
    s.SameSatellite (s.settleEngineState v) := by
  unfold settleEngineState
  split
  · exact .refl s
  · cases v with
    | on => exact sameSatellite_settleOn s
    | active => exact sameSatellite_settleActive s
    | off => exact sameSatellite_settleOff s

/-! ## The steps -/

theorem mirrors_settleEngineState_iff {s : System} (h : s.MirrorsEngine)
    (v : Status) :
    (s.settleEngineState v).MirrorsEngine ↔ v = .active → s.Online := by
  obtain ⟨hstatus, hsat⟩ := mirrorsEngine_iff.mp h
  rw [mirrorsEngine_iff, statusShown_settleEngineState_iff hstatus]
  exact and_iff_left (hsat.of_same (sameSatellite_settleEngineState v s))

/-- Switching satellites ends with the service showing the switch. -/
theorem mirrors_settleSatelliteState {s : System} (h : s.StatusShown)
    (hset : s.Settled) (v : SatelliteBasedPositioningState)
    (hsame : s.satelliteBasedPositioningState = v → s.SatelliteShown) :
    (s.settleSatelliteState v).MirrorsEngine := by
  unfold settleSatelliteState
  split
  · rename_i hv
    exact mirrorsEngine_iff.mpr ⟨h, hsame hv⟩
  · let u : System := { s with satelliteBasedPositioningState := v }
    let w := u.order.foldl (settleSatelliteProvider v) u
    have hloop : w.StatusShown ∧ w.satelliteBasedPositioningState = v := by
      cases v with
      | on =>
          obtain ⟨hreset, hes, hsvc, -⟩ := settleSatelliteOn_foldl u.order u rfl
          refine ⟨fun svc hmem => ?_, hreset.satellite⟩
          rw [hes]
          exact h svc (hsvc ▸ hmem)
      | off =>
          have hw : w = disableWhere
              (fun i => (u.provider i).requiresSatellites) u.order u :=
            settleSatelliteOff_foldl u.order u
          rw [hw]
          exact ⟨StatusShown.disableWhere (s := u) h hset _,
            (swept_disableWhere _ u.order u).satellite⟩
    refine mirrorsEngine_iff.mpr ⟨?_, ?_⟩
    · intro svc hsvc
      obtain ⟨old, hold, rfl⟩ := Option.map_eq_some_iff.mp hsvc
      exact hloop.1 old hold
    · intro svc hsvc
      obtain ⟨old, -, rfl⟩ := Option.map_eq_some_iff.mp hsvc
      exact congrArg (· == .on) hloop.2.symm

theorem mirrors_settle_isOnline {s : System} (h : s.MirrorsEngine)
    (v : Bool) : (s.settle (.isOnline v)).MirrorsEngine := by
  by_cases hholds : holds (.isOnline v) s = true
  · rw [settle_of_holds hholds]
    exact h
  · rw [settle_isOnline (Bool.eq_false_iff.mpr hholds)]
    obtain ⟨hstatus, hsat⟩ := mirrorsEngine_iff.mp h
    let u := store (.isOnline v) s
    have hsame : s.SameSatellite u :=
      sameSatellite_of_map _ rfl rfl fun _ => rfl
    have hkeep := hsame.trans
      (sameSatellite_settleEngineState (if v then .on else .off) u)
    refine mirrorsEngine_iff.mpr ⟨?_, hsat.of_same hkeep⟩
    -- the boolean just stored is not what the status calls for
    have hne : s.engineState ≠ (if v then .on else .off) := by
      intro heq
      apply hholds
      simp only [holds]
      cases hsvc : s.service with
      | none => rfl
      | some svc =>
          have hon := (hstatus svc hsvc).1
          rw [heq] at hon
          cases v <;> simp_all
    have hrun : u.settleEngineState (if v then .on else .off) =
        if v then u.settleOn else u.settleOff := by
      unfold settleEngineState
      rw [if_neg (show ¬ u.engineState = _ from hne)]
      cases v <;> rfl
    rw [hrun]
    cases v with
    | true => exact statusShown_settleOn u
    | false => exact statusShown_settleOff u

/-! ## Controller calls and new providers -/

theorem MirrorsEngine.of_provider {s t : System} (h : s.MirrorsEngine)
    (hes : t.engineState = s.engineState)
    (hsat : t.satelliteBasedPositioningState =
      s.satelliteBasedPositioningState) (hsvc : t.service = s.service) :
    t.MirrorsEngine := by
  intro svc hmem
  rw [hes, hsat]
  exact h svc (hsvc ▸ hmem)

theorem MirrorsEngine.setController {s : System} (h : s.MirrorsEngine)
    (i : ProviderId) (c : Controller) : (s.setController i c).MirrorsEngine :=
  h.of_provider rfl rfl rfl

theorem MirrorsEngine.settleProviderState {s : System} (h : s.MirrorsEngine)
    (hon : s.Online) (i : ProviderId) (v : ProviderState) :
    (s.settleProviderState i v).MirrorsEngine := by
  obtain ⟨hstatus, hsat⟩ := mirrorsEngine_iff.mp h
  have hsame := sameSatellite_settleProviderState s i v
  exact mirrorsEngine_iff.mpr
    ⟨hstatus.settleProviderState hon i v, hsat.of_same hsame⟩

theorem mirrorsEngine_survivesHooks (i : ProviderId) :
    SurvivesHooks MirrorsEngine i where
  setController _ c h := h.setController i c
  settleProviderState _ v hon h := h.settleProviderState hon i v
  setImpl _ _ h := h.of_provider rfl rfl rfl

/-! ## The constructor of the service -/

private theorem statusShown_setServiceState_iff {s : System} {svc : Service}
    (hsvc : s.service = some svc) (v : ServiceState) :
    (s.setServiceState v).StatusShown ↔
      svc.isOnline = (s.engineState != .off) ∧ v = s.engineState.shown := by
  have hset : (s.setServiceState v).service =
      some { svc with state := v } := by
    unfold setServiceState
    rw [hsvc]
    rfl
  unfold StatusShown
  rw [hset]
  constructor
  · intro h
    exact h _ rfl
  · intro h svc' hmem
    obtain rfl := Option.some.inj hmem
    exact h

private theorem statusShown_settleCopyEngineState_iff {s : System}
    (hsvc : s.service = some ⟨false, .disabled, false⟩) :
    s.settleCopyEngineState.StatusShown ↔ s.engineState ≠ .active := by
  have hstore : (store (.isOnline true) s).service =
      some ⟨true, .disabled, false⟩ := by
    unfold store
    rw [hsvc]
    rfl
  have honline : s.settle (.isOnline true) =
      (store (.isOnline true) s).settleEngineState .on :=
    settle_isOnline (by simp [holds, hsvc])
  unfold settleCopyEngineState
  cases hes : s.engineState with
  | off =>
      have hsame : s.settle (.isOnline false) = s :=
        settle_of_holds (by simp [holds, hsvc])
      dsimp only
      rw [hsame, statusShown_setServiceState_iff hsvc, hes]
      decide
  | on =>
      have hsame : (store (.isOnline true) s).settleEngineState .on =
          store (.isOnline true) s := if_pos hes
      dsimp only
      rw [honline, hsame, statusShown_setServiceState_iff hstore]
      show _ = (s.engineState != .off) ∧ _ = s.engineState.shown ↔ _
      rw [hes]
      decide
  | active =>
      have hne : (store (.isOnline true) s).engineState ≠ .on := by
        show s.engineState ≠ .on
        simp [hes]
      have hon : (store (.isOnline true) s).settleEngineState .on =
          (store (.isOnline true) s).settleOn := if_neg hne
      have hset : (store (.isOnline true) s).settleOn.service =
          some ⟨true, .enabled, false⟩ := by
        unfold settleOn
        rw [hstore]
        rfl
      dsimp only
      rw [honline, hon, statusShown_setServiceState_iff hset]
      refine iff_of_false ?_ (by simp)
      rintro ⟨-, hstate⟩
      cases hstate

private theorem statusShown_storeDoesSatellite_iff {s : System} (v : Bool) :
    (store (.doesSatelliteBasedPositioning v) s).StatusShown ↔
      s.StatusShown := by
  constructor
  · intro h svc hsvc
    have hmem : { svc with doesSatelliteBasedPositioning := v } ∈
        (store (.doesSatelliteBasedPositioning v) s).service :=
      Option.mem_map_of_mem _ hsvc
    have hshown := h { svc with doesSatelliteBasedPositioning := v } hmem
    exact hshown
  · intro h svc hsvc
    obtain ⟨old, hold, rfl⟩ := Option.map_eq_some_iff.mp hsvc
    exact h old hold

/-- A service constructed over an active engine switches the engine to on and
shows it as active. -/
theorem mirrors_settleConstructService_iff (s : System) :
    s.settleConstructService.MirrorsEngine ↔ s.engineState ≠ .active := by
  let u : System := { s with service := some ⟨false, .disabled, false⟩ }
  let w := u.settleCopyEngineState
  let v := w.satelliteBasedPositioningState == .on
  have hcopy : s.settleConstructService =
      store (.doesSatelliteBasedPositioning v) w := settle_copySatellite w
  have hsat : (store (.doesSatelliteBasedPositioning v) w).SatelliteShown := by
    intro svc hsvc
    obtain ⟨old, -, rfl⟩ := Option.map_eq_some_iff.mp hsvc
    rfl
  rw [hcopy, mirrorsEngine_iff, statusShown_storeDoesSatellite_iff,
    and_iff_left hsat]
  exact statusShown_settleCopyEngineState_iff (s := u) rfl

/-! ## Runs -/

/-- The steps that leave the service in agreement with the engine. -/
def KeepsMirroring (a : Action) (s : System) : Prop :=
  match a with
  | .setEngineState .active => s.Online
  | .constructService => s.engineState ≠ .active
  | _ => True

instance KeepsMirroring.decidable : ∀ a s, Decidable (KeepsMirroring a s)
  | .setEngineState .active, s => inferInstanceAs (Decidable s.Online)
  | .constructService, _ => inferInstanceAs (Decidable (_ ≠ _))
  | .setEngineState .off, _ | .setEngineState .on, _ | .setOnline _, _
  | .setSatellite _, _ | .setDoesSatellite _, _ | .start _ _, _
  | .stop _ _, _ | .addProvider _ _, _ => isTrue trivial

/-- One step from a state in which the service agrees with the engine. -/
theorem mirrors_step_iff {a : Action} {s t : System} (hs : Switches s)
    (h : s.MirrorsEngine) (hst : Step a s t) :
    t.MirrorsEngine ↔ KeepsMirroring a s := by
  have hexec := step_iff.mp hst
  have hstatus := (mirrorsEngine_iff.mp h).1
  have hsat := (mirrorsEngine_iff.mp h).2
  cases a with
  | setEngineState v =>
      obtain rfl : s.settle (.engineState v) = t := Option.some.inj hexec
      rw [settle_engineState, mirrors_settleEngineState_iff h]
      cases v <;> simp [KeepsMirroring]
  | setSatellite v =>
      obtain rfl : s.settle (.satelliteBasedPositioningState v) = t :=
        Option.some.inj hexec
      refine iff_of_true ?_ trivial
      unfold settle
      split
      · exact h
      · exact mirrors_settleSatelliteState hstatus hs.settled v fun _ => hsat
  | setOnline v =>
      obtain rfl : s.settle (.isOnline v) = t := Option.some.inj hexec
      exact iff_of_true (mirrors_settle_isOnline h v) trivial
  | setDoesSatellite v =>
      obtain rfl : s.settle (.doesSatelliteBasedPositioning v) = t :=
        Option.some.inj hexec
      refine iff_of_true ?_ trivial
      unfold settle
      split
      · exact h
      · let u := store (.doesSatelliteBasedPositioning v) s
        have hshown : u.StatusShown :=
          (statusShown_storeDoesSatellite_iff v).mpr hstatus
        refine mirrors_settleSatelliteState hshown
          (hs.settled.storeDoesSatellite v) _ fun heq svc hsvc => ?_
        obtain ⟨old, -, rfl⟩ := Option.map_eq_some_iff.mp hsvc
        rw [heq]
        cases v <;> rfl
  | start i x =>
      obtain ⟨hi, rfl⟩ := step_start hst
      have hhooks := mirrorsEngine_survivesHooks i
      exact iff_of_true (hhooks.settleStartUpdates hs hi h x) trivial
  | stop i x =>
      obtain ⟨hi, rfl⟩ := step_stop hst
      have hhooks := mirrorsEngine_survivesHooks i
      exact iff_of_true (hhooks.settleStopUpdates hs hi h x) trivial
  | addProvider k req =>
      obtain rfl : s.addProvider k req = t := Option.some.inj hexec
      exact iff_of_true (h.of_provider rfl rfl rfl) trivial
  | constructService =>
      obtain ⟨-, rfl⟩ := step_constructService hst
      exact mirrors_settleConstructService_iff s

/-- The service agrees with the engine in every state of a run that neither
constructs it over an active engine nor sets an engine that is off to active,
and the first step that does breaks this. -/
theorem service_mirrors_engine {v : Status} {s : System}
    (h : (machine.startingAt (initEngine v)).Reach KeepsMirroring s) :
    s.MirrorsEngine ∧
      ∀ a t, Step a s t → (t.MirrorsEngine ↔ KeepsMirroring a s) := by
  have hinit : ∀ s, s = initEngine v → Inv s ∧ s.MirrorsEngine := by
    rintro s rfl
    exact ⟨inv_initEngine v, mirrorsEngine_of_none rfl⟩
  have hrun := h.keeps_exactly hinit (fun _ _ _ => inv_step)
    (fun _ _ _ hs => mirrors_step_iff hs.switches)
  exact hrun.2

/-- A provider is started and switched off together with the engine. -/
theorem service_mirrors_engine_switched_off :
    ∃ s, Machine.replay settleExec KeepsMirroring
        [.constructService, .addProvider 0 false, .start 0 .position,
          .setOnline false] (initEngine .on) = some s ∧
      s.MirrorsEngine ∧
      ∀ a t, Step a s t → (t.MirrorsEngine ↔ KeepsMirroring a s) := by
  have hrun : (Machine.replay settleExec KeepsMirroring
      [.constructService, .addProvider 0 false, .start 0 .position,
        .setOnline false] (initEngine .on)).isSome := by decide
  have hs := (Option.some_get hrun).symm
  have hinit : (machine.startingAt (initEngine .on)).Reach KeepsMirroring
      (initEngine .on) := .initial rfl
  have hreach := hinit.replay (fun _ _ _ h => step_iff.mpr h) _ hs
  exact ⟨_, hs, service_mirrors_engine hreach⟩

/-- With active persisted, the constructor of the service leaves the engine on
and shows it as active. -/
theorem service_over_active_engine :
    ∃ s, settleRun [.constructService] (initEngine .active) = some s ∧
      Reachable s ∧ ¬ s.MirrorsEngine := by
  have hrun : (settleRun [.constructService] (initEngine .active)).any
      (fun s => decide ¬ s.MirrorsEngine) = true := by decide
  exact exists_of_settleRun hrun

end System

end LocationService
