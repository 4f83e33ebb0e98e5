import LocationService.Engine.Quiescent

/-!
# The status of the engine and the states of its providers

Whenever a provider changes its state, the engine recomputes its status from
all of them.  Nothing recomputes it otherwise: an engine constructed as active,
one switched on while a provider is active, and one whose service is
constructed while it is active go on with a status that no provider calls for.
-/

namespace LocationService.System

open LocationService.Library

/-- Unless it is off, the engine is active exactly when some provider is. -/
def ReflectsProviders (s : System) : Prop :=
  s.engineState ≠ .off → (s.engineState = .active ↔ s.isAnyActive = true)

instance (s : System) : Decidable s.ReflectsProviders :=
  inferInstanceAs (Decidable (_ → _))

theorem reflects_of_off {s : System} (h : s.engineState = .off) :
    s.ReflectsProviders := fun hne => absurd h hne

/-- The engine starts out as persisted, without providers. -/
theorem reflects_initEngine_iff (v : Status) :
    (initEngine v).ReflectsProviders ↔ v ≠ .active := by
  cases v <;> decide

/-! ## Recomputations -/

theorem reflects_recompute {s : System} (hon : s.Online) :
    s.recompute.ReflectsProviders := by
  intro _
  rw [recompute_engineState_of_online hon, (reset_recompute s).isAnyActive]
  cases s.isAnyActive <;> simp

theorem ReflectsProviders.settleProviderState {s : System}
    (h : s.ReflectsProviders) (hon : s.Online) (i : ProviderId)
    (v : ProviderState) : (s.settleProviderState i v).ReflectsProviders := by
  unfold System.settleProviderState
  split
  · exact h
  · exact reflects_recompute (s := s.setProviderState i v) hon

theorem ReflectsProviders.setController {s : System}
    (h : s.ReflectsProviders) (i : ProviderId) (c : Controller) :
    (s.setController i c).ReflectsProviders := by
  intro hne
  rw [setController_isAnyActive]
  exact h hne

theorem ReflectsProviders.setImpl {s : System} (h : s.ReflectsProviders)
    (i : ProviderId) (p : Implementation) :
    (s.setImpl i p).ReflectsProviders := by
  intro hne
  rw [setImpl_isAnyActive]
  exact h hne

theorem ReflectsProviders.disableWhere {s : System}
    (h : s.ReflectsProviders) (hset : s.Settled) (p : ProviderId → Bool) :
    (disableWhere p s.order s).ReflectsProviders := by
  refine disableWhere_kept ?_ ?_ ?_ p (fun _ hi => hi) hset h
  · intro s i hon h
    exact h.settleProviderState hon i .enabled
  · intro s i q h
    exact h.setImpl i q
  · intro s i h
    exact h.setController i _

/-! ## Assignments -/

/-- When the assignment `engine_state = v` leaves a status that reflects the
providers, given that the status before did. -/
def AssignsTruly (v : Status) (s : System) : Prop :=
  match v with
  | .off => True
  | .on => s.engineState = .on ∨ s.isAnyActive = false
  | .active =>
      s.engineState = .active ∨
        if s.Online then s.isAnyActive = true else s.isAnyActive = false

instance AssignsTruly.decidable : ∀ v s, Decidable (AssignsTruly v s)
  | .off, _ => isTrue trivial
  | .on, _ => inferInstanceAs (Decidable (_ ∨ _))
  | .active, _ => inferInstanceAs (Decidable (_ ∨ _))

private theorem reflects_settleOn_iff (s : System) :
    s.settleOn.ReflectsProviders ↔ s.isAnyActive = false := by
  unfold ReflectsProviders
  rw [(reset_settleOn s).isAnyActive]
  cases s.isAnyActive <;> simp [settleOn]

private theorem reflects_settleActive_iff (s : System) :
    s.settleActive.ReflectsProviders ↔
      if s.Online then s.isAnyActive = true else s.isAnyActive = false := by
  unfold ReflectsProviders
  rw [(reset_settleActive s).isAnyActive]
  unfold settleActive
  split
  · simp
  · cases s.isAnyActive <;> simp [setServiceState, settleOn]

/-- Switching off leaves the engine off, or on behalf of a provider that was
active with its status recomputed. -/
private theorem reflects_settleOff (s : System) :
    s.settleOff.ReflectsProviders := by
  cases hsvc : s.service with
  | none =>
      have hon : s.Online := by
        unfold Online
        rw [hsvc]
        rfl
      have hloop : (disableWhere (fun _ => true) s.order
          { s with engineState := .off }).ReflectsProviders :=
        ReflectsProviders.disableWhere (s := { s with engineState := .off })
          (reflects_of_off rfl) (.inl hon) _
      rw [settleOff_of_none hsvc, afterOffLoop_eq]
      exact hloop
  | some svc =>
      have hsome : s.service.isSome := by
        rw [hsvc]
        rfl
      exact reflects_of_off (settleOff_engineState hsome)

theorem reflects_settleEngineState_iff {s : System}
    (h : s.ReflectsProviders) (v : Status) :
    (s.settleEngineState v).ReflectsProviders ↔ AssignsTruly v s := by
  unfold settleEngineState
  by_cases hv : s.engineState = v
  · rw [if_pos hv]
    apply iff_of_true h
    subst hv
    unfold AssignsTruly
    split
    · trivial
    · exact .inl (by assumption)
    · exact .inl (by assumption)
  · rw [if_neg hv]
    cases v with
    | off => exact iff_of_true (reflects_settleOff s) trivial
    | on =>
        rw [reflects_settleOn_iff]
        exact (or_iff_right hv).symm
    | active =>
        rw [reflects_settleActive_iff]
        exact (or_iff_right hv).symm

/-- The satellite switch recomputes the status whenever it stops a
provider. -/
theorem reflects_settleSatelliteState {s : System} (h : s.ReflectsProviders)
    (hset : s.Settled) (v : SatelliteBasedPositioningState) :
    (s.settleSatelliteState v).ReflectsProviders := by
  unfold settleSatelliteState
  split
  · exact h
  · let u : System := { s with satelliteBasedPositioningState := v }
    have hloop : (u.order.foldl (settleSatelliteProvider v) u
        ).ReflectsProviders := by
      cases v with
      | on =>
          obtain ⟨hreset, hes, -, -⟩ :=
            settleSatelliteOn_foldl u.order u rfl
          intro hne
          rw [hes] at hne ⊢
          rw [hreset.isAnyActive]
          exact h hne
      | off =>
          rw [settleSatelliteOff_foldl]
          exact ReflectsProviders.disableWhere (s := u) h hset _
    exact hloop

/-! ## Controller calls -/

theorem reflectsProviders_survivesHooks (i : ProviderId) :
    SurvivesHooks ReflectsProviders i where
  setController _ c h := h.setController i c
  settleProviderState _ v hon h := h.settleProviderState hon i v
  setImpl _ p h := h.setImpl i p

/-! ## New providers and the service -/

/-- A provider joins in its initial state. -/
theorem addProvider_isAnyActive {s : System} (h : Sound s) (k : Nat)
    (req : Bool) : (s.addProvider k req).isAnyActive = s.isAnyActive := by
  have hperm := order_addProvider_perm s k req
  have hnew : ((s.addProvider k req).provider s.order.length).state =
      .enabled := by
    simp only [addProvider, setProvider_self]
    split <;> split <;> rfl
  rw [Bool.eq_iff_iff, isAnyActive_iff, isAnyActive_iff]
  constructor
  · rintro ⟨i, hi, hact⟩
    rcases List.mem_cons.mp (hperm.mem_iff.mp hi) with rfl | hi
    · rw [hnew] at hact
      cases hact
    · have hne : i ≠ s.order.length := Nat.ne_of_lt (h.bound i hi)
      rw [addProvider_ne s k req hne] at hact
      exact ⟨i, hi, hact⟩
  · rintro ⟨i, hi, hact⟩
    have hne : i ≠ s.order.length := Nat.ne_of_lt (h.bound i hi)
    refine ⟨i, hperm.mem_iff.mpr (List.mem_cons_of_mem _ hi), ?_⟩
    rw [addProvider_ne s k req hne]
    exact hact

/-- The constructor of the service sets an active engine to on, by way of its
boolean. -/
theorem settleCopyEngineState_engineState {s : System}
    (hsvc : s.service = some ⟨false, .disabled, false⟩) :
    s.settleCopyEngineState.engineState =
        (if s.engineState = .active then .on else s.engineState) ∧
      s.settleCopyEngineState.isAnyActive = s.isAnyActive := by
  unfold settleCopyEngineState
  cases hes : s.engineState with
  | off =>
      have hsame : s.settle (.isOnline false) = s :=
        settle_of_holds (by simp [holds, hsvc])
      rw [hsame]
      exact ⟨hes, rfl⟩
  | on =>
      have hrun : s.settle (.isOnline true) =
          (store (.isOnline true) s).settleEngineState .on :=
        settle_isOnline (by simp [holds, hsvc])
      have hsame : (store (.isOnline true) s).settleEngineState .on =
          store (.isOnline true) s := if_pos hes
      rw [hrun, hsame]
      exact ⟨hes, rfl⟩
  | active =>
      have hrun : s.settle (.isOnline true) =
          (store (.isOnline true) s).settleEngineState .on :=
        settle_isOnline (by simp [holds, hsvc])
      have hne : (store (.isOnline true) s).engineState ≠ .on := by
        show s.engineState ≠ .on
        simp [hes]
      have hon : (store (.isOnline true) s).settleEngineState .on =
          (store (.isOnline true) s).settleOn := if_neg hne
      rw [hrun, hon]
      exact ⟨rfl, (reset_settleOn (store (.isOnline true) s)).isAnyActive⟩

theorem reflects_settleConstructService_iff {s : System}
    (h : s.ReflectsProviders) :
    s.settleConstructService.ReflectsProviders ↔ s.engineState ≠ .active := by
  let u : System := { s with service := some ⟨false, .disabled, false⟩ }
  obtain ⟨hes, hany⟩ := settleCopyEngineState_engineState (s := u) rfl
  have hlast : s.settleConstructService.ReflectsProviders ↔
      u.settleCopyEngineState.ReflectsProviders := by
    have hcopy := settle_copySatellite u.settleCopyEngineState
    exact (iff_of_eq (congrArg ReflectsProviders hcopy)).trans Iff.rfl
  rw [hlast]
  unfold ReflectsProviders
  rw [hes, hany]
  show (_ → (_ ↔ s.isAnyActive = true)) ↔ _
  by_cases hact : s.engineState = .active
  · have htrue : s.isAnyActive = true := (h (by simp [hact])).mp hact
    simp [u, hact, htrue]
  · refine iff_of_true ?_ hact
    have hsame : (if u.engineState = .active then .on else u.engineState) =
        s.engineState := if_neg hact
    rw [hsame]
    exact h

/-! ## Runs -/

/-- The steps that leave a status that reflects the providers. -/
def KeepsReflecting (a : Action) (s : System) : Prop :=
  match a with
  | .setEngineState v => AssignsTruly v s
  | .setOnline true => s.Online ∨ s.isAnyActive = false
  | .constructService => s.engineState ≠ .active
  | _ => True

instance KeepsReflecting.decidable : ∀ a s, Decidable (KeepsReflecting a s)
  | .setEngineState v, s => inferInstanceAs (Decidable (AssignsTruly v s))
  | .setOnline true, _ => inferInstanceAs (Decidable (_ ∨ _))
  | .constructService, _ => inferInstanceAs (Decidable (_ ≠ _))
  | .setOnline false, _ | .setSatellite _, _ | .setDoesSatellite _, _
  | .start _ _, _ | .stop _ _, _ | .addProvider _ _, _ => isTrue trivial

private theorem reflects_settle_isOnline_iff {s : System} (hs : Inv s)
    (h : s.ReflectsProviders) (v : Bool) :
    (s.settle (.isOnline v)).ReflectsProviders ↔
      KeepsReflecting (.setOnline v) s := by
  by_cases hholds : holds (.isOnline v) s = true
  · rw [settle_of_holds hholds]
    apply iff_of_true h
    cases v with
    | false => trivial
    | true =>
        refine .inl ?_
        simpa [holds, Online] using hholds
  · have hrun := settle_isOnline (Bool.eq_false_iff.mpr hholds)
    have hu : (store (.isOnline v) s).ReflectsProviders := h
    rw [hrun, reflects_settleEngineState_iff hu]
    cases v with
    | false => exact iff_of_true trivial trivial
    | true =>
        have hoffline : ¬ s.Online := by
          simpa [holds, Online] using hholds
        have hoff : s.engineState = .off := by
          by_contra hne
          exact hoffline (hs.switches.online hne)
        constructor
        · rintro (hon | hany)
          · rw [show s.engineState = .on from hon] at hoff
            cases hoff
          · exact .inr hany
        · rintro (hon | hany)
          · exact absurd hon hoffline
          · exact .inr hany

/-- One step from a state that reflects its providers. -/
theorem reflects_step_iff {a : Action} {s t : System} (hs : Inv s)
    (h : s.ReflectsProviders) (hst : Step a s t) :
    t.ReflectsProviders ↔ KeepsReflecting a s := by
  have hexec := step_iff.mp hst
  have hset := hs.switches.settled
  cases a with
  | setEngineState v =>
      obtain rfl : s.settle (.engineState v) = t := Option.some.inj hexec
      rw [settle_engineState]
      exact reflects_settleEngineState_iff h v
  | setSatellite v =>
      obtain rfl : s.settle (.satelliteBasedPositioningState v) = t :=
        Option.some.inj hexec
      refine iff_of_true ?_ trivial
      unfold settle
      split
      · exact h
      · exact reflects_settleSatelliteState h hset v
  | setOnline v =>
      obtain rfl : s.settle (.isOnline v) = t := Option.some.inj hexec
      exact reflects_settle_isOnline_iff hs h v
  | setDoesSatellite v =>
      obtain rfl : s.settle (.doesSatelliteBasedPositioning v) = t :=
        Option.some.inj hexec
      refine iff_of_true ?_ trivial
      unfold settle
      split
      · exact h
      · exact reflects_settleSatelliteState
          (s := store (.doesSatelliteBasedPositioning v) s) h
          (hset.storeDoesSatellite v) _
  | start i x =>
      obtain ⟨hi, rfl⟩ := step_start hst
      have hhooks := reflectsProviders_survivesHooks i
      exact iff_of_true (hhooks.settleStartUpdates hs.switches hi h x) trivial
  | stop i x =>
      obtain ⟨hi, rfl⟩ := step_stop hst
      have hhooks := reflectsProviders_survivesHooks i
      exact iff_of_true (hhooks.settleStopUpdates hs.switches hi h x) trivial
  | addProvider k req =>
      obtain rfl : s.addProvider k req = t := Option.some.inj hexec
      refine iff_of_true ?_ trivial
      intro hne
      rw [addProvider_isAnyActive hs.sound]
      exact h hne
  | constructService =>
      obtain ⟨-, rfl⟩ := step_constructService hst
      exact reflects_settleConstructService_iff h

/-- With anything but active persisted, the status reflects the providers in
every state of a run that neither switches the engine on over an active
provider nor constructs the service over an active engine, and the first step
that does breaks this. -/
theorem engine_state_reflects {v : Status} (hv : v ≠ .active) {s : System}
    (h : (machine.startingAt (initEngine v)).Reach KeepsReflecting s) :
    s.ReflectsProviders ∧
      ∀ a t, Step a s t → (t.ReflectsProviders ↔ KeepsReflecting a s) := by
  have hinit : ∀ s, s = initEngine v → Inv s ∧ s.ReflectsProviders := by
    rintro s rfl
    exact ⟨inv_initEngine v, (reflects_initEngine_iff v).mpr hv⟩
  have hrun := h.keeps_exactly hinit (fun _ _ _ => inv_step)
    (fun _ _ _ => reflects_step_iff)
  exact hrun.2

/-- A provider is started, and stopped again. -/
theorem engine_state_reflects_start :
    ∃ s, Machine.replay settleExec KeepsReflecting
        [.constructService, .addProvider 0 false, .start 0 .position,
          .stop 0 .position] (initEngine .on) = some s ∧
      s.ReflectsProviders ∧
      ∀ a t, Step a s t → (t.ReflectsProviders ↔ KeepsReflecting a s) := by
  have hrun : (Machine.replay settleExec KeepsReflecting
      [.constructService, .addProvider 0 false, .start 0 .position,
        .stop 0 .position] (initEngine .on)).isSome := by decide
  have hs := (Option.some_get hrun).symm
  have hinit : (machine.startingAt (initEngine .on)).Reach KeepsReflecting
      (initEngine .on) := .initial rfl
  have hreach := hinit.replay (fun _ _ _ h => step_iff.mpr h) _ hs
  exact ⟨_, hs, engine_state_reflects (by decide) hreach⟩

/-- An engine with active persisted stays active although it has only an idle
provider, and one that is set to on says so although its provider is active. -/
theorem engine_state_out_of_step :
    (∃ s, settleRun [.addProvider 0 false] (initEngine .active) = some s ∧
      Reachable s ∧ ¬ s.ReflectsProviders) ∧
    ∃ s, settleRun [.constructService, .addProvider 0 false,
        .start 0 .position, .setEngineState .on] (initEngine .on) = some s ∧
      Reachable s ∧ ¬ s.ReflectsProviders := by
  have hpersisted : (settleRun [.addProvider 0 false] (initEngine .active)).any
      (fun s => decide ¬ s.ReflectsProviders) = true := by decide
  have hassigned : (settleRun [.constructService, .addProvider 0 false,
      .start 0 .position, .setEngineState .on] (initEngine .on)).any
      (fun s => decide ¬ s.ReflectsProviders) = true := by decide
  exact ⟨exists_of_settleRun hpersisted, exists_of_settleRun hassigned⟩

end LocationService.System
