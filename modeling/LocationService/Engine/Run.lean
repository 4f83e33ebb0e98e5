import LocationService.Engine.Cascade
import LocationService.Library.Machine

/-!
# Runs of the engine and the service

The external steps are the assignments clients make, controller starts and
stops on the providers, new providers, and the construction of the service on
top of the engine.  Every step settles.  `Inv` holds in every state between
two steps: the counters of a provider never run ahead of those of its
implementation, and whatever the two switches disable is disabled.
-/

namespace LocationService.System

open LocationService.Library

/-! ## External steps -/

/-- What happens to an engine from outside. -/
inductive Action where
  | setEngineState (v : Status)
  | setSatellite (v : SatelliteBasedPositioningState)
  | setOnline (v : Bool)
  | setDoesSatellite (v : Bool)
  | start (i : ProviderId) (x : Stream)
  | stop (i : ProviderId) (x : Stream)
  | addProvider (k : Nat) (requiresSatellites : Bool)
  | constructService
  deriving DecidableEq, Repr

/-- The code of an external step, given the assignment function it calls.
Clients only reach providers that the engine knows. -/
def exec (set : Assigner System Assignment) : Action → System → Option System
  | .setEngineState v, s => set (.engineState v) s
  | .setSatellite v, s => set (.satelliteBasedPositioningState v) s
  | .setOnline v, s => set (.isOnline v) s
  | .setDoesSatellite v, s => set (.doesSatelliteBasedPositioning v) s
  | .start i x, s => if i ∈ s.order then s.startUpdates set i x else none
  | .stop i x, s => if i ∈ s.order then s.stopUpdates set i x else none
  | .addProvider k req, s => some (s.addProvider k req)
  | .constructService, s =>
      if s.service.isNone then s.constructService set else none

/-- The step `a` from `s` returns and leaves `t`. -/
def Step (a : Action) (s t : System) : Prop :=
  ∃ n, exec (network.assign n) a s = some t

/-- An engine from its construction on, with any status persisted before. -/
def machine : Machine System Action :=
  { initial := fun s => ∃ v, s = initEngine v
    step := Step }

/-- The states between the external steps of some run. -/
def Reachable (s : System) : Prop := machine.Reach (fun _ _ => True) s

/-! ## What controller calls settle to -/

/-- What a start on the controller of a provider settles to. -/
def settleStartUpdates (s : System) (i : ProviderId) (x : Stream) : System :=
  let (c, hook) := (s.provider i).controller.startUpdates x
  let s := s.setController i c
  if hook then s.settleStart i x else s

/-- What a stop on the controller of a provider settles to. -/
def settleStopUpdates (s : System) (i : ProviderId) (x : Stream) : System :=
  let (c, hook) := (s.provider i).controller.stopUpdates x
  let s := s.setController i c
  if hook then s.settleStop i x else s

theorem startUpdates_eq (n : Nat) (s : System) (i : ProviderId) (x : Stream) :
    s.startUpdates (network.assign (n + 5)) i x =
      some (s.settleStartUpdates i x) := by
  unfold startUpdates settleStartUpdates
  dsimp only
  rw [startHook_eq]
  split <;> rfl

theorem stopUpdates_eq (n : Nat) (s : System) (i : ProviderId) (x : Stream) :
    s.stopUpdates (network.assign (n + 5)) i x =
      some (s.settleStopUpdates i x) := by
  unfold stopUpdates settleStopUpdates
  dsimp only
  rw [stopHook_eq]
  split <;> rfl

/-- What the constructor body copies from the engine's status. -/
def settleCopyEngineState (s : System) : System :=
  match s.engineState with
  | .off => (s.settle (.isOnline false)).setServiceState .disabled
  | .on => (s.settle (.isOnline true)).setServiceState .enabled
  | .active => (s.settle (.isOnline true)).setServiceState .active

/-- What the constructor of the service settles to. -/
def settleConstructService (s : System) : System :=
  let s := { s with
    service := some ⟨false, .disabled, false⟩ }.settleCopyEngineState
  s.settle (.doesSatelliteBasedPositioning
    (s.satelliteBasedPositioningState == .on))

private theorem copyEngineState_eq (n : Nat) (s : System) :
    s.copyEngineState (network.assign (n + 9)) =
      some s.settleCopyEngineState := by
  unfold copyEngineState settleCopyEngineState
  cases s.engineState <;> simp [assign_settle]

theorem constructService_eq (n : Nat) (s : System) :
    s.constructService (network.assign (n + 9)) =
      some s.settleConstructService := by
  unfold constructService settleConstructService
  rw [copyEngineState_eq]
  exact assign_settle n _ _

/-- What an external step settles to; `none` when it does not apply. -/
def settleExec : Action → System → Option System
  | .setEngineState v, s => some (s.settle (.engineState v))
  | .setSatellite v, s => some (s.settle (.satelliteBasedPositioningState v))
  | .setOnline v, s => some (s.settle (.isOnline v))
  | .setDoesSatellite v, s =>
      some (s.settle (.doesSatelliteBasedPositioning v))
  | .start i x, s =>
      if i ∈ s.order then some (s.settleStartUpdates i x) else none
  | .stop i x, s =>
      if i ∈ s.order then some (s.settleStopUpdates i x) else none
  | .addProvider k req, s => some (s.addProvider k req)
  | .constructService, s =>
      if s.service.isNone then some s.settleConstructService else none

theorem exec_eq (n : Nat) (a : Action) (s : System) :
    exec (network.assign (n + 9)) a s = settleExec a s := by
  cases a with
  | setEngineState v => exact assign_settle n _ s
  | setSatellite v => exact assign_settle n _ s
  | setOnline v => exact assign_settle n _ s
  | setDoesSatellite v => exact assign_settle n _ s
  | start i x =>
      simp only [exec, settleExec]
      rw [startUpdates_eq (n + 4)]
  | stop i x =>
      simp only [exec, settleExec]
      rw [stopUpdates_eq (n + 4)]
  | addProvider k req => rfl
  | constructService =>
      simp only [exec, settleExec]
      rw [constructService_eq n]

theorem exec_le {f g : Assigner System Assignment} (h : f.Le g)
    (a : Action) {s t : System} (ht : exec f a s = some t) :
    exec g a s = some t := by
  cases a with
  | setEngineState v => exact h _ s t ht
  | setSatellite v => exact h _ s t ht
  | setOnline v => exact h _ s t ht
  | setDoesSatellite v => exact h _ s t ht
  | start i x =>
      simp only [exec] at ht ⊢
      split at ht
      · rename_i hi
        rw [if_pos hi]
        exact startUpdates_le h i x s t ht
      · cases ht
  | stop i x =>
      simp only [exec] at ht ⊢
      split at ht
      · rename_i hi
        rw [if_pos hi]
        exact stopUpdates_le h i x s t ht
      · cases ht
  | addProvider k req => exact ht
  | constructService =>
      simp only [exec] at ht ⊢
      split at ht
      · rename_i hs
        rw [if_pos hs]
        exact constructService_le h s t ht
      · cases ht

/-- A step leaves what it settles to. -/
theorem step_iff {a : Action} {s t : System} :
    Step a s t ↔ settleExec a s = some t := by
  constructor
  · rintro ⟨n, hn⟩
    have hm := exec_le (network.assign_mono (Nat.le_add_right n 9)) a hn
    rwa [exec_eq] at hm
  · intro h
    exact ⟨9, by rw [exec_eq 0]; exact h⟩

theorem step_start {i : ProviderId} {x : Stream} {s t : System}
    (h : Step (.start i x) s t) :
    i ∈ s.order ∧ s.settleStartUpdates i x = t := by
  have hexec := step_iff.mp h
  simp only [settleExec] at hexec
  split at hexec
  · rename_i hi
    exact ⟨hi, Option.some.inj hexec⟩
  · cases hexec

theorem step_stop {i : ProviderId} {x : Stream} {s t : System}
    (h : Step (.stop i x) s t) :
    i ∈ s.order ∧ s.settleStopUpdates i x = t := by
  have hexec := step_iff.mp h
  simp only [settleExec] at hexec
  split at hexec
  · rename_i hi
    exact ⟨hi, Option.some.inj hexec⟩
  · cases hexec

theorem step_constructService {s t : System}
    (h : Step .constructService s t) :
    s.service = none ∧ s.settleConstructService = t := by
  have hexec := step_iff.mp h
  simp only [settleExec] at hexec
  split at hexec
  · rename_i hnone
    exact ⟨Option.isNone_iff_eq_none.mp hnone, Option.some.inj hexec⟩
  · cases hexec

/-! ## Every step comes to an end -/

/-- The step can be taken: clients only reach providers that the engine knows,
and an engine gets one service. -/
def Action.Applies (s : System) : Action → Prop
  | .start i _ | .stop i _ => i ∈ s.order
  | .constructService => s.service = none
  | _ => True

theorem settleExec_of_applies {a : Action} {s : System} (h : a.Applies s) :
    ∃ t, settleExec a s = some t := by
  cases a with
  | start i x => exact ⟨_, if_pos h⟩
  | stop i x => exact ⟨_, if_pos h⟩
  | constructService =>
      refine ⟨s.settleConstructService, if_pos ?_⟩
      exact Option.isNone_iff_eq_none.mpr h
  | _ => exact ⟨_, rfl⟩

/-- From any state, and with any number of providers, the assignments nested
in a step are at most nine deep, so that the step is a function of the
state. -/
theorem cascade_terminates {a : Action} {s : System} (h : a.Applies s) :
    ∃ t, (∀ n, 9 ≤ n → exec (network.assign n) a s = some t) ∧
      ∀ u, Step a s u → u = t := by
  obtain ⟨t, ht⟩ := settleExec_of_applies h
  refine ⟨t, fun n hn => ?_, fun u hu => ?_⟩
  · obtain ⟨m, rfl⟩ := Nat.exists_eq_add_of_le' hn
    rw [exec_eq]
    exact ht
  · have hsettle := step_iff.mp hu
    rw [ht] at hsettle
    exact (Option.some.inj hsettle).symm

/-! ## Runs as lists of steps -/

/-- What a list of external steps settles to. -/
def settleRun (as : List Action) (s : System) : Option System :=
  Machine.replay settleExec (fun _ _ => True) as s

/-- A property that a computed run ends with holds in the reachable state it
ends in. -/
theorem exists_of_settleRun {v : Status} {as : List Action}
    {P : System → Prop} [DecidablePred P]
    (h : (settleRun as (initEngine v)).any (fun s => decide (P s)) = true) :
    ∃ s, settleRun as (initEngine v) = some s ∧ Reachable s ∧ P s := by
  have hinit : machine.Reach (fun _ _ => True) (initEngine v) :=
    .initial ⟨v, rfl⟩
  exact hinit.exists_of_replay (fun _ _ _ h => step_iff.mpr h) h

/-- Going offline while a provider is active: the stop hook turns the engine
on again in the middle of switching it off. -/
theorem cascade_terminates_going_offline :
    ∃ s, settleRun [.constructService, .addProvider 0 false,
        .start 0 .position] (initEngine .on) = some s ∧
      ∃ t, (∀ n, 9 ≤ n → exec (network.assign n) (.setOnline false) s =
          some t) ∧
        ∀ u, Step (.setOnline false) s u → u = t := by
  have hrun : (settleRun [.constructService, .addProvider 0 false,
      .start 0 .position] (initEngine .on)).isSome := by decide
  have hs := (Option.some_get hrun).symm
  exact ⟨_, hs, cascade_terminates trivial⟩

end LocationService.System
