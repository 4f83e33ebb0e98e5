import LocationService.Engine.Model
import LocationService.Provider.SharedSwitch

/-!
# The state of a single provider

`StateTrackingProvider` has one two-valued state and three streams, each with
its own counter in the state controller.  Every start hook sets the state to
active and every stop hook sets it back, whatever the other streams do.

The state is followed through every sequence of starts and stops on a new
provider.  It tells whether any stream is running until a stream is stopped
next to another one that runs.
-/

namespace LocationService

open Library

namespace StateTrackingProvider

/-- `start_*_updates`, the hook. -/
def startHook (p : StateTrackingProvider) (x : Stream) : StateTrackingProvider :=
  { p with state := .active, impl := p.impl.startUpdates x }

/-- `stop_*_updates`, the hook. -/
def stopHook (p : StateTrackingProvider) (x : Stream) : StateTrackingProvider :=
  { p with state := .enabled, impl := p.impl.stopUpdates x }

/-- A call through the state controller. -/
def next (call : Call) (p : StateTrackingProvider) : StateTrackingProvider :=
  match call with
  | .start x =>
      let (c, hook) := p.controller.startUpdates x
      let p := { p with controller := c }
      if hook then p.startHook x else p
  | .stop x =>
      let (c, hook) := p.controller.stopUpdates x
      let p := { p with controller := c }
      if hook then p.stopHook x else p

/-- The providers at the end of a run whose calls all meet a condition. -/
abbrev Reachable (requiresSatellites : Bool)
    (guard : Call → StateTrackingProvider → Prop) (p : StateTrackingProvider) :
    Prop :=
  (Machine.ofStep (init requiresSatellites) next).Reach guard p

/-- The provider is active exactly if any of its streams is running. -/
def TracksStreams (p : StateTrackingProvider) : Prop :=
  p.state = .active ↔ p.controller.RunsAny

instance (p : StateTrackingProvider) : Decidable p.TracksStreams :=
  inferInstanceAs (Decidable (_ ↔ _))

/-- The last observer of a stream leaves only while no other stream is running,
and a counter wraps around only while one is. -/
def LeavesLast (call : Call) (p : StateTrackingProvider) : Prop :=
  match call with
  | .start x =>
      p.controller.counter x = maxCounter → p.controller.RunsBeside x
  | .stop x => p.controller.counter x = 1 → ¬ p.controller.RunsBeside x

instance (call : Call) (p : StateTrackingProvider) :
    Decidable (LeavesLast call p) :=
  match call with
  | .start x =>
      inferInstanceAs
        (Decidable (_ → p.controller.RunsBeside x))
  | .stop x =>
      inferInstanceAs
        (Decidable (_ → ¬ p.controller.RunsBeside x))

/-- The state is a switch that the streams share. -/
def sharedSwitch : SharedSwitch StateTrackingProvider where
  controller := controller
  setController := fun c p => { p with controller := c }
  startHook := fun x p => p.startHook x
  stopHook := fun x p => p.stopHook x
  isOn := fun p => p.state = .active
  controller_setController := fun _ _ => rfl
  controller_startHook := fun _ _ => rfl
  controller_stopHook := fun _ _ => rfl
  isOn_setController := fun _ _ => Iff.rfl
  isOn_startHook := fun _ _ => rfl
  not_isOn_stopHook := fun _ _ => by simp [stopHook]

/-- A call steps the provider as one with a shared switch. -/
theorem next_eq (call : Call) (p : StateTrackingProvider) :
    next call p = sharedSwitch.next call p := by
  cases call <;> rfl

theorem leavesLast_eq (call : Call) (p : StateTrackingProvider) :
    LeavesLast call p ↔ p.controller.LeavesLast call := by
  cases call <;> exact Iff.rfl

/-- As long as the last observer of a stream leaves only while no other stream
is running, the provider is active exactly while any stream is; the first other
call ends that. -/
theorem state_is_union_of_streams (requiresSatellites : Bool)
    {p : StateTrackingProvider} (h : Reachable requiresSatellites LeavesLast p) :
    p.TracksStreams ∧
      ∀ call, (next call p).TracksStreams ↔ LeavesLast call p := by
  have hnext : next = sharedSwitch.next := by
    funext call p
    exact next_eq call p
  have hguard : LeavesLast =
      fun call p => (sharedSwitch.controller p).LeavesLast call := by
    funext call p
    exact propext (leavesLast_eq call p)
  rw [Reachable, hnext, hguard] at h
  rw [hnext, hguard]
  exact sharedSwitch.tracks_of_reach rfl (by simp [sharedSwitch, init]) h

theorem state_is_union_of_streams_two_observers :
    ∃ p, Reachable false LeavesLast p ∧ p.state = .active ∧
      p.controller.RunsAny := by
  have hrun : (Machine.replay (fun call p => some (next call p)) LeavesLast
      [.start .position, .start .position, .stop .position]
      (init false)).any (fun p => decide (p.state = .active)) = true := by
    decide
  obtain ⟨p, hreach, hactive⟩ := Machine.Reach.ofStep_exists_of_replay _ hrun
  have htracks := (state_is_union_of_streams false hreach).1
  exact ⟨p, hreach, hactive, htracks.mp hactive⟩

/-- The provider goes on with the heading, but its state says that it is
idle. -/
theorem stop_hides_other_stream :
    let p := next (.stop .position)
      (next (.start .heading) (next (.start .position) (init false)))
    p.state = .enabled ∧ p.controller.areUpdatesRunning .heading = true ∧
      ¬ p.TracksStreams := by
  decide

end StateTrackingProvider

end LocationService
