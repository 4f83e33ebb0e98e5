import LocationService.Provider.SharedSwitch

/-!
# The workers of the gpsd and geoclue providers

Both providers receive all of their data on one worker thread.  The hooks of
all streams start the same worker and stop it again, so the end of one stream
ends the others.
-/

namespace LocationService

open Library

namespace Gpsd

/-- `gpsd::Provider`: the run flag, and whether the worker is joinable. -/
structure Provider where
  controller : Controller
  mRun : Bool := false
  workerJoinable : Bool := false

namespace Provider

def init : Provider := { controller := .init }

/-- `start` -/
def start (p : Provider) : Provider :=
  if p.mRun then p
  else
    let p := { p with mRun := true }
    if ¬ p.workerJoinable then { p with workerJoinable := true } else p

/-- `stop`, which waits for the worker. -/
def stop (p : Provider) : Provider :=
  if ¬ p.mRun then p
  else
    let p := { p with mRun := false }
    if p.workerJoinable then { p with workerJoinable := false } else p

def startPositionUpdates (p : Provider) : Provider := p.start
def stopPositionUpdates (p : Provider) : Provider := p.stop
def startVelocityUpdates (p : Provider) : Provider := p.start
def stopVelocityUpdates (p : Provider) : Provider := p.stop
def startHeadingUpdates (p : Provider) : Provider := p.start
def stopHeadingUpdates (p : Provider) : Provider := p.stop

/-- `start_*_updates`, the hook. -/
def startHook (x : Stream) (p : Provider) : Provider :=
  match x with
  | .position => p.startPositionUpdates
  | .heading => p.startHeadingUpdates
  | .velocity => p.startVelocityUpdates

/-- `stop_*_updates`, the hook. -/
def stopHook (x : Stream) (p : Provider) : Provider :=
  match x with
  | .position => p.stopPositionUpdates
  | .heading => p.stopHeadingUpdates
  | .velocity => p.stopVelocityUpdates

theorem startHook_eq (x : Stream) (p : Provider) : p.startHook x = p.start := by
  cases x <;> rfl

theorem stopHook_eq (x : Stream) (p : Provider) : p.stopHook x = p.stop := by
  cases x <;> rfl

@[simp] theorem start_controller (p : Provider) :
    p.start.controller = p.controller := by
  unfold start
  by_cases hrun : p.mRun <;> by_cases hjoin : p.workerJoinable <;>
    simp [hrun, hjoin]

@[simp] theorem stop_controller (p : Provider) :
    p.stop.controller = p.controller := by
  unfold stop
  by_cases hrun : p.mRun <;> by_cases hjoin : p.workerJoinable <;>
    simp [hrun, hjoin]

@[simp] theorem start_mRun (p : Provider) : p.start.mRun = true := by
  unfold start
  by_cases hrun : p.mRun <;> by_cases hjoin : p.workerJoinable <;>
    simp [hrun, hjoin]

@[simp] theorem stop_mRun (p : Provider) : p.stop.mRun = false := by
  unfold stop
  by_cases hrun : p.mRun <;> by_cases hjoin : p.workerJoinable <;>
    simp [hrun, hjoin]

/-- The run flag is a switch that the streams share. -/
def sharedSwitch : SharedSwitch Provider where
  controller := controller
  setController := fun c p => { p with controller := c }
  startHook := startHook
  stopHook := stopHook
  isOn := fun p => p.mRun = true
  controller_setController := fun _ _ => rfl
  controller_startHook := fun x p => by rw [startHook_eq, start_controller]
  controller_stopHook := fun x p => by rw [stopHook_eq, stop_controller]
  isOn_setController := fun _ _ => Iff.rfl
  isOn_startHook := fun x p => by rw [startHook_eq, start_mRun]
  not_isOn_stopHook := fun x p => by simp [stopHook_eq]

/-- A call through the state controller. -/
def next (call : Call) (p : Provider) : Provider := sharedSwitch.next call p

/-- The providers at the end of a run whose calls all meet a condition. -/
abbrev Reachable (guard : Call → Provider → Prop) (p : Provider) : Prop :=
  (Machine.ofStep init next).Reach guard p

/-- The worker is running exactly if any stream is. -/
def TracksStreams (p : Provider) : Prop :=
  p.mRun = true ↔ p.controller.RunsAny

instance (p : Provider) : Decidable p.TracksStreams :=
  inferInstanceAs (Decidable (_ ↔ _))

end Provider

end Gpsd

namespace Geoclue

/-- `geoclue::Provider`: whether the worker that runs its bus is joinable. -/
structure Provider where
  controller : Controller
  workerJoinable : Bool := false

namespace Provider

def init : Provider := { controller := .init }

/-- `start` -/
def start (p : Provider) : Provider :=
  if ¬ p.workerJoinable then { p with workerJoinable := true } else p

/-- `stop`, which stops the bus and waits for the worker. -/
def stop (p : Provider) : Provider :=
  if p.workerJoinable then { p with workerJoinable := false } else p

def startPositionUpdates (p : Provider) : Provider := p.start
def stopPositionUpdates (p : Provider) : Provider := p.stop
def startVelocityUpdates (p : Provider) : Provider := p.start
def stopVelocityUpdates (p : Provider) : Provider := p.stop
def startHeadingUpdates (p : Provider) : Provider := p.start
def stopHeadingUpdates (p : Provider) : Provider := p.stop

/-- `start_*_updates`, the hook. -/
def startHook (x : Stream) (p : Provider) : Provider :=
  match x with
  | .position => p.startPositionUpdates
  | .heading => p.startHeadingUpdates
  | .velocity => p.startVelocityUpdates

/-- `stop_*_updates`, the hook. -/
def stopHook (x : Stream) (p : Provider) : Provider :=
  match x with
  | .position => p.stopPositionUpdates
  | .heading => p.stopHeadingUpdates
  | .velocity => p.stopVelocityUpdates

theorem startHook_eq (x : Stream) (p : Provider) :
    p.startHook x = { p with workerJoinable := true } := by
  have hstart : p.start = { p with workerJoinable := true } := by
    rcases p with ⟨c, joinable⟩
    cases joinable <;> rfl
  cases x <;> exact hstart

theorem stopHook_eq (x : Stream) (p : Provider) :
    p.stopHook x = { p with workerJoinable := false } := by
  have hstop : p.stop = { p with workerJoinable := false } := by
    rcases p with ⟨c, joinable⟩
    cases joinable <;> rfl
  cases x <;> exact hstop

/-- The worker is a switch that the streams share. -/
def sharedSwitch : SharedSwitch Provider where
  controller := controller
  setController := fun c p => { p with controller := c }
  startHook := startHook
  stopHook := stopHook
  isOn := fun p => p.workerJoinable = true
  controller_setController := fun _ _ => rfl
  controller_startHook := fun x p => by rw [startHook_eq]
  controller_stopHook := fun x p => by rw [stopHook_eq]
  isOn_setController := fun _ _ => Iff.rfl
  isOn_startHook := fun x p => by rw [startHook_eq]
  not_isOn_stopHook := fun x p => by simp [stopHook_eq]

/-- A call through the state controller. -/
def next (call : Call) (p : Provider) : Provider := sharedSwitch.next call p

/-- The providers at the end of a run whose calls all meet a condition. -/
abbrev Reachable (guard : Call → Provider → Prop) (p : Provider) : Prop :=
  (Machine.ofStep init next).Reach guard p

/-- The worker is running exactly if any stream is. -/
def TracksStreams (p : Provider) : Prop :=
  p.workerJoinable = true ↔ p.controller.RunsAny

instance (p : Provider) : Decidable p.TracksStreams :=
  inferInstanceAs (Decidable (_ ↔ _))

end Provider

end Geoclue

/-- The thread of the gpsd provider exists exactly while the run flag is
set. -/
theorem Gpsd.Provider.workerJoinable_eq {p : Gpsd.Provider}
    {guard : Call → Gpsd.Provider → Prop} (h : Gpsd.Provider.Reachable guard p) :
    p.workerJoinable = p.mRun := by
  have hstart (p : Gpsd.Provider) (hp : p.workerJoinable = p.mRun) :
      p.start.workerJoinable = p.start.mRun := by
    unfold start
    cases hrun : p.mRun <;> simp [hp, hrun]
  have hstop (p : Gpsd.Provider) (hp : p.workerJoinable = p.mRun) :
      p.stop.workerJoinable = p.stop.mRun := by
    unfold stop
    cases hrun : p.mRun <;> simp [hp, hrun]
  apply h.ofStep_invariant (fun p => p.workerJoinable = p.mRun) rfl
  intro call p hp _
  apply SharedSwitch.next_preserves (w := sharedSwitch)
    (P := fun p => p.workerJoinable = p.mRun) _ _ _ call hp
  · exact fun _ _ h => h
  · intro x p hp
    show (p.startHook x).workerJoinable = (p.startHook x).mRun
    rw [startHook_eq]
    exact hstart p hp
  · intro x p hp
    show (p.stopHook x).workerJoinable = (p.stopHook x).mRun
    rw [stopHook_eq]
    exact hstop p hp

/-- As long as the last observer of a stream leaves only while no other stream
is running, the workers of both providers run exactly while any stream does;
the first other call ends that. -/
theorem workers_track_streams (p : Gpsd.Provider) (q : Geoclue.Provider) :
    (Gpsd.Provider.Reachable (fun call p => p.controller.LeavesLast call) p →
      p.TracksStreams ∧ ∀ call, (Gpsd.Provider.next call p).TracksStreams ↔
        p.controller.LeavesLast call) ∧
    (Geoclue.Provider.Reachable (fun call q => q.controller.LeavesLast call) q →
      q.TracksStreams ∧ ∀ call, (Geoclue.Provider.next call q).TracksStreams ↔
        q.controller.LeavesLast call) := by
  constructor
  · intro h
    exact Gpsd.Provider.sharedSwitch.tracks_of_reach rfl (by
      simp [Gpsd.Provider.sharedSwitch, Gpsd.Provider.init]) h
  · intro h
    exact Geoclue.Provider.sharedSwitch.tracks_of_reach rfl (by
      simp [Geoclue.Provider.sharedSwitch, Geoclue.Provider.init]) h

/-- Two observers of the position, of which one leaves. -/
theorem workers_track_streams_two_observers :
    (∃ p : Gpsd.Provider, p.mRun = true ∧ p.controller.RunsAny) ∧
      ∃ p : Geoclue.Provider, p.workerJoinable = true ∧
        p.controller.RunsAny := by
  constructor
  · have hrun : (Machine.replay (fun call p => some (Gpsd.Provider.next call p))
        (fun call p => p.controller.LeavesLast call)
        [.start .position, .start .position, .stop .position]
        Gpsd.Provider.init).any (fun p => decide (p.mRun = true)) = true := by
      decide
    obtain ⟨p, hreach, hruns⟩ := Machine.Reach.ofStep_exists_of_replay _ hrun
    have htracks := ((workers_track_streams p .init).1 hreach).1
    exact ⟨p, hruns, htracks.mp hruns⟩
  · have hrun : (Machine.replay
        (fun call p => some (Geoclue.Provider.next call p))
        (fun call p => p.controller.LeavesLast call)
        [.start .position, .start .position, .stop .position]
        Geoclue.Provider.init).any
          (fun p => decide (p.workerJoinable = true)) = true := by
      decide
    obtain ⟨p, hreach, hruns⟩ := Machine.Reach.ofStep_exists_of_replay _ hrun
    have htracks := ((workers_track_streams .init p).2 hreach).1
    exact ⟨p, hruns, htracks.mp hruns⟩

/-- The position is stopped, and with it the worker that the velocity still
needs. -/
theorem stop_silences_other_stream :
    (let p := Gpsd.Provider.next (.stop .position)
      (Gpsd.Provider.next (.start .velocity)
        (Gpsd.Provider.next (.start .position) Gpsd.Provider.init))
     p.mRun = false ∧ p.controller.areUpdatesRunning .velocity = true ∧
       ¬ p.TracksStreams) ∧
    (let p := Geoclue.Provider.next (.stop .position)
      (Geoclue.Provider.next (.start .velocity)
        (Geoclue.Provider.next (.start .position) Geoclue.Provider.init))
     p.workerJoinable = false ∧
       p.controller.areUpdatesRunning .velocity = true ∧
         ¬ p.TracksStreams) := by
  decide

end LocationService
