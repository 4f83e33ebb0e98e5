import LocationService.Library.Announcements
import LocationService.Library.Machine
import LocationService.Provider.Controller

/-!
# The calls of a controller on its provider

Any sequence of starts, stops, enables and disables on one controller, with the
calls that it makes on its provider.  A controller counts observers of a stream
and keeps the mark of a disabled controller in the same number, and the number
is a `std::atomic<int>`, which wraps around.

Two laws are followed through such sequences: that the calls for a stream
alternate and tell whether it runs, and that only `disable` makes a controller
refuse starts.  Each comes with the calls that break it.
-/

namespace LocationService

open Library

namespace Controller

theorem areUpdatesRunning_iff (c : Controller) (x : Stream) :
    c.areUpdatesRunning x = true ↔ 0 < c.counter x :=
  decide_eq_true_iff

@[simp] theorem areUpdatesRunning_setCounter_self (c : Controller) (x : Stream)
    (v : Int) : (c.setCounter x v).areUpdatesRunning x = decide (0 < v) := by
  simp [areUpdatesRunning]

@[simp] theorem areUpdatesRunning_setCounter_ne (c : Controller) {x y : Stream}
    (v : Int) (h : y ≠ x) :
    (c.setCounter x v).areUpdatesRunning y = c.areUpdatesRunning y := by
  simp [areUpdatesRunning, h]

end Controller

/-- The announcement that a hook call makes about its stream. -/
def Call.announcement : Call → Stream × Bool
  | .start x => (x, true)
  | .stop x => (x, false)

namespace Implementation

/-- `state_controller()->enable()` -/
def enable (p : Implementation) : Implementation :=
  { p with controller := p.controller.enable }

/-- One conditional stop of `Controller::disable`. -/
def disableStream (c : Controller) (calls : List Call) (x : Stream) :
    List Call :=
  if 0 < c.counter x then .stop x :: calls else calls

/-- `state_controller()->disable()`; the counters keep their values while the
stop hooks run. -/
def disable (p : Implementation) : Implementation :=
  ⟨p.controller.markDisabled,
    Stream.all.foldl (disableStream p.controller) p.calls⟩

/-- What the calls have announced about the streams. -/
def announced (calls : List Call) : Announcements Stream :=
  calls.map Call.announcement

/-- The calls for each stream alternate, beginning with a start, and the last
one is a start exactly for the streams whose updates are running. -/
def CallsAlternate (p : Implementation) : Prop :=
  (announced p.calls).Mirrors fun x => p.controller.areUpdatesRunning x = true

end Implementation

/-! ## Runs -/

/-- A call on the controller. -/
inductive ControllerCall where
  | start (x : Stream)
  | stop (x : Stream)
  | enable
  | disable
  deriving DecidableEq, Repr

/-- A provider with the calls that were made on its controller, the newest
first. -/
structure ControllerRun where
  provider : Implementation
  made : List ControllerCall

namespace ControllerRun

def init : ControllerRun := ⟨.init, []⟩

/-- What a call on the controller does to the provider. -/
def perform (call : ControllerCall) (p : Implementation) : Implementation :=
  match call with
  | .start x => p.startUpdates x
  | .stop x => p.stopUpdates x
  | .enable => p.enable
  | .disable => p.disable

def next (call : ControllerCall) (r : ControllerRun) : ControllerRun :=
  ⟨perform call r.provider, call :: r.made⟩

abbrev Reachable (guard : ControllerCall → ControllerRun → Prop)
    (r : ControllerRun) : Prop :=
  (Machine.ofStep init next).Reach guard r

/-! ## The calls alternate -/

/-- The controller is only enabled while no updates are running, and no counter
wraps around. -/
def EnablesAtRest (call : ControllerCall) (r : ControllerRun) : Prop :=
  match call with
  | .start x => r.provider.controller.counter x ≠ maxCounter
  | .stop _ => True
  | .enable => ∀ y, r.provider.controller.areUpdatesRunning y = false
  | .disable => True

end ControllerRun

namespace Implementation

open Announcements

variable {p : Implementation}

/-- A new counter without a call keeps the calls in step exactly if the stream
runs as before. -/
theorem CallsAlternate.setCounter_iff (h : p.CallsAlternate) (x : Stream)
    (v : Int) :
    CallsAlternate ⟨p.controller.setCounter x v, p.calls⟩ ↔
      (0 < v ↔ 0 < p.controller.counter x) := by
  unfold CallsAlternate at *
  rw [h.set_iff]
  constructor
  · intro hsame
    have hx := hsame x
    rwa [Controller.areUpdatesRunning_setCounter_self, decide_eq_true_iff,
      Controller.areUpdatesRunning_iff] at hx
  · intro hx y
    by_cases heq : y = x
    · subst heq
      rwa [Controller.areUpdatesRunning_setCounter_self, decide_eq_true_iff,
        Controller.areUpdatesRunning_iff]
    · rw [Controller.areUpdatesRunning_setCounter_ne _ _ heq]

/-- A new counter with a call keeps them in step if the stream runs
accordingly, before and after. -/
theorem CallsAlternate.call (h : p.CallsAlternate) (call : Call) (v : Int)
    (hbefore : call.announcement.2 = true ↔
      ¬ 0 < p.controller.counter call.announcement.1)
    (hafter : call.announcement.2 = true ↔ 0 < v) :
    CallsAlternate
      ⟨p.controller.setCounter call.announcement.1 v, call :: p.calls⟩ := by
  unfold CallsAlternate at *
  have hothers : ∀ y, y ≠ call.announcement.1 →
      ((p.controller.setCounter call.announcement.1 v).areUpdatesRunning y =
        true ↔ p.controller.areUpdatesRunning y = true) := by
    intro y hy
    rw [Controller.areUpdatesRunning_setCounter_ne _ _ hy]
  show Mirrors ((call.announcement.1, call.announcement.2) :: announced p.calls)
    fun y =>
      (p.controller.setCounter call.announcement.1 v).areUpdatesRunning y = true
  rw [h.cons_iff hothers, Controller.areUpdatesRunning_iff,
    Controller.areUpdatesRunning_setCounter_self, decide_eq_true_iff]
  exact ⟨hbefore, hafter⟩

/-- A start keeps the calls in step unless the counter wraps around. -/
theorem CallsAlternate.start_iff (h : p.CallsAlternate) (x : Stream) :
    (p.startUpdates x).CallsAlternate ↔
      p.controller.counter x ≠ maxCounter := by
  unfold startUpdates
  rcases p.controller.startUpdates_cases x with
    ⟨hneg, hstart⟩ | ⟨hzero, hstart⟩ | ⟨hpos, hmax, hstart⟩ | ⟨hmax, hstart⟩
  · rw [hstart]
    apply iff_of_true h
    intro heq
    rw [heq] at hneg
    exact absurd hneg (by decide)
  · rw [hstart]
    refine iff_of_true (h.call (.start x) 1 ?_ ?_) ?_
    · simp [Call.announcement, hzero]
    · simp [Call.announcement]
    · rw [hzero]
      decide
  · rw [hstart]
    refine iff_of_true ((h.setCounter_iff x _).mpr ?_) hmax
    omega
  · -- the stream was running, and its new counter is negative
    rw [hstart]
    refine iff_of_false ?_ (fun hne => hne hmax)
    intro hafter
    have hsame := (h.setCounter_iff x _).mp hafter
    rw [hmax] at hsame
    exact absurd hsame (by decide)

theorem CallsAlternate.stop (h : p.CallsAlternate) (x : Stream) :
    (p.stopUpdates x).CallsAlternate := by
  unfold stopUpdates
  rcases p.controller.stopUpdates_cases x with
    ⟨-, hstop⟩ | ⟨hone, hstop⟩ | ⟨hnonneg, hne, hstop⟩
  · rw [hstop]
    exact h
  · rw [hstop]
    apply h.call (.stop x) 0
    · simp [Call.announcement, hone]
    · simp [Call.announcement]
  · rw [hstop]
    apply (h.setCounter_iff x _).mpr
    omega

theorem CallsAlternate.enable_iff (h : p.CallsAlternate) :
    p.enable.CallsAlternate ↔
      ∀ x, p.controller.areUpdatesRunning x = false := by
  unfold CallsAlternate at *
  show Mirrors (announced p.calls) _ ↔ _
  rw [h.set_iff]
  simp [enable, Controller.areUpdatesRunning]

/-- The stops of `disable` end every stream they are made for. -/
theorem mirrors_foldl_disableStream (c : Controller) (xs : List Stream) :
    ∀ (calls : List Call) (running : Stream → Prop), xs.Nodup →
      (∀ x ∈ xs, running x ↔ 0 < c.counter x) →
      Mirrors (announced calls) running →
      Mirrors (announced (xs.foldl (disableStream c) calls))
        fun x => running x ∧ x ∉ xs := by
  -- `running` loses a stream with each step, and the counters do not change:
  -- only the streams that are still to come have to agree with them
  induction xs with
  | nil =>
      intro calls running _ _ h
      simpa using h
  | cons x xs ih =>
      intro calls running hnodup hrunning h
      have hx := hrunning x List.mem_cons_self
      have hnotin := (List.nodup_cons.mp hnodup).1
      have hrest : ∀ y ∈ xs, (running y ∧ y ≠ x) ↔ 0 < c.counter y := by
        intro y hy
        have hne : y ≠ x := fun heq => hnotin (heq ▸ hy)
        have hmem : y ∈ x :: xs := List.mem_cons_of_mem x hy
        simp [hne, hrunning y hmem]
      have hhead : Mirrors (announced (disableStream c calls x))
          fun y => running y ∧ y ≠ x := by
        unfold disableStream
        by_cases hpos : 0 < c.counter x
        · rw [if_pos hpos]
          apply (h.cons_iff ?_).mpr
          · simp [hx.mpr hpos]
          · intro y hy
            simp [hy]
        · rw [if_neg hpos, h.set_iff]
          intro y
          have hstopped : running y → y ≠ x := by
            intro hy heq
            exact hpos (hx.mp (heq ▸ hy))
          exact ⟨fun hboth => hboth.1, fun hy => ⟨hy, hstopped hy⟩⟩
      have htail := ih _ _ (List.nodup_cons.mp hnodup).2 hrest hhead
      rw [List.foldl_cons]
      simpa [and_assoc, not_or] using htail

/-- Disabling stops what runs, and nothing else. -/
theorem CallsAlternate.disable (h : p.CallsAlternate) :
    p.disable.CallsAlternate := by
  unfold CallsAlternate at *
  have hstopped := mirrors_foldl_disableStream p.controller Stream.all p.calls _
    Stream.nodup_all (fun x _ => p.controller.areUpdatesRunning_iff x) h
  apply hstopped.set_iff.mpr
  intro x
  simp [Implementation.disable, Controller.areUpdatesRunning]

end Implementation

namespace ControllerRun

/-- A call on the controller keeps its calls on the provider in step unless it
enables a controller with running updates or wraps a counter around. -/
theorem callsAlternate_next_iff (call : ControllerCall) (r : ControllerRun)
    (h : r.provider.CallsAlternate) :
    (next call r).provider.CallsAlternate ↔ EnablesAtRest call r := by
  cases call with
  | start x => exact h.start_iff x
  | stop x => exact iff_of_true (h.stop x) trivial
  | enable => exact h.enable_iff
  | disable => exact iff_of_true h.disable trivial

/-- As long as the controller is only enabled at rest and no counter wraps
around, its calls for each stream alternate and tell which updates run; the
first other call ends that. -/
theorem controller_calls_alternate {r : ControllerRun}
    (h : Reachable EnablesAtRest r) :
    r.provider.CallsAlternate ∧
      ∀ call, (next call r).provider.CallsAlternate ↔ EnablesAtRest call r := by
  have hinit : init.provider.CallsAlternate := by
    refine ⟨trivial, ?_⟩
    intro x
    cases x <;> decide
  exact h.ofStep_keeps_itself (fun r => r.provider.CallsAlternate) hinit
    callsAlternate_next_iff

instance (call : ControllerCall) (r : ControllerRun) :
    Decidable (EnablesAtRest call r) :=
  match call with
  | .start x =>
      inferInstanceAs (Decidable (r.provider.controller.counter x ≠ _))
  | .stop _ => .isTrue trivial
  | .enable =>
      inferInstanceAs
        (Decidable (∀ y, r.provider.controller.areUpdatesRunning y = false))
  | .disable => .isTrue trivial

theorem controller_calls_alternate_restarted :
    ∃ r, Reachable EnablesAtRest r ∧
      r.provider.calls = [.start .position, .stop .position, .start .position] ∧
      r.provider.CallsAlternate := by
  have hrun : (Machine.replay (fun call r => some (next call r)) EnablesAtRest
      [.start .position, .disable, .enable, .start .position] init).any
        (fun r => decide (r.provider.calls =
          [.start .position, .stop .position, .start .position])) = true := by
    decide
  obtain ⟨r, hreach, hcalls⟩ := Machine.Reach.ofStep_exists_of_replay _ hrun
  have halternate := (controller_calls_alternate hreach).1
  exact ⟨r, hreach, hcalls, halternate⟩

/-- Enabling forgets a running stream, and the next start starts it again. -/
theorem controller_starts_twice :
    let r := next (.start .position)
      (next .enable (next (.start .position) init))
    r.provider.calls = [.start .position, .start .position] ∧
      ¬ r.provider.CallsAlternate := by
  intro r
  refine ⟨by decide, ?_⟩
  intro halternate
  exact absurd halternate.1 (by decide)

/-! ## Only disabling disables -/

/-- `disable` was called more recently than `enable`. -/
def isDisabled : List ControllerCall → Bool
  | [] => false
  | .enable :: _ => false
  | .disable :: _ => true
  | .start _ :: older => isDisabled older
  | .stop _ :: older => isDisabled older

/-- The controller ignores a start of the stream. -/
def Ignores (r : ControllerRun) (x : Stream) : Prop :=
  r.provider.startUpdates x = r.provider

/-- A start is ignored, on every stream, exactly while the controller is
disabled. -/
def RefusesWhenDisabled (r : ControllerRun) : Prop :=
  ∀ x, r.provider.controller.counter x < 0 ↔ isDisabled r.made = true

instance (r : ControllerRun) : Decidable r.RefusesWhenDisabled :=
  inferInstanceAs
    (Decidable (∀ x, r.provider.controller.counter x < 0 ↔ _))

/-- A stop is only made on a stream whose counter is not zero, and no counter
wraps around. -/
def StopsWhatCounts (call : ControllerCall) (r : ControllerRun) : Prop :=
  match call with
  | .start x => r.provider.controller.counter x ≠ maxCounter
  | .stop x => r.provider.controller.counter x ≠ 0
  | .enable => True
  | .disable => True

instance (call : ControllerCall) (r : ControllerRun) :
    Decidable (StopsWhatCounts call r) :=
  match call with
  | .start x =>
      inferInstanceAs (Decidable (r.provider.controller.counter x ≠ _))
  | .stop x =>
      inferInstanceAs (Decidable (r.provider.controller.counter x ≠ 0))
  | .enable => .isTrue trivial
  | .disable => .isTrue trivial

/-- A start is ignored exactly if the counter is negative. -/
theorem ignores_iff (r : ControllerRun) (x : Stream) :
    r.Ignores x ↔ r.provider.controller.counter x < 0 := by
  unfold Ignores Implementation.startUpdates
  constructor
  · intro hsame
    have hcounter := congrArg (fun p => p.controller.counter x) hsame
    rcases r.provider.controller.startUpdates_cases x with
      ⟨hneg, -⟩ | ⟨hzero, hstart⟩ | ⟨-, -, hstart⟩ | ⟨hmax, hstart⟩
    · exact hneg
    · simp [hstart, hzero] at hcounter
    · simp only [hstart, Controller.setCounter_self] at hcounter
      omega
    · simp [hstart, hmax, maxCounter] at hcounter
  · intro hneg
    have hstart : r.provider.controller.startUpdates x =
        (r.provider.controller, false) := if_pos hneg
    rw [hstart]
    rfl

/-- A new counter keeps the refusals right exactly if it has the sign of the
old one. -/
theorem RefusesWhenDisabled.setCounter_iff {r t : ControllerRun}
    (h : r.RefusesWhenDisabled) {x : Stream} {v : Int}
    (hcontroller : t.provider.controller =
      r.provider.controller.setCounter x v)
    (hmade : isDisabled t.made = isDisabled r.made) :
    t.RefusesWhenDisabled ↔ (v < 0 ↔ r.provider.controller.counter x < 0) := by
  unfold RefusesWhenDisabled
  rw [hcontroller, hmade]
  constructor
  · intro hafter
    have hx := hafter x
    rw [Controller.setCounter_self] at hx
    exact hx.trans (h x).symm
  · intro hx y
    by_cases heq : y = x
    · subst heq
      rw [Controller.setCounter_self]
      exact hx.trans (h y)
    · rw [Controller.setCounter_ne _ _ heq]
      exact h y

/-- Without a new counter the refusals stay right. -/
theorem RefusesWhenDisabled.of_same {r t : ControllerRun}
    (h : r.RefusesWhenDisabled)
    (hcontroller : t.provider.controller = r.provider.controller)
    (hmade : isDisabled t.made = isDisabled r.made) :
    t.RefusesWhenDisabled := by
  intro x
  rw [hcontroller, hmade]
  exact h x

theorem RefusesWhenDisabled.start_iff {r : ControllerRun}
    (h : r.RefusesWhenDisabled) (x : Stream) :
    (next (.start x) r).RefusesWhenDisabled ↔
      r.provider.controller.counter x ≠ maxCounter := by
  have hcontroller : (next (.start x) r).provider.controller =
      (r.provider.controller.startUpdates x).1 := rfl
  rcases r.provider.controller.startUpdates_cases x with
    ⟨hneg, hstart⟩ | ⟨hzero, hstart⟩ | ⟨hpos, hne, hstart⟩ | ⟨hmax, hstart⟩
  · rw [hstart] at hcontroller
    apply iff_of_true (h.of_same hcontroller rfl)
    unfold maxCounter
    omega
  · rw [hstart] at hcontroller
    rw [h.setCounter_iff hcontroller rfl, hzero]
    decide
  · rw [hstart] at hcontroller
    rw [h.setCounter_iff hcontroller rfl]
    refine iff_of_true ?_ hne
    omega
  · rw [hstart] at hcontroller
    rw [h.setCounter_iff hcontroller rfl, hmax]
    decide

theorem RefusesWhenDisabled.stop_iff {r : ControllerRun}
    (h : r.RefusesWhenDisabled) (x : Stream) :
    (next (.stop x) r).RefusesWhenDisabled ↔
      r.provider.controller.counter x ≠ 0 := by
  have hcontroller : (next (.stop x) r).provider.controller =
      (r.provider.controller.stopUpdates x).1 := rfl
  rcases r.provider.controller.stopUpdates_cases x with
    ⟨hneg, hstop⟩ | ⟨hone, hstop⟩ | ⟨hnonneg, hne, hstop⟩
  · rw [hstop] at hcontroller
    apply iff_of_true (h.of_same hcontroller rfl)
    omega
  · rw [hstop] at hcontroller
    rw [h.setCounter_iff hcontroller rfl, hone]
    decide
  · rw [hstop] at hcontroller
    rw [h.setCounter_iff hcontroller rfl]
    omega

theorem refusesWhenDisabled_next_iff (call : ControllerCall) (r : ControllerRun)
    (h : r.RefusesWhenDisabled) :
    (next call r).RefusesWhenDisabled ↔ StopsWhatCounts call r := by
  cases call with
  | start x => exact h.start_iff x
  | stop x => exact h.stop_iff x
  | enable =>
      refine iff_of_true ?_ trivial
      intro x
      simp [next, perform, Implementation.enable, isDisabled]
  | disable =>
      refine iff_of_true ?_ trivial
      intro x
      simp [next, perform, Implementation.disable, isDisabled]

/-- As long as no stream is stopped from zero and no counter wraps around, the
controller ignores starts exactly while it is disabled, on every stream; the
first other call ends that. -/
theorem only_disable_disables {r : ControllerRun}
    (h : Reachable StopsWhatCounts r) :
    (∀ x, (r.Ignores x ↔ r.provider.controller.counter x < 0) ∧
      (r.Ignores x ↔ isDisabled r.made = true)) ∧
    ∀ call, (next call r).RefusesWhenDisabled ↔ StopsWhatCounts call r := by
  have hinit : init.RefusesWhenDisabled := by decide
  have hrun := h.ofStep_keeps_itself RefusesWhenDisabled hinit
    refusesWhenDisabled_next_iff
  refine ⟨?_, hrun.2⟩
  intro x
  have hignores := r.ignores_iff x
  exact ⟨hignores, hignores.trans (hrun.1 x)⟩

theorem only_disable_disables_after_stop :
    ∃ r, Reachable StopsWhatCounts r ∧ isDisabled r.made = true ∧
      ∀ x, r.Ignores x := by
  have hrun : (Machine.replay (fun call r => some (next call r))
      StopsWhatCounts [.start .position, .stop .position, .disable] init).any
        (fun r => decide (isDisabled r.made = true)) = true := by
    decide
  obtain ⟨r, hreach, hdisabled⟩ := Machine.Reach.ofStep_exists_of_replay _ hrun
  have hignores := (only_disable_disables hreach).1
  exact ⟨r, hreach, hdisabled, fun x => (hignores x).2.mpr hdisabled⟩

/-- A stop without a start makes the controller refuse every later start. -/
theorem stop_disables :
    let r := next (.stop .heading) init
    isDisabled r.made = false ∧ r.Ignores .heading ∧
      ¬ r.RefusesWhenDisabled := by
  intro r
  refine ⟨by decide, ?_, by decide⟩
  rw [ignores_iff]
  decide

end ControllerRun

end LocationService
