import Mathlib.Logic.Function.Basic

/-!
# The update counters of a provider

`Provider::Controller` counts, for each of the three update streams, how many
observers want the stream.  It calls the start hook of its provider when a
counter leaves zero upwards and the stop hook when it comes back to zero.  The
value `ourMagicDisablingValue` doubles as the mark of a disabled controller,
which ignores starts and stops.  The counters are of type `std::atomic<int>`: one
that is started often enough wraps around to a negative number, and then its
controller ignores starts and stops as well.

The position, heading and velocity members of the source are one definition
with the stream as a parameter; each keeps its name below.
-/

namespace LocationService

/-- The update streams of a provider, in the order `Controller::disable`
treats them. -/
inductive Stream where
  | position
  | heading
  | velocity
  deriving DecidableEq, Repr

/-- All streams, in the order of `Controller::disable`. -/
def Stream.all : List Stream := [.position, .heading, .velocity]

@[simp] theorem Stream.mem_all (x : Stream) : x ∈ Stream.all := by
  cases x <;> simp [Stream.all]

theorem Stream.nodup_all : Stream.all.Nodup := by decide

instance Stream.decidableForall (p : Stream → Prop) [DecidablePred p] :
    Decidable (∀ x, p x) :=
  decidable_of_iff (∀ x ∈ Stream.all, p x)
    ⟨fun h x => h x (Stream.mem_all x), fun h x _ => h x⟩

/-- Marks a disabled counter. -/
def ourMagicDisablingValue : Int := -1

/-- The greatest value of an `int`. -/
def maxCounter : Int := 2147483647

/-- `++counter` on a `std::atomic<int>`. -/
def incrementCounter (v : Int) : Int :=
  if v = maxCounter then -maxCounter - 1 else v + 1

/-- A counter after a start. -/
def raised (v : Int) : Int := if v < 0 then v else incrementCounter v

/-- A counter after a stop. -/
def lowered (v : Int) : Int := if v < 0 then v else v - 1

@[simp] theorem raised_zero : raised 0 = 1 := rfl

@[simp] theorem lowered_one : lowered 1 = 0 := rfl

theorem raised_of_nonneg {v : Int} (h : 0 ≤ v) (hmax : v ≠ maxCounter) :
    raised v = v + 1 := by
  rw [raised, if_neg (by omega), incrementCounter, if_neg hmax]

theorem raised_ne_zero (v : Int) : raised v ≠ 0 := by
  unfold raised incrementCounter maxCounter
  split
  · omega
  · split <;> omega

theorem lowered_of_nonneg {v : Int} (h : 0 ≤ v) : lowered v = v - 1 :=
  if_neg (by omega)

theorem lowered_le (v : Int) : lowered v ≤ v := by
  unfold lowered
  split <;> omega

theorem lowered_eq_zero_iff (v : Int) : lowered v = 0 ↔ v = 1 := by
  unfold lowered
  split <;> omega

/-- `Provider::Controller`: one counter for each stream. -/
structure Controller where
  counter : Stream → Int

namespace Controller

/-- A freshly constructed controller. -/
def init : Controller := ⟨fun _ => 0⟩

def positionUpdatesCounter (c : Controller) : Int := c.counter .position
def headingUpdatesCounter (c : Controller) : Int := c.counter .heading
def velocityUpdatesCounter (c : Controller) : Int := c.counter .velocity

/-- Stores one counter. -/
def setCounter (c : Controller) (x : Stream) (v : Int) : Controller :=
  ⟨Function.update c.counter x v⟩

@[simp] theorem setCounter_self (c : Controller) (x : Stream) (v : Int) :
    (c.setCounter x v).counter x = v := by
  simp [setCounter]

@[simp] theorem setCounter_ne (c : Controller) {x y : Stream} (v : Int)
    (h : y ≠ x) : (c.setCounter x v).counter y = c.counter y := by
  simp [setCounter, h]

/-- `enable`: all counters restart from zero, whatever they were. -/
def enable (_ : Controller) : Controller := ⟨fun _ => 0⟩

/-- The last three statements of `disable`; the stop hooks it calls before
them belong to the provider that owns the controller. -/
def markDisabled (_ : Controller) : Controller :=
  ⟨fun _ => ourMagicDisablingValue⟩

@[simp] theorem enable_counter (c : Controller) (x : Stream) :
    c.enable.counter x = 0 := rfl

@[simp] theorem markDisabled_counter (c : Controller) (x : Stream) :
    c.markDisabled.counter x = -1 := rfl

/-- `start_*_updates`: the new counters, and whether the start hook of the
provider is called. -/
def startUpdates (c : Controller) (x : Stream) : Controller × Bool :=
  if c.counter x < 0 then (c, false)
  else
    let v := incrementCounter (c.counter x)
    (c.setCounter x v, v == 1)

/-- `stop_*_updates`: the new counters, and whether the stop hook of the
provider is called.  Only a counter that is not negative is decremented, which
does not wrap around. -/
def stopUpdates (c : Controller) (x : Stream) : Controller × Bool :=
  if c.counter x < 0 then (c, false)
  else (c.setCounter x (c.counter x - 1), c.counter x - 1 == 0)

/-- `are_*_updates_running`. -/
def areUpdatesRunning (c : Controller) (x : Stream) : Bool :=
  decide (0 < c.counter x)

def startPositionUpdates (c : Controller) : Controller × Bool :=
  c.startUpdates .position
def stopPositionUpdates (c : Controller) : Controller × Bool :=
  c.stopUpdates .position
def arePositionUpdatesRunning (c : Controller) : Bool :=
  c.areUpdatesRunning .position
def startHeadingUpdates (c : Controller) : Controller × Bool :=
  c.startUpdates .heading
def stopHeadingUpdates (c : Controller) : Controller × Bool :=
  c.stopUpdates .heading
def areHeadingUpdatesRunning (c : Controller) : Bool :=
  c.areUpdatesRunning .heading
def startVelocityUpdates (c : Controller) : Controller × Bool :=
  c.startUpdates .velocity
def stopVelocityUpdates (c : Controller) : Controller × Bool :=
  c.stopUpdates .velocity
def areVelocityUpdatesRunning (c : Controller) : Bool :=
  c.areUpdatesRunning .velocity

/-- The controller refuses starts on every stream. -/
def Disabled (c : Controller) : Prop := ∀ x, c.counter x < 0

/-- What a start does for the first observer. -/
theorem startUpdates_of_zero {c : Controller} {x : Stream}
    (h : c.counter x = 0) : c.startUpdates x = (c.setCounter x 1, true) := by
  unfold startUpdates
  rw [h, if_neg (by decide)]
  rfl

/-- What a start does at the greatest counter. -/
theorem startUpdates_of_eq {c : Controller} {x : Stream}
    (h : c.counter x = maxCounter) :
    c.startUpdates x = (c.setCounter x (-maxCounter - 1), false) := by
  unfold startUpdates incrementCounter
  rw [h, if_neg (by decide), if_pos rfl]
  rfl

/-- A start counts the observer and calls the hook from zero; a disabled
counter refuses it, and the greatest one wraps around. -/
theorem startUpdates_cases (c : Controller) (x : Stream) :
    (c.counter x < 0 ∧ c.startUpdates x = (c, false)) ∨
    (c.counter x = 0 ∧ c.startUpdates x = (c.setCounter x 1, true)) ∨
    (0 < c.counter x ∧ c.counter x ≠ maxCounter ∧
      c.startUpdates x = (c.setCounter x (c.counter x + 1), false)) ∨
    (c.counter x = maxCounter ∧
      c.startUpdates x = (c.setCounter x (-maxCounter - 1), false)) := by
  by_cases hmax : c.counter x = maxCounter
  · exact .inr (.inr (.inr ⟨hmax, startUpdates_of_eq hmax⟩))
  · rcases Int.lt_trichotomy (c.counter x) 0 with h | h | h
    · exact .inl ⟨h, if_pos h⟩
    · exact .inr (.inl ⟨h, startUpdates_of_zero h⟩)
    · refine .inr (.inr (.inl ⟨h, hmax, ?_⟩))
      unfold startUpdates incrementCounter
      rw [if_neg hmax]
      have hne : (c.counter x + 1 == 1) = false :=
        beq_eq_false_iff_ne.mpr (by omega)
      rw [if_neg (by omega)]
      simp only [hne]

/-- A stop releases the observer and calls the hook on reaching zero; from
zero it falls to the disabling value. -/
theorem stopUpdates_cases (c : Controller) (x : Stream) :
    (c.counter x < 0 ∧ c.stopUpdates x = (c, false)) ∨
    (c.counter x = 1 ∧ c.stopUpdates x = (c.setCounter x 0, true)) ∨
    (0 ≤ c.counter x ∧ c.counter x ≠ 1 ∧
      c.stopUpdates x = (c.setCounter x (c.counter x - 1), false)) := by
  unfold stopUpdates
  by_cases hneg : c.counter x < 0
  · exact .inl ⟨hneg, if_pos hneg⟩
  · by_cases hone : c.counter x = 1
    · refine .inr (.inl ⟨hone, ?_⟩)
      simp [hone]
    · refine .inr (.inr ⟨by omega, hone, ?_⟩)
      rw [if_neg hneg, beq_eq_false_iff_ne.mpr (by omega)]

/-- The start hook is called for the first observer. -/
theorem startUpdates_hook_iff (c : Controller) (x : Stream) :
    (c.startUpdates x).2 = true ↔ c.counter x = 0 := by
  rcases c.startUpdates_cases x with
    ⟨hc, hs⟩ | ⟨hc, hs⟩ | ⟨hc, -, hs⟩ | ⟨hc, hs⟩
  · rw [hs]
    exact iff_of_false Bool.false_ne_true (by omega)
  · rw [hs]
    exact iff_of_true rfl hc
  · rw [hs]
    exact iff_of_false Bool.false_ne_true (by omega)
  · rw [hs, hc]
    exact iff_of_false Bool.false_ne_true (by decide)

/-- The stop hook is called for the last observer. -/
theorem stopUpdates_hook_iff (c : Controller) (x : Stream) :
    (c.stopUpdates x).2 = true ↔ c.counter x = 1 := by
  rcases c.stopUpdates_cases x with ⟨hc, hs⟩ | ⟨hc, hs⟩ | ⟨-, hc, hs⟩
  · rw [hs]
    exact iff_of_false Bool.false_ne_true (by omega)
  · rw [hs]
    exact iff_of_true rfl hc
  · rw [hs]
    exact iff_of_false Bool.false_ne_true hc

theorem startUpdates_counter_self (c : Controller) (x : Stream) :
    (c.startUpdates x).1.counter x = raised (c.counter x) := by
  unfold startUpdates raised
  split
  · rfl
  · exact setCounter_self _ _ _

theorem startUpdates_counter_ne (c : Controller) {x y : Stream} (h : y ≠ x) :
    (c.startUpdates x).1.counter y = c.counter y := by
  unfold startUpdates
  split
  · rfl
  · exact setCounter_ne _ _ h

theorem stopUpdates_counter_self (c : Controller) (x : Stream) :
    (c.stopUpdates x).1.counter x = lowered (c.counter x) := by
  unfold stopUpdates lowered
  split
  · rfl
  · exact setCounter_self _ _ _

theorem stopUpdates_counter_ne (c : Controller) {x y : Stream} (h : y ≠ x) :
    (c.stopUpdates x).1.counter y = c.counter y := by
  unfold stopUpdates
  split
  · rfl
  · exact setCounter_ne _ _ h

end Controller

/-! ## The provider behind a StateTrackingProvider -/

/-- A call of a start or stop hook of a provider. -/
inductive Call where
  | start (x : Stream)
  | stop (x : Stream)
  deriving DecidableEq, Repr

/-- The stream a hook belongs to. -/
def Call.stream : Call → Stream
  | .start x => x
  | .stop x => x

/-- A provider implementation: its own controller, and the hook calls it has
received, the latest first. -/
structure Implementation where
  controller : Controller
  calls : List Call

namespace Implementation

/-- An implementation nobody has used yet. -/
def init : Implementation := ⟨.init, []⟩

/-- The latest hook call for a stream. -/
def lastCall (p : Implementation) (x : Stream) : Option Call :=
  p.calls.find? fun call => call.stream == x

/-- The stream has been started and has not been stopped since. -/
def Running (p : Implementation) (x : Stream) : Prop :=
  p.lastCall x = some (.start x)

instance (p : Implementation) (x : Stream) : Decidable (p.Running x) :=
  inferInstanceAs (Decidable (_ = _))

/-- `state_controller()->start_*_updates()`: the hook is called when the
controller asks for it. -/
def startUpdates (p : Implementation) (x : Stream) : Implementation :=
  let (c, hook) := p.controller.startUpdates x
  ⟨c, if hook then .start x :: p.calls else p.calls⟩

/-- `state_controller()->stop_*_updates()`. -/
def stopUpdates (p : Implementation) (x : Stream) : Implementation :=
  let (c, hook) := p.controller.stopUpdates x
  ⟨c, if hook then .stop x :: p.calls else p.calls⟩

/-- What the calls through the controller establish: the streams that run are
those whose counter is not zero.  A counter that has wrapped around stays as it
is, and its stream goes on running. -/
def Consistent (p : Implementation) : Prop :=
  ∀ x, p.Running x ↔ p.controller.counter x ≠ 0

theorem consistent_init : Consistent .init := by
  intro x
  simp [Running, lastCall, init, Controller.init]

theorem startUpdates_counter_self (p : Implementation) (x : Stream) :
    (p.startUpdates x).controller.counter x =
      raised (p.controller.counter x) :=
  p.controller.startUpdates_counter_self x

theorem startUpdates_counter_ne (p : Implementation) {x y : Stream}
    (h : y ≠ x) :
    (p.startUpdates x).controller.counter y = p.controller.counter y :=
  p.controller.startUpdates_counter_ne h

theorem stopUpdates_counter_self (p : Implementation) (x : Stream) :
    (p.stopUpdates x).controller.counter x =
      lowered (p.controller.counter x) :=
  p.controller.stopUpdates_counter_self x

theorem stopUpdates_counter_ne (p : Implementation) {x y : Stream}
    (h : y ≠ x) :
    (p.stopUpdates x).controller.counter y = p.controller.counter y :=
  p.controller.stopUpdates_counter_ne h

private theorem running_cons_ne (c c' : Controller) (calls : List Call)
    (call : Call) {y : Stream} (h : call.stream ≠ y) :
    Running ⟨c, call :: calls⟩ y ↔ Running ⟨c', calls⟩ y := by
  have hne : (call.stream == y) = false := by simpa using h
  simp [Running, lastCall, hne]

/-- A start leaves the other streams alone. -/
theorem startUpdates_running_ne (p : Implementation) {x y : Stream}
    (h : y ≠ x) : (p.startUpdates x).Running y ↔ p.Running y := by
  rcases p.controller.startUpdates_cases x with
    ⟨-, hs⟩ | ⟨-, hs⟩ | ⟨-, -, hs⟩ | ⟨-, hs⟩
  · simp [startUpdates, hs, Running, lastCall]
  · simpa [startUpdates, hs] using
      running_cons_ne _ p.controller p.calls (.start x) (Ne.symm h)
  · simp [startUpdates, hs, Running, lastCall]
  · simp [startUpdates, hs, Running, lastCall]

theorem stopUpdates_running_ne (p : Implementation) {x y : Stream}
    (h : y ≠ x) : (p.stopUpdates x).Running y ↔ p.Running y := by
  rcases p.controller.stopUpdates_cases x with ⟨-, hs⟩ | ⟨-, hs⟩ | ⟨-, -, hs⟩
  · simp [stopUpdates, hs, Running, lastCall]
  · simpa [stopUpdates, hs] using
      running_cons_ne _ p.controller p.calls (.stop x) (Ne.symm h)
  · simp [stopUpdates, hs, Running, lastCall]

/-- A start keeps the streams that run in step with the counters. -/
theorem Consistent.startUpdates {p : Implementation} (h : p.Consistent)
    (x : Stream) : (p.startUpdates x).Consistent := by
  intro y
  by_cases hy : y = x
  · subst hy
    have hrun := h y
    rcases p.controller.startUpdates_cases y with
      ⟨-, hs⟩ | ⟨-, hs⟩ | ⟨hpos, -, hs⟩ | ⟨hmax, hs⟩
    · simpa [Implementation.startUpdates, hs, Running, lastCall] using hrun
    · simp [Implementation.startUpdates, hs, Running, lastCall, Call.stream]
    · have hsame : (p.startUpdates y).Running y ↔ p.Running y := by
        simp [Implementation.startUpdates, hs, Running, lastCall]
      rw [hsame, hrun, startUpdates_counter_self]
      exact iff_of_true (by omega) (raised_ne_zero _)
    · have hsame : (p.startUpdates y).Running y ↔ p.Running y := by
        simp [Implementation.startUpdates, hs, Running, lastCall]
      rw [hsame, hrun, startUpdates_counter_self]
      exact iff_of_true (by rw [hmax]; decide) (raised_ne_zero _)
  · rw [startUpdates_running_ne p hy, startUpdates_counter_ne p hy]
    exact h y

/-- A stop of a stream that runs keeps the streams that run in step with the
counters. -/
theorem Consistent.stopUpdates {p : Implementation} (h : p.Consistent)
    {x : Stream} (hne : p.controller.counter x ≠ 0) :
    (p.stopUpdates x).Consistent := by
  intro y
  by_cases hy : y = x
  · subst hy
    have hrun := h y
    rcases p.controller.stopUpdates_cases y with
      ⟨-, hs⟩ | ⟨-, hs⟩ | ⟨hnonneg, hone, hs⟩
    · simpa [Implementation.stopUpdates, hs, Running, lastCall] using hrun
    · simp [Implementation.stopUpdates, hs, Running, lastCall, Call.stream]
    · have hsame : (p.stopUpdates y).Running y ↔ p.Running y := by
        simp [Implementation.stopUpdates, hs, Running, lastCall]
      rw [hsame, hrun, stopUpdates_counter_self]
      refine iff_of_true hne ?_
      rwa [ne_eq, lowered_eq_zero_iff]
  · rw [stopUpdates_running_ne p hy, stopUpdates_counter_ne p hy]
    exact h y

end Implementation

end LocationService
