import LocationService.Library.Machine
import LocationService.Provider.Alternation

/-!
# One switch behind three streams

A provider may have a single switch that every start hook turns on and every
stop hook turns off, whatever the stream, while its controller counts the
observers of each stream by itself.  `SharedSwitch` is what such providers have
in common.

The switch tells whether any stream is running until a stream is stopped next
to another one that runs (`tracks_of_reach`).
-/

namespace LocationService

open Library

namespace Controller

/-- Some stream other than the given one is running. -/
def RunsBeside (c : Controller) (x : Stream) : Prop :=
  ∃ y, y ≠ x ∧ c.areUpdatesRunning y = true

instance (c : Controller) (x : Stream) : Decidable (c.RunsBeside x) :=
  decidable_of_iff (∃ y ∈ Stream.all, y ≠ x ∧ c.areUpdatesRunning y = true)
    ⟨fun ⟨y, _, hy⟩ => ⟨y, hy⟩, fun ⟨y, hy⟩ => ⟨y, Stream.mem_all y, hy⟩⟩

/-- Any stream is running. -/
def RunsAny (c : Controller) : Prop := ∃ x, c.areUpdatesRunning x = true

instance (c : Controller) : Decidable c.RunsAny :=
  decidable_of_iff (∃ x ∈ Stream.all, c.areUpdatesRunning x = true)
    ⟨fun ⟨x, _, hx⟩ => ⟨x, hx⟩, fun ⟨x, hx⟩ => ⟨x, Stream.mem_all x, hx⟩⟩

/-- Of all streams, one is running or another one is. -/
theorem runsAny_iff (c : Controller) (x : Stream) :
    c.RunsAny ↔ 0 < c.counter x ∨ c.RunsBeside x := by
  constructor
  · rintro ⟨y, hy⟩
    by_cases heq : y = x
    · subst heq
      exact .inl ((c.areUpdatesRunning_iff y).mp hy)
    · exact .inr ⟨y, heq, hy⟩
  · intro h
    rcases h with hx | ⟨y, -, hy⟩
    · exact ⟨x, (c.areUpdatesRunning_iff x).mpr hx⟩
    · exact ⟨y, hy⟩

/-- A new counter changes nothing beside its stream. -/
@[simp] theorem runsBeside_setCounter (c : Controller) (x : Stream) (v : Int) :
    (c.setCounter x v).RunsBeside x ↔ c.RunsBeside x := by
  unfold RunsBeside
  apply exists_congr
  intro y
  apply and_congr_right
  intro hne
  rw [areUpdatesRunning_setCounter_ne c v hne]

theorem runsAny_setCounter (c : Controller) (x : Stream) (v : Int) :
    (c.setCounter x v).RunsAny ↔ 0 < v ∨ c.RunsBeside x := by
  rw [runsAny_iff _ x, setCounter_self, runsBeside_setCounter]

theorem not_runsAny_init : ¬ init.RunsAny := by decide

/-- The last observer of a stream leaves only while no other stream is running,
and a counter wraps around only while one is. -/
def LeavesLast (call : Call) (c : Controller) : Prop :=
  match call with
  | .start x => c.counter x = maxCounter → c.RunsBeside x
  | .stop x => c.counter x = 1 → ¬ c.RunsBeside x

instance (call : Call) (c : Controller) : Decidable (c.LeavesLast call) :=
  match call with
  | .start x => inferInstanceAs (Decidable (_ → c.RunsBeside x))
  | .stop x => inferInstanceAs (Decidable (_ → ¬ c.RunsBeside x))

end Controller

/-- A provider with a controller and a switch that its hooks turn on and off,
whichever stream they are called for. -/
structure SharedSwitch (σ : Type) where
  controller : σ → Controller
  setController : Controller → σ → σ
  startHook : Stream → σ → σ
  stopHook : Stream → σ → σ
  isOn : σ → Prop
  controller_setController : ∀ c s, controller (setController c s) = c
  controller_startHook : ∀ x s, controller (startHook x s) = controller s
  controller_stopHook : ∀ x s, controller (stopHook x s) = controller s
  isOn_setController : ∀ c s, isOn (setController c s) ↔ isOn s
  isOn_startHook : ∀ x s, isOn (startHook x s)
  not_isOn_stopHook : ∀ x s, ¬ isOn (stopHook x s)

namespace SharedSwitch

variable {σ : Type} (w : SharedSwitch σ)

/-- A call through the state controller. -/
def next (call : Call) (s : σ) : σ :=
  match call with
  | .start x =>
      let (c, hook) := (w.controller s).startUpdates x
      let s := w.setController c s
      if hook then w.startHook x s else s
  | .stop x =>
      let (c, hook) := (w.controller s).stopUpdates x
      let s := w.setController c s
      if hook then w.stopHook x s else s

/-- The switch is on exactly if any stream is running. -/
def Tracks (s : σ) : Prop := w.isOn s ↔ (w.controller s).RunsAny

variable {w} {s : σ}

/-- What neither the counters nor the hooks change is kept by every call. -/
theorem next_preserves {P : σ → Prop}
    (hset : ∀ c s, P s → P (w.setController c s))
    (hstart : ∀ x s, P s → P (w.startHook x s))
    (hstop : ∀ x s, P s → P (w.stopHook x s)) (call : Call) (h : P s) :
    P (w.next call s) := by
  cases call with
  | start x =>
      have hcounted := hset ((w.controller s).startUpdates x).1 s h
      unfold next
      simp only
      split
      · exact hstart x _ hcounted
      · exact hcounted
  | stop x =>
      have hcounted := hset ((w.controller s).stopUpdates x).1 s h
      unfold next
      simp only
      split
      · exact hstop x _ hcounted
      · exact hcounted

theorem next_start_of_eq {x : Stream} {c : Controller} {hook : Bool}
    (h : (w.controller s).startUpdates x = (c, hook)) :
    w.next (.start x) s =
      if hook then w.startHook x (w.setController c s)
      else w.setController c s := by
  simp only [next, h]

theorem next_stop_of_eq {x : Stream} {c : Controller} {hook : Bool}
    (h : (w.controller s).stopUpdates x = (c, hook)) :
    w.next (.stop x) s =
      if hook then w.stopHook x (w.setController c s)
      else w.setController c s := by
  simp only [next, h]

/-- The result of a call that stores the counters as they are. -/
theorem Tracks.setController_self (h : w.Tracks s) :
    w.Tracks (w.setController (w.controller s) s) := by
  unfold Tracks
  rw [w.isOn_setController, w.controller_setController]
  exact h

/-- The result of a call that stores a counter without calling a hook. -/
theorem Tracks.setCounter_iff (h : w.Tracks s) {x : Stream} {v : Int} :
    w.Tracks (w.setController ((w.controller s).setCounter x v) s) ↔
      (0 < (w.controller s).counter x ∨ (w.controller s).RunsBeside x ↔
        0 < v ∨ (w.controller s).RunsBeside x) := by
  have hbefore := h.trans ((w.controller s).runsAny_iff x)
  unfold Tracks
  rw [w.isOn_setController, w.controller_setController,
    Controller.runsAny_setCounter, hbefore]

/-- A start turns the switch on from zero, and otherwise only matters if the
counter wraps around. -/
theorem Tracks.start_iff (h : w.Tracks s) (x : Stream) :
    w.Tracks (w.next (.start x) s) ↔
      (w.controller s).LeavesLast (.start x) := by
  rcases (w.controller s).startUpdates_cases x with
    ⟨hneg, hstart⟩ | ⟨hzero, hstart⟩ | ⟨hpos, hne, hstart⟩ | ⟨hmax, hstart⟩
  · rw [next_start_of_eq hstart, if_neg Bool.false_ne_true]
    apply iff_of_true h.setController_self
    intro hmax
    rw [hmax] at hneg
    exact absurd hneg (by decide)
  · rw [next_start_of_eq hstart, if_pos rfl]
    refine iff_of_true (iff_of_true (w.isOn_startHook x _) ?_) ?_
    · rw [w.controller_startHook, w.controller_setController,
        Controller.runsAny_setCounter]
      exact .inl (by decide)
    · intro hmax
      rw [hzero] at hmax
      exact absurd hmax (by decide)
  · rw [next_start_of_eq hstart, if_neg Bool.false_ne_true, h.setCounter_iff]
    refine iff_of_true ?_ (fun hmax => absurd hmax hne)
    exact iff_of_true (.inl hpos) (.inl (by omega))
  · have hpos : 0 < (w.controller s).counter x := by
      rw [hmax]
      decide
    have hwrapped : ¬ (0 : Int) < -maxCounter - 1 := by decide
    rw [next_start_of_eq hstart, if_neg Bool.false_ne_true, h.setCounter_iff,
      or_iff_right hwrapped]
    simp only [Controller.LeavesLast, hmax, true_implies]
    rw [hmax] at hpos
    simp [hpos]

/-- A stop turns the switch off at the last observer, whatever the other
streams do. -/
theorem Tracks.stop_iff (h : w.Tracks s) (x : Stream) :
    w.Tracks (w.next (.stop x) s) ↔
      (w.controller s).LeavesLast (.stop x) := by
  rcases (w.controller s).stopUpdates_cases x with
    ⟨hneg, hstop⟩ | ⟨hone, hstop⟩ | ⟨hnonneg, hne, hstop⟩
  · rw [next_stop_of_eq hstop, if_neg Bool.false_ne_true]
    apply iff_of_true h.setController_self
    intro hone
    omega
  · rw [next_stop_of_eq hstop, if_pos rfl]
    unfold Tracks
    rw [w.controller_stopHook, w.controller_setController,
      Controller.runsAny_setCounter]
    simp [Controller.LeavesLast, hone, w.not_isOn_stopHook]
  · rw [next_stop_of_eq hstop, if_neg Bool.false_ne_true, h.setCounter_iff]
    refine iff_of_true ?_ (fun hone => absurd hone hne)
    have hsame : 0 < (w.controller s).counter x - 1 ↔
        0 < (w.controller s).counter x := by
      omega
    rw [hsame]

theorem Tracks.next_iff (h : w.Tracks s) (call : Call) :
    w.Tracks (w.next call s) ↔ (w.controller s).LeavesLast call := by
  cases call with
  | start x => exact h.start_iff x
  | stop x => exact h.stop_iff x

variable (w) in
/-- As long as the last observer of a stream leaves only while no other stream
is running, the switch is on exactly while any stream is; the first other call
ends that. -/
theorem tracks_of_reach {init : σ} (hcontroller : w.controller init = .init)
    (hoff : ¬ w.isOn init)
    (h : (Machine.ofStep init w.next).Reach
      (fun call s => (w.controller s).LeavesLast call) s) :
    w.Tracks s ∧
      ∀ call, w.Tracks (w.next call s) ↔ (w.controller s).LeavesLast call := by
  have hinit : w.Tracks init := by
    unfold Tracks
    rw [hcontroller]
    exact iff_of_false hoff Controller.not_runsAny_init
  exact h.ofStep_keeps_itself w.Tracks hinit fun call s hs => hs.next_iff call

end SharedSwitch

end LocationService
