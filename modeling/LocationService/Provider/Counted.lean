import LocationService.Library.UseCount
import LocationService.Provider.Controller

/-!
# Calls on a controller as operations on a count

The controller of a provider counts the users of each stream.  A call operates
the counter of its stream like the count of `UseCount` whose limit is the
greatest `int`.  A stream is in use from the call of its start hook to the call
of its stop hook, and the streams that run are those in use, also when some
counter refuses.
-/

namespace LocationService

open Library

namespace Controller

/-- The start hook of the stream was called, and its stop hook was not called
since, in a run that neither enables nor disables the controller.  A counter that
has wrapped around stays in use. -/
def inUse (c : Controller) (x : Stream) : Bool :=
  c.counter x != 0 && c.counter x != ourMagicDisablingValue

theorem inUse_iff (c : Controller) (x : Stream) :
    c.inUse x = true ↔ c.counter x ≠ 0 ∧ c.counter x ≠ -1 := by
  simp [inUse, ourMagicDisablingValue]

/-- Which streams are in use is decided by the counters. -/
theorem inUse_congr {c d : Controller} {x : Stream}
    (h : d.counter x = c.counter x) : d.inUse x = c.inUse x := by
  rw [inUse, inUse, h]

/-- A start puts a stream in use exactly if it calls the hook. -/
theorem inUse_startUpdates (c : Controller) (x : Stream) :
    (c.startUpdates x).1.inUse x =
      if (c.startUpdates x).2 then true else c.inUse x := by
  rw [Bool.eq_iff_iff, inUse_iff]
  rcases c.startUpdates_cases x with
    ⟨hc, hs⟩ | ⟨hc, hs⟩ | ⟨hc, -, hs⟩ | ⟨hc, hs⟩
  · simp [hs, inUse_iff]
  · simp [hs]
  · simp only [hs, Bool.false_eq_true, if_false, setCounter_self, inUse_iff]
    omega
  · simp only [hs, Bool.false_eq_true, if_false, setCounter_self, inUse_iff,
      hc]
    decide

/-- A stop puts a stream out of use exactly if it calls the hook. -/
theorem inUse_stopUpdates (c : Controller) (x : Stream) :
    (c.stopUpdates x).1.inUse x =
      if (c.stopUpdates x).2 then false else c.inUse x := by
  rw [Bool.eq_iff_iff, inUse_iff]
  rcases c.stopUpdates_cases x with ⟨hc, hs⟩ | ⟨hc, hs⟩ | ⟨hc, hne, hs⟩
  · simp [hs, inUse_iff]
  · simp [hs]
  · simp only [hs, Bool.false_eq_true, if_false, setCounter_self, inUse_iff]
    omega

theorem inUse_of_startUpdates_hook {c : Controller} {x : Stream}
    (h : (c.startUpdates x).2 = true) : c.inUse x = false := by
  have hzero := (c.startUpdates_hook_iff x).mp h
  simp [inUse, hzero]

theorem inUse_of_stopUpdates_hook {c : Controller} {x : Stream}
    (h : (c.stopUpdates x).2 = true) : c.inUse x = true := by
  have hone := (c.stopUpdates_hook_iff x).mp h
  rw [inUse_iff, hone]
  decide

end Controller

namespace Implementation

/-- The streams that run are those in use, whatever refuses starts. -/
def StreamsCounted (p : Implementation) : Prop :=
  ∀ x, p.Running x ↔ p.controller.inUse x = true

theorem streamsCounted_init : StreamsCounted .init := by
  intro x
  simp [Running, lastCall, init, Controller.init, Controller.inUse]

/-- A hook call decides about its own stream alone. -/
theorem running_cons_iff (c c' : Controller) (calls : List Call) (call : Call)
    (y : Stream) :
    Running ⟨c, call :: calls⟩ y ↔
      if call.stream = y then call = .start y else Running ⟨c', calls⟩ y := by
  by_cases hy : call.stream = y
  · simp [Running, lastCall, hy]
  · simp [Running, lastCall, hy]

theorem StreamsCounted.startUpdates {p : Implementation}
    (h : p.StreamsCounted) (x : Stream) :
    (p.startUpdates x).StreamsCounted := by
  intro y
  by_cases hyx : y = x
  · subst hyx
    have huse := p.controller.inUse_startUpdates y
    show _ ↔ (p.controller.startUpdates y).1.inUse y = true
    rw [huse]
    unfold Implementation.startUpdates
    cases hhook : (p.controller.startUpdates y).2 with
    | true =>
        simp only [hhook, if_true]
        rw [running_cons_iff _ p.controller]
        simp [Call.stream]
    | false =>
        simp only [hhook, Bool.false_eq_true, if_false]
        exact h y
  · have hkeep : (p.startUpdates x).controller.inUse y =
        p.controller.inUse y :=
      Controller.inUse_congr (p.startUpdates_counter_ne hyx)
    rw [startUpdates_running_ne p hyx, hkeep]
    exact h y

theorem StreamsCounted.stopUpdates {p : Implementation}
    (h : p.StreamsCounted) (x : Stream) :
    (p.stopUpdates x).StreamsCounted := by
  intro y
  by_cases hyx : y = x
  · subst hyx
    have huse := p.controller.inUse_stopUpdates y
    show _ ↔ (p.controller.stopUpdates y).1.inUse y = true
    rw [huse]
    unfold Implementation.stopUpdates
    cases hhook : (p.controller.stopUpdates y).2 with
    | true =>
        simp only [hhook, if_true]
        rw [running_cons_iff _ p.controller]
        simp [Call.stream]
    | false =>
        simp only [hhook, Bool.false_eq_true, if_false]
        exact h y
  · have hkeep : (p.stopUpdates x).controller.inUse y =
        p.controller.inUse y :=
      Controller.inUse_congr (p.stopUpdates_counter_ne hyx)
    rw [stopUpdates_running_ne p hyx, hkeep]
    exact h y

/-- A call on the controller of the provider. -/
def perform (p : Implementation) : Call → Implementation
  | .start x => p.startUpdates x
  | .stop x => p.stopUpdates x

theorem StreamsCounted.perform {p : Implementation} (h : p.StreamsCounted)
    (call : Call) : (p.perform call).StreamsCounted := by
  cases call with
  | start x => exact h.startUpdates x
  | stop x => exact h.stopUpdates x

end Implementation

/-- What a call tells a stream; `true` for a start. -/
def Call.command (x : Stream) : Call → Option Bool
  | .start y => if y = x then some true else none
  | .stop y => if y = x then some false else none

theorem operate_start (v : Int) :
    UseCount.operate maxCounter true v = raised v := by
  simp [UseCount.operate, raised, incrementCounter]

theorem operate_stop (v : Int) :
    UseCount.operate maxCounter false v = lowered v := by
  simp [UseCount.operate, lowered]

theorem maxCounter_pos : 0 < maxCounter := by decide

/-- A call operates the counter of its stream and no other. -/
theorem Implementation.counter_perform (p : Implementation) (call : Call)
    (x : Stream) :
    (p.perform call).controller.counter x =
      match call.command x with
      | some command =>
          UseCount.operate maxCounter command (p.controller.counter x)
      | none => p.controller.counter x := by
  cases call with
  | start y =>
      by_cases hyx : y = x
      · subst hyx
        simp only [Call.command, perform, if_true]
        rw [startUpdates_counter_self, operate_start]
      · simp only [Call.command, perform, hyx, if_false]
        exact startUpdates_counter_ne _ (Ne.symm hyx)
  | stop y =>
      by_cases hyx : y = x
      · subst hyx
        simp only [Call.command, perform, if_true]
        rw [stopUpdates_counter_self, operate_stop]
      · simp only [Call.command, perform, hyx, if_false]
        exact stopUpdates_counter_ne _ (Ne.symm hyx)

/-! ## Providers that serve users at a distance -/

/-- The users of a stream of a provider, in the runs of a system. -/
structure ServesUsers {σ ε ι : Type} [DecidableEq ι]
    (provider : σ → Implementation)
    (x : Stream) (view : σ → UseCount ι) (start : σ) (act : ε → σ → σ) :
    Prop where
  shows : UseCount.Shows maxCounter view start act
  count : ∀ s, (view s).count = (provider s).controller.counter x
  counted : ∀ es, (provider (Machine.run start act es)).StreamsCounted

namespace ServesUsers

open Machine (run)

variable {σ ε ι : Type} [DecidableEq ι] [Fintype ι]
  {provider : σ → Implementation} {x : Stream} {view : σ → UseCount ι}
  {start : σ} {act : ε → σ → σ} (h : ServesUsers provider x view start act)
include h

/-- As long as nothing is lost, and there are no more users than an `int` can
count, the provider counts the users it was told of and runs the stream for
them. -/
theorem of_no_loss {es : List ε}
    (hlost : ∀ command, (view (run start act es)).lost.count command = 0)
    (hcard : (Fintype.card ι : Int) ≤ maxCounter) :
    let s := run start act es
    (provider s).controller.counter x = UseCount.users (view s).told ∧
      ((provider s).Running x ↔ ∃ i, (view s).told i = true) := by
  dsimp only
  have hcount := h.shows.count_of_no_loss maxCounter_pos hlost hcard
  rw [h.count] at hcount
  refine ⟨hcount, ?_⟩
  have hnonneg := UseCount.users_nonneg (view (run start act es)).told
  rw [h.counted es x, ← UseCount.users_pos_iff, Controller.inUse_iff, hcount]
  omega

/-- Whatever is lost: a provider that refuses a stream does so for good, and
whether it runs tells on which side the balance was first out of bounds. -/
theorem after_losses (es : List ε) :
    let s := run start act es
    let balance := fun es => (view (run start act es)).balance
    ((provider s).controller.counter x < 0 ∧ ¬ (provider s).Running x ↔
        FallsBelow balance maxCounter es) ∧
      ((provider s).controller.counter x < 0 ∧ (provider s).Running x ↔
        RisesAbove balance maxCounter es) ∧
      ((provider s).controller.counter x < 0 → ∀ more,
        let t := run start act (es ++ more)
        (provider t).controller.counter x < 0 ∧
          ((provider t).Running x ↔ (provider s).Running x)) ∧
      (0 ≤ (provider s).controller.counter x →
        ((provider s).Running x ↔ 0 < balance es)) := by
  dsimp only
  have hpos := maxCounter_pos
  have hrunning := (h.counted es x).trans (Controller.inUse_iff _ _)
  have hneg := h.shows.count_of_neg hpos es
  rw [h.count] at hneg
  have hbelow := h.shows.count_eq_neg_one_iff hpos es
  have habove := h.shows.count_eq_wrapped_iff hpos es
  rw [h.count] at hbelow habove
  refine ⟨?_, ?_, ?_, ?_⟩
  · rw [← hbelow, hrunning]
    constructor
    · rintro ⟨hlt, hnot⟩
      omega
    · intro hone
      exact ⟨by omega, fun hne => hne.2 hone⟩
  · rw [← habove, hrunning]
    constructor
    · rintro ⟨hlt, hne⟩
      exact (hneg hlt).1.resolve_left hne.2
    · intro hwrapped
      omega
  · intro hlt more
    have hsame := (hneg hlt).2 more
    rw [h.count] at hsame
    refine ⟨by rw [hsame]; exact hlt, ?_⟩
    rw [hrunning, h.counted (es ++ more) x, Controller.inUse_iff, hsame]
  · intro hnonneg
    have hcount := h.shows.count_of_nonneg hpos es
      (by rw [h.count]; exact hnonneg)
    rw [h.count] at hcount
    rw [hrunning, ← hcount]
    omega

end ServesUsers

end LocationService
