import LocationService.Engine.Reachable

/-!
# Sessions on top of the engine

A `session::Implementation` owns a `ProxyProvider`, which forwards each stream
to the provider selected for it.  Three counters stand between a client and the
hardware: the one of the proxy, the one of the state tracking provider, and the
one of the implementation.  This file adds the sessions to the engine and gives
every step of the whole its result as a plain function.
-/

namespace LocationService

open LocationService.Library

/-- `Interface::Updates::Status`. -/
inductive UpdatesStatus where
  | enabled
  | disabled
  deriving DecidableEq, Repr

/-- A `session::Implementation` with the `ProxyProvider` it owns. -/
structure Session where
  /-- The provider selected for each stream, or the null provider. -/
  selection : Stream → Option ProviderId
  /-- The controller of the proxy. -/
  controller : Controller
  status : Stream → UpdatesStatus

namespace Session

/-- A new session over a new proxy. -/
def init (selection : Stream → Option ProviderId) : Session :=
  ⟨selection, .init, fun _ => .disabled⟩

section Hooks

variable (set : Assigner System System.Assignment)

/-- `ProxyProvider::start_*_updates`; the null provider has empty hooks. -/
def startHook (c : Session) (x : Stream) (s : System) : Option System :=
  match c.selection x with
  | none => some s
  | some i => s.startUpdates set i x

/-- `ProxyProvider::stop_*_updates`. -/
def stopHook (c : Session) (x : Stream) (s : System) : Option System :=
  match c.selection x with
  | none => some s
  | some i => s.stopUpdates set i x

/-- `session::Implementation::start_*_updates`. -/
def startUpdates (c : Session) (x : Stream) (s : System) :
    Option (Session × System) :=
  let (p, hook) := c.controller.startUpdates x
  let c := { c with controller := p }
  (if hook then startHook set c x s else some s).map fun s => (c, s)

/-- `session::Implementation::stop_*_updates`. -/
def stopUpdates (c : Session) (x : Stream) (s : System) :
    Option (Session × System) :=
  let (p, hook) := c.controller.stopUpdates x
  let c := { c with controller := p }
  (if hook then stopHook set c x s else some s).map fun s => (c, s)

/-- An assignment to one of the three status properties and the slot it
runs. -/
def setStatus (c : Session) (x : Stream) (v : UpdatesStatus) (s : System) :
    Option (Session × System) :=
  if c.status x = v then some (c, s)
  else
    let c := { c with status := Function.update c.status x v }
    match v with
    | .enabled => startUpdates set c x s
    | .disabled => stopUpdates set c x s

/-- `session::Implementation::~Implementation`. -/
def destroy (c : Session) (s : System) : Option System := do
  let (c, s) ← stopUpdates set c .position s
  let (c, s) ← stopUpdates set c .heading s
  let (_, s) ← stopUpdates set c .velocity s
  return s

end Hooks

/-! ## What session calls settle to -/

def settleStart (c : Session) (x : Stream) (s : System) : Session × System :=
  let (p, hook) := c.controller.startUpdates x
  ({ c with controller := p },
    if hook then
      match c.selection x with
      | none => s
      | some i => s.settleStartUpdates i x
    else s)

def settleStop (c : Session) (x : Stream) (s : System) : Session × System :=
  let (p, hook) := c.controller.stopUpdates x
  ({ c with controller := p },
    if hook then
      match c.selection x with
      | none => s
      | some i => s.settleStopUpdates i x
    else s)

def settleSetStatus (c : Session) (x : Stream) (v : UpdatesStatus)
    (s : System) : Session × System :=
  if c.status x = v then (c, s)
  else
    let c := { c with status := Function.update c.status x v }
    match v with
    | .enabled => c.settleStart x s
    | .disabled => c.settleStop x s

/-- The stops of the destructor, for the streams of a list. -/
def settleStops (c : Session) (xs : List Stream) (s : System) :
    Session × System :=
  xs.foldl (fun cs x => cs.1.settleStop x cs.2) (c, s)

def settleDestroy (c : Session) (s : System) : System :=
  (c.settleStops Stream.all s).2

theorem startUpdates_eq (n : Nat) (c : Session) (x : Stream) (s : System) :
    c.startUpdates (System.network.assign (n + 5)) x s = some (c.settleStart x s) := by
  unfold startUpdates settleStart startHook
  dsimp only
  cases hsel : c.selection x with
  | none => split <;> rfl
  | some i =>
      simp only [System.startUpdates_eq n s i x]
      split <;> rfl

theorem stopUpdates_eq (n : Nat) (c : Session) (x : Stream) (s : System) :
    c.stopUpdates (System.network.assign (n + 5)) x s = some (c.settleStop x s) := by
  unfold stopUpdates settleStop stopHook
  dsimp only
  cases hsel : c.selection x with
  | none => split <;> rfl
  | some i =>
      simp only [System.stopUpdates_eq n s i x]
      split <;> rfl

theorem setStatus_eq (n : Nat) (c : Session) (x : Stream) (v : UpdatesStatus)
    (s : System) :
    c.setStatus (System.network.assign (n + 5)) x v s =
      some (c.settleSetStatus x v s) := by
  unfold setStatus settleSetStatus
  split
  · rfl
  · cases v with
    | enabled => exact startUpdates_eq n _ x s
    | disabled => exact stopUpdates_eq n _ x s

theorem destroy_eq (n : Nat) (c : Session) (s : System) :
    c.destroy (System.network.assign (n + 5)) s = some (c.settleDestroy s) := by
  unfold destroy
  simp only [stopUpdates_eq n]
  rfl

section Monotone

variable {f g : Assigner System System.Assignment} (h : f.Le g)
include h

private theorem startUpdates_le (c : Session) (x : Stream) (s : System)
    (t : Session × System) (ht : c.startUpdates f x s = some t) :
    c.startUpdates g x s = some t := by
  unfold startUpdates startHook at ht ⊢
  obtain ⟨u, hu, rfl⟩ := Option.map_eq_some_iff.mp ht
  refine Option.map_eq_some_iff.mpr ⟨u, ?_, rfl⟩
  dsimp only at hu ⊢
  split
  · rename_i hhook
    rw [if_pos hhook] at hu
    cases hsel : c.selection x with
    | none => simpa only [hsel] using hu
    | some i =>
        simp only [hsel] at hu ⊢
        exact System.startUpdates_le h i x s u hu
  · rename_i hhook
    rwa [if_neg hhook] at hu

theorem stopUpdates_le (c : Session) (x : Stream) (s : System)
    (t : Session × System) (ht : c.stopUpdates f x s = some t) :
    c.stopUpdates g x s = some t := by
  unfold stopUpdates stopHook at ht ⊢
  obtain ⟨u, hu, rfl⟩ := Option.map_eq_some_iff.mp ht
  refine Option.map_eq_some_iff.mpr ⟨u, ?_, rfl⟩
  dsimp only at hu ⊢
  split
  · rename_i hhook
    rw [if_pos hhook] at hu
    cases hsel : c.selection x with
    | none => simpa only [hsel] using hu
    | some i =>
        simp only [hsel] at hu ⊢
        exact System.stopUpdates_le h i x s u hu
  · rename_i hhook
    rwa [if_neg hhook] at hu

theorem setStatus_le (c : Session) (x : Stream) (v : UpdatesStatus)
    (s : System) (t : Session × System) (ht : c.setStatus f x v s = some t) :
    c.setStatus g x v s = some t := by
  unfold setStatus at ht ⊢
  split
  · rename_i heq
    rwa [if_pos heq] at ht
  · rename_i heq
    rw [if_neg heq] at ht
    cases v with
    | enabled => exact startUpdates_le h _ x s t ht
    | disabled => exact stopUpdates_le h _ x s t ht

theorem destroy_le (c : Session) (s t : System)
    (ht : c.destroy f s = some t) : c.destroy g s = some t := by
  unfold destroy at ht ⊢
  refine bind_le (fun u hu => stopUpdates_le h c _ s u hu) (fun u w hw => ?_) ht
  refine bind_le (fun u' hu => stopUpdates_le h u.1 _ u.2 u' hu)
    (fun u' w hw => ?_) hw
  exact bind_le (fun v hv => stopUpdates_le h u'.1 _ u'.2 v hv)
    (fun _ _ hw => hw) hw

end Monotone

end Session

/-- An engine, its service and the sessions that are alive. -/
structure World where
  system : System
  sessions : List Session

namespace World

/-- External steps. -/
inductive Action where
  | createSession (selection : Stream → Option ProviderId)
  | setStatus (k : Nat) (x : Stream) (v : UpdatesStatus)
  | destroySession (k : Nat)
  | engine (a : System.Action)

/-- The selection only names providers of the engine. -/
def SelectsKnown (s : System) (selection : Stream → Option ProviderId) : Prop :=
  ∀ x, ∀ i ∈ selection x, i ∈ s.order

instance (s : System) (selection : Stream → Option ProviderId) :
    Decidable (SelectsKnown s selection) :=
  inferInstanceAs (Decidable (∀ x, ∀ i ∈ selection x, i ∈ s.order))

/-- The code of an external step, given the assignment function it calls. -/
def exec (set : Assigner System System.Assignment) :
    Action → World → Option World
  | .createSession selection, w =>
      if SelectsKnown w.system selection then
        some { w with sessions := w.sessions ++ [.init selection] }
      else none
  | .setStatus k x v, w => do
      let c ← w.sessions[k]?
      let (c, s) ← c.setStatus set x v w.system
      return ⟨s, w.sessions.set k c⟩
  | .destroySession k, w => do
      let c ← w.sessions[k]?
      let s ← c.destroy set w.system
      return ⟨s, w.sessions.eraseIdx k⟩
  | .engine a, w => do
      let s ← System.exec set a w.system
      return { w with system := s }

/-- What an external step settles to; `none` when it does not apply. -/
def settleExec : Action → World → Option World
  | .createSession selection, w =>
      if SelectsKnown w.system selection then
        some { w with sessions := w.sessions ++ [.init selection] }
      else none
  | .setStatus k x v, w => do
      let c ← w.sessions[k]?
      let r := c.settleSetStatus x v w.system
      return ⟨r.2, w.sessions.set k r.1⟩
  | .destroySession k, w => do
      let c ← w.sessions[k]?
      return ⟨c.settleDestroy w.system, w.sessions.eraseIdx k⟩
  | .engine a, w => do
      let s ← System.settleExec a w.system
      return { w with system := s }

/-- The step `a` from `w` returns and leaves `w'`. -/
def Step (a : Action) (w w' : World) : Prop :=
  ∃ n, exec (System.network.assign n) a w = some w'

theorem exec_eq (n : Nat) (a : Action) (w : World) :
    exec (System.network.assign (n + 9)) a w = settleExec a w := by
  cases a with
  | createSession selection => rfl
  | setStatus k x v =>
      simp only [exec, settleExec, Session.setStatus_eq (n + 4)]
      rfl
  | destroySession k =>
      simp only [exec, settleExec, Session.destroy_eq (n + 4)]
      rfl
  | engine a => simp only [exec, settleExec, System.exec_eq]

private theorem exec_le {f g : Assigner System System.Assignment} (h : f.Le g)
    (a : Action) {w w' : World} (ht : exec f a w = some w') :
    exec g a w = some w' := by
  cases a with
  | createSession selection => exact ht
  | setStatus k x v =>
      exact bind_le (fun _ hc => hc) (fun c _ hc => bind_le
        (fun u hu => Session.setStatus_le h c x v _ u hu)
        (fun _ _ hw => hw) hc) ht
  | destroySession k =>
      exact bind_le (fun _ hc => hc) (fun c _ hc => bind_le
        (fun u hu => Session.destroy_le h c _ u hu) (fun _ _ hw => hw) hc) ht
  | engine a =>
      exact bind_le (fun _ hu => System.exec_le h a hu) (fun _ _ hw => hw) ht

/-- A step leaves what it settles to. -/
theorem step_iff {a : Action} {w w' : World} :
    Step a w w' ↔ settleExec a w = some w' := by
  constructor
  · rintro ⟨n, hn⟩
    have hm := exec_le (System.network.assign_mono (Nat.le_add_right n 9)) a hn
    rwa [exec_eq] at hm
  · intro h
    exact ⟨9, by rw [exec_eq 0]; exact h⟩

/-- What an external step finds and leaves. -/
theorem step_cases {a : Action} {w w' : World} (h : Step a w w') :
    match a with
    | .createSession selection => SelectsKnown w.system selection ∧
        w' = { w with sessions := w.sessions ++ [.init selection] }
    | .setStatus k x v => ∃ c, w.sessions[k]? = some c ∧
        w' = ⟨(c.settleSetStatus x v w.system).2,
          w.sessions.set k (c.settleSetStatus x v w.system).1⟩
    | .destroySession k => ∃ c, w.sessions[k]? = some c ∧
        w' = ⟨c.settleDestroy w.system, w.sessions.eraseIdx k⟩
    | .engine b => ∃ s, System.settleExec b w.system = some s ∧
        w' = { w with system := s } := by
  have hexec := step_iff.mp h
  cases a with
  | createSession selection =>
      simp only [settleExec] at hexec
      split at hexec
      · rename_i hsel
        exact ⟨hsel, (Option.some.inj hexec).symm⟩
      · cases hexec
  | setStatus k x v =>
      obtain ⟨c, hc, hw⟩ := Option.bind_eq_some_iff.mp hexec
      exact ⟨c, hc, (Option.some.inj hw).symm⟩
  | destroySession k =>
      obtain ⟨c, hc, hw⟩ := Option.bind_eq_some_iff.mp hexec
      exact ⟨c, hc, (Option.some.inj hw).symm⟩
  | engine b =>
      obtain ⟨s, hs, hw⟩ := Option.bind_eq_some_iff.mp hexec
      exact ⟨s, hs, (Option.some.inj hw).symm⟩

/-- An engine without sessions, from its construction on. -/
def machine : Machine World Action :=
  { initial := fun w => ∃ v, w = ⟨System.initEngine v, []⟩
    step := Step }

/-- A computed run whose steps meet a guard. -/
theorem reach_of_replay {guard : Action → World → Prop}
    [∀ a w, Decidable (guard a w)] {v : Status} {as : List Action} {w : World}
    (h : Machine.replay settleExec guard as ⟨System.initEngine v, []⟩ =
      some w) : machine.Reach guard w := by
  have hinit : machine.Reach guard ⟨System.initEngine v, []⟩ :=
    .initial ⟨v, rfl⟩
  exact hinit.replay (fun _ _ _ h => step_iff.mpr h) as h

/-- A property that a computed run ends with holds in the state reached. -/
theorem exists_of_replay {guard : Action → World → Prop}
    [∀ a w, Decidable (guard a w)] {v : Status} {as : List Action}
    {P : World → Prop} [DecidablePred P]
    (h : (Machine.replay settleExec guard as ⟨System.initEngine v, []⟩).any
      (fun w => decide (P w)) = true) :
    ∃ w, Machine.replay settleExec guard as ⟨System.initEngine v, []⟩ =
      some w ∧ machine.Reach guard w ∧ P w := by
  have hinit : machine.Reach guard ⟨System.initEngine v, []⟩ :=
    .initial ⟨v, rfl⟩
  exact hinit.exists_of_replay (fun _ _ _ h => step_iff.mpr h) h

end World

end LocationService
