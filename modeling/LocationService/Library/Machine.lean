/-!
# Guarded runs of a transition system

A `Machine` has initial states and labelled steps.  `Reach guard s` says that
some run ends in `s` whose every step meets `guard` in the state it is taken
from; with the guard that is always met these are the reachable states.
Invariants are proved once for a step (`Reach.invariant`); a guard that says
exactly which steps keep a property is handled by `Reach.keeps_exactly`; and
concrete runs are computed by `replay`.  Systems with one initial state and a
step function (`ofStep`) have these rules in a shorter form.
-/

namespace LocationService.Library

/-- Initial states and labelled steps. -/
structure Machine (σ α : Type) where
  initial : σ → Prop
  step : α → σ → σ → Prop

namespace Machine

variable {σ α : Type} {m : Machine σ α} {guard : α → σ → Prop}

/-- The states at the end of the runs whose steps all meet the guard. -/
inductive Reach (m : Machine σ α) (guard : α → σ → Prop) : σ → Prop where
  | initial {s : σ} : m.initial s → Reach m guard s
  | step {s t : σ} (a : α) :
      Reach m guard s → guard a s → m.step a s t → Reach m guard t

/-- What holds initially and survives every guarded step holds at the end of
every guarded run. -/
theorem Reach.invariant {Inv : σ → Prop} (hinit : ∀ s, m.initial s → Inv s)
    (hstep : ∀ a s t, Inv s → guard a s → m.step a s t → Inv t) {s : σ}
    (h : m.Reach guard s) : Inv s := by
  induction h with
  | initial h => exact hinit _ h
  | step a _ hg hst ih => exact hstep a _ _ ih hg hst

/-- Where an invariant makes the guard say which steps keep a property, the
property holds in every guarded run, and the first step that does not meet the
guard breaks it. -/
theorem Reach.keeps_exactly {Inv P : σ → Prop}
    (hinit : ∀ s, m.initial s → Inv s ∧ P s)
    (hinv : ∀ a s t, Inv s → m.step a s t → Inv t)
    (hstep : ∀ a s t, Inv s → P s → m.step a s t → (P t ↔ guard a s))
    {s : σ} (h : m.Reach guard s) :
    Inv s ∧ P s ∧ ∀ a t, m.step a s t → (P t ↔ guard a s) := by
  have hboth : Inv s ∧ P s := by
    induction h with
    | initial h => exact hinit _ h
    | step a _ hg hst ih =>
        have hkept := (hstep a _ _ ih.1 ih.2 hst).mpr hg
        exact ⟨hinv a _ _ ih.1 hst, hkept⟩
  exact ⟨hboth.1, hboth.2, fun a t hst => hstep a s t hboth.1 hboth.2 hst⟩

/-- The same steps, from a given state. -/
def startingAt (m : Machine σ α) (s : σ) : Machine σ α where
  initial t := t = s
  step := m.step

/-- A map of the states and the labels that takes steps to steps of another
system takes runs to runs. -/
theorem Reach.map {τ β : Type} {m' : Machine τ β} {guard' : β → τ → Prop}
    (f : σ → τ) (g : α → β) (hinit : ∀ s, m.initial s → m'.initial (f s))
    (hguard : ∀ a s, guard a s → guard' (g a) (f s))
    (hstep : ∀ a s t, m.step a s t → m'.step (g a) (f s) (f t)) {s : σ}
    (h : m.Reach guard s) : m'.Reach guard' (f s) := by
  induction h with
  | initial h => exact .initial (hinit _ h)
  | step a _ hg hst ih =>
      exact ih.step (g a) (hguard a _ hg) (hstep a _ _ hst)

/-- A weaker guard admits more runs. -/
theorem Reach.mono {guard' : α → σ → Prop}
    (hle : ∀ a s, guard a s → guard' a s) {s : σ} (h : m.Reach guard s) :
    m.Reach guard' s :=
  h.map id id (fun _ hs => hs) hle (fun _ _ _ hst => hst)

/-- A run goes on from where another one ended. -/
theorem Reach.append {s t : σ} (hs : m.Reach guard s)
    (ht : (m.startingAt s).Reach guard t) : m.Reach guard t := by
  induction ht with
  | initial h => exact h ▸ hs
  | step a _ hg hst ih => exact ih.step a hg hst

/-- Runs a list of labels with an executable step function, as long as the
guard is met. -/
def replay (next : α → σ → Option σ) (guard : α → σ → Prop)
    [∀ a s, Decidable (guard a s)] : List α → σ → Option σ
  | [], s => some s
  | a :: as, s =>
      if guard a s then (next a s).bind (replay next guard as) else none

/-- What a replay ends with is reached. -/
theorem Reach.replay {next : α → σ → Option σ}
    [∀ a s, Decidable (guard a s)]
    (hnext : ∀ a s t, next a s = some t → m.step a s t) (as : List α) {s : σ}
    (h : m.Reach guard s) {t : σ}
    (ht : Machine.replay next guard as s = some t) : m.Reach guard t := by
  induction as generalizing s with
  | nil =>
      obtain rfl : s = t := Option.some.inj ht
      exact h
  | cons a as ih =>
      unfold Machine.replay at ht
      split at ht
      · rename_i hg
        obtain ⟨u, hu, hrest⟩ := Option.bind_eq_some_iff.mp ht
        exact ih (h.step a hg (hnext a s u hu)) hrest
      · cases ht

/-- A replay that ends with a property ends in a reached state with it. -/
theorem Reach.exists_of_replay {next : α → σ → Option σ}
    [∀ a s, Decidable (guard a s)]
    (hnext : ∀ a s t, next a s = some t → m.step a s t) {as : List α} {s : σ}
    (h : m.Reach guard s) {P : σ → Prop} [DecidablePred P]
    (hrun : (Machine.replay next guard as s).any (fun t => decide (P t)) =
      true) :
    ∃ t, Machine.replay next guard as s = some t ∧ m.Reach guard t ∧ P t := by
  obtain ⟨t, ht, hp⟩ := (Option.any_eq_true _ _).mp hrun
  exact ⟨t, ht, h.replay hnext as ht, of_decide_eq_true hp⟩

/-! ## Systems with a step function -/

section StepFunction

variable {init : σ} {next : α → σ → σ}

/-- One initial state, and a function for the steps. -/
def ofStep (init : σ) (next : α → σ → σ) : Machine σ α where
  initial s := s = init
  step a s t := t = next a s

/-- What holds initially and survives every guarded step holds in every
guarded run of a step function. -/
theorem Reach.ofStep_invariant {s : σ}
    (h : (ofStep init next).Reach guard s) (Inv : σ → Prop) (hinit : Inv init)
    (hstep : ∀ a s, Inv s → guard a s → Inv (next a s)) : Inv s := by
  induction h with
  | initial h => exact h ▸ hinit
  | step a _ hg hst ih => exact hst ▸ hstep a _ ih hg

/-- `Reach.keeps_exactly` for a step function. -/
theorem Reach.ofStep_keeps_exactly {s : σ}
    (h : (ofStep init next).Reach guard s) (Inv P : σ → Prop)
    (hinit : Inv init ∧ P init) (hinv : ∀ a s, Inv s → Inv (next a s))
    (hstep : ∀ a s, Inv s → P s → (P (next a s) ↔ guard a s)) :
    Inv s ∧ P s ∧ ∀ a, P (next a s) ↔ guard a s := by
  have hrun := h.keeps_exactly (fun _ hs => hs ▸ hinit)
    (fun a s _ hs hst => hst ▸ hinv a s hs)
    (fun a s _ hs hp hst => hst ▸ hstep a s hs hp)
  exact ⟨hrun.1, hrun.2.1, fun a => hrun.2.2 a _ rfl⟩

/-- The same for a property whose guard needs no invariant beside it. -/
theorem Reach.ofStep_keeps_itself {s : σ}
    (h : (ofStep init next).Reach guard s) (P : σ → Prop) (hinit : P init)
    (hstep : ∀ a s, P s → (P (next a s) ↔ guard a s)) :
    P s ∧ ∀ a, P (next a s) ↔ guard a s := by
  have hrun := h.ofStep_keeps_exactly (fun _ => True) P ⟨trivial, hinit⟩
    (fun _ _ _ => trivial) (fun a s _ => hstep a s)
  exact hrun.2

/-- A replay of a step function that ends with a property ends in a reached
state with it. -/
theorem Reach.ofStep_exists_of_replay [∀ a s, Decidable (guard a s)]
    (as : List α) {P : σ → Prop} [DecidablePred P]
    (hrun : (Machine.replay (fun a s => some (next a s)) guard as init).any
      (fun t => decide (P t)) = true) :
    ∃ t, (ofStep init next).Reach guard t ∧ P t := by
  have hinit : (ofStep init next).Reach guard init := .initial rfl
  have hend := hinit.exists_of_replay
    (fun _ _ _ h => (Option.some.inj h).symm) hrun
  obtain ⟨t, -, hreach, hp⟩ := hend
  exact ⟨t, hreach, hp⟩

/-- The state after a list of labels, the oldest first. -/
def run (init : σ) (next : α → σ → σ) (as : List α) : σ :=
  as.foldl (fun s a => next a s) init

theorem run_concat (as : List α) (a : α) :
    run init next (as ++ [a]) = next a (run init next as) := by
  simp [run]

/-- What holds initially and survives every step holds after any labels. -/
theorem run_invariant (Inv : σ → Prop) (hinit : Inv init)
    (hstep : ∀ a s, Inv s → Inv (next a s)) (as : List α) :
    Inv (run init next as) := by
  unfold run
  induction as generalizing init with
  | nil => exact hinit
  | cons a as ih => exact ih (hstep a init hinit)

end StepFunction

end Machine

end LocationService.Library
