/-!
# Networks of observable properties with re-entrant notification

A *property network* is a state holding several observable properties, a type
of assignments to them, and the slots that observe them.  Assigning the value
a property already has is a no-op.  Any other assignment stores the value and
then runs the slots of that property synchronously; a slot may assign further
properties, so notifications nest.

The nesting need not be bounded, so `Network.assign` takes a depth and returns
`none` when the nesting exceeds it.  `Network.Returns` forgets the depth: an
assignment returns with a state when some depth produces it.

## Main results

* `Network.assign_mono` — more depth never changes a result.
* `Network.Returns.unique` — the state an assignment returns with is unique.
-/

namespace LocationService.Library

/-- An assignment function: what is left of a state after an assignment, or
`none` if the notification did not finish. -/
abbrev Assigner (σ α : Type) := α → σ → Option σ

/-- `g` finishes wherever `f` does, with the same state. -/
def Assigner.Le {σ α : Type} (f g : Assigner σ α) : Prop :=
  ∀ a s t, f a s = some t → g a s = some t

/-- Observable properties, and the slots connected to them.  `slots` is given
the assignment function its bodies call, which makes the nesting explicit. -/
structure Network (σ α : Type) where
  /-- The property already has the assigned value. -/
  holds : α → σ → Bool
  /-- Stores the assigned value. -/
  store : α → σ → σ
  /-- Runs the slots of the assigned property in connection order. -/
  slots : Assigner σ α → Assigner σ α
  /-- A slot only observes the nested assignments that it makes. -/
  slots_mono : ∀ f g : Assigner σ α, f.Le g → (slots f).Le (slots g)

namespace Network

variable {σ α : Type} (net : Network σ α)

/-- An assignment whose notifications nest at most `depth` deep. -/
def assign : Nat → Assigner σ α
  | 0, a, s => if net.holds a s then some s else none
  | depth + 1, a, s =>
      if net.holds a s then some s
      else net.slots (assign depth) a (net.store a s)

/-- Assigning the value that a property has does nothing, at any depth. -/
theorem assign_of_holds {a : α} {s : σ} (h : net.holds a s = true) (n : Nat) :
    net.assign n a s = some s := by
  cases n with
  | zero => simp [assign, h]
  | succ n => simp [assign, h]

/-- Any other assignment stores the value and runs the slots. -/
theorem assign_of_not_holds {a : α} {s : σ} (h : net.holds a s = false) (n : Nat) :
    net.assign (n + 1) a s = net.slots (net.assign n) a (net.store a s) := by
  simp [assign, h]

private theorem assign_le_succ (n : Nat) :
    (net.assign n).Le (net.assign (n + 1)) := by
  induction n with
  | zero =>
      intro a s t h
      by_cases hh : net.holds a s = true
      · rw [net.assign_of_holds hh] at h ⊢
        exact h
      · simp [assign, hh] at h
  | succ n ih =>
      intro a s t h
      by_cases hh : net.holds a s = true
      · rw [net.assign_of_holds hh] at h ⊢
        exact h
      · have hf : net.holds a s = false := by simpa using hh
        rw [net.assign_of_not_holds hf] at h ⊢
        exact net.slots_mono _ _ ih a _ t h

/-- More depth never changes the state an assignment returns with. -/
theorem assign_mono {n m : Nat} (hnm : n ≤ m) :
    (net.assign n).Le (net.assign m) := by
  induction hnm with
  | refl => exact fun _ _ _ h => h
  | step _ ih => exact fun a s t h => net.assign_le_succ _ a s t (ih a s t h)

/-- The assignment `a`, made in state `s`, returns and leaves `t`. -/
def Returns (a : α) (s t : σ) : Prop := ∃ n, net.assign n a s = some t

variable {net}

/-- A finished assignment has one result. -/
theorem Returns.unique {a : α} {s t u : σ} (ht : net.Returns a s t)
    (hu : net.Returns a s u) : t = u := by
  obtain ⟨n, hn⟩ := ht
  obtain ⟨m, hm⟩ := hu
  have h₁ := net.assign_mono (Nat.le_max_left n m) a s t hn
  have h₂ := net.assign_mono (Nat.le_max_right n m) a s u hm
  rw [h₁] at h₂
  exact Option.some.inj h₂

/-- The result of an assignment is the one any sufficient depth computes. -/
theorem Returns.eq_of_assign {n : Nat} {a : α} {s t u : σ}
    (ht : net.Returns a s t) (hn : net.assign n a s = some u) : t = u :=
  ht.unique ⟨n, hn⟩

end Network

/-! ## Monotonicity of slot bodies

The obligation `slots_mono` of a network is discharged by following the shape
of the slot bodies: a sequence, a loop over a list, a conditional. -/

section Bodies

variable {σ ι : Type}

/-- Running one body after another is monotone in both. -/
theorem bind_le {σ τ : Type} {x y : Option σ} {k l : σ → Option τ}
    (hx : ∀ s, x = some s → y = some s)
    (hk : ∀ s t, k s = some t → l s = some t) {t : τ}
    (h : x.bind k = some t) : y.bind l = some t := by
  obtain ⟨s, hs, ht⟩ := Option.bind_eq_some_iff.mp h
  rw [hx s hs]
  exact hk s t ht

/-- A loop over a list is monotone in its body. -/
theorem foldlM_le {f g : σ → ι → Option σ}
    (hfg : ∀ s i t, f s i = some t → g s i = some t) (is : List ι) {s t : σ}
    (h : is.foldlM f s = some t) : is.foldlM g s = some t := by
  induction is generalizing s t with
  | nil => simpa using h
  | cons i is ih =>
      rw [List.foldlM_cons] at h ⊢
      exact bind_le (fun u hu => hfg s i u hu) (fun _ _ hu => ih hu) h

end Bodies

end LocationService.Library
