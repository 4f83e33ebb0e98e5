/-!
# A flag as a token

An atomic flag that threads take with a compare-exchange and give back with a
store.  `Token flag owns` says that the flag is set exactly while some thread
owns the token, and that there is never a second owner.
-/

namespace LocationService.Library

/-- The flag is set exactly while there is an owner, who is the only one. -/
structure Token {τ : Type} (flag : Bool) (owns : τ → Prop) : Prop where
  owned : flag = true → ∃ t, owns t
  set : ∀ t, owns t → flag = true
  unique : ∀ t u, owns t → owns u → t = u

namespace Token

variable {τ : Type} {flag : Bool} {owns owns' : τ → Prop}

theorem unset (h : ∀ t, ¬ owns t) : Token false owns :=
  { owned := fun hf => nomatch hf
    set := fun t ht => absurd ht (h t)
    unique := fun t _ ht => absurd ht (h t) }

/-- Steps that neither take nor give back the token. -/
theorem congr (h : Token flag owns) (ho : ∀ t, owns' t ↔ owns t) :
    Token flag owns' :=
  { owned := fun hf => by
      obtain ⟨t, ht⟩ := h.owned hf
      exact ⟨t, (ho t).mpr ht⟩
    set := fun t ht => h.set t ((ho t).mp ht)
    unique := fun t u ht hu => h.unique t u ((ho t).mp ht) ((ho u).mp hu) }

/-- Nobody owns the token while the flag is not set. -/
theorem not_owns (h : Token false owns) (t : τ) : ¬ owns t :=
  fun ht => nomatch h.set t ht

/-- A compare-exchange that succeeds makes its thread the owner. -/
theorem take (h : Token false owns) {t : τ}
    (ho : ∀ u, owns' u ↔ u = t ∨ owns u) : Token true owns' := by
  have hno := h.not_owns
  constructor
  · intro _
    exact ⟨t, (ho t).mpr (.inl rfl)⟩
  · intro _ _
    rfl
  · intro u v hu hv
    have hut := ((ho u).mp hu).resolve_right (hno u)
    have hvt := ((ho v).mp hv).resolve_right (hno v)
    exact hut.trans hvt.symm

/-- The owner hands the token to another thread. -/
theorem pass (h : Token flag owns) {t u : τ} (ht : owns t)
    (ho : ∀ v, owns' v ↔ v = u ∨ (v ≠ t ∧ owns v)) : Token flag owns' := by
  have honly : ∀ v, owns' v ↔ v = u := by
    intro v
    rw [ho]
    constructor
    · rintro (hv | ⟨hne, hv⟩)
      · exact hv
      · exact absurd (h.unique v t hv ht) hne
    · exact .inl
  constructor
  · intro _
    exact ⟨u, (honly u).mpr rfl⟩
  · intro _ _
    exact h.set t ht
  · intro v w hv hw
    exact ((honly v).mp hv).trans ((honly w).mp hw).symm

/-- The owner gives the token back. -/
theorem release (h : Token flag owns) {t : τ} (ht : owns t)
    (ho : ∀ u, owns' u → u ≠ t ∧ owns u) : Token false owns' := by
  refine unset fun u hu => ?_
  obtain ⟨hne, hou⟩ := ho u hu
  exact hne (h.unique u t hou ht)

end Token

end LocationService.Library
