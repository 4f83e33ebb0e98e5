/-!
# Announcements of appearing and disappearing objects

A component that keeps a set of objects announces that one appeared or went
away.  A log of such announcements *mirrors* a set if for every object the
announcements alternate, starting with an appearance, and the objects whose
last announcement is an appearance are those of the set.

`Mirrors.cons_iff` and `Mirrors.set_iff` say what one announcement, or a change
of the set without one, does to a log that mirrors a set.
-/

namespace LocationService.Library

variable {κ : Type} [DecidableEq κ]

/-- Announcements about objects, the newest first; `true` for an appearance. -/
abbrev Announcements (κ : Type) := List (κ × Bool)

namespace Announcements

/-- The last announcement about an object is its appearance. -/
def isPresent (k : κ) : Announcements κ → Bool
  | [] => false
  | (k', appeared) :: older => if k' = k then appeared else isPresent k older

/-- Every announcement about an object differs from the one before it, and the
first one is its appearance. -/
def Alternate : Announcements κ → Prop
  | [] => True
  | (k, appeared) :: older =>
      appeared ≠ isPresent k older ∧ Alternate older

instance decidableAlternate : ∀ log : Announcements κ, Decidable (Alternate log)
  | [] => .isTrue trivial
  | (_, _) :: older =>
      haveI := decidableAlternate older
      inferInstanceAs (Decidable (_ ∧ _))

/-- The log alternates, and its last announcements describe a set. -/
def Mirrors (log : Announcements κ) (present : κ → Prop) : Prop :=
  Alternate log ∧ ∀ k, isPresent k log = true ↔ present k

theorem mirrors_nil : Mirrors ([] : Announcements κ) (fun _ => False) := by
  constructor
  · trivial
  · intro k
    simp [isPresent]

@[simp] theorem isPresent_cons_self (k : κ) (appeared : Bool)
    (log : Announcements κ) : isPresent k ((k, appeared) :: log) = appeared := by
  simp [isPresent]

theorem isPresent_cons_of_ne {k k' : κ} (hne : k' ≠ k) (appeared : Bool)
    (log : Announcements κ) :
    isPresent k ((k', appeared) :: log) = isPresent k log := by
  simp [isPresent, hne]

/-- The log after some objects have appeared, one after the other. -/
def appeared (ks : List κ) (log : Announcements κ) : Announcements κ :=
  ks.foldl (fun log k => (k, true) :: log) log

theorem isPresent_appeared_iff {k : κ} {ks : List κ} {log : Announcements κ} :
    isPresent k (appeared ks log) = true ↔ k ∈ ks ∨ isPresent k log = true := by
  induction ks generalizing log with
  | nil => simp [appeared]
  | cons k' ks ih =>
      have htail := @ih ((k', true) :: log)
      rw [show appeared (k' :: ks) log = appeared ks ((k', true) :: log) from
        rfl, htail]
      by_cases heq : k' = k
      · simp [heq]
      · simp [isPresent_cons_of_ne heq, Ne.symm heq]

/-- The appearances alternate exactly if they are of different objects that were
not there. -/
theorem alternate_appeared_iff {ks : List κ} {log : Announcements κ} :
    Alternate (appeared ks log) ↔
      (ks.Nodup ∧ ∀ k ∈ ks, ¬ isPresent k log = true) ∧ Alternate log := by
  induction ks generalizing log with
  | nil => simp [appeared]
  | cons k ks ih =>
      have htail := @ih ((k, true) :: log)
      rw [show appeared (k :: ks) log = appeared ks ((k, true) :: log) from
        rfl, htail]
      constructor
      · rintro ⟨⟨hnodup, hfresh⟩, hk, halternate⟩
        have hnot : k ∉ ks := fun hmem => hfresh k hmem (isPresent_cons_self ..)
        refine ⟨⟨List.nodup_cons.mpr ⟨hnot, hnodup⟩, ?_⟩, halternate⟩
        intro k' hk'
        rcases List.mem_cons.mp hk' with rfl | hk'
        · exact fun hpresent => hk hpresent.symm
        · have hne : k ≠ k' := fun heq => hnot (heq ▸ hk')
          rw [← isPresent_cons_of_ne hne true]
          exact hfresh k' hk'
      · rintro ⟨⟨hnodup, hfresh⟩, halternate⟩
        obtain ⟨hnot, hnodup'⟩ := List.nodup_cons.mp hnodup
        refine ⟨⟨hnodup', fun k' hk' => ?_⟩, ?_, halternate⟩
        · have hne : k ≠ k' := fun heq => hnot (heq ▸ hk')
          rw [isPresent_cons_of_ne hne]
          exact hfresh k' (List.mem_cons_of_mem k hk')
        · exact fun hpresent =>
            hfresh k List.mem_cons_self hpresent.symm

variable {log : Announcements κ} {present present' : κ → Prop}

/-- Without an announcement the log mirrors another set only if that has the
same objects. -/
theorem Mirrors.set_iff (h : Mirrors log present) :
    Mirrors log present' ↔ ∀ k, present' k ↔ present k := by
  constructor
  · intro h' k
    rw [← h'.2 k, h.2 k]
  · intro hsame
    exact ⟨h.1, fun k => (h.2 k).trans (hsame k).symm⟩

/-- An announcement about one object keeps the log a mirror exactly if the
object was, and is, in the set accordingly. -/
theorem Mirrors.cons_iff (h : Mirrors log present) {k : κ} {appeared : Bool}
    (hothers : ∀ k', k' ≠ k → (present' k' ↔ present k')) :
    Mirrors ((k, appeared) :: log) present' ↔
      (appeared = true ↔ ¬ present k) ∧ (appeared = true ↔ present' k) := by
  have halternates : appeared ≠ isPresent k log ↔
      (appeared = true ↔ ¬ present k) := by
    rw [← h.2 k]
    cases appeared <;> cases isPresent k log <;> simp
  constructor
  · intro hmirrors
    have hk := hmirrors.2 k
    rw [isPresent_cons_self] at hk
    exact ⟨halternates.mp hmirrors.1.1, hk⟩
  · intro hboth
    constructor
    · exact ⟨halternates.mpr hboth.1, h.1⟩
    · intro k'
      by_cases heq : k' = k
      · subst heq
        rw [isPresent_cons_self]
        exact hboth.2
      · have hne : k ≠ k' := fun hkk => heq hkk.symm
        rw [isPresent_cons_of_ne hne, h.2 k', hothers k' heq]

end Announcements

end LocationService.Library
