/-!
# A shared mutex

One writer or any number of readers, by thread.  A thread may appear among the
readers several times, since nothing stops it from asking again.
`Accounts` ties a mutex to what the program counters of the threads say they
hold; each operation keeps the books when one thread's entry changes with it.
-/

namespace LocationService.Library

/-- A mutex with exclusive and shared ownership. -/
structure SharedMutex (τ : Type) where
  writer : Option τ
  readers : List τ
  exclusive : writer ≠ none → readers = []

namespace SharedMutex

variable {τ : Type}

/-- A mutex nobody holds. -/
def free : SharedMutex τ := ⟨none, [], fun _ => rfl⟩

/-- Exclusive ownership, if nobody holds the mutex. -/
def lock (m : SharedMutex τ) (t : τ) : Option (SharedMutex τ) :=
  if m.writer.isNone && m.readers.isEmpty then
    some ⟨some t, [], fun _ => rfl⟩
  else none

/-- Gives exclusive ownership back. -/
def unlock (m : SharedMutex τ) : SharedMutex τ :=
  ⟨none, m.readers, fun h => absurd rfl h⟩

/-- Shared ownership, if there is no writer. -/
def lockShared (m : SharedMutex τ) (t : τ) : Option (SharedMutex τ) :=
  if m.writer.isNone then some ⟨none, t :: m.readers, fun h => absurd rfl h⟩
  else none

/-- Gives one shared ownership back. -/
def unlockShared [DecidableEq τ] (m : SharedMutex τ) (t : τ) : SharedMutex τ :=
  ⟨m.writer, m.readers.erase t, fun h => by rw [m.exclusive h]; rfl⟩

theorem lock_eq_some {m m' : SharedMutex τ} {t : τ} (h : m.lock t = some m') :
    m.writer = none ∧ m.readers = [] ∧ m'.writer = some t ∧ m'.readers = [] := by
  unfold lock at h
  split at h
  · rename_i hfree
    simp only [Bool.and_eq_true, Option.isNone_iff_eq_none,
      List.isEmpty_iff] at hfree
    obtain rfl := Option.some.inj h
    exact ⟨hfree.1, hfree.2, rfl, rfl⟩
  · cases h

theorem lockShared_eq_some {m m' : SharedMutex τ} {t : τ}
    (h : m.lockShared t = some m') :
    m.writer = none ∧ m'.writer = none ∧ m'.readers = t :: m.readers := by
  unfold lockShared at h
  split at h
  · rename_i hfree
    obtain rfl := Option.some.inj h
    exact ⟨Option.isNone_iff_eq_none.mp hfree, rfl, rfl⟩
  · cases h

/-- A shared request fails only while there is a writer. -/
theorem lockShared_eq_none {m : SharedMutex τ} {t : τ}
    (h : m.lockShared t = none) : m.writer ≠ none := by
  unfold lockShared at h
  split at h
  · cases h
  · rename_i hw
    exact fun e => hw (Option.isNone_iff_eq_none.mpr e)

theorem eq_free {m : SharedMutex τ} (hw : m.writer = none)
    (hr : m.readers = []) : m = free := by
  obtain ⟨w, r, hx⟩ := m
  obtain rfl : w = none := hw
  obtain rfl : r = [] := hr
  rfl

theorem free_lock (t : τ) :
    ∃ m, (free : SharedMutex τ).lock t = some m ∧ m.unlock = free :=
  ⟨_, rfl, rfl⟩

theorem free_lockShared [DecidableEq τ] (t : τ) :
    ∃ m, (free : SharedMutex τ).lockShared t = some m ∧
      m.unlockShared t = free := by
  refine ⟨_, rfl, eq_free rfl ?_⟩
  exact List.erase_cons_head ..

/-! ## Keeping the books -/

variable [DecidableEq τ]

/-- The mutex is held by thread `t` shared `shared t` times, and exclusively
if `exclusive t`. -/
structure Accounts (m : SharedMutex τ) (shared : τ → Nat)
    (exclusive : τ → Prop) : Prop where
  readers : ∀ t, m.readers.count t = shared t
  writer : ∀ t, m.writer = some t ↔ exclusive t

namespace Accounts

variable {m m' : SharedMutex τ} {f f' : τ → Nat} {g g' : τ → Prop}

theorem congr (h : m.Accounts f g) (hf : ∀ t, f' t = f t)
    (hg : ∀ t, g' t ↔ g t) : m.Accounts f' g' :=
  { readers := fun t => (h.readers t).trans (hf t).symm
    writer := fun t => (h.writer t).trans (hg t).symm }

theorem lock (h : m.Accounts f g) {t : τ} (hl : m.lock t = some m')
    (hf : ∀ u, f' u = f u) (hg : ∀ u, g' u ↔ u = t ∨ g u) :
    m'.Accounts f' g' := by
  obtain ⟨hw, hr, hw', hr'⟩ := lock_eq_some hl
  constructor
  · intro u
    rw [hf, ← h.readers, hr, hr']
  · intro u
    have hno : ¬ g u := by
      intro hgu
      have := (h.writer u).mpr hgu
      rw [hw] at this
      cases this
    rw [hg, hw']
    constructor
    · intro he
      exact .inl (Option.some.inj he).symm
    · rintro (rfl | hgu)
      · rfl
      · exact absurd hgu hno

theorem unlock (h : m.Accounts f g) (hf : ∀ u, f' u = f u)
    (hg : ∀ u, ¬ g' u) : m.unlock.Accounts f' g' := by
  constructor
  · intro u
    rw [hf]
    exact h.readers u
  · intro u
    constructor
    · intro he
      cases he
    · intro hgu
      exact absurd hgu (hg u)

theorem lockShared (h : m.Accounts f g) {t : τ} (hl : m.lockShared t = some m')
    (hf : ∀ u, f' u = if u = t then f u + 1 else f u)
    (hg : ∀ u, g' u ↔ g u) : m'.Accounts f' g' := by
  obtain ⟨hw, hw', hr'⟩ := lockShared_eq_some hl
  constructor
  · intro u
    rw [hr', hf, ← h.readers, List.count_cons]
    by_cases hut : u = t
    · rw [if_pos hut, if_pos (by rw [hut]; exact beq_self_eq_true t)]
    · rw [if_neg hut, if_neg (by simpa using Ne.symm hut)]
      rfl
  · intro u
    rw [hg, ← h.writer u, hw, hw']

theorem unlockShared (h : m.Accounts f g) {t : τ}
    (hf : ∀ u, f' u = if u = t then f u - 1 else f u)
    (hg : ∀ u, g' u ↔ g u) : (m.unlockShared t).Accounts f' g' := by
  constructor
  · intro u
    show (m.readers.erase t).count u = f' u
    rw [hf, ← h.readers]
    by_cases hut : u = t
    · rw [if_pos hut, hut]
      exact List.count_erase_self
    · rw [if_neg hut]
      exact List.count_erase_of_ne hut
  · intro u
    rw [hg]
    exact h.writer u

/-- There is no writer while some thread holds the mutex shared. -/
theorem not_exclusive (h : m.Accounts f g) {t : τ} (ht : 0 < f t) (u : τ) :
    ¬ g u := by
  intro hgu
  have hw : m.writer ≠ none := by
    rw [(h.writer u).mpr hgu]
    simp
  have hcount := h.readers t
  rw [m.exclusive hw] at hcount
  have hzero : f t = 0 := by simpa using hcount.symm
  omega

/-- Nobody has the mutex if the books are empty. -/
theorem eq_free (h : m.Accounts f g) (hf : ∀ t, f t = 0) (hg : ∀ t, ¬ g t) :
    m = SharedMutex.free := by
  refine SharedMutex.eq_free ?_ ?_
  · cases hw : m.writer with
    | none => rfl
    | some t => exact absurd ((h.writer t).mp hw) (hg t)
  · refine List.eq_nil_iff_forall_not_mem.mpr fun t ht => ?_
    have hcount := List.count_pos_iff.mpr ht
    rw [h.readers, hf] at hcount
    omega

/-- There is only one writer. -/
theorem exclusive_unique (h : m.Accounts f g) {t u : τ} (ht : g t) (hu : g u) :
    t = u := by
  have he := ((h.writer t).mpr ht).symm.trans ((h.writer u).mpr hu)
  exact Option.some.inj he

/-- A shared request fails only while somebody has exclusive ownership. -/
theorem exclusive_of_lockShared_none (h : m.Accounts f g) {t : τ}
    (hl : m.lockShared t = none) : ∃ u, g u := by
  obtain ⟨u, hu⟩ := Option.ne_none_iff_exists'.mp (lockShared_eq_none hl)
  exact ⟨u, (h.writer u).mp hu⟩

end Accounts

end SharedMutex

end LocationService.Library
