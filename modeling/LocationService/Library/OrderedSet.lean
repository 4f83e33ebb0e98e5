import Mathlib.Data.List.Basic

/-!
# Sets ordered by a comparator

A set that is ordered by a comparator holds its elements in ascending order,
and takes a new one only if none of them is equivalent to it, that is if the
comparator tells it from all of them.  So a coarse comparator makes a set of
equivalence classes, each represented by the element that came first.

`begin_insertAll` says what the least element of such a set is where the
comparator only tells the elements with a property from those without.
-/

namespace LocationService.Library.OrderedSet

variable {α : Type}

section Comparator

variable (less : α → α → Bool)

/-- Inserts an element, unless an equivalent one is there. -/
def insert (x : α) : List α → List α
  | [] => [x]
  | y :: ys =>
      if less x y then x :: y :: ys
      else if less y x then y :: insert x ys
      else y :: ys

/-- The set of some elements that are inserted one after the other. -/
def insertAll (xs : List α) : List α :=
  xs.foldl (fun set x => insert less x set) []

/-- An element comes to the front of a set if it is less than the one there. -/
theorem head?_insert_cons (x y : α) (ys : List α) :
    (insert less x (y :: ys)).head? =
      if less x y then some x else some y := by
  unfold insert
  by_cases hx : less x y = true
  · rw [if_pos hx, if_pos hx]
    rfl
  · rw [if_neg hx, if_neg hx]
    split
    · rfl
    · rfl

end Comparator

section Classes

variable (p : α → Bool)

/-- Elements with the property come before those without. -/
def classesLess (x y : α) : Bool := p x && !p y

/-- The front of the set, after more elements were inserted. -/
private theorem head?_foldl_insert (xs : List α) : ∀ (y : α) (ys : List α),
    (xs.foldl (fun set x => insert (classesLess p) x set) (y :: ys)).head? =
      if p y then some y else (xs.find? p).or (some y) := by
  induction xs with
  | nil =>
      intro y ys
      simp
  | cons x xs ih =>
      intro y ys
      have hfront := head?_insert_cons (classesLess p) x y ys
      have hne : insert (classesLess p) x (y :: ys) ≠ [] := by
        intro heq
        rw [heq] at hfront
        split at hfront <;> cases hfront
      obtain ⟨z, zs, hset⟩ := List.exists_cons_of_ne_nil hne
      rw [hset, List.head?_cons] at hfront
      rw [List.foldl_cons, hset, ih z zs]
      by_cases hy : p y = true
      · have hz : z = y := by simpa [classesLess, hy] using hfront
        simp [hz, hy]
      · by_cases hx : p x = true
        · have hz : z = x := by simpa [classesLess, hy, hx] using hfront
          simp [hz, hy, hx]
        · have hz : z = y := by simpa [classesLess, hx] using hfront
          simp [hz, hy, hx]

/-- The set begins with the first element that has the property, and without
such an element with the first one. -/
theorem begin_insertAll (xs : List α) :
    (insertAll (classesLess p) xs).head? = (xs.find? p).or xs.head? := by
  cases xs with
  | nil => rfl
  | cons x xs =>
      have hfront := head?_foldl_insert p xs x []
      unfold insertAll
      rw [List.foldl_cons]
      show (xs.foldl _ [x]).head? = _
      rw [hfront]
      by_cases hx : p x = true
      · simp [hx]
      · simp [hx]

end Classes

section Keys

variable {κ : Type} [Ord κ] (key : α → κ)

/-- Elements come in the order of their keys. -/
def keyLess (x y : α) : Bool := compare (key x) (key y) == .lt

/-- The elements are in ascending order of their keys. -/
abbrev Ascending (xs : List α) : Prop :=
  xs.Pairwise fun x y => compare (key x) (key y) = .lt

variable {key}

theorem keyLess_iff {x y : α} :
    keyLess key x y = true ↔ compare (key x) (key y) = .lt := by
  simp [keyLess]

theorem mem_insert {x z : α} {xs : List α}
    (h : z ∈ insert (keyLess key) x xs) : z = x ∨ z ∈ xs := by
  induction xs with
  | nil => exact .inl (List.mem_singleton.mp h)
  | cons y ys ih =>
      unfold insert at h
      by_cases hx : keyLess key x y = true
      · rw [if_pos hx] at h
        exact List.mem_cons.mp h
      · rw [if_neg hx] at h
        by_cases hy : keyLess key y x = true
        · rw [if_pos hy] at h
          rcases List.mem_cons.mp h with rfl | hrest
          · exact .inr List.mem_cons_self
          · exact (ih hrest).imp_right (List.mem_cons_of_mem _)
        · rw [if_neg hy] at h
          exact .inr h

variable [Std.TransOrd κ]

/-- What is less than the first element is less than all. -/
theorem Ascending.lt_of_mem {x y z : α} {ys : List α}
    (h : Ascending key (y :: ys)) (hx : keyLess key x y = true)
    (hz : z ∈ y :: ys) : compare (key x) (key z) = .lt := by
  have hlt := keyLess_iff.mp hx
  rcases List.mem_cons.mp hz with rfl | hlater
  · exact hlt
  · exact Std.TransCmp.lt_trans hlt ((List.pairwise_cons.mp h).1 z hlater)

/-- Inserting keeps the elements in order. -/
theorem Ascending.insert {xs : List α} (h : Ascending key xs) (x : α) :
    Ascending key (insert (keyLess key) x xs) := by
  induction xs with
  | nil => exact List.pairwise_singleton _ _
  | cons y ys ih =>
      obtain ⟨hfirst, hrest⟩ := List.pairwise_cons.mp h
      unfold OrderedSet.insert
      by_cases hx : keyLess key x y = true
      · rw [if_pos hx]
        exact List.pairwise_cons.mpr ⟨fun z hz => h.lt_of_mem hx hz, h⟩
      · rw [if_neg hx]
        by_cases hy : keyLess key y x = true
        · rw [if_pos hy]
          refine List.pairwise_cons.mpr ⟨?_, ih hrest⟩
          intro z hz
          rcases mem_insert hz with rfl | hlater
          · exact keyLess_iff.mp hy
          · exact hfirst z hlater
        · rw [if_neg hy]
          exact h

variable [Std.LawfulEqOrd κ] [DecidableEq κ]

/-- Under a key there is the element that was there before, or else the new
one. -/
theorem Ascending.find?_insert {xs : List α} (h : Ascending key xs) (x : α)
    (k : κ) :
    (OrderedSet.insert (keyLess key) x xs).find? (fun y => key y = k) =
      (xs.find? fun y => key y = k).or (if key x = k then some x else none) := by
  induction xs with
  | nil =>
      by_cases hk : key x = k <;> simp [OrderedSet.insert, hk]
  | cons y ys ih =>
      obtain ⟨hfirst, hrest⟩ := List.pairwise_cons.mp h
      unfold OrderedSet.insert
      by_cases hx : keyLess key x y = true
      · rw [if_pos hx]
        by_cases hk : key x = k
        · -- all elements of the set come behind the new one
          have hnone : (y :: ys).find? (fun y => key y = k) = none := by
            apply List.find?_eq_none.mpr
            intro z hz heq
            have hbehind := h.lt_of_mem hx hz
            have hsame : key z = key x := (of_decide_eq_true heq).trans hk.symm
            rw [hsame] at hbehind
            simp at hbehind
          rw [hnone]
          simp [hk]
        · simp [hk]
      · rw [if_neg hx]
        by_cases hy : keyLess key y x = true
        · rw [if_pos hy, List.find?_cons, List.find?_cons, ih hrest]
          split <;> simp
        · rw [if_neg hy]
          have hsame : key x = key y := by
            apply Std.LawfulEqOrd.eq_of_compare
            cases hcompare : compare (key x) (key y) with
            | lt => exact absurd (keyLess_iff.mpr hcompare) hx
            | eq => rfl
            | gt =>
                have hlt := Std.OrientedCmp.gt_iff_lt.mp hcompare
                exact absurd (keyLess_iff.mpr hlt) hy
          by_cases hk : key x = k
          · have hfound : key y = k := hsame ▸ hk
            simp [hfound]
          · simp [hk]

end Keys

end LocationService.Library.OrderedSet
