import Mathlib.Data.List.Induction

/-!
# Records that keep what an update leaves out

An update of such a record writes the fields it has a value for, and the others
stay as they are (`write`).  After some updates each field holds its `latest`
value, whichever of them that came from (`view_foldl`).  It is the one of the
last update only if nothing is left over from the others
(`write_latest_eq_iff`).
-/

namespace LocationService.Library

variable {κ β υ σ : Type}

/-- The fields of a record, each with a value or without. -/
abbrev Fields (κ β : Type) := κ → Option β

namespace Fields

/-- No field has a value. -/
def empty : Fields κ β := fun _ => none

/-- Writes the values of an update over those that are kept. -/
def write (update kept : Fields κ β) : Fields κ β :=
  fun k => (update k).or (kept k)

/-- The latest value of each field in some updates, the oldest first. -/
def latest (carried : υ → Fields κ β) (us : List υ) : Fields κ β :=
  fun k => (us.filterMap (carried · k)).getLast?

variable {update kept : Fields κ β} {carried : υ → Fields κ β} {us : List υ}
  {u : υ} {k : κ}

@[simp] theorem write_apply : update.write kept k = (update k).or (kept k) :=
  rfl

theorem latest_concat :
    latest carried (us ++ [u]) = (carried u).write (latest carried us) := by
  funext k
  unfold latest
  cases hu : carried u k with
  | none => simp [hu]
  | some x => simp [hu]

theorem latest_eq_none_iff :
    latest carried us k = none ↔ ∀ u ∈ us, carried u k = none := by
  simp [latest]

/-- A field that is written with a part of some values shows that part of the
latest one. -/
theorem latest_eq_map {γ : Type} {values : υ → Option γ} {part : γ → β}
    (h : ∀ u, carried u k = (values u).map part) (us : List υ) :
    latest carried us k = (us.filterMap values).getLast?.map part := by
  have hcarried : (carried · k) = fun u => (values u).map part := funext h
  rw [latest, hcarried, ← List.getLast?_map, List.map_filterMap]

/-- Updates that come in groups, with at most one value for a field in each. -/
theorem latest_flatMap {ι : Type} {group : ι → List υ} {value : ι → Option β}
    (h : ∀ i, (group i).filterMap (carried · k) = (value i).toList)
    (is : List ι) :
    latest carried (is.flatMap group) k = (is.filterMap value).getLast? := by
  have hvalues : (is.flatMap group).filterMap (carried · k) =
      is.filterMap value := by
    induction is with
    | nil => rfl
    | cons i is ih =>
        rw [List.flatMap_cons, List.filterMap_append, h, ih,
          List.filterMap_cons]
        cases value i with
        | none => rfl
        | some x => rfl
  exact congrArg List.getLast? hvalues

/-- A field is left as the update has it, present or absent, exactly if no
older value shows through. -/
theorem write_eq_iff :
    update.write kept k = update k ↔ (update k = none → kept k = none) := by
  cases hu : update k with
  | none => simp [hu]
  | some x => simp [hu]

/-- The same after a sequence of updates. -/
theorem write_latest_eq_iff :
    (carried u).write (latest carried us) k = carried u k ↔
      (carried u k = none → ∀ v ∈ us, carried v k = none) := by
  rw [write_eq_iff, latest_eq_none_iff]

/-- A state that shows its fields, and that every step writes to, shows the
latest values. -/
theorem view_foldl (view : σ → Fields κ β) (step : σ → υ → σ) {init : σ}
    (hinit : view init = empty)
    (hstep : ∀ s u, view (step s u) = (carried u).write (view s))
    (us : List υ) : view (us.foldl step init) = latest carried us := by
  induction us using List.reverseRecOn with
  | nil => exact hinit
  | append_singleton us u ih =>
      rw [List.foldl_append, List.foldl_cons, List.foldl_nil, hstep, ih,
        latest_concat]

end Fields

/-- A part of a state that every step either replaces or keeps is what the last
replacing step made it. -/
theorem foldl_part {part : σ → β} {step : σ → υ → σ} {carried : υ → Option β}
    (hstep : ∀ s u, part (step s u) = (carried u).getD (part s)) (us : List υ)
    (s : σ) :
    part (us.foldl step s) = (us.filterMap carried).getLast?.getD (part s) := by
  induction us using List.reverseRecOn with
  | nil => rfl
  | append_singleton us u ih =>
      rw [List.foldl_append, List.foldl_cons, List.foldl_nil, hstep, ih]
      cases hu : carried u with
      | none => simp [hu]
      | some x => simp [hu]

end LocationService.Library
