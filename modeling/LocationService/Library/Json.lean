import Mathlib.Data.List.Basic

/-!
# JSON values

A JSON value is a scalar, an array, or an object with members in the order in
which they were put.  Putting a member that is there already replaces its value.
A reader checks what it finds: a member may be missing, and a value of another
type.

`member_put` says what is read after a member was put, and `readAll_map` that an
array is read back whose elements are.
-/

namespace LocationService.Library

inductive Json (α : Type) where
  | scalar (value : α)
  | array (items : List (Json α))
  | object (members : List (String × Json α))

namespace Json

variable {α : Type}

/-- Why a value could not be read. -/
inductive Error where
  | outOfRange (name : String)
  | typeMismatch
  deriving DecidableEq

abbrev Members (α : Type) := List (String × Json α)

/-! ## Members of an object -/

namespace Members

/-- Adds a member, or replaces the value of one. -/
def put (name : String) (value : Json α) : Members α → Members α
  | [] => [(name, value)]
  | (name', value') :: rest =>
      if name' = name then (name', value) :: rest
      else (name', value') :: put name value rest

/-- Adds a member that there may be a value for. -/
def putIf (name : String) (value : Option (Json α)) (members : Members α) :
    Members α :=
  match value with
  | some value => members.put name value
  | none => members

/-- The value of a member. -/
def member (name : String) : Members α → Option (Json α)
  | [] => none
  | (name', value) :: rest => if name' = name then some value else member name rest

@[simp] theorem member_nil (name : String) :
    member name ([] : Members α) = none := rfl

@[simp] theorem member_put (name name' : String) (value : Json α)
    (members : Members α) :
    member name' (members.put name value) =
      if name = name' then some value else member name' members := by
  induction members with
  | nil => rfl
  | cons first rest ih =>
      unfold put
      by_cases hfirst : first.1 = name
      · rw [if_pos hfirst]
        by_cases hname : name = name'
        · simp [member, hfirst, hname]
        · simp [member, hfirst, hname]
      · rw [if_neg hfirst]
        by_cases hname : name = name'
        · subst hname
          simp [member, hfirst, ih]
        · simp [member, ih, hname]

@[simp] theorem member_putIf (name name' : String) (value : Option (Json α))
    (members : Members α) :
    member name' (members.putIf name value) =
      if name = name' then value.or (member name' members)
      else member name' members := by
  cases value with
  | none => simp [putIf]
  | some value => simp [putIf]

end Members

/-! ## Reading -/

/-- The member of an object that has to have it. -/
def required (name : String) : Json α → Except Error (Json α)
  | .object members =>
      match Members.member name members with
      | some value => .ok value
      | none => .error (.outOfRange name)
  | _ => .error (.outOfRange name)

/-- What a value is read as, if there is one. -/
def readIf {β : Type} (read : Json α → Except Error β) :
    Option (Json α) → Except Error (Option β)
  | some value => (read value).map some
  | none => .ok none

/-- What a member is read as, if there is one. -/
def optional {β : Type} (name : String) (read : Json α → Except Error β) :
    Json α → Except Error (Option β)
  | .object members => readIf read (Members.member name members)
  | _ => .ok none

theorem required_object {name : String} {members : Members α} {value : Json α}
    (h : Members.member name members = some value) :
    (object members).required name = .ok value := by
  simp only [required, h]

@[simp] theorem optional_object {β : Type} (name : String)
    (read : Json α → Except Error β) (members : Members α) :
    (object members).optional name read =
      readIf read (Members.member name members) :=
  rfl

/-- A value that is read back, if it is there. -/
theorem readIf_map {β γ : Type} {read : Json α → Except Error β}
    {write : γ → Json α} {meaning : γ → β}
    (h : ∀ x, read (write x) = .ok (meaning x)) (value : Option γ) :
    readIf read (value.map write) = .ok (value.map meaning) := by
  cases value with
  | none => rfl
  | some x => simp [readIf, h, Except.map]

/-- The elements of an array. -/
def asArray : Json α → Except Error (List (Json α))
  | .array items => .ok items
  | _ => .error .typeMismatch

/-- What a list is read as, if every element can be read. -/
def readAll {β : Type} (read : Json α → Except Error β) :
    List (Json α) → Except Error (List β)
  | [] => .ok []
  | item :: rest => do
      let first ← read item
      let others ← readAll read rest
      return first :: others

/-- Elements that are read back give the list they were made of. -/
theorem readAll_map {β γ : Type} {read : Json α → Except Error β}
    {write : γ → Json α} {meaning : γ → β}
    (h : ∀ x, read (write x) = .ok (meaning x)) (xs : List γ) :
    readAll read (xs.map write) = .ok (xs.map meaning) := by
  induction xs with
  | nil => rfl
  | cons x xs ih =>
      rw [List.map_cons, readAll, h, ih]
      rfl

end Json

end LocationService.Library
