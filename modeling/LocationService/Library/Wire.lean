import Mathlib.Data.List.Basic

/-!
# D-Bus messages and codecs

A message is a sequence of typed items: basic values, and the structures and
arrays made of them.  A `Writer` appends items to a message and a `Reader`
consumes them from its front.  `Codec` is the pair of functions that puts a
value into a message and gets it out again; that of a composed type is composed
of those of its parts.

A codec is lawful if decoding what was encoded gives the value again and stops
right behind it.
-/

namespace LocationService.Library.Wire

/-- A typed item of a message. -/
inductive Item where
  | boolean (value : Bool)
  | int32 (value : Int32)
  | uint32 (value : UInt32)
  | int64 (value : Int64)
  | floatingPoint (value : Float)
  | string (value : String)
  | struct (items : List Item)
  | array (signature : String) (items : List Item)

mutual

/-- The D-Bus type of an item. -/
def Item.signature : Item → String
  | .boolean _ => "b"
  | .int32 _ => "i"
  | .uint32 _ => "u"
  | .int64 _ => "x"
  | .floatingPoint _ => "d"
  | .string _ => "s"
  | .struct items => "(" ++ signatureOf items ++ ")"
  | .array signature _ => "a" ++ signature

/-- The types of several items, one after the other. -/
def signatureOf : List Item → String
  | [] => ""
  | item :: items => item.signature ++ signatureOf items

end

/-- What was written so far. -/
abbrev Writer := List Item

/-- What is left to read. -/
abbrev Reader := List Item

/-- Reads from the front of a message; `none` if the read throws. -/
abbrev Decoder := StateT Reader Option

/-! ## Writing and reading items -/

def push (item : Item) (writer : Writer) : Writer := writer ++ [item]

/-- `Message::Writer::push_boolean` -/
def pushBoolean (value : Bool) : Writer → Writer := push (.boolean value)

/-- `Message::Writer::push_uint32` -/
def pushUInt32 (value : UInt32) : Writer → Writer := push (.uint32 value)

/-- `Message::Writer::push_int64` -/
def pushInt64 (value : Int64) : Writer → Writer := push (.int64 value)

/-- `Message::Writer::push_floating_point` -/
def pushFloatingPoint (value : Float) : Writer → Writer :=
  push (.floatingPoint value)

/-- `Message::Writer::close_structure` of a structure with the written
items. -/
def closeStructure (sub : Writer) : Writer → Writer := push (.struct sub)

/-- `Message::Writer::close_array` of an array opened with a signature. -/
def closeArray (signature : String) (sub : Writer) : Writer → Writer :=
  push (.array signature sub)

/-- The next item, if it is of the wanted type. -/
def pop {α : Type} (get : Item → Option α) : Decoder α
  | [] => none
  | item :: rest => (get item).map fun value => (value, rest)

/-- `Message::Reader::pop_boolean` -/
def popBoolean : Decoder Bool := pop fun
  | .boolean value => some value
  | _ => none

/-- `Message::Reader::pop_uint32` -/
def popUInt32 : Decoder UInt32 := pop fun
  | .uint32 value => some value
  | _ => none

/-- `Message::Reader::pop_int64` -/
def popInt64 : Decoder Int64 := pop fun
  | .int64 value => some value
  | _ => none

/-- `Message::Reader::pop_floating_point` -/
def popFloatingPoint : Decoder Float := pop fun
  | .floatingPoint value => some value
  | _ => none

/-- `Message::Reader::pop_structure` -/
def popStructure : Decoder Reader := pop fun
  | .struct items => some items
  | _ => none

/-- `Message::Reader::pop_array` -/
def popArray : Decoder Reader := pop fun
  | .array _ items => some items
  | _ => none

/-- Reads from a structure; what it leaves there is dropped. -/
def within {α : Type} (sub : Reader) (decoder : Decoder α) : Decoder α :=
  fun reader => (decoder.run sub).map fun (value, _) => (value, reader)

@[simp] theorem run_popArray (signature : String) (items : List Item)
    (rest : Reader) :
    popArray.run (.array signature items :: rest) = some (items, rest) := rfl

/-! ## Codecs -/

/-- `core::dbus::Codec`.  A decoder writes into an existing object. -/
class Codec (α : Type) where
  encodeArgument : α → Writer → Writer
  decodeArgument : α → Decoder α

export Codec (encodeArgument decodeArgument)

/-- The items that a value is encoded as. -/
def encoded {α : Type} [Codec α] (value : α) : List Item :=
  encodeArgument value []

/-- Encoding only appends, and decoding in front of any rest of a message gives
the value and that rest, whatever was in the object before. -/
class LawfulCodec (α : Type) [Codec α] : Prop where
  encode (value : α) (writer : Writer) :
    encodeArgument value writer = writer ++ encoded value
  decode (value old : α) (rest : Reader) :
    (decodeArgument old).run (encoded value ++ rest) = some (value, rest)

instance : Codec Bool where
  encodeArgument := pushBoolean
  decodeArgument _ := popBoolean

instance : Codec Float where
  encodeArgument := pushFloatingPoint
  decodeArgument _ := popFloatingPoint

instance : Codec Int64 where
  encodeArgument := pushInt64
  decodeArgument _ := popInt64

instance : LawfulCodec Bool where
  encode _ _ := rfl
  decode _ _ _ := rfl

instance : LawfulCodec Float where
  encode _ _ := rfl
  decode _ _ _ := rfl

instance : LawfulCodec Int64 where
  encode _ _ := rfl
  decode _ _ _ := rfl

/-! ## Arrays -/

section Arrays

variable {α β : Type}

/-- Every successful read consumes an item. -/
def Consumes (decoder : Decoder α) : Prop :=
  ∀ reader value rest, decoder.run reader = some (value, rest) →
    rest.length < reader.length

theorem consumes_pop (get : Item → Option α) : Consumes (pop get) := by
  intro reader value rest h
  cases reader with
  | nil => cases h
  | cons item tail =>
      have hget : (get item).map (fun value => (value, tail)) =
          some (value, rest) := h
      rw [Option.map_eq_some_iff] at hget
      obtain ⟨_, -, heq⟩ := hget
      rw [← (Prod.mk.inj heq).2]
      exact Nat.lt_succ_self _

/-- Reading a structure consumes the structure and nothing behind it. -/
theorem consumes_structure (decoder : Decoder α) :
    Consumes (do
      let sub ← popStructure
      within sub decoder) := by
  intro reader value rest h
  simp only [StateT.run_bind, Option.bind_eq_bind,
    Option.bind_eq_some_iff] at h
  obtain ⟨⟨sub, tail⟩, hpop, hwithin⟩ := h
  have hlength := consumes_pop _ _ _ _ hpop
  have hrun : (decoder.run sub).map (fun result => (result.1, tail)) =
      some (value, rest) := hwithin
  rw [Option.map_eq_some_iff] at hrun
  obtain ⟨_, -, heq⟩ := hrun
  rw [← (Prod.mk.inj heq).2]
  exact hlength

/-- Writes the elements of an array one after the other. -/
def writeAll [Codec α] (values : List α) (sub : Writer) : Writer :=
  values.foldl (fun sub value => encodeArgument value sub) sub

/-- Reads elements and collects them until nothing is left of the array. -/
def readAll (decoder : Decoder α) (hconsumes : Consumes decoder)
    (collect : β → α → β) (out : β) (sub : Reader) : Option β :=
  if sub.isEmpty then some out
  else
    match h : decoder.run sub with
    | none => none
    | some (value, rest) =>
        have : rest.length < sub.length := hconsumes _ _ _ h
        readAll decoder hconsumes collect (collect out value) rest
termination_by sub.length

theorem writeAll_eq [Codec α] [LawfulCodec α] (values : List α)
    (sub : Writer) : writeAll values sub = sub ++ values.flatMap encoded := by
  unfold writeAll
  induction values generalizing sub with
  | nil => simp
  | cons value values ih =>
      rw [List.foldl_cons, LawfulCodec.encode, ih, List.flatMap_cons,
        List.append_assoc]

/-- Reading what was written collects the elements in their order. -/
theorem readAll_encoded [Codec α] [LawfulCodec α] {old : α}
    (hconsumes : Consumes (decodeArgument old)) (collect : β → α → β)
    (values : List α) (out : β) :
    readAll (decodeArgument old) hconsumes collect out
      (values.flatMap encoded) = some (values.foldl collect out) := by
  induction values generalizing out with
  | nil =>
      unfold readAll
      rfl
  | cons value values ih =>
      have hdecode := LawfulCodec.decode value old (values.flatMap encoded)
      have hlength := hconsumes _ _ _ hdecode
      have hrest : ¬ (encoded value ++ values.flatMap encoded).isEmpty := by
        intro hempty
        rw [List.isEmpty_iff] at hempty
        rw [hempty] at hlength
        exact absurd hlength (Nat.not_lt_zero _)
      rw [List.flatMap_cons, List.foldl_cons, ← ih]
      conv => lhs; unfold readAll
      rw [if_neg hrest]
      split
      · rename_i hnone
        rw [hdecode] at hnone
        cases hnone
      · rename_i value' rest hsome
        rw [hdecode] at hsome
        obtain ⟨rfl, rfl⟩ := Prod.mk.inj (Option.some.inj hsome)
        rfl

end Arrays

end LocationService.Library.Wire
