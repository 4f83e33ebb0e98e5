import Mathlib.Data.List.Basic
import Mathlib.Data.List.Infix
import Mathlib.Data.List.TakeWhile

/-!
# Strings as lists of characters

The operations of `std::string` and of its streams that take a string apart.
A position that is not found is `none`; erasing from there throws, since it
lies behind the end of every string.
-/

namespace LocationService.Library

abbrev Text := List Char

namespace Text

/-- `std::out_of_range` -/
inductive OutOfRange where
  | erase
  deriving DecidableEq, Repr

/-- The position of the first occurrence of a pattern. -/
def find (pattern : Text) : Text → Option Nat
  | [] => if pattern = [] then some 0 else none
  | c :: rest =>
      if pattern.isPrefixOf (c :: rest) then some 0
      else (find pattern rest).map (· + 1)

/-- The position of the first character that is one of `set`. -/
def findFirstOf (set : Text) (text : Text) : Option Nat :=
  text.findIdx? (· ∈ set)

/-- Erases up to `n` characters from a position on. -/
def erase (pos : Option Nat) (n : Nat) (text : Text) :
    Except OutOfRange Text :=
  match pos with
  | none => .error .erase
  | some i => if i ≤ text.length then .ok (text.take i ++ text.drop (i + n))
      else .error .erase

/-- What a stream yields up to a separator. -/
def cutBefore (sep : Char) (text : Text) : Text :=
  text.takeWhile (· ≠ sep)

/-- What is left in the stream behind the separator. -/
def cutBehind (sep : Char) (text : Text) : Text :=
  (text.dropWhile (· ≠ sep)).drop 1

/-- `std::isspace` of the "C" locale. -/
def isSpace (c : Char) : Bool := c.toNat = 32 ∨ 9 ≤ c.toNat ∧ c.toNat ≤ 13

/-- What `stream >> text` reads: the next characters that are not blank. -/
def readWord (text : Text) : Text :=
  (text.dropWhile isSpace).takeWhile fun c => !isSpace c

/-- A text that is read back whole. -/
def IsWord (text : Text) : Prop := ∀ c ∈ text, isSpace c = false

instance (text : Text) : Decidable (IsWord text) :=
  List.decidableBAll _ text

/-- A sign, the digits behind it, and the rest of a text. -/
structure Numeral where
  negative : Bool
  digits : Text
  rest : Text

namespace Numeral

def scanDigits (negative : Bool) (text : Text) : Numeral where
  negative := negative
  digits := text.takeWhile Char.isDigit
  rest := text.dropWhile Char.isDigit

def scan : Text → Numeral
  | '-' :: text => scanDigits true text
  | '+' :: text => scanDigits false text
  | text => scanDigits false text

/-- The number in decimal; 0 without digits. -/
def value (n : Numeral) : Int :=
  let magnitude : Nat :=
    n.digits.foldl (fun v c => 10 * v + (c.toNat - '0'.toNat)) 0
  if n.negative then -magnitude else magnitude

end Numeral

/-- What `int value{initial}; stream >> value` leaves in `value`: blank text
keeps the initial value, text that does not start with a number is read as 0,
and a number out of range as the nearest `int`. -/
def readInt (initial : Int) (text : Text) : Int :=
  match text.dropWhile isSpace with
  | [] => initial
  | text => max (-2147483648) (min 2147483647 (Numeral.scan text).value)

/-- The number that a text is, if it is one and nothing else. -/
def denotedInt (text : Text) : Option Int :=
  let n := Numeral.scan (text.dropWhile isSpace)
  if n.digits ≠ [] ∧ n.rest = [] then some n.value else none

/-! ## Searching -/

theorem find_isSome_iff (pattern text : Text) :
    (find pattern text).isSome ↔ pattern <:+: text := by
  induction text with
  | nil =>
      by_cases h : pattern = [] <;> simp [find, h]
  | cons c rest ih =>
      rw [List.infix_cons_iff, ← ih, find]
      by_cases h : pattern <+: c :: rest
      · simp [h]
      · simp [h]

theorem find_eq_none_iff (pattern text : Text) :
    find pattern text = none ↔ ¬ pattern <:+: text := by
  rw [← find_isSome_iff]
  cases find pattern text <;> simp

theorem findFirstOf_eq_none_iff (set text : Text) :
    findFirstOf set text = none ↔ ∀ c ∈ text, c ∉ set := by
  unfold findFirstOf
  simp

/-- A character that is searched for is found at the front. -/
theorem findFirstOf_cons {set text : Text} {c : Char} (h : c ∈ set) :
    findFirstOf set (c :: text) = some 0 := by
  unfold findFirstOf
  simp [List.findIdx?_cons, h]

theorem findFirstOf_isSome_iff (set text : Text) :
    (findFirstOf set text).isSome ↔ ∃ c ∈ text, c ∈ set := by
  unfold findFirstOf
  simp

/-! ## Erasing -/

theorem erase_front (n : Nat) (text : Text) :
    erase (some 0) n text = .ok (text.drop n) := by
  simp [erase]

/-- Erasing at a search result throws exactly if nothing was found. -/
theorem erase_findFirstOf (set text : Text) (n : Nat) :
    erase (findFirstOf set text) n text =
      match findFirstOf set text with
      | none => .error .erase
      | some i => .ok (text.take i ++ text.drop (i + n)) := by
  cases h : findFirstOf set text with
  | none => rfl
  | some i =>
      have hlt : i < text.length := by
        have hfound := List.findIdx?_eq_some_iff_findIdx_eq.mp h
        exact hfound.1
      simp only [erase]
      rw [if_pos (Nat.le_of_lt hlt)]

/-! ## Cutting -/

theorem cutBefore_of_notMem {sep : Char} {text : Text} (h : sep ∉ text) :
    cutBefore sep text = text := by
  apply List.takeWhile_eq_self_iff.mpr
  intro c hc
  have hne : c ≠ sep := fun heq => h (heq ▸ hc)
  simpa using hne

theorem cutBefore_append {sep : Char} {text : Text} (rest : Text)
    (h : sep ∉ text) : cutBefore sep (text ++ sep :: rest) = text := by
  unfold cutBefore
  rw [List.takeWhile_append_of_pos]
  · simp
  · intro c hc
    have hne : c ≠ sep := fun heq => h (heq ▸ hc)
    simpa using hne

theorem cutBehind_append {sep : Char} {text : Text} (rest : Text)
    (h : sep ∉ text) : cutBehind sep (text ++ sep :: rest) = rest := by
  unfold cutBehind
  rw [List.dropWhile_append_of_pos]
  · simp
  · intro c hc
    have hne : c ≠ sep := fun heq => h (heq ▸ hc)
    simpa using hne

/-- What comes before a separator does not contain it. -/
theorem notMem_cutBefore (sep : Char) (text : Text) :
    sep ∉ cutBefore sep text := by
  intro h
  have hne := List.mem_takeWhile_imp h
  simp at hne

/-- A text is what comes before a separator exactly if it has none. -/
theorem cutBefore_eq_self_iff (sep : Char) (text : Text) :
    cutBefore sep text = text ↔ sep ∉ text := by
  constructor
  · intro h
    rw [← h]
    exact notMem_cutBefore sep text
  · exact cutBefore_of_notMem

/-! ## Reading words -/

theorem readWord_of_isWord {text : Text} (h : IsWord text) :
    readWord text = text := by
  have hskip : text.dropWhile isSpace = text := by
    apply List.dropWhile_eq_self_iff.mpr
    intro hlength
    rw [h _ (List.getElem_mem hlength)]
    exact Bool.false_ne_true
  unfold readWord
  rw [hskip]
  apply List.takeWhile_eq_self_iff.mpr
  intro c hc
  simp [h c hc]

/-! ## Reading numbers -/

/-- A text that is an `int` is read as that. -/
theorem readInt_of_denotedInt {text : Text} {n : Int} (initial : Int)
    (h : denotedInt text = some n) (hmin : -2147483648 ≤ n)
    (hmax : n ≤ 2147483647) : readInt initial text = n := by
  unfold denotedInt at h
  unfold readInt
  cases hskip : text.dropWhile isSpace with
  | nil => simp [hskip, Numeral.scan, Numeral.scanDigits] at h
  | cons c rest =>
      rw [hskip] at h
      have hvalue : (Numeral.scan (c :: rest)).value = n := by
        simp only at h
        split at h
        · exact Option.some.inj h
        · cases h
      simp only [hvalue]
      omega

end Text

end LocationService.Library
