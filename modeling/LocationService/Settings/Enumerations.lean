import LocationService.Engine.Model
import LocationService.Settings.BoostPtreeSettings
import Mathlib.Data.List.Nodup

/-!
# Enumerations in the settings

`get_enum_for_key` and `set_enum_for_key` go through text: `operator<<` looks a
value up in a table, and `operator>>` reads one word and looks for it in the
same table.  A text that is not in the table is no value, and `operator>>`
throws.

`EnumText.parse_eq_ok_iff` says which texts are read as a value, and
`getEnumForKey_setEnumForKey` what one key gives back after a value was set for
another.
-/

namespace LocationService

open Library Library.Text

/-- What `operator>>` throws. -/
structure CouldNotResolve where
  what : Text
  deriving DecidableEq

/-- The table of `operator<<` and `operator>>` of an enumeration: every value
has a text, a word that no other value has. -/
structure EnumText (ε : Type) where
  lut : List (ε × Text)
  /-- What is printed for a value that is not in the table. -/
  unknown : Text
  /-- How the exception of `operator>>` begins. -/
  message : Text
  complete : ∀ v, v ∈ lut.map Prod.fst
  values_nodup : (lut.map Prod.fst).Nodup
  texts_nodup : (lut.map Prod.snd).Nodup
  words : ∀ entry ∈ lut, IsWord entry.2

namespace EnumText

variable {ε : Type} [DecidableEq ε] (t : EnumText ε)

/-- `operator<<` -/
def print (v : ε) : Text :=
  match t.lut.find? (·.1 = v) with
  | some entry => entry.2
  | none => t.unknown

/-- `operator>>` on a new stream. -/
def parse (text : Text) : Except CouldNotResolve ε :=
  match t.lut.find? (·.2 = readWord text) with
  | some entry => .ok entry.1
  | none => .error ⟨t.message ++ readWord text⟩

theorem mem_lut_print (v : ε) : (v, t.print v) ∈ t.lut := by
  obtain ⟨entry, hmem, heq⟩ := List.mem_map.mp (t.complete v)
  have hfound : (t.lut.find? (·.1 = v)).isSome := by
    rw [List.find?_isSome]
    exact ⟨entry, hmem, by simpa using heq⟩
  obtain ⟨found, hsome⟩ := Option.isSome_iff_exists.mp hfound
  have hvalue : found.1 = v := by simpa using List.find?_some hsome
  have hprint : t.print v = found.2 := by
    unfold print
    rw [hsome]
  rw [hprint, ← hvalue]
  exact List.mem_of_find?_eq_some hsome

/-- The text of an entry is what its value is printed as. -/
theorem print_eq_of_mem {entry : ε × Text} (h : entry ∈ t.lut) :
    t.print entry.1 = entry.2 := by
  have hsame : (entry.1, t.print entry.1) = entry :=
    List.inj_on_of_nodup_map t.values_nodup (t.mem_lut_print entry.1) h rfl
  exact congrArg Prod.snd hsame

/-- A text is read as a value exactly if its first word is what the value is
printed as. -/
theorem parse_eq_ok_iff (text : Text) (v : ε) :
    t.parse text = .ok v ↔ readWord text = t.print v := by
  unfold parse
  cases hfind : t.lut.find? (·.2 = readWord text) with
  | some entry =>
      have hmem : entry ∈ t.lut := List.mem_of_find?_eq_some hfind
      have htext : entry.2 = readWord text := by
        simpa using List.find?_some hfind
      simp only [Except.ok.injEq]
      rw [← htext, ← t.print_eq_of_mem hmem]
      constructor
      · exact congrArg t.print
      · intro hprint
        have hsame : (entry.1, t.print entry.1) = (v, t.print v) :=
          List.inj_on_of_nodup_map t.texts_nodup (t.mem_lut_print entry.1)
            (t.mem_lut_print v) hprint
        exact congrArg Prod.fst hsame
  | none =>
      have hnone := List.find?_eq_none.mp hfind
      constructor
      · intro h
        cases h
      · intro h
        have hentry := hnone _ (t.mem_lut_print v)
        simp [h] at hentry

/-- What is printed is read back. -/
theorem parse_print (v : ε) : t.parse (t.print v) = .ok v := by
  rw [parse_eq_ok_iff]
  exact readWord_of_isWord (t.words _ (t.mem_lut_print v))

end EnumText

/-! ## The enumerations of the engine -/

/-- `WifiAndCellIdReportingState` -/
inductive WifiAndCellIdReportingState where
  | on
  | off
  deriving DecidableEq, Repr

def Status.text : EnumText Status where
  lut :=
    [(.off, "Engine::Status::off".toList),
      (.on, "Engine::Status::on".toList),
      (.active, "Engine::Status::active".toList)]
  unknown := "Engine::Status::unknown".toList
  message :=
    ("cll::operator>>(std::istream&, Engine::Status&): " ++
      "Could not resolve state ").toList
  complete v := by cases v <;> decide
  values_nodup := by decide
  texts_nodup := by decide
  words := by decide

def WifiAndCellIdReportingState.text :
    EnumText WifiAndCellIdReportingState where
  lut :=
    [(.off, "WifiAndCellIdReportingState::off".toList),
      (.on, "WifiAndCellIdReportingState::on".toList)]
  unknown := "WifiAndCellIdReportingState::unknown".toList
  message :=
    ("location::operator>>(std::istream&, WifiAndCellIdReportingState&): " ++
      "Could not resolve state ").toList
  complete v := by cases v <;> decide
  values_nodup := by decide
  texts_nodup := by decide
  words := by decide

def SatelliteBasedPositioningState.text :
    EnumText SatelliteBasedPositioningState where
  lut :=
    [(.off, "SatelliteBasedPositioningState::off".toList),
      (.on, "SatelliteBasedPositioningState::on".toList)]
  unknown := "SatelliteBasedPositioningState::unknown".toList
  message :=
    ("location::operator>>(std::istream&, SatelliteBasedPositioningState&): " ++
      "Could not resolve state ").toList
  complete v := by cases v <;> decide
  values_nodup := by decide
  texts_nodup := by decide
  words := by decide

/-! ## Settings -/

namespace BoostPtreeSettings

/-- What leaves `get_enum_for_key` as an exception. -/
inductive EnumError where
  | noValueForKey (e : NoValueForKey)
  | couldNotResolve (e : CouldNotResolve)
  deriving DecidableEq

section Enumerations

variable {ε : Type} [DecidableEq ε] (t : EnumText ε)

/-- `Settings::get_enum_for_key` -/
def getEnumForKey (s : BoostPtreeSettings) (key : Text) (defaultValue : ε) :
    Except EnumError ε :=
  match s.getStringForKey key (t.print defaultValue) with
  | .error e => .error (.noValueForKey e)
  | .ok text =>
      match t.parse text with
      | .error e => .error (.couldNotResolve e)
      | .ok v => .ok v

/-- `Settings::set_enum_for_key` -/
def setEnumForKey (s : BoostPtreeSettings) (key : Text) (value : ε) :
    BoostPtreeSettings × Bool :=
  s.setStringForKey key (t.print value)

end Enumerations

/-- A key that denotes a child of the root. -/
def IsChildKey (key : Text) : Prop := key ≠ [] ∧ '.' ∉ key

instance (key : Text) : Decidable (IsChildKey key) :=
  inferInstanceAs (Decidable (_ ∧ _))

/-- What is read for a child of the root after a value was set for one. -/
theorem getStringForKey_setStringForKey (s : BoostPtreeSettings)
    {key key' : Text} (h : IsChildKey key) (h' : IsChildKey key')
    (value defaultValue : Text) :
    (s.setStringForKey key value).1.getStringForKey key' defaultValue =
      if key' = key then .ok value else s.getStringForKey key' defaultValue := by
  have hanswers : ∀ s : BoostPtreeSettings,
      s.getStringForKey key' defaultValue =
        (expected key' (s.tree.valueAt (path key'))).withDefault
          defaultValue := by
    intro s
    exact congrFun
      (congrArg Answers.withDefault (s.answers_of_notMem h'.1 h'.2)) _
  rw [hanswers, hanswers]
  simp only [setStringForKey]
  rw [PropertyTree.valueAt_put, path_of_notMem h.1 h.2,
    path_of_notMem h'.1 h'.2]
  by_cases hkey : key' = key
  · simp [hkey, expected]
  · simp [hkey]

/-- What is read for one key after a value was set for another, or the same. -/
theorem getEnumForKey_setEnumForKey {ε ε' : Type} [DecidableEq ε]
    [DecidableEq ε'] (t : EnumText ε) (t' : EnumText ε')
    (s : BoostPtreeSettings) {key key' : Text} (h : IsChildKey key)
    (h' : IsChildKey key') (hne : key' ≠ key) (value : ε)
    (defaultValue : ε) (defaultValue' : ε') :
    (s.setEnumForKey t key value).1.getEnumForKey t key defaultValue =
        .ok value ∧
      (s.setEnumForKey t key value).1.getEnumForKey t' key' defaultValue' =
        s.getEnumForKey t' key' defaultValue' := by
  unfold setEnumForKey getEnumForKey
  rw [getStringForKey_setStringForKey s h h, getStringForKey_setStringForKey s h h',
    if_pos rfl, if_neg hne]
  simp only [t.parse_print, and_self]

/-- What is read for a key that has a text. -/
theorem getEnumForKey_eq_ok_iff {ε : Type} [DecidableEq ε] (t : EnumText ε)
    (s : BoostPtreeSettings) {key : Text} (h : IsChildKey key)
    (defaultValue value : ε) :
    s.getEnumForKey t key defaultValue = .ok value ↔
      match s.tree.valueAt (path key) with
      | some text => readWord text = t.print value
      | none => defaultValue = value := by
  have hanswers : s.getStringForKey key (t.print defaultValue) =
      (expected key (s.tree.valueAt (path key))).withDefault
        (t.print defaultValue) :=
    congrFun (congrArg Answers.withDefault (s.answers_of_notMem h.1 h.2)) _
  unfold getEnumForKey
  rw [hanswers]
  cases s.tree.valueAt (path key) with
  | none => simp only [expected, t.parse_print, Except.ok.injEq]
  | some text =>
      simp only [expected]
      rw [← t.parse_eq_ok_iff]
      cases t.parse text <;> simp

end BoostPtreeSettings

end LocationService
