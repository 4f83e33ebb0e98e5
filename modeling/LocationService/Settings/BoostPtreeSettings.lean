import LocationService.Library.PropertyTree
import LocationService.Library.Text

/-!
# Settings kept in a property tree

`BoostPtreeSettings` puts and gets a value at the path that a key denotes, but
looks for the key itself among the children of the root to tell whether there
is a value.  So a key with a separator has a value that is not seen, and
the nodes on the way to a value look like values of their own.

`answers_setAll_iff` tells for which keys the three accessors agree with the
values that were set.
-/

namespace LocationService

open LocationService.Library (PropertyTree Text)

namespace BoostPtreeSettings

/-- The path that a key denotes.  The empty key denotes the root. -/
def path (key : Text) : List Text :=
  if key = [] then [] else key.splitOn '.'

/-- `Settings::Error::NoValueForKey` -/
structure NoValueForKey where
  what : Text
  deriving DecidableEq

/-- The constructor of `Settings::Error::NoValueForKey`. -/
def NoValueForKey.construct (key : Text) : NoValueForKey :=
  ⟨"location::Settings: Could not find value for key: ".toList ++ key⟩

end BoostPtreeSettings

/-- `BoostPtreeSettings`, without the file it is stored in. -/
structure BoostPtreeSettings where
  tree : PropertyTree Text Text := .empty

namespace BoostPtreeSettings

/-- `has_value_for_key` -/
def hasValueForKey (s : BoostPtreeSettings) (key : Text) : Bool :=
  s.tree.count key > 0

/-- `get_string_for_key_or_throw` -/
def getStringForKeyOrThrow (s : BoostPtreeSettings) (key : Text) :
    Except NoValueForKey Text :=
  match s.tree.valueAt (path key) with
  | some value => .ok value
  | none => .error (.construct key)

/-- `Settings::get_string_for_key` -/
def getStringForKey (s : BoostPtreeSettings) (key defaultValue : Text) :
    Except NoValueForKey Text :=
  if ¬ s.hasValueForKey key then .ok defaultValue
  else s.getStringForKeyOrThrow key

/-- `set_string_for_key`, which succeeds for every string. -/
def setStringForKey (s : BoostPtreeSettings) (key value : Text) :
    BoostPtreeSettings × Bool :=
  ({ tree := s.tree.put (path key) value }, true)

/-! ## Sequences of settings -/

/-- The settings after a sequence of keys was set to values. -/
def setAll (sets : List (Text × Text)) : BoostPtreeSettings :=
  sets.foldl (fun s set => (s.setStringForKey set.1 set.2).1) {}

/-- The last value a key was set to. -/
def lastSet (sets : List (Text × Text)) (key : Text) : Option Text :=
  sets.foldl (fun found set => if set.1 = key then some set.2 else found) none

/-- What the three accessors say about a key. -/
structure Answers where
  hasValue : Bool
  orThrow : Except NoValueForKey Text
  withDefault : Text → Except NoValueForKey Text

def answers (s : BoostPtreeSettings) (key : Text) : Answers where
  hasValue := s.hasValueForKey key
  orThrow := s.getStringForKeyOrThrow key
  withDefault := s.getStringForKey key

/-- What the accessors should say about a key with the given last value. -/
def expected (key : Text) : Option Text → Answers
  | some value => ⟨true, .ok value, fun _ => .ok value⟩
  | none => ⟨false, .error (.construct key), fun defaultValue => .ok defaultValue⟩

/-- The accessors know the last value of a key, and setting another key in the
last step has not changed what they say. -/
def AccessorsAgree (sets : List (Text × Text)) (key : Text) : Prop :=
  (setAll sets).answers key = expected key (lastSet sets key) ∧
    ∀ before key' value, sets = before ++ [(key', value)] → key' ≠ key →
      (setAll sets).answers key = (setAll before).answers key

/-- A key that is set has no separator, and one that is not set is no path to
another key. -/
def IsPlain (sets : List (Text × Text)) (key : Text) : Prop :=
  (key ∈ sets.map Prod.fst → '.' ∉ key) ∧
    (key ∉ sets.map Prod.fst →
      ∀ key' ∈ sets.map Prod.fst, ¬ path key <+: path key')

theorem setAll_append (sets : List (Text × Text)) (key value : Text) :
    (setAll (sets ++ [(key, value)])).tree =
      (setAll sets).tree.put (path key) value := by
  unfold setAll
  rw [List.foldl_append]
  rfl

theorem lastSet_append (sets : List (Text × Text)) (key key' value : Text) :
    lastSet (sets ++ [(key', value)]) key =
      if key' = key then some value else lastSet sets key := by
  unfold lastSet
  rw [List.foldl_append]
  rfl

theorem lastSet_isSome_iff (sets : List (Text × Text)) (key : Text) :
    (lastSet sets key).isSome ↔ key ∈ sets.map Prod.fst := by
  induction sets using List.reverseRecOn with
  | nil => simp [lastSet]
  | append_singleton sets set ih =>
      rw [lastSet_append, List.map_append, List.mem_append, ← ih]
      by_cases h : set.1 = key
      · simp [h]
      · simp [h, Ne.symm h]

/-! ## Paths -/

theorem path_of_ne_nil {key : Text} (h : key ≠ []) :
    path key = key.splitOn '.' := if_neg h

/-- Different keys denote different paths. -/
theorem path_injective {key key' : Text} (h : path key = path key') :
    key = key' := by
  unfold path at h
  have hjoin := congrArg (List.intercalate ['.']) h
  by_cases hkey : key = []
  · by_cases hkey' : key' = []
    · rw [hkey, hkey']
    · rw [if_pos hkey, if_neg hkey'] at h
      exact absurd h.symm (List.splitOn_ne_nil _ _)
  · by_cases hkey' : key' = []
    · rw [if_neg hkey, if_pos hkey'] at h
      exact absurd h (List.splitOn_ne_nil _ _)
    · rwa [if_neg hkey, if_neg hkey', List.intercalate_splitOn,
        List.intercalate_splitOn] at hjoin

/-- A key without a separator is a child of the root. -/
theorem path_of_notMem {key : Text} (hne : key ≠ []) (h : '.' ∉ key) :
    path key = [key] := by
  rw [path_of_ne_nil hne, List.splitOn_eq_singleton h]

/-- No key of a child contains a separator. -/
theorem notMem_of_mem_splitOn {sep : Char} (text : Text) :
    ∀ piece ∈ text.splitOn sep, sep ∉ piece := by
  induction text with
  | nil => simp
  | cons c rest ih =>
      rw [List.splitOn_cons_eq_if_modifyHead]
      by_cases hc : c = sep
      · simpa [hc] using ih
      · have hne : (c == sep) = false := by simpa using hc
        simp only [hne, Bool.false_eq_true, if_false]
        cases hpieces : rest.splitOn sep with
        | nil => simp
        | cons first pieces =>
            rw [hpieces] at ih
            intro piece hpiece
            simp only [List.modifyHead_cons, List.mem_cons] at hpiece
            rcases hpiece with rfl | hlater
            · have hfirst := ih first List.mem_cons_self
              simp [hfirst, Ne.symm hc]
            · exact ih piece (List.mem_cons_of_mem _ hlater)

theorem notMem_of_mem_path {key piece : Text} (h : piece ∈ path key) :
    '.' ∉ piece := by
  unfold path at h
  by_cases hkey : key = []
  · simp [hkey] at h
  · rw [if_neg hkey] at h
    exact notMem_of_mem_splitOn key piece h

/-! ## What the tree holds -/

/-- The tree holds the last value of a key that was set.  At another key there
is a node only on the way to one that was set. -/
theorem valueAt_setAll (sets : List (Text × Text)) {key : Text}
    (hne : key ≠ []) :
    (∀ value, lastSet sets key = some value →
      (setAll sets).tree.valueAt (path key) = some value) ∧
    (lastSet sets key = none →
      ((setAll sets).tree.valueAt (path key) = none ↔
        ∀ key' ∈ sets.map Prod.fst, ¬ path key <+: path key')) := by
  have hroot : path key ≠ [] := by
    rw [path_of_ne_nil hne]
    exact List.splitOn_ne_nil _ _
  induction sets using List.reverseRecOn with
  | nil =>
      constructor
      · intro value h
        simp [lastSet] at h
      · intro _
        show PropertyTree.empty.valueAt (path key) = none ↔ _
        rw [PropertyTree.valueAt_empty, if_neg hroot]
        simp
  | append_singleton sets set ih =>
      rcases set with ⟨key', value'⟩
      rw [lastSet_append, setAll_append, PropertyTree.valueAt_put]
      by_cases hkey : key' = key
      · subst hkey
        simp
      · have hpath : ¬ path key = path key' :=
          fun heq => hkey (path_injective heq).symm
        rw [if_neg hkey, if_neg hpath]
        constructor
        · intro value hvalue
          rw [ih.1 value hvalue]
          split <;> rfl
        · intro hnone
          rw [List.map_append, List.forall_mem_append]
          by_cases hleading : path key <+: path key'
          · simp [hleading]
          · rw [if_neg hleading, ih.2 hnone]
            simp [hleading]

/-- No child of the root has a key with a separator. -/
theorem valueAt_setAll_of_mem (sets : List (Text × Text)) {key : Text}
    (h : '.' ∈ key) : (setAll sets).tree.valueAt [key] = none := by
  induction sets using List.reverseRecOn with
  | nil => rfl
  | append_singleton sets set ih =>
      have hnot : ¬ [key] <+: path set.1 := by
        intro hleading
        have hmem : key ∈ path set.1 := hleading.subset List.mem_cons_self
        exact notMem_of_mem_path hmem h
      have hne : ¬ [key] = path set.1 := by
        intro heq
        exact hnot (heq ▸ List.prefix_rfl)
      rw [setAll_append, PropertyTree.valueAt_put, if_neg hne, if_neg hnot, ih]

theorem hasValueForKey_iff (s : BoostPtreeSettings) (key : Text) :
    s.hasValueForKey key = true ↔ (s.tree.valueAt [key]).isSome := by
  unfold hasValueForKey
  rw [decide_eq_true_iff]
  exact PropertyTree.count_pos_iff_valueAt s.tree key

/-! ## The accessors -/

/-- Where a key is a child of the root, all accessors look at that child. -/
theorem answers_of_notMem (s : BoostPtreeSettings) {key : Text}
    (hne : key ≠ []) (h : '.' ∉ key) :
    s.answers key = expected key (s.tree.valueAt (path key)) := by
  have hhas := hasValueForKey_iff s key
  rw [← path_of_notMem hne h] at hhas
  unfold answers getStringForKey getStringForKeyOrThrow
  cases hvalue : s.tree.valueAt (path key) with
  | none =>
      have hno : s.hasValueForKey key = false := by
        rw [← Bool.not_eq_true, hhas, hvalue]
        simp
      simp only [hno, expected, Bool.false_eq_true, not_false_eq_true, if_true]
  | some value =>
      have hyes : s.hasValueForKey key = true := by
        rw [hhas, hvalue]
        rfl
      simp only [hyes, expected, not_true_eq_false, if_false]

/-- A key with a separator is never seen, though its value can be read. -/
theorem answers_of_mem (sets : List (Text × Text)) {key : Text}
    (h : '.' ∈ key) :
    (setAll sets).answers key =
      { hasValue := false
        orThrow := (setAll sets).getStringForKeyOrThrow key
        withDefault := fun defaultValue => .ok defaultValue } := by
  have hno : (setAll sets).hasValueForKey key = false := by
    rw [← Bool.not_eq_true, hasValueForKey_iff, valueAt_setAll_of_mem sets h]
    simp
  unfold answers getStringForKey
  simp only [hno, Bool.false_eq_true, not_false_eq_true, if_true]

theorem expected_injective {key : Text} {x y : Option Text}
    (h : expected key x = expected key y) : x = y := by
  cases x <;> cases y <;> simp_all [expected]

/-- The accessors know the last value of exactly the plain keys. -/
theorem answers_setAll_iff (sets : List (Text × Text)) {key : Text}
    (hne : key ≠ []) :
    (setAll sets).answers key = expected key (lastSet sets key) ↔
      IsPlain sets key := by
  obtain ⟨hset, hunset⟩ := valueAt_setAll sets hne
  have hmem := lastSet_isSome_iff sets key
  by_cases hdot : '.' ∈ key
  · rw [answers_of_mem sets hdot]
    cases hlast : lastSet sets key with
    | some value =>
        rw [hlast] at hmem
        have hin : key ∈ sets.map Prod.fst := hmem.mp rfl
        constructor
        · intro h
          exact absurd (congrArg Answers.hasValue h) (by simp [expected])
        · intro h
          exact absurd hdot (h.1 hin)
    | none =>
        rw [hlast] at hmem
        have hout : key ∉ sets.map Prod.fst := fun hin => by
          simpa using hmem.mpr hin
        have hread : (setAll sets).getStringForKeyOrThrow key =
            .error (.construct key) ↔
              (setAll sets).tree.valueAt (path key) = none := by
          unfold getStringForKeyOrThrow
          cases (setAll sets).tree.valueAt (path key) <;> simp
        simp only [expected, Answers.mk.injEq, true_and, and_true]
        rw [hread, hunset hlast]
        exact ⟨fun h => ⟨fun hin => absurd hin hout, fun _ => h⟩,
          fun h => h.2 hout⟩
  · rw [answers_of_notMem _ hne hdot]
    cases hlast : lastSet sets key with
    | some value =>
        rw [hlast] at hmem
        have hin : key ∈ sets.map Prod.fst := hmem.mp rfl
        rw [hset value hlast]
        exact ⟨fun _ => ⟨fun _ => hdot, fun hout => absurd hin hout⟩,
          fun _ => rfl⟩
    | none =>
        rw [hlast] at hmem
        have hout : key ∉ sets.map Prod.fst := fun hin => by
          simpa using hmem.mpr hin
        have hnone : expected key ((setAll sets).tree.valueAt (path key)) =
            expected key none ↔
              (setAll sets).tree.valueAt (path key) = none :=
          ⟨expected_injective, fun h => by rw [h]⟩
        rw [hnone, hunset hlast]
        exact ⟨fun h => ⟨fun hin => absurd hin hout, fun _ => h⟩,
          fun h => h.2 hout⟩

theorem isPlain_of_append {before : List (Text × Text)} {key key' value : Text}
    (hne : key' ≠ key) (h : IsPlain (before ++ [(key', value)]) key) :
    IsPlain before key := by
  have hmem : key ∈ (before ++ [(key', value)]).map Prod.fst ↔
      key ∈ before.map Prod.fst := by
    simp [Ne.symm hne]
  constructor
  · intro hin
    exact h.1 (hmem.mpr hin)
  · intro hout key'' hkey''
    have hlater : key'' ∈ (before ++ [(key', value)]).map Prod.fst := by
      rw [List.map_append]
      exact List.mem_append_left _ hkey''
    exact h.2 (fun hin => hout (hmem.mp hin)) key'' hlater

/-- The accessors agree on a key exactly if it is plain: without a separator if
it is set, and not on the way to another key if it is not. -/
theorem accessorsAgree_iff (sets : List (Text × Text)) (key : Text)
    (hne : key ≠ []) : AccessorsAgree sets key ↔ IsPlain sets key := by
  constructor
  · intro h
    exact (answers_setAll_iff sets hne).mp h.1
  · intro h
    refine ⟨(answers_setAll_iff sets hne).mpr h, ?_⟩
    rintro before key' value rfl hother
    have hbefore := isPlain_of_append hother h
    rw [(answers_setAll_iff _ hne).mpr h,
      (answers_setAll_iff _ hne).mpr hbefore, lastSet_append, if_neg hother]

theorem accessorsAgree_iff_at_test :
    AccessorsAgree [("test".toList, "42".toList)] "test".toList :=
  (accessorsAgree_iff _ _ (by decide)).mpr (by
    constructor <;> simp)

/-- A value is set for a key with a separator, and cannot be seen. -/
theorem accessors_disagree_on_nested_key :
    ¬ ∀ (sets : List (Text × Text)) (key : Text), key ≠ [] →
      AccessorsAgree sets key := by
  intro h
  have hagree := h [("test.test".toList, "42".toList)] "test.test".toList
    (by decide)
  have hvalue := congrArg Answers.hasValue hagree.1
  revert hvalue
  decide

end BoostPtreeSettings

end LocationService
