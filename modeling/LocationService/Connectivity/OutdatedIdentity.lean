import LocationService.Connectivity.CachedRadioCell
import LocationService.Library.Text

/-!
# The identity of a cached radio cell over time

A cell is told by its country, network, area and cell codes.  A code that is
out of the bounds of the current technology is refused by `BoundedInteger::set`
with an exception that leaves the handler: the previous code stays, and the
validity heuristics, which might have invalidated the cell, are not reached.
Country and network codes are strings, and `stream >> value` makes a number of
each of them: 0 where there is none.

`IdentityRun` keeps beside a cell what was last reported for each code under
the current technology.  `KeepsCurrent` says which events keep a valid cell
from presenting another code than that.
-/

namespace LocationService

open Library

/-- The fields of the details that tell a cell. -/
inductive IdentityField where
  | mobileCountryCode
  | mobileNetworkCode
  | areaCode
  | id
  deriving DecidableEq

instance (P : IdentityField → Prop) [DecidablePred P] :
    Decidable (∀ field, P field) :=
  decidable_of_iff
    (P .mobileCountryCode ∧ P .mobileNetworkCode ∧ P .areaCode ∧ P .id)
    ⟨fun h field => by cases field <;> simp [h], fun h => by simp [h]⟩

/-- The bounds of a field of a kind of cell. -/
def IdentityField.bounds (t : RadioType) : IdentityField → Bounds
  | .mobileCountryCode => mccBounds
  | .mobileNetworkCode => mncBounds
  | .areaCode => areaCodeBounds
  | .id => idBounds t

namespace Detail

def identity (d : Detail) : IdentityField → Int
  | .mobileCountryCode => d.mobileCountryCode
  | .mobileNetworkCode => d.mobileNetworkCode
  | .areaCode => d.areaCode
  | .id => d.id

def withIdentity (field : IdentityField) (value : Int) (d : Detail) : Detail :=
  match field with
  | .mobileCountryCode => { d with mobileCountryCode := value }
  | .mobileNetworkCode => { d with mobileNetworkCode := value }
  | .areaCode => { d with areaCode := value }
  | .id => { d with id := value }

theorem identity_withIdentity (field other : IdentityField) (value : Int)
    (d : Detail) :
    (d.withIdentity field value).identity other =
      if other = field then value else d.identity other := by
  cases field <;> cases other <;> rfl

theorem identity_withStrength (t : RadioType) (value : Int) (d : Detail)
    (field : IdentityField) :
    (d.withStrength t value).identity field = d.identity field := by
  cases t <;> cases field <;> rfl

end Detail

/-! ## Reports -/

/-- A property change as ofono reports it. -/
inductive PropertyChange where
  | technology (value : String)
  | cellId (value : UInt32)
  | locationAreaCode (value : UInt16)
  | mobileCountryCode (value : String)
  | mobileNetworkCode (value : String)
  | strength (value : Int8)
  | status (value : String)

/-- `int value{-1}; ss >> value;` -/
def readCode (value : String) : Int := Text.readInt (-1) value.toList

/-- A report of one of the codes: the `int` that the handler makes of it, and
the number that was reported, if it is one. -/
structure IdentityReport where
  field : IdentityField
  read : Int
  denoted : Option Int

namespace PropertyChange

/-- The change as the handler goes on with it. -/
def read : PropertyChange → RegistrationChange
  | .technology value => .technology value
  | .cellId value => .cellId value
  | .locationAreaCode value => .locationAreaCode value
  | .mobileCountryCode value => .mobileCountryCode (readCode value)
  | .mobileNetworkCode value => .mobileNetworkCode (readCode value)
  | .strength value => .strength value
  | .status value => .status value

def report : PropertyChange → Option IdentityReport
  | .technology _ => none
  | .cellId value => some ⟨.id, value.toInt32.toInt, some value.toNat⟩
  | .locationAreaCode value => some ⟨.areaCode, value.toNat, some value.toNat⟩
  | .mobileCountryCode value =>
      some ⟨.mobileCountryCode, readCode value, Text.denotedInt value.toList⟩
  | .mobileNetworkCode value =>
      some ⟨.mobileNetworkCode, readCode value, Text.denotedInt value.toList⟩
  | .strength _ => none
  | .status _ => none

end PropertyChange

/-- What happens to a cell. -/
inductive ReportEvent where
  | changed (change : PropertyChange)
  | timerExpired

/-- A cell, and the number that was last reported for each of its codes under
its technology, or carried over to it. -/
structure IdentityRun where
  cell : CachedRadioCell
  reported : IdentityField → Option Int

namespace IdentityRun

/-- A cell about which nothing was reported yet. -/
def start (c : CachedRadioCell) : IdentityRun where
  cell := c
  reported field := some (c.detail.identity field)

/-- A report under a known technology is remembered. -/
def remember (r : IdentityReport) (s : IdentityRun) :
    IdentityField → Option Int :=
  if s.cell.radioType = .unknown then s.reported
  else fun field => if field = r.field then r.denoted else s.reported field

def next : ReportEvent → IdentityRun → IdentityRun
  | .changed change, s =>
      let c := s.cell.onNetworkRegistrationPropertyChanged change.read
      match change.report with
      | some r => ⟨c, s.remember r⟩
      | none => if c.radioType = s.cell.radioType then ⟨c, s.reported⟩ else start c
  | .timerExpired, s => { s with cell := s.cell.onInvalidationTimer }

/-- A valid field holds another number than was last reported. -/
def Outdated (s : IdentityRun) (field : IdentityField) : Prop :=
  (field.bounds s.cell.radioType).isValid (s.cell.detail.identity field) =
      true ∧
    s.reported field ≠ some (s.cell.detail.identity field)

/-- A valid cell of a known technology has no outdated field. -/
def PresentsCurrent (s : IdentityRun) : Prop :=
  s.cell.valid = true → s.cell.radioType ≠ .unknown →
    ∀ field, ¬ s.Outdated field

/-! ## The condition -/

/-- The cell is valid once an accepted report is stored: the heuristics take
the validity from the details, and leave it as it is where they do not
apply. -/
def ValidWith (s : IdentityRun) (r : IdentityReport) : Prop :=
  if s.cell.needed && (s.cell.radioType = .umts || s.cell.alsoGsmCells) then
    { s.cell with
      detail := s.cell.detail.withIdentity r.field r.read
    }.isCellDetailsValid = true
  else s.cell.valid = true

/-- A report in bounds is a number and, if the cell is valid with it, finds no
other field outdated; a report out of bounds finds the cell or the field
invalid. -/
def KeepsReport (s : IdentityRun) (r : IdentityReport) : Prop :=
  s.cell.radioType ≠ .unknown →
    let b := r.field.bounds s.cell.radioType
    if b.isValid r.read then
      s.ValidWith r → r.denoted = some r.read ∧
        ∀ field, field ≠ r.field → ¬ s.Outdated field
    else
      s.cell.valid = true → b.isValid (s.cell.detail.identity r.field) = false

/-- Only reports of codes can leave a code outdated. -/
def KeepsCurrent : ReportEvent → IdentityRun → Prop
  | .changed change, s => ∀ r ∈ change.report, s.KeepsReport r
  | .timerExpired, _ => True

instance (s : IdentityRun) (field : IdentityField) :
    Decidable (s.Outdated field) :=
  inferInstanceAs (Decidable (_ ∧ _))

instance (s : IdentityRun) : Decidable s.PresentsCurrent :=
  inferInstanceAs (Decidable (_ → _ → _))

instance (s : IdentityRun) (r : IdentityReport) : Decidable (s.ValidWith r) := by
  unfold ValidWith
  infer_instance

instance (s : IdentityRun) (r : IdentityReport) :
    Decidable (s.KeepsReport r) := by
  unfold KeepsReport
  infer_instance

instance : ∀ e s, Decidable (KeepsCurrent e s)
  | .changed _, _ => inferInstanceAs (Decidable (∀ _ ∈ _, _))
  | .timerExpired, _ => .isTrue trivial

/-! ## One event -/

theorem applyChange_of_report {change : PropertyChange} {r : IdentityReport}
    (h : change.report = some r) (c : CachedRadioCell) :
    c.applyChange change.read =
      c.setDetail (r.field.bounds c.radioType) r.read
        (Detail.withIdentity r.field) := by
  cases change with
  | technology value => cases h
  | cellId value =>
      obtain rfl := Option.some.inj h
      rfl
  | locationAreaCode value =>
      obtain rfl := Option.some.inj h
      rfl
  | mobileCountryCode value =>
      obtain rfl := Option.some.inj h
      rfl
  | mobileNetworkCode value =>
      obtain rfl := Option.some.inj h
      rfl
  | strength value => cases h
  | status value => cases h

/-- A number that an `int` can hold is read as it was reported. -/
theorem read_of_denoted {change : PropertyChange} {r : IdentityReport}
    (h : change.report = some r) {n : Int} (hn : r.denoted = some n)
    (hmin : -2147483648 ≤ n) (hmax : n ≤ 2147483647) : r.read = n := by
  cases change with
  | technology value => cases h
  | cellId value =>
      obtain rfl := Option.some.inj h
      have heq : (value.toNat : Int) = n := Option.some.inj hn
      show value.toBitVec.toInt = n
      have htoNat : value.toBitVec.toNat = value.toNat := rfl
      rw [BitVec.toInt_eq_toNat_cond]
      omega
  | locationAreaCode value =>
      obtain rfl := Option.some.inj h
      exact Option.some.inj hn
  | mobileCountryCode value =>
      obtain rfl := Option.some.inj h
      exact Text.readInt_of_denotedInt (-1) hn hmin hmax
  | mobileNetworkCode value =>
      obtain rfl := Option.some.inj h
      exact Text.readInt_of_denotedInt (-1) hn hmin hmax
  | strength value => cases h
  | status value => cases h

/-- What is in bounds is an `int`. -/
theorem int_of_isValid {t : RadioType} {field : IdentityField} {n : Int}
    (h : (field.bounds t).isValid n = true) :
    -2147483648 ≤ n ∧ n ≤ 2147483647 := by
  have hbounds : 0 ≤ (field.bounds t).min ∧
      (field.bounds t).max ≤ 268435455 := by
    cases field <;> cases t <;> decide
  have hin : (field.bounds t).min ≤ n ∧ n ≤ (field.bounds t).max := by
    simpa [Bounds.isValid] using h
  omega

theorem radioType_heuristics (c : CachedRadioCell) :
    c.executeCellChangeHeuristicsIfAppropriate.radioType = c.radioType := by
  unfold CachedRadioCell.executeCellChangeHeuristicsIfAppropriate
  split
  · rfl
  · rfl

theorem detail_heuristics (c : CachedRadioCell) :
    c.executeCellChangeHeuristicsIfAppropriate.detail = c.detail := by
  unfold CachedRadioCell.executeCellChangeHeuristicsIfAppropriate
  split
  · rfl
  · rfl

section Reports

variable {s : IdentityRun} {change : PropertyChange} {r : IdentityReport}

/-- Without a known technology a report changes nothing that is presented. -/
theorem next_of_unknown (h : change.report = some r)
    (htype : s.cell.radioType = .unknown) :
    next (.changed change) s =
      ⟨s.cell.executeCellChangeHeuristicsIfAppropriate, s.reported⟩ := by
  have hchange : s.cell.applyChange change.read = some (s.cell, true) := by
    rw [applyChange_of_report h, CachedRadioCell.setDetail, if_pos htype]
  simp [next, h, remember, htype, hchange,
    CachedRadioCell.onNetworkRegistrationPropertyChanged]

/-- A report out of bounds changes nothing but what is remembered. -/
theorem next_of_refused (h : change.report = some r)
    (htype : s.cell.radioType ≠ .unknown)
    (hread : (r.field.bounds s.cell.radioType).isValid r.read = false) :
    next (.changed change) s = ⟨s.cell, s.remember r⟩ := by
  have hchange : s.cell.applyChange change.read = none := by
    simp [applyChange_of_report h, CachedRadioCell.setDetail, htype,
      Bounds.set_eq, hread]
  simp [next, h, hchange, CachedRadioCell.onNetworkRegistrationPropertyChanged]

/-- A report in bounds is stored, and the heuristics run. -/
theorem next_of_accepted (h : change.report = some r)
    (htype : s.cell.radioType ≠ .unknown)
    (hread : (r.field.bounds s.cell.radioType).isValid r.read = true) :
    next (.changed change) s =
      ⟨{ s.cell with
          detail := s.cell.detail.withIdentity r.field r.read
        }.executeCellChangeHeuristicsIfAppropriate, s.remember r⟩ := by
  have hchange : s.cell.applyChange change.read =
      some ({ s.cell with
        detail := s.cell.detail.withIdentity r.field r.read }, true) := by
    simp [applyChange_of_report h, CachedRadioCell.setDetail, htype,
      Bounds.set_eq, hread]
  simp [next, h, hchange, CachedRadioCell.onNetworkRegistrationPropertyChanged]

theorem validWith_iff :
    { s.cell with
        detail := s.cell.detail.withIdentity r.field r.read
      }.executeCellChangeHeuristicsIfAppropriate.valid = true ↔
      s.ValidWith r := by
  unfold CachedRadioCell.executeCellChangeHeuristicsIfAppropriate ValidWith
  simp only
  split
  · rfl
  · rfl

/-- A report in bounds leaves its field outdated exactly if it was not the
number that was read, and any other field as it was. -/
theorem outdated_of_accepted (htype : s.cell.radioType ≠ .unknown)
    (hread : (r.field.bounds s.cell.radioType).isValid r.read = true)
    (field : IdentityField) :
    Outdated ⟨{ s.cell with
        detail := s.cell.detail.withIdentity r.field r.read
      }.executeCellChangeHeuristicsIfAppropriate, s.remember r⟩ field ↔
      if field = r.field then r.denoted ≠ some r.read
      else s.Outdated field := by
  unfold Outdated
  simp only [radioType_heuristics, detail_heuristics,
    Detail.identity_withIdentity, remember, if_neg htype]
  by_cases hfield : field = r.field
  · simp [hfield, hread]
  · simp [hfield]

/-- A report out of bounds leaves its field outdated exactly if the field is
valid, and any other field as it was. -/
theorem outdated_of_refused (h : change.report = some r)
    (htype : s.cell.radioType ≠ .unknown)
    (hread : (r.field.bounds s.cell.radioType).isValid r.read = false)
    (field : IdentityField) :
    Outdated ⟨s.cell, s.remember r⟩ field ↔
      if field = r.field then
        (r.field.bounds s.cell.radioType).isValid
          (s.cell.detail.identity r.field) = true
      else s.Outdated field := by
  unfold Outdated
  simp only [remember, if_neg htype]
  by_cases hfield : field = r.field
  · rw [if_pos hfield, if_pos hfield, hfield]
    constructor
    · intro houtdated
      exact houtdated.1
    · intro hvalid
      refine ⟨hvalid, ?_⟩
      intro hdenoted
      -- the stored number is an `int`, so it would have been read
      have hint := int_of_isValid hvalid
      have heq := read_of_denoted h hdenoted hint.1 hint.2
      rw [heq, hvalid] at hread
      cases hread
  · rw [if_neg hfield, if_neg hfield]

/-- A report keeps what is presented current exactly if `KeepsReport`. -/
theorem PresentsCurrent.report_iff (hs : s.PresentsCurrent)
    (h : change.report = some r) :
    (next (.changed change) s).PresentsCurrent ↔ s.KeepsReport r := by
  by_cases htype : s.cell.radioType = .unknown
  · rw [next_of_unknown h htype]
    have hafter := (radioType_heuristics s.cell).trans htype
    exact ⟨fun _ hknown => absurd htype hknown,
      fun _ _ hknown => absurd hafter hknown⟩
  · have hknown : (s.cell.radioType ≠ .unknown) := htype
    unfold KeepsReport
    cases hread : (r.field.bounds s.cell.radioType).isValid r.read with
    | true =>
        rw [next_of_accepted h htype hread]
        simp only [PresentsCurrent, validWith_iff, radioType_heuristics,
          outdated_of_accepted htype hread, hread, ne_eq, htype,
          not_false_iff, true_imp_iff, if_true]
        apply imp_congr_right
        intro _
        constructor
        · intro hall
          have hfield := hall r.field
          simp only [if_true, not_not] at hfield
          refine ⟨hfield, fun field hne => ?_⟩
          have hother := hall field
          rwa [if_neg hne] at hother
        · rintro ⟨hfield, hothers⟩ field
          by_cases heq : field = r.field
          · simp [heq, hfield]
          · rw [if_neg heq]
            exact hothers field heq
    | false =>
        rw [next_of_refused h htype hread]
        simp only [PresentsCurrent, outdated_of_refused h htype hread, hread,
          ne_eq, htype, not_false_iff, true_imp_iff, Bool.false_eq_true,
          if_false]
        apply imp_congr_right
        intro hvalid
        constructor
        · intro hall
          have hfield := hall r.field
          simpa using hfield
        · intro hfield field
          by_cases heq : field = r.field
          · simp [heq, hfield]
          · rw [if_neg heq]
            exact hs hvalid hknown field

end Reports

/-- A change of anything but a code. -/
theorem next_of_none {change : PropertyChange} (h : change.report = none)
    (s : IdentityRun) :
    let c := s.cell.onNetworkRegistrationPropertyChanged change.read
    next (.changed change) s =
      if c.radioType = s.cell.radioType then ⟨c, s.reported⟩ else start c := by
  simp [next, h]

theorem presentsCurrent_start (c : CachedRadioCell) :
    (start c).PresentsCurrent :=
  fun _ _ _ houtdated => houtdated.2 rfl

/-- A change of anything but a code keeps the codes of the technology. -/
theorem identity_of_none {change : PropertyChange} (h : change.report = none)
    {c : CachedRadioCell}
    (htype : (c.onNetworkRegistrationPropertyChanged change.read).radioType =
      c.radioType) :
    (c.onNetworkRegistrationPropertyChanged change.read).valid = c.valid ∧
      ∀ field, (c.onNetworkRegistrationPropertyChanged
        change.read).detail.identity field = c.detail.identity field := by
  cases change with
  | technology value =>
      have hread : c.applyChange (.technology value) = c.setTechnology value :=
        rfl
      cases hset : c.setTechnology value with
      | none =>
          simp [PropertyChange.read,
            CachedRadioCell.onNetworkRegistrationPropertyChanged, hread, hset]
      | some result =>
          obtain ⟨c', did⟩ := result
          obtain ⟨rfl, -, -, hne, -⟩ := CellRun.setTechnology_keeps hset
          simp only [PropertyChange.read,
            CachedRadioCell.onNetworkRegistrationPropertyChanged, hread, hset,
            if_true, radioType_heuristics] at htype
          exact absurd htype hne
  | strength value =>
      refine ⟨rfl, fun field => ?_⟩
      exact Detail.identity_withStrength _ _ _ field
  | status value => exact ⟨rfl, fun _ => rfl⟩
  | cellId value => cases h
  | locationAreaCode value => cases h
  | mobileCountryCode value => cases h
  | mobileNetworkCode value => cases h

/-- A change of anything but a code leaves no code outdated. -/
theorem PresentsCurrent.next_of_none {s : IdentityRun}
    (hs : s.PresentsCurrent) {change : PropertyChange}
    (h : change.report = none) : (next (.changed change) s).PresentsCurrent := by
  simp only [IdentityRun.next_of_none h]
  split
  · rename_i htype
    have hkept := identity_of_none h htype
    intro hvalid hknown field houtdated
    apply hs (hkept.1.symm.trans hvalid) (htype ▸ hknown) field
    simpa only [Outdated, htype, hkept.2 field] using houtdated
  · exact presentsCurrent_start _

theorem PresentsCurrent.timerExpired {s : IdentityRun}
    (hs : s.PresentsCurrent) : (next .timerExpired s).PresentsCurrent := by
  unfold next CachedRadioCell.onInvalidationTimer
  simp only
  split
  · intro hvalid
    cases hvalid
  · exact hs

/-- An event keeps what is presented current exactly if `KeepsCurrent`. -/
theorem PresentsCurrent.next_iff {s : IdentityRun} (hs : s.PresentsCurrent)
    (e : ReportEvent) : (next e s).PresentsCurrent ↔ KeepsCurrent e s := by
  cases e with
  | changed change =>
      cases h : change.report with
      | none =>
          have hkept := hs.next_of_none h
          simp [KeepsCurrent, h, hkept]
      | some r =>
          rw [hs.report_iff h]
          simp [KeepsCurrent, h]
  | timerExpired => exact ⟨fun _ => trivial, fun _ => hs.timerExpired⟩

/-! ## Whole runs -/

/-- From any state of a cell, in every run of events that keep the codes
current a valid cell presents no outdated one, and the first other event makes
it present one. -/
theorem presentsCurrent_run (c : CachedRadioCell) {s : IdentityRun}
    (h : (Machine.ofStep (start c) next).Reach KeepsCurrent s) :
    s.PresentsCurrent ∧
      ∀ e, (next e s).PresentsCurrent ↔ KeepsCurrent e s :=
  h.ofStep_keeps_itself PresentsCurrent (presentsCurrent_start c)
    fun e _ hs => hs.next_iff e

/-- A GSM cell with complete details. -/
def gsmCell : CachedRadioCell where
  needed := true
  alsoGsmCells := false
  radioType := .gsm
  detail :=
    { mobileCountryCode := 262
      mobileNetworkCode := 2
      areaCode := 4711
      id := 815
      fifth := 18
      sixth := 0 }

/-- A UMTS cell that its timer has invalidated gets an id that is refused, and
then a good one.  It becomes a GSM cell, whose id is invalid, and gets an id
that is too wide for that. -/
theorem presentsCurrent_run_refused :
    ∃ s : IdentityRun, s.PresentsCurrent ∧
      (∀ e, (next e s).PresentsCurrent ↔ KeepsCurrent e s) ∧
        s.cell.valid = true ∧ s.cell.radioType = .gsm ∧
          s.reported .id = some 81548 := by
  have hrun : ∃ s : IdentityRun,
      (Machine.ofStep (start CellRun.umtsCell) next).Reach KeepsCurrent s ∧
        s.cell.valid = true ∧ s.cell.radioType = .gsm ∧
          s.reported .id = some 81548 :=
    Machine.Reach.ofStep_exists_of_replay
      [.timerExpired, .changed (.cellId 4294967295), .changed (.cellId 81549),
        .changed (.mobileCountryCode "262"), .changed (.technology "gsm"),
        .changed (.cellId 81548)]
      (by decide +kernel)
  obtain ⟨s, hreach, hvalid, htype, hid⟩ := hrun
  have hspec := presentsCurrent_run CellRun.umtsCell hreach
  exact ⟨s, hspec.1, hspec.2, hvalid, htype, hid⟩

/-- An id of more than 16 bits arrives while the technology is still gsm. -/
theorem wide_id_leaves_outdated_cell :
    ¬ ∀ (c : CachedRadioCell) (s : IdentityRun),
      (Machine.ofStep (start c) next).Reach (fun _ _ => True) s →
        s.PresentsCurrent := by
  intro hall
  have hrun : ∃ s : IdentityRun,
      (Machine.ofStep (start gsmCell) next).Reach (fun _ _ => True) s ∧
        ¬ s.PresentsCurrent :=
    Machine.Reach.ofStep_exists_of_replay [.changed (.cellId 81548)]
      (by decide +kernel)
  obtain ⟨s, hreach, hnot⟩ := hrun
  exact hnot (hall gsmCell s hreach)

end IdentityRun

end LocationService
