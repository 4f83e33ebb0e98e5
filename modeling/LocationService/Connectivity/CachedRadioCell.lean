import LocationService.Connectivity.BoundedInteger
import LocationService.Connectivity.Roaming
import LocationService.Library.Machine

/-!
# The validity of a cached radio cell

A `CachedRadioCell` follows the network registration of its modem.  Some modem
firmware does not report cell changes on a 3G data connection, so a UMTS cell
is invalidated when nothing about its identity was reported for a while: every
identity change restarts a timer and recomputes the validity from the details.

The recomputation is skipped for the other technologies and for a new strength,
and a running timer is never stopped.  `KeepsValidity` says which events keep
the validity what it is specified to be.
-/

namespace LocationService

open Library

/-- `CachedRadioCell::type_lut` -/
def typeLut : String → Option RadioType
  | "gsm" => some .gsm
  | "lte" => some .lte
  | "umts" => some .umts
  | "edge" => some .gsm
  | "hspa" => some .umts
  | "" => some .unknown
  | _ => none

/-- A property change of the network registration.  Country and network codes
are the numbers read from the reported strings. -/
inductive RegistrationChange where
  | technology (value : String)
  | cellId (value : UInt32)
  | locationAreaCode (value : UInt16)
  | mobileCountryCode (value : Int)
  | mobileNetworkCode (value : Int)
  | strength (value : Int8)
  | status (value : String)

/-- `CachedRadioCell`.  `needed` is set for problematic modem firmware, and
`alsoGsmCells` is the debug switch for GSM cells; `timerRunning` tells that the
invalidation timer is waited for. -/
structure CachedRadioCell where
  needed : Bool
  alsoGsmCells : Bool
  valid : Bool := true
  timerRunning : Bool := false
  roaming : Bool := false
  radioType : RadioType
  detail : Detail
  deriving DecidableEq

namespace CachedRadioCell

/-- `CachedRadioCell::is_cell_details_valid` -/
def isCellDetailsValid (c : CachedRadioCell) : Bool :=
  match c.radioType with
  | .unknown => false
  | .gsm => c.detail.isGsmValid
  | .umts => c.detail.isUmtsValid
  | .lte => c.detail.isLteValid

/-- `execute_cell_change_heuristics_if_appropriate` -/
def executeCellChangeHeuristicsIfAppropriate (c : CachedRadioCell) :
    CachedRadioCell :=
  if c.needed && (c.radioType = .umts || c.alsoGsmCells) then
    { c with timerRunning := true, valid := c.isCellDetailsValid }
  else c

/-- A new value for a bounded integer of the details; `none` if it is refused,
which leaves the handler. -/
def setDetail (b : Bounds) (value : Int) (put : Int → Detail → Detail)
    (c : CachedRadioCell) : Option (CachedRadioCell × Bool) :=
  if c.radioType = .unknown then some (c, true)
  else (b.set value).map fun v => ({ c with detail := put v c.detail }, true)

/-- A new technology; unknown technologies and the current one are ignored. -/
def setTechnology (value : String) (c : CachedRadioCell) :
    Option (CachedRadioCell × Bool) :=
  match typeLut value with
  | none => none
  | some .unknown => none
  | some t =>
      if c.radioType = t then none
      else
        some ({ c with
          detail := c.detail.migrate c.radioType t
          radioType := t }, true)

/-- The body of `on_network_registration_property_changed`: the changed cell,
and `did_cell_identity_change`.  `none` if the handler is left before its
end. -/
def applyChange (change : RegistrationChange) (c : CachedRadioCell) :
    Option (CachedRadioCell × Bool) :=
  match change with
  | .technology value => c.setTechnology value
  | .cellId value =>
      c.setDetail (idBounds c.radioType) value.toInt32.toInt
        fun v d => { d with id := v }
  | .locationAreaCode value =>
      c.setDetail areaCodeBounds value.toNat fun v d => { d with areaCode := v }
  | .mobileCountryCode value =>
      c.setDetail mccBounds value fun v d => { d with mobileCountryCode := v }
  | .mobileNetworkCode value =>
      c.setDetail mncBounds value fun v d => { d with mobileNetworkCode := v }
  | .strength value =>
      some ({ c with
        detail := c.detail.withStrength c.radioType
          (strengthBounds.fromPercent value) }, false)
  | .status value => some ({ c with roaming := value = statusRoaming }, false)

/-- `on_network_registration_property_changed` -/
def onNetworkRegistrationPropertyChanged (change : RegistrationChange)
    (c : CachedRadioCell) : CachedRadioCell :=
  match c.applyChange change with
  | none => c
  | some (c, didCellIdentityChange) =>
      if didCellIdentityChange then c.executeCellChangeHeuristicsIfAppropriate
      else c

/-- The wait for the invalidation timer completes without an error. -/
def onInvalidationTimer (c : CachedRadioCell) : CachedRadioCell :=
  if c.timerRunning then { c with timerRunning := false, valid := false }
  else c

end CachedRadioCell

/-- What the constructor asks ofono for. -/
structure RegistrationQuery where
  status : String
  technology : String
  locationAreaCode : UInt16
  mobileCountryCode : Int
  mobileNetworkCode : Int
  cellId : UInt32
  strength : Int8

namespace RegistrationQuery

/-- `is_registered_or_roaming` of `query_status` -/
def isRegisteredOrRoaming (q : RegistrationQuery) : Bool :=
  q.status = "registered" || q.status = statusRoaming

/-- `query_technology` -/
def radioType (q : RegistrationQuery) : RadioType :=
  (typeLut q.technology).getD .unknown

/-- The details that the constructor stores, over what was in the memory of
the union; `none` if a value is refused. -/
def detail (q : RegistrationQuery) (memory : Detail) : Option Detail := do
  let mcc ← mccBounds.set q.mobileCountryCode
  let mnc ← mncBounds.set q.mobileNetworkCode
  let lac ← areaCodeBounds.set q.locationAreaCode.toNat
  let id ← (idBounds q.radioType).set q.cellId.toInt32.toInt
  let strength := strengthBounds.fromPercent q.strength
  let codes : Detail :=
    { memory with
      mobileCountryCode := mcc
      mobileNetworkCode := mnc
      areaCode := lac
      id := id }
  match q.radioType with
  | .lte => some { codes with fifth := physicalIdBounds.unset, sixth := strength }
  | _ => some { codes with fifth := strength }

/-- The constructor of `CachedRadioCell`.  Without a registration or a known
technology the details stay what the memory held. -/
def construct (needed alsoGsmCells : Bool) (memory : Detail)
    (q : RegistrationQuery) : Option CachedRadioCell :=
  let c : CachedRadioCell :=
    { needed := needed
      alsoGsmCells := alsoGsmCells
      radioType := q.radioType
      detail := memory }
  if !q.isRegisteredOrRoaming || q.radioType = .unknown then some c
  else
    (q.detail memory).map fun detail =>
      { c with
        detail := detail
        roaming := q.status = statusRoaming
      }.executeCellChangeHeuristicsIfAppropriate

end RegistrationQuery

/-! ## The specification of validity -/

/-- What happens to a cell. -/
inductive RegistrationEvent where
  | changed (change : RegistrationChange)
  | timerExpired

/-- A cell, and whether its invalidation timer has expired since the last
change of its identity. -/
structure CellRun where
  cell : CachedRadioCell
  expired : Bool := false

namespace CellRun

def next : RegistrationEvent → CellRun → CellRun
  | .changed change, s =>
      { cell := s.cell.onNetworkRegistrationPropertyChanged change
        expired :=
          match s.cell.applyChange change with
          | some (_, true) => false
          | _ => s.expired }
  | .timerExpired, s =>
      { cell := s.cell.onInvalidationTimer
        expired := s.expired || s.cell.timerRunning }

/-- A UMTS cell is valid exactly if all its details are and its timer has not
expired; any other cell is valid. -/
def ValidAsSpecified (s : CellRun) : Prop :=
  if s.cell.radioType = .umts then
    s.cell.valid = true ↔ s.cell.detail.isUmtsValid = true ∧ s.expired = false
  else s.cell.valid = true

instance (s : CellRun) : Decidable s.ValidAsSpecified := by
  unfold ValidAsSpecified
  infer_instance

/-- A UMTS cell takes on another technology only while it is valid, and a
strength does not complete the details of a UMTS cell whose timer has not
expired. -/
def ChangeKeepsValidity (s : CellRun) : RegistrationChange → Prop
  | .technology value =>
      s.cell.radioType = .umts →
        typeLut value = some .gsm ∨ typeLut value = some .lte →
          s.cell.valid = true
  | .strength _ =>
      s.cell.radioType = .umts → s.cell.detail.isIdentityValid .umts = true →
        s.expired = false → strengthBounds.isValid s.cell.detail.fifth = true
  | .cellId _ => True
  | .locationAreaCode _ => True
  | .mobileCountryCode _ => True
  | .mobileNetworkCode _ => True
  | .status _ => True

/-- The change keeps the validity, and the timer expires only for a UMTS
cell. -/
def KeepsValidity : RegistrationEvent → CellRun → Prop
  | .changed change, s => ChangeKeepsValidity s change
  | .timerExpired, s => s.cell.timerRunning = true → s.cell.radioType = .umts

instance (s : CellRun) : ∀ change, Decidable (ChangeKeepsValidity s change)
  | .technology _ => inferInstanceAs (Decidable (_ → _ → _))
  | .strength _ => inferInstanceAs (Decidable (_ → _ → _ → _))
  | .cellId _ => .isTrue trivial
  | .locationAreaCode _ => .isTrue trivial
  | .mobileCountryCode _ => .isTrue trivial
  | .mobileNetworkCode _ => .isTrue trivial
  | .status _ => .isTrue trivial

instance : ∀ e s, Decidable (KeepsValidity e s)
  | .changed change, s =>
      inferInstanceAs (Decidable (ChangeKeepsValidity s change))
  | .timerExpired, _ => inferInstanceAs (Decidable (_ → _))

/-! ## One event -/

/-- The heuristics apply to UMTS cells and to no others. -/
def ForUmtsOnly (c : CachedRadioCell) : Prop :=
  c.needed = true ∧ c.alsoGsmCells = false

/-- After an identity change a UMTS cell is as specified, and any other cell is
if it was valid. -/
theorem validAsSpecified_heuristics_iff {c : CachedRadioCell}
    (h : ForUmtsOnly c) :
    ValidAsSpecified ⟨c.executeCellChangeHeuristicsIfAppropriate, false⟩ ↔
      (c.radioType ≠ .umts → c.valid = true) := by
  unfold ValidAsSpecified
    CachedRadioCell.executeCellChangeHeuristicsIfAppropriate
  by_cases humts : c.radioType = .umts
  · simp [h.1, humts, CachedRadioCell.isCellDetailsValid]
  · simp [h.2, humts]

/-- A refused or accepted code keeps the technology and the validity. -/
theorem setDetail_keeps {b : Bounds} {value : Int}
    {put : Int → Detail → Detail} {c c' : CachedRadioCell} {did : Bool}
    (h : c.setDetail b value put = some (c', did)) :
    did = true ∧ c'.radioType = c.radioType ∧ c'.valid = c.valid ∧
      c'.needed = c.needed ∧ c'.alsoGsmCells = c.alsoGsmCells := by
  unfold CachedRadioCell.setDetail at h
  split at h
  · have heq := Option.some.inj h
    rw [Prod.mk.injEq] at heq
    rw [← heq.1, ← heq.2]
    simp
  · rw [Option.map_eq_some_iff] at h
    obtain ⟨v, -, heq⟩ := h
    rw [Prod.mk.injEq] at heq
    rw [← heq.1, ← heq.2]
    simp

/-- A new technology is a known one other than the current one. -/
theorem setTechnology_keeps {value : String} {c c' : CachedRadioCell}
    {did : Bool} (h : c.setTechnology value = some (c', did)) :
    did = true ∧ typeLut value = some c'.radioType ∧
      c'.radioType ≠ .unknown ∧ c'.radioType ≠ c.radioType ∧
      c'.valid = c.valid ∧ c'.needed = c.needed ∧
      c'.alsoGsmCells = c.alsoGsmCells ∧
      c'.detail = c.detail.migrate c.radioType c'.radioType := by
  unfold CachedRadioCell.setTechnology at h
  split at h
  · cases h
  · cases h
  · rename_i t hunknown hlut
    split at h
    · cases h
    · rename_i hne
      have heq := Option.some.inj h
      rw [Prod.mk.injEq] at heq
      rw [← heq.1, ← heq.2]
      have hchanged : t ≠ c.radioType := fun h => hne h.symm
      exact ⟨rfl, hlut, hunknown, hchanged, rfl, rfl, rfl, rfl⟩

/-- The codes and the id are handled alike. -/
theorem applyChange_cases (change : RegistrationChange) (c : CachedRadioCell) :
    (∃ value, change = .technology value) ∨
      (∃ value, change = .strength value) ∨ (∃ value, change = .status value) ∨
      ((∀ s, ChangeKeepsValidity s change) ∧
        ∃ b value put, c.applyChange change = c.setDetail b value put ∧
          ∀ v d, (put v d).fifth = d.fifth) := by
  cases change with
  | technology value => exact .inl ⟨value, rfl⟩
  | strength value => exact .inr (.inl ⟨value, rfl⟩)
  | status value => exact .inr (.inr (.inl ⟨value, rfl⟩))
  | cellId value =>
      exact .inr (.inr (.inr ⟨fun _ => trivial, idBounds c.radioType,
        value.toInt32.toInt, fun v d => { d with id := v }, rfl,
        fun _ _ => rfl⟩))
  | locationAreaCode value =>
      exact .inr (.inr (.inr ⟨fun _ => trivial, areaCodeBounds, value.toNat,
        fun v d => { d with areaCode := v }, rfl, fun _ _ => rfl⟩))
  | mobileCountryCode value =>
      exact .inr (.inr (.inr ⟨fun _ => trivial, mccBounds, value,
        fun v d => { d with mobileCountryCode := v }, rfl, fun _ _ => rfl⟩))
  | mobileNetworkCode value =>
      exact .inr (.inr (.inr ⟨fun _ => trivial, mncBounds, value,
        fun v d => { d with mobileNetworkCode := v }, rfl, fun _ _ => rfl⟩))

/-- The cell after a change that is handled to the end. -/
theorem next_changed_of_some {change : RegistrationChange} {s : CellRun}
    {c : CachedRadioCell} (h : s.cell.applyChange change = some (c, true)) :
    next (.changed change) s =
      ⟨c.executeCellChangeHeuristicsIfAppropriate, false⟩ := by
  simp [next, CachedRadioCell.onNetworkRegistrationPropertyChanged, h]

/-- A change whose handler is left early does nothing. -/
theorem next_changed_of_none {change : RegistrationChange} {s : CellRun}
    (h : s.cell.applyChange change = none) : next (.changed change) s = s := by
  simp [next, CachedRadioCell.onNetworkRegistrationPropertyChanged, h]

theorem ValidAsSpecified.valid_of_ne {s : CellRun} (h : s.ValidAsSpecified)
    (hne : s.cell.radioType ≠ .umts) : s.cell.valid = true := by
  unfold ValidAsSpecified at h
  rwa [if_neg hne] at h

/-- A code or an id keeps the validity as specified. -/
theorem ValidAsSpecified.setDetail {s : CellRun} (h : s.ValidAsSpecified)
    (humts : ForUmtsOnly s.cell) {change : RegistrationChange} {b : Bounds}
    {value : Int} {put : Int → Detail → Detail}
    (hchange : s.cell.applyChange change = s.cell.setDetail b value put) :
    (next (.changed change) s).ValidAsSpecified := by
  cases hset : s.cell.setDetail b value put with
  | none =>
      rw [next_changed_of_none (hchange.trans hset)]
      exact h
  | some result =>
      obtain ⟨c, did⟩ := result
      obtain ⟨rfl, htype, hvalid, hneeded, hgsm⟩ := setDetail_keeps hset
      have hc : ForUmtsOnly c := ⟨hneeded.trans humts.1, hgsm.trans humts.2⟩
      rw [next_changed_of_some (hchange.trans hset),
        validAsSpecified_heuristics_iff hc, htype, hvalid]
      exact h.valid_of_ne

/-- A new technology keeps the validity as specified exactly if it does not
turn an invalid UMTS cell into another one. -/
theorem ValidAsSpecified.technology_iff {s : CellRun} (h : s.ValidAsSpecified)
    (humts : ForUmtsOnly s.cell) (value : String) :
    (next (.changed (.technology value)) s).ValidAsSpecified ↔
      ChangeKeepsValidity s (.technology value) := by
  have hchange : s.cell.applyChange (.technology value) =
      s.cell.setTechnology value := rfl
  cases hset : s.cell.setTechnology value with
  | none =>
      rw [next_changed_of_none (hchange.trans hset)]
      constructor
      · intro _ hsource htarget
        unfold CachedRadioCell.setTechnology at hset
        rcases htarget with htarget | htarget <;>
          simp [htarget, hsource] at hset
      · intro _
        exact h
  | some result =>
      obtain ⟨c, did⟩ := result
      obtain ⟨rfl, hlut, hunknown, hne, hvalid, hneeded, hgsm, -⟩ :=
        setTechnology_keeps hset
      have hc : ForUmtsOnly c := ⟨hneeded.trans humts.1, hgsm.trans humts.2⟩
      rw [next_changed_of_some (hchange.trans hset),
        validAsSpecified_heuristics_iff hc, hvalid]
      simp only [ChangeKeepsValidity, hlut]
      by_cases hsource : s.cell.radioType = .umts
      · rw [hsource] at hne
        cases ht : c.radioType with
        | unknown => exact absurd ht hunknown
        | gsm => simp [hsource]
        | umts => exact absurd ht hne
        | lte => simp [hsource]
      · have htrue := h.valid_of_ne hsource
        simp [hsource, htrue]

/-- A new strength keeps the validity as specified exactly if it does not
complete the details of a UMTS cell whose timer has not expired. -/
theorem ValidAsSpecified.strength_iff {s : CellRun} (h : s.ValidAsSpecified)
    (value : Int8) :
    (next (.changed (.strength value)) s).ValidAsSpecified ↔
      ChangeKeepsValidity s (.strength value) := by
  have hstrength := fromPercent_valid value
  unfold ValidAsSpecified at h ⊢
  by_cases humts : s.cell.radioType = .umts
  · rw [if_pos humts] at h
    have hafter : (s.cell.detail.withStrength .umts
        (strengthBounds.fromPercent value)).isUmtsValid =
          s.cell.detail.isIdentityValid .umts := by
      simp [Detail.withStrength, Detail.isUmtsValid, Detail.isIdentityValid,
        hstrength]
    have hbefore : s.cell.detail.isUmtsValid = true ↔
        s.cell.detail.isIdentityValid .umts = true ∧
          strengthBounds.isValid s.cell.detail.fifth = true := by
      simp [Detail.isUmtsValid]
    rw [hbefore] at h
    simp only [next, CachedRadioCell.onNetworkRegistrationPropertyChanged,
      CachedRadioCell.applyChange, humts, if_true, hafter, h, ChangeKeepsValidity,
      Bool.false_eq_true, if_false]
    constructor
    · intro hiff _ hidentity hexpired
      exact (hiff.mpr ⟨hidentity, hexpired⟩).1.2
    · intro hkeeps
      constructor
      · rintro ⟨⟨hidentity, -⟩, hexpired⟩
        exact ⟨hidentity, hexpired⟩
      · rintro ⟨hidentity, hexpired⟩
        exact ⟨⟨hidentity, hkeeps trivial hidentity hexpired⟩, hexpired⟩
  · rw [if_neg humts] at h
    simp [next, CachedRadioCell.onNetworkRegistrationPropertyChanged,
      CachedRadioCell.applyChange, humts, h, ChangeKeepsValidity]

/-- The expiry of the timer keeps the validity as specified exactly if the cell
is a UMTS cell. -/
theorem ValidAsSpecified.timerExpired_iff {s : CellRun}
    (h : s.ValidAsSpecified) :
    (next .timerExpired s).ValidAsSpecified ↔ KeepsValidity .timerExpired s := by
  unfold ValidAsSpecified at h ⊢
  by_cases hrunning : s.cell.timerRunning = true
  · by_cases humts : s.cell.radioType = .umts
    · simp [next, CachedRadioCell.onInvalidationTimer, hrunning, humts,
        KeepsValidity]
    · simp [next, CachedRadioCell.onInvalidationTimer, hrunning, humts,
        KeepsValidity]
  · have hstopped : s.cell.timerRunning = false := by simpa using hrunning
    simpa [next, CachedRadioCell.onInvalidationTimer, hstopped,
      KeepsValidity] using h

/-- An event keeps the validity as specified exactly if `KeepsValidity` says
so. -/
theorem ValidAsSpecified.next_iff {s : CellRun} (h : s.ValidAsSpecified)
    (humts : ForUmtsOnly s.cell) (e : RegistrationEvent) :
    (next e s).ValidAsSpecified ↔ KeepsValidity e s := by
  cases e with
  | changed change =>
      rcases applyChange_cases change s.cell with ⟨value, rfl⟩ | ⟨value, rfl⟩ |
        ⟨value, rfl⟩ | ⟨hkeeps, b, value, put, hset, -⟩
      · exact h.technology_iff humts value
      · exact h.strength_iff value
      · exact ⟨fun _ => trivial, fun _ => h⟩
      · exact ⟨fun _ => hkeeps s, fun _ => h.setDetail humts hset⟩
  | timerExpired => exact h.timerExpired_iff

theorem forUmtsOnly_heuristics {c : CachedRadioCell} (h : ForUmtsOnly c) :
    ForUmtsOnly c.executeCellChangeHeuristicsIfAppropriate := by
  unfold CachedRadioCell.executeCellChangeHeuristicsIfAppropriate
  split
  · exact h
  · exact h

/-- What the heuristics apply to never changes. -/
theorem forUmtsOnly_next {s : CellRun} (h : ForUmtsOnly s.cell)
    (e : RegistrationEvent) : ForUmtsOnly (next e s).cell := by
  cases e with
  | changed change =>
      show ForUmtsOnly (s.cell.onNetworkRegistrationPropertyChanged change)
      unfold CachedRadioCell.onNetworkRegistrationPropertyChanged
      have hsame : ∀ c did, s.cell.applyChange change = some (c, did) →
          c.needed = s.cell.needed ∧ c.alsoGsmCells = s.cell.alsoGsmCells := by
        intro c did hc
        rcases applyChange_cases change s.cell with ⟨value, rfl⟩ |
          ⟨value, rfl⟩ | ⟨value, rfl⟩ | ⟨-, b, value, put, hset, -⟩
        · obtain ⟨-, -, -, -, -, hneeded, hgsm, -⟩ := setTechnology_keeps hc
          exact ⟨hneeded, hgsm⟩
        · obtain ⟨rfl, -⟩ := Prod.mk.inj (Option.some.inj hc)
          exact ⟨rfl, rfl⟩
        · obtain ⟨rfl, -⟩ := Prod.mk.inj (Option.some.inj hc)
          exact ⟨rfl, rfl⟩
        · rw [hset] at hc
          exact (setDetail_keeps hc).2.2.2
      cases hchange : s.cell.applyChange change with
      | none => exact h
      | some result =>
          obtain ⟨c, did⟩ := result
          have heq := hsame c did hchange
          have hc : ForUmtsOnly c := ⟨heq.1.trans h.1, heq.2.trans h.2⟩
          cases did with
          | true => exact forUmtsOnly_heuristics hc
          | false => exact hc
  | timerExpired =>
      show ForUmtsOnly s.cell.onInvalidationTimer
      unfold CachedRadioCell.onInvalidationTimer
      split
      · exact h
      · exact h

/-! ## Whole runs -/

/-- A cell that is constructed as a UMTS cell is registered, unless the memory
of its details happens to hold valid ones. -/
def StartsAsSpecified (memory : Detail) (q : RegistrationQuery) : Prop :=
  q.radioType = .umts →
    q.isRegisteredOrRoaming = true ∨ memory.isUmtsValid = true

instance (memory : Detail) (q : RegistrationQuery) :
    Decidable (StartsAsSpecified memory q) :=
  inferInstanceAs (Decidable (_ → _))

/-- A cell without a registration or a known technology keeps what the memory
held; any other one goes through the heuristics. -/
theorem construct_cases {memory : Detail} {q : RegistrationQuery}
    {c : CachedRadioCell} (h : q.construct true false memory = some c) :
    c.radioType = q.radioType ∧
      ((c.valid = true ∧ c.detail = memory ∧ ForUmtsOnly c ∧
          (q.radioType = .umts → q.isRegisteredOrRoaming = false)) ∨
        (q.isRegisteredOrRoaming = true ∧ ∃ c' : CachedRadioCell,
          ForUmtsOnly c' ∧ c'.valid = true ∧
            c = c'.executeCellChangeHeuristicsIfAppropriate)) := by
  unfold RegistrationQuery.construct at h
  simp only at h
  split at h
  · rename_i hskip
    obtain rfl := Option.some.inj h
    have hstatus : q.radioType = .umts → q.isRegisteredOrRoaming = false := by
      intro humts
      simpa [humts] using hskip
    exact ⟨rfl, .inl ⟨rfl, rfl, ⟨rfl, rfl⟩, hstatus⟩⟩
  · rename_i hasked
    have hstatus : q.isRegisteredOrRoaming = true := by
      simp only [Bool.or_eq_true, Bool.not_eq_true', not_or,
        Bool.not_eq_false] at hasked
      exact hasked.1
    rw [Option.map_eq_some_iff] at h
    obtain ⟨detail, -, rfl⟩ := h
    constructor
    · unfold CachedRadioCell.executeCellChangeHeuristicsIfAppropriate
      split
      · rfl
      · rfl
    · exact .inr ⟨hstatus, _, ⟨rfl, rfl⟩, rfl, rfl⟩

theorem forUmtsOnly_construct {memory : Detail} {q : RegistrationQuery}
    {c : CachedRadioCell} (h : q.construct true false memory = some c) :
    ForUmtsOnly c := by
  rcases (construct_cases h).2 with ⟨-, -, hc, -⟩ | ⟨-, c', hc', -, rfl⟩
  · exact hc
  · exact forUmtsOnly_heuristics hc'

/-- A constructed cell has the validity that is specified exactly if it starts
so. -/
theorem validAsSpecified_construct_iff {memory : Detail}
    {q : RegistrationQuery} {c : CachedRadioCell}
    (h : q.construct true false memory = some c) :
    ValidAsSpecified ⟨c, false⟩ ↔ StartsAsSpecified memory q := by
  have htype := (construct_cases h).1
  rcases (construct_cases h).2 with ⟨hvalid, hdetail, -, hstatus⟩ |
    ⟨hstatus, c', hc', hvalid, rfl⟩
  · unfold ValidAsSpecified StartsAsSpecified
    by_cases humts : q.radioType = .umts
    · simp [htype, humts, hvalid, hdetail, hstatus humts]
    · simp [htype, humts, hvalid]
  · rw [validAsSpecified_heuristics_iff hc']
    exact ⟨fun _ _ => .inl hstatus, fun _ _ => hvalid⟩

/-- On problematic firmware a cell starts with the validity that is specified
exactly if `StartsAsSpecified`, and then keeps it in every run of events that
keep it; the first other event breaks it. -/
theorem cell_validity_as_specified {memory : Detail} {q : RegistrationQuery}
    {c : CachedRadioCell} (h : q.construct true false memory = some c) :
    (ValidAsSpecified ⟨c, false⟩ ↔ StartsAsSpecified memory q) ∧
      (StartsAsSpecified memory q → ∀ s : CellRun,
        (Machine.ofStep ⟨c, false⟩ next).Reach KeepsValidity s →
          s.ValidAsSpecified ∧
            ∀ e, (next e s).ValidAsSpecified ↔ KeepsValidity e s) := by
  have hstart := validAsSpecified_construct_iff h
  refine ⟨hstart, ?_⟩
  intro hstarts s hreach
  have hrun := hreach.ofStep_keeps_exactly (fun s => ForUmtsOnly s.cell)
    ValidAsSpecified ⟨forUmtsOnly_construct h, hstart.mpr hstarts⟩
    (fun e _ hs => forUmtsOnly_next hs e)
    (fun e _ hs hvalid => hvalid.next_iff hs e)
  exact hrun.2

/-- A registered 3G connection. -/
def registeredUmts : RegistrationQuery where
  status := "registered"
  technology := "hspa"
  locationAreaCode := 4711
  mobileCountryCode := 262
  mobileNetworkCode := 2
  cellId := 81548
  strength := 60

/-- The cell of `registeredUmts`. -/
def umtsCell : CachedRadioCell where
  needed := true
  alsoGsmCells := false
  timerRunning := true
  radioType := .umts
  detail :=
    { mobileCountryCode := 262
      mobileNetworkCode := 2
      areaCode := 4711
      id := 81548
      fifth := 18
      sixth := 0 }

theorem construct_registeredUmts :
    registeredUmts.construct true false ⟨0, 0, 0, 0, 0, 0⟩ = some umtsCell := by
  decide +kernel

/-- A UMTS cell gets a new id, is invalidated by its timer, and becomes valid
again with the next id. -/
theorem cell_validity_as_specified_expired :
    ∃ s : CellRun, s.ValidAsSpecified ∧
      (∀ e, (next e s).ValidAsSpecified ↔ KeepsValidity e s) ∧
        s.cell.valid = true ∧ s.cell.detail.id = 81550 := by
  have hrun : ∃ s : CellRun,
      (Machine.ofStep ⟨umtsCell, false⟩ next).Reach KeepsValidity s ∧
        s.cell.valid = true ∧ s.cell.detail.id = 81550 :=
    Machine.Reach.ofStep_exists_of_replay
      [.changed (.cellId 81549), .timerExpired,
        .changed (.strength 40), .changed (.cellId 81550)]
      (by decide +kernel)
  obtain ⟨s, hreach, hvalid, hid⟩ := hrun
  have hspec := (cell_validity_as_specified construct_registeredUmts).2
    (by decide +kernel) s hreach
  exact ⟨s, hspec.1, hspec.2, hvalid, hid⟩

/-- The timer of a UMTS cell keeps running when the cell becomes a GSM cell,
and then invalidates that. -/
theorem gsm_cell_invalidated_by_timer :
    registeredUmts.construct true false ⟨0, 0, 0, 0, 0, 0⟩ = some umtsCell ∧
      ∃ s : CellRun,
        (Machine.ofStep ⟨umtsCell, false⟩ next).Reach (fun _ _ => True) s ∧
          s.cell.radioType = .gsm ∧ s.cell.valid = false ∧
            ¬ s.ValidAsSpecified := by
  constructor
  · exact construct_registeredUmts
  · exact Machine.Reach.ofStep_exists_of_replay
      [.changed (.technology "gsm"), .timerExpired] (by decide +kernel)

end CellRun

end LocationService
