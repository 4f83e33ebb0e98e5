import LocationService.Connectivity.CachedRadioCell
import LocationService.Library.Json
import LocationService.Library.Text

/-!
# The physical id of an LTE cell

ofono reports no physical cell ids, so that a `CachedRadioCell` has none to
submit.  But the physical id of an LTE cell lies where a GSM or UMTS cell has
its strength, a change of technology to LTE leaves it alone, and every strength
looks like a physical id.
-/

namespace LocationService

open Library

namespace IchnaeaReporter

/-- The scalars that the reporter puts into JSON objects. -/
inductive Scalar where
  | string (value : Text)
  | int32 (value : Int)
  | double (value : Float)

/-- The value of a bounded integer, if it is valid. -/
def validValue (b : Bounds) (value : Int) : Option Int :=
  if b.isValid value then some value else none

/-- A bounded integer is put if it is valid. -/
def putValid (name : String) (b : Bounds) (value : Int)
    (o : Json.Members Scalar) : Json.Members Scalar :=
  Json.Members.putIf name
    ((validValue b value).map fun v => .scalar (.int32 v)) o

/-- The object of one cell in `convert_cells_to_json`. -/
def cellToJson (c : CachedRadioCell) : Json.Members Scalar :=
  let d := c.detail
  match c.radioType with
  | .unknown => []
  | .gsm =>
      let o := Json.Members.put "radio" (.scalar (.string "gsm".toList)) []
      let o := putValid "mcc" mccBounds d.mobileCountryCode o
      let o := putValid "mnc" mncBounds d.mobileNetworkCode o
      let o := putValid "lac" areaCodeBounds d.areaCode o
      let o := putValid "cid" (idBounds .gsm) d.id o
      putValid "asu" strengthBounds d.fifth o
  | .umts =>
      let o := Json.Members.put "radio" (.scalar (.string "umts".toList)) []
      let o := putValid "mcc" mccBounds d.mobileCountryCode o
      let o := putValid "mnc" mncBounds d.mobileNetworkCode o
      let o := putValid "lac" areaCodeBounds d.areaCode o
      let o := putValid "cid" (idBounds .umts) d.id o
      putValid "asu" strengthBounds d.fifth o
  | .lte =>
      let o := Json.Members.put "radio" (.scalar (.string "lte".toList)) []
      let o := putValid "mcc" mccBounds d.mobileCountryCode o
      let o := putValid "mnc" mncBounds d.mobileNetworkCode o
      let o := putValid "lac" areaCodeBounds d.areaCode o
      let o := putValid "cid" (idBounds .lte) d.id o
      let o := putValid "psc" physicalIdBounds d.physicalId o
      putValid "asu" strengthBounds d.sixth o

/-- `Reporter::convert_cells_to_json` -/
def convertCellsToJson (cells : List CachedRadioCell)
    (destination : List (Json Scalar)) : List (Json Scalar) :=
  cells.foldl (fun destination c => destination ++ [.object (cellToJson c)])
    destination

theorem convertCellsToJson_eq (cells : List CachedRadioCell)
    (destination : List (Json Scalar)) :
    convertCellsToJson cells destination =
      destination ++ cells.map fun c => .object (cellToJson c) := by
  unfold convertCellsToJson
  induction cells generalizing destination with
  | nil => simp
  | cons c rest ih => simp [ih]

@[simp] theorem member_putValid (name name' : String) (b : Bounds)
    (value : Int) (o : Json.Members Scalar) :
    Json.Members.member name' (putValid name b value o) =
      if name = name' then
        ((validValue b value).map fun v => .scalar (.int32 v)).or
          (Json.Members.member name' o)
      else Json.Members.member name' o :=
  Json.Members.member_putIf name name' _ o

/-- A physical id is submitted exactly for an LTE cell with a valid one. -/
theorem member_psc_cellToJson (c : CachedRadioCell) :
    Json.Members.member "psc" (cellToJson c) =
      if c.radioType = .lte then
        (validValue physicalIdBounds c.detail.physicalId).map
          fun v => .scalar (.int32 v)
      else none := by
  unfold cellToJson
  cases c.radioType with
  | unknown => rfl
  | gsm => simp
  | umts => simp
  | lte => simp

end IchnaeaReporter

/-- An LTE cell has no physical id, and none is submitted for any cell. -/
structure InventsNoPhysicalId (c : CachedRadioCell) : Prop where
  unset : c.radioType = .lte →
    physicalIdBounds.isValid c.detail.physicalId = false
  notSubmitted : ∀ o, .object o ∈ IchnaeaReporter.convertCellsToJson [c] [] →
    Json.Members.member "psc" o = none

theorem inventsNoPhysicalId_iff {c : CachedRadioCell} :
    InventsNoPhysicalId c ↔
      (c.radioType = .lte →
        physicalIdBounds.isValid c.detail.physicalId = false) := by
  constructor
  · intro h
    exact h.unset
  · intro h
    refine ⟨h, ?_⟩
    intro o ho
    obtain rfl : o = IchnaeaReporter.cellToJson c := by
      simpa [IchnaeaReporter.convertCellsToJson] using ho
    rw [IchnaeaReporter.member_psc_cellToJson]
    split
    · rename_i hlte
      simp [IchnaeaReporter.validValue, h hlte]
    · rfl

/-- What is submitted for several cells is submitted for one of them. -/
theorem psc_not_submitted {cells : List CachedRadioCell}
    (h : ∀ c ∈ cells, InventsNoPhysicalId c)
    (o : Json.Members IchnaeaReporter.Scalar)
    (ho : .object o ∈ IchnaeaReporter.convertCellsToJson cells []) :
    Json.Members.member "psc" o = none := by
  rw [IchnaeaReporter.convertCellsToJson_eq, List.nil_append,
    List.mem_map] at ho
  obtain ⟨c, hc, hobject⟩ := ho
  exact (h c hc).notSubmitted o (by
    rw [IchnaeaReporter.convertCellsToJson_eq, ← hobject]
    simp)

instance (c : CachedRadioCell) : Decidable (InventsNoPhysicalId c) :=
  decidable_of_iff _ inventsNoPhysicalId_iff.symm

/-- The technology that an event reports, if it is a known one. -/
def RegistrationEvent.technology : RegistrationEvent → Option RadioType
  | .changed (.technology value) => typeLut value
  | _ => none

namespace CellRun

/-- A cell becomes an LTE cell only while the integer under the physical id is
not a valid one. -/
def KeepsNoPhysicalId (e : RegistrationEvent) (s : CellRun) : Prop :=
  e.technology = some .lte → s.cell.radioType ≠ .lte →
    physicalIdBounds.isValid s.cell.detail.physicalId = false

instance (e : RegistrationEvent) (s : CellRun) :
    Decidable (KeepsNoPhysicalId e s) :=
  inferInstanceAs (Decidable (_ → _ → _))

/-! ## One event -/

theorem heuristics_keep (c : CachedRadioCell) :
    c.executeCellChangeHeuristicsIfAppropriate.radioType = c.radioType ∧
      c.executeCellChangeHeuristicsIfAppropriate.detail = c.detail := by
  unfold CachedRadioCell.executeCellChangeHeuristicsIfAppropriate
  split
  · exact ⟨rfl, rfl⟩
  · exact ⟨rfl, rfl⟩

/-- The technology and the details after a change are those that the body of
the handler leaves. -/
theorem next_changed_cell {change : RegistrationChange} {s : CellRun}
    {c : CachedRadioCell} {did : Bool}
    (h : s.cell.applyChange change = some (c, did)) :
    (next (.changed change) s).cell.radioType = c.radioType ∧
      (next (.changed change) s).cell.detail = c.detail := by
  cases did with
  | true =>
      rw [next_changed_of_some h]
      exact heuristics_keep c
  | false =>
      simp [next, CachedRadioCell.onNetworkRegistrationPropertyChanged, h]

/-- A code or an id leaves the technology and the fifth integer alone. -/
theorem setDetail_fifth {b : Bounds} {value : Int}
    {put : Int → Detail → Detail} {c c' : CachedRadioCell} {did : Bool}
    (hput : ∀ v d, (put v d).fifth = d.fifth)
    (h : c.setDetail b value put = some (c', did)) :
    c'.detail.fifth = c.detail.fifth := by
  unfold CachedRadioCell.setDetail at h
  split at h
  · have heq := Option.some.inj h
    rw [Prod.mk.injEq] at heq
    rw [← heq.1]
  · rw [Option.map_eq_some_iff] at h
    obtain ⟨v, -, heq⟩ := h
    rw [Prod.mk.injEq] at heq
    rw [← heq.1]
    exact hput v c.detail

/-- A change of technology to LTE leaves the fifth integer alone. -/
theorem migrate_lte_fifth (source : RadioType) (d : Detail) :
    (d.migrate source .lte).fifth = d.fifth := by
  cases source with
  | unknown => rfl
  | gsm => rfl
  | umts => rfl
  | lte => rfl

/-- Whether a technology that is handled to the end is LTE, and what becomes of
the fifth integer then. -/
theorem technology_lte_iff {value : String} {c c' : CachedRadioCell}
    {did : Bool} (h : c.setTechnology value = some (c', did)) :
    (c'.radioType = .lte ↔ typeLut value = some .lte) ∧
      (c'.radioType = .lte →
        c.radioType ≠ .lte ∧ c'.detail.fifth = c.detail.fifth) := by
  obtain ⟨-, hlut, -, hne, -, -, -, hdetail⟩ := setTechnology_keeps h
  constructor
  · rw [hlut, Option.some.injEq]
  · intro hlte
    rw [hlte] at hne hdetail
    rw [hdetail]
    exact ⟨hne.symm, migrate_lte_fifth _ _⟩

/-- A technology that is not handled to the end is not LTE, or the cell is an
LTE cell already. -/
theorem technology_not_handled {value : String} {c : CachedRadioCell}
    (h : c.setTechnology value = none) (hlte : typeLut value = some .lte) :
    c.radioType = .lte := by
  unfold CachedRadioCell.setTechnology at h
  simpa [hlte] using h

/-- An event other than a new technology leaves the technology alone, and the
fifth integer too unless it is a strength and the cell is no LTE cell. -/
theorem next_of_not_technology {e : RegistrationEvent} (s : CellRun)
    (h : ∀ value, e ≠ .changed (.technology value)) :
    (next e s).cell.radioType = s.cell.radioType ∧
      ((next e s).cell.detail.fifth = s.cell.detail.fifth ∨
        s.cell.radioType ≠ .lte ∧
          (s.cell.radioType ≠ .unknown →
            strengthBounds.isValid (next e s).cell.detail.fifth = true)) := by
  cases e with
  | timerExpired =>
      show s.cell.onInvalidationTimer.radioType = _ ∧
        (s.cell.onInvalidationTimer.detail.fifth = _ ∨ _)
      unfold CachedRadioCell.onInvalidationTimer
      split
      · exact ⟨rfl, .inl rfl⟩
      · exact ⟨rfl, .inl rfl⟩
  | changed change =>
      rcases applyChange_cases change s.cell with ⟨value, rfl⟩ | ⟨value, rfl⟩ |
        ⟨value, rfl⟩ | ⟨-, b, value, put, hset, hput⟩
      · exact absurd rfl (h value)
      · have hvalid := fromPercent_valid value
        have hhandled : s.cell.applyChange (.strength value) =
            some ({ s.cell with
              detail := s.cell.detail.withStrength s.cell.radioType
                (strengthBounds.fromPercent value) }, false) := rfl
        have hcell := next_changed_cell hhandled
        refine ⟨hcell.1, ?_⟩
        rw [hcell.2]
        cases htype : s.cell.radioType with
        | unknown => simp [Detail.withStrength]
        | gsm => simp [Detail.withStrength, hvalid]
        | umts => simp [Detail.withStrength, hvalid]
        | lte => simp [Detail.withStrength]
      · exact ⟨rfl, .inl rfl⟩
      · cases hchange : s.cell.setDetail b value put with
        | none =>
            rw [next_changed_of_none (hset.trans hchange)]
            exact ⟨rfl, .inl rfl⟩
        | some result =>
            obtain ⟨c, did⟩ := result
            have hcell := next_changed_cell (hset.trans hchange)
            rw [hcell.1, hcell.2, setDetail_fifth hput hchange,
              (setDetail_keeps hchange).2.1]
            exact ⟨rfl, .inl rfl⟩

/-- An event invents no physical id exactly if `KeepsNoPhysicalId` says so. -/
theorem inventsNoPhysicalId_next_iff {s : CellRun}
    (h : InventsNoPhysicalId s.cell) (e : RegistrationEvent) :
    InventsNoPhysicalId (next e s).cell ↔ KeepsNoPhysicalId e s := by
  rw [inventsNoPhysicalId_iff] at h ⊢
  by_cases htechnology : ∃ value, e = .changed (.technology value)
  · obtain ⟨value, rfl⟩ := htechnology
    have hchange : s.cell.applyChange (.technology value) =
        s.cell.setTechnology value := rfl
    cases hset : s.cell.setTechnology value with
    | none =>
        rw [next_changed_of_none (hchange.trans hset)]
        constructor
        · intro _ hlut hne
          exact absurd (technology_not_handled hset hlut) hne
        · intro _
          exact h
    | some result =>
        obtain ⟨c, did⟩ := result
        have hcell := next_changed_cell (hchange.trans hset)
        have hlte := technology_lte_iff hset
        rw [hcell.1, hcell.2]
        constructor
        · intro hnone hlut _
          have hc := hlte.1.mpr hlut
          have hfifth := (hlte.2 hc).2
          simpa [Detail.physicalId, hfifth] using hnone hc
        · intro hkeeps hc
          have hfifth := hlte.2 hc
          simpa [Detail.physicalId, hfifth.2] using
            hkeeps (hlte.1.mp hc) hfifth.1
  · have hother : ∀ value, e ≠ .changed (.technology value) := by
      intro value heq
      exact htechnology ⟨value, heq⟩
    have hnone : e.technology ≠ some .lte := by
      unfold RegistrationEvent.technology
      split
      · exact absurd rfl (hother _)
      · simp
    have hnext := next_of_not_technology s hother
    constructor
    · intro _ hlte
      exact absurd hlte hnone
    · intro _ hlte
      rw [hnext.1] at hlte
      rcases hnext.2 with hfifth | ⟨hne, -⟩
      · rw [Detail.physicalId, hfifth]
        exact h hlte
      · exact absurd hlte hne

/-! ## Whole runs -/

/-- A cell that is constructed as an LTE cell is registered, or the memory of
its details happens to hold no valid physical id. -/
def StartsWithoutPhysicalId (memory : Detail) (q : RegistrationQuery) : Prop :=
  q.radioType = .lte → q.isRegisteredOrRoaming = false →
    physicalIdBounds.isValid memory.physicalId = false

instance (memory : Detail) (q : RegistrationQuery) :
    Decidable (StartsWithoutPhysicalId memory q) :=
  inferInstanceAs (Decidable (_ → _ → _))

/-- The details of a constructed cell: what the memory held without a
registration or a known technology, and else an unset physical id for LTE and a
valid strength for the others. -/
theorem construct_fifth {needed alsoGsmCells : Bool} {memory : Detail}
    {q : RegistrationQuery} {c : CachedRadioCell}
    (h : q.construct needed alsoGsmCells memory = some c) :
    c.radioType = q.radioType ∧
      if q.isRegisteredOrRoaming = true ∧ q.radioType ≠ .unknown then
        if q.radioType = .lte then c.detail.fifth = physicalIdBounds.unset
        else strengthBounds.isValid c.detail.fifth = true
      else c.detail = memory := by
  unfold RegistrationQuery.construct at h
  simp only at h
  split at h
  · rename_i hskip
    obtain rfl := Option.some.inj h
    have hnot : ¬ (q.isRegisteredOrRoaming = true ∧ q.radioType ≠ .unknown) := by
      rintro ⟨hstatus, htype⟩
      simp [hstatus, htype] at hskip
    rw [if_neg hnot]
    exact ⟨rfl, rfl⟩
  · rename_i hasked
    have hyes : q.isRegisteredOrRoaming = true ∧ q.radioType ≠ .unknown := by
      simpa using hasked
    rw [Option.map_eq_some_iff] at h
    obtain ⟨detail, hdetail, rfl⟩ := h
    rw [if_pos hyes, (heuristics_keep _).1, (heuristics_keep _).2]
    refine ⟨rfl, ?_⟩
    simp only [RegistrationQuery.detail, Option.bind_eq_bind,
      Option.bind_eq_some_iff] at hdetail
    obtain ⟨mcc, -, mnc, -, lac, -, id, -, hdetail⟩ := hdetail
    split at hdetail
    · rename_i hlte
      rw [if_pos hlte, ← Option.some.inj hdetail]
    · rename_i hlte
      rw [if_neg hlte, ← Option.some.inj hdetail]
      exact fromPercent_valid q.strength

theorem inventsNoPhysicalId_construct_iff {needed alsoGsmCells : Bool}
    {memory : Detail} {q : RegistrationQuery} {c : CachedRadioCell}
    (h : q.construct needed alsoGsmCells memory = some c) :
    InventsNoPhysicalId c ↔ StartsWithoutPhysicalId memory q := by
  obtain ⟨htype, hdetail⟩ := construct_fifth h
  rw [inventsNoPhysicalId_iff, htype]
  unfold StartsWithoutPhysicalId
  by_cases hlte : q.radioType = .lte
  · by_cases hstatus : q.isRegisteredOrRoaming = true
    · simp only [hstatus, hlte, ne_eq, reduceCtorEq, not_false_eq_true,
        and_self, if_true] at hdetail
      have hunset : physicalIdBounds.isValid c.detail.physicalId = false := by
        rw [Detail.physicalId, hdetail]
        decide
      simp [hstatus, hunset]
    · rw [if_neg (fun hyes => hstatus hyes.1)] at hdetail
      simp [hstatus, hlte, hdetail]
  · simp [hlte]

/-- A cell starts without a physical id exactly if `StartsWithoutPhysicalId`,
and then has and submits none in every run of events that invent none; the
first other event invents one. -/
theorem no_physical_id_invented {needed alsoGsmCells : Bool} {memory : Detail}
    {q : RegistrationQuery} {c : CachedRadioCell}
    (h : q.construct needed alsoGsmCells memory = some c) :
    (InventsNoPhysicalId c ↔ StartsWithoutPhysicalId memory q) ∧
      (StartsWithoutPhysicalId memory q → ∀ s : CellRun,
        (Machine.ofStep ⟨c, false⟩ next).Reach KeepsNoPhysicalId s →
          InventsNoPhysicalId s.cell ∧
            ∀ e, InventsNoPhysicalId (next e s).cell ↔
              KeepsNoPhysicalId e s) := by
  have hstart := inventsNoPhysicalId_construct_iff h
  refine ⟨hstart, ?_⟩
  intro hstarts s hreach
  exact hreach.ofStep_keeps_itself (fun s => InventsNoPhysicalId s.cell)
    (hstart.mpr hstarts) (fun e _ hnone => inventsNoPhysicalId_next_iff hnone e)

/-- An LTE connection. -/
def registeredLte : RegistrationQuery where
  status := "registered"
  technology := "lte"
  locationAreaCode := 4711
  mobileCountryCode := 262
  mobileNetworkCode := 2
  cellId := 81548
  strength := 60

/-- The cell of `registeredLte`. -/
def lteCell : CachedRadioCell where
  needed := true
  alsoGsmCells := false
  radioType := .lte
  detail :=
    { mobileCountryCode := 262
      mobileNetworkCode := 2
      areaCode := 4711
      id := 81548
      fifth := -1
      sixth := 18 }

/-- An LTE cell whose strength and id change, and that falls back to UMTS. -/
theorem no_physical_id_invented_fallback :
    ∃ s : CellRun, s.cell.radioType = .umts ∧ s.cell.detail.fifth = 12 ∧
      InventsNoPhysicalId s.cell ∧
        ∀ e, InventsNoPhysicalId (next e s).cell ↔ KeepsNoPhysicalId e s := by
  have hcell : registeredLte.construct true false ⟨0, 0, 0, 0, 0, 0⟩ =
      some lteCell := by decide +kernel
  have hrun : ∃ s : CellRun,
      (Machine.ofStep ⟨lteCell, false⟩ next).Reach KeepsNoPhysicalId s ∧
        s.cell.radioType = .umts ∧ s.cell.detail.fifth = 12 :=
    Machine.Reach.ofStep_exists_of_replay
      [.changed (.strength 55), .changed (.cellId 81550),
        .changed (.technology "umts"), .changed (.strength 40)]
      (by decide +kernel)
  obtain ⟨s, hreach, htype, hstrength⟩ := hrun
  have hspec := (no_physical_id_invented hcell).2 (by decide +kernel) s hreach
  exact ⟨s, htype, hstrength, hspec.1, hspec.2⟩

/-- The strength of a UMTS cell becomes the physical id of the LTE cell that
it turns into, and is submitted. -/
theorem strength_submitted_as_physical_id :
    registeredUmts.construct true false ⟨0, 0, 0, 0, 0, 0⟩ = some umtsCell ∧
      ∃ s : CellRun,
        (Machine.ofStep ⟨umtsCell, false⟩ next).Reach (fun _ _ => True) s ∧
          s.cell.radioType = .lte ∧
            physicalIdBounds.isValid s.cell.detail.physicalId = true ∧
              Json.Members.member "psc" (IchnaeaReporter.cellToJson s.cell) =
                some (.scalar (.int32 18)) := by
  have hcell : registeredUmts.construct true false ⟨0, 0, 0, 0, 0, 0⟩ =
      some umtsCell := by decide +kernel
  have hrun : ∃ s : CellRun,
      (Machine.ofStep ⟨umtsCell, false⟩ next).Reach (fun _ _ => True) s ∧
        s.cell.radioType = .lte ∧ s.cell.detail.physicalId = 18 :=
    Machine.Reach.ofStep_exists_of_replay
      [.changed (.technology "lte")] (by decide +kernel)
  obtain ⟨s, hreach, htype, hid⟩ := hrun
  refine ⟨hcell, s, hreach, htype, by rw [hid]; decide, ?_⟩
  rw [IchnaeaReporter.member_psc_cellToJson, if_pos htype, hid]
  rfl

/-! ## Registered cells -/

/-- The technology is known, and what a cell other than LTE has for a strength
is a valid physical id. -/
def StrengthLooksLikeId (s : CellRun) : Prop :=
  s.cell.radioType ≠ .unknown ∧
    (s.cell.radioType ≠ .lte →
      physicalIdBounds.isValid s.cell.detail.physicalId = true)

theorem isValid_physicalId_of_strength {value : Int}
    (h : strengthBounds.isValid value = true) :
    physicalIdBounds.isValid value = true := by
  simp only [Bounds.isValid, decide_eq_true_eq] at h ⊢
  have hlow : 0 ≤ value := h.1
  have hhigh : value ≤ 31 := h.2
  exact ⟨hlow, Int.le_trans hhigh (by decide)⟩

/-- A change of technology other than to LTE resets the strength, to a value
that is a valid physical id as well. -/
theorem migrate_fifth {source target : RadioType} (d : Detail)
    (hsource : source ≠ .unknown) (hunknown : target ≠ .unknown)
    (hlte : target ≠ .lte) : (d.migrate source target).fifth = 99 := by
  cases source with
  | unknown => exact absurd rfl hsource
  | _ =>
      cases target with
      | unknown => exact absurd rfl hunknown
      | gsm => rfl
      | umts => rfl
      | lte => exact absurd rfl hlte

theorem strengthLooksLikeId_next {s : CellRun} (h : StrengthLooksLikeId s)
    (e : RegistrationEvent) : StrengthLooksLikeId (next e s) := by
  by_cases htechnology : ∃ value, e = .changed (.technology value)
  · obtain ⟨value, rfl⟩ := htechnology
    have hchange : s.cell.applyChange (.technology value) =
        s.cell.setTechnology value := rfl
    cases hset : s.cell.setTechnology value with
    | none =>
        rw [next_changed_of_none (hchange.trans hset)]
        exact h
    | some result =>
        obtain ⟨c, did⟩ := result
        have hcell := next_changed_cell (hchange.trans hset)
        obtain ⟨-, -, hunknown, -, -, -, -, hdetail⟩ := setTechnology_keeps hset
        unfold StrengthLooksLikeId
        rw [hcell.1, hcell.2, hdetail, Detail.physicalId]
        refine ⟨hunknown, ?_⟩
        intro hlte
        rw [migrate_fifth _ h.1 hunknown hlte]
        decide
  · have hnext := next_of_not_technology s (fun value heq =>
      htechnology ⟨value, heq⟩)
    unfold StrengthLooksLikeId
    rw [hnext.1, Detail.physicalId]
    refine ⟨h.1, ?_⟩
    intro hlte
    rcases hnext.2 with hfifth | ⟨-, hstrength⟩
    · rw [hfifth]
      exact h.2 hlte
    · exact isValid_physicalId_of_strength (hstrength h.1)

/-- Once its details were queried, a cell invents a physical id whenever it
becomes an LTE cell. -/
theorem registered_cell_invents_physical_id {needed alsoGsmCells : Bool}
    {memory : Detail} {q : RegistrationQuery} {c : CachedRadioCell}
    (h : q.construct needed alsoGsmCells memory = some c)
    (hstatus : q.isRegisteredOrRoaming = true) (hknown : q.radioType ≠ .unknown)
    {s : CellRun}
    (hreach : (Machine.ofStep ⟨c, false⟩ next).Reach (fun _ _ => True) s)
    (e : RegistrationEvent) :
    KeepsNoPhysicalId e s ↔
      (e.technology = some .lte → s.cell.radioType = .lte) := by
  have hstart : StrengthLooksLikeId ⟨c, false⟩ := by
    obtain ⟨htype, hdetail⟩ := construct_fifth h
    rw [if_pos ⟨hstatus, hknown⟩] at hdetail
    unfold StrengthLooksLikeId
    rw [htype]
    refine ⟨hknown, ?_⟩
    intro hlte
    rw [if_neg hlte] at hdetail
    exact isValid_physicalId_of_strength hdetail
  have hinv : StrengthLooksLikeId s := hreach.ofStep_invariant _ hstart
    (fun e _ hs _ => strengthLooksLikeId_next hs e)
  constructor
  · intro hkeeps hlte
    by_contra hne
    have hinvalid := hkeeps hlte hne
    rw [hinv.2 hne] at hinvalid
    cases hinvalid
  · intro honly hlte hne
    exact absurd (honly hlte) hne

end CellRun

end LocationService
