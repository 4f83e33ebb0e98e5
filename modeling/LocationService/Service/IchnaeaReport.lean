import LocationService.Connectivity.CachedWirelessNetwork
import LocationService.Connectivity.PhysicalCellId
import LocationService.Library.Json

/-!
# The documents of the ichnaea reporter

`ichnaea::Reporter` submits a position with the wireless networks and the radio
cells around as a JSON document.  Networks with a name that contains `_nomap`
are left out.

`readSubmission` is a reader of such documents, as there is one at the other end.
It goes by the document alone, and not by `json::Object`, whose `get` takes over
a value that it only borrowed.  `readSubmission_document` says that the reader
finds all that was put, and `document_eq_iff` what can be told from a document:
of the networks only the addresses and valid frequencies of those that may be
mapped, in their order, and whether there were any at all.
-/

namespace LocationService

open Library

namespace IchnaeaReporter

/-! ## Writing -/

/-- The network is not marked with `_nomap`. -/
def isMappable (w : CachedWirelessNetwork) : Bool :=
  (Text.find "_nomap".toList w.ssid).isNone

/-- The valid frequency of a network. -/
def validFrequency (w : CachedWirelessNetwork) : Option Int :=
  if frequencyBounds.isValid w.frequency then some w.frequency else none

/-- The object of one network in `convert_wifis_to_json`. -/
def wifiToJson (w : CachedWirelessNetwork) : Json Scalar :=
  let o : Json.Members Scalar := []
  let o := Json.Members.put "key" (.scalar (.string w.bssid)) o
  .object (Json.Members.putIf "frequency"
    ((validFrequency w).map fun f => .scalar (.int32 f)) o)

/-- `Reporter::convert_wifis_to_json` -/
def convertWifisToJson (wifis : List CachedWirelessNetwork)
    (destination : List (Json Scalar)) : List (Json Scalar) :=
  wifis.foldl
    (fun destination w =>
      if ¬ isMappable w then destination else destination ++ [wifiToJson w])
    destination

/-- The item of `Reporter::report`. -/
def item (update : Update Position) (wifis : List CachedWirelessNetwork)
    (cells : List CachedRadioCell) : Json.Members Scalar :=
  let double (x : Float) : Json Scalar := .scalar (.double x)
  let p := update.value
  let o : Json.Members Scalar := []
  let o := Json.Members.put "radio" (.scalar (.string "gsm".toList)) o
  let o := Json.Members.put "lat" (double p.latitude.value.value) o
  let o := Json.Members.put "lon" (double p.longitude.value.value) o
  let o := Json.Members.putIf "accuracy"
    (p.accuracy.horizontal.map fun x => double x.value) o
  let o := Json.Members.putIf "altitude"
    (p.altitude.map fun x => double x.value.value) o
  let o := Json.Members.putIf "altitude_accuracy"
    (p.accuracy.vertical.map fun x => double x.value) o
  let o := Json.Members.putIf "wifi"
    (if wifis.isEmpty then none
      else some (.array (convertWifisToJson wifis []))) o
  Json.Members.putIf "cell"
    (if cells.isEmpty then none
      else some (.array (convertCellsToJson cells []))) o

/-- What `Reporter::report` submits. -/
def document (update : Update Position) (wifis : List CachedWirelessNetwork)
    (cells : List CachedRadioCell) : Json Scalar :=
  .object (Json.Members.put "items"
    (.array [.object (item update wifis cells)]) [])

/-! ## Reading -/

def asText : Json Scalar → Except Json.Error Text
  | .scalar (.string value) => .ok value
  | _ => .error .typeMismatch

def asInt32 : Json Scalar → Except Json.Error Int
  | .scalar (.int32 value) => .ok value
  | _ => .error .typeMismatch

def asDouble : Json Scalar → Except Json.Error Float
  | .scalar (.double value) => .ok value
  | _ => .error .typeMismatch

/-- What is submitted about a network. -/
structure SubmittedWifi where
  key : Text
  frequency : Option Int
  deriving DecidableEq

/-- What is submitted about a cell. -/
structure SubmittedCell where
  radio : Option Text
  mcc : Option Int
  mnc : Option Int
  lac : Option Int
  cid : Option Int
  psc : Option Int
  asu : Option Int
  deriving DecidableEq

/-- What is submitted about a position. -/
structure SubmittedPosition where
  lat : Float
  lon : Float
  accuracy : Option Float
  altitude : Option Float
  altitudeAccuracy : Option Float

/-- One item of a document. -/
structure SubmittedItem where
  radio : Text
  position : SubmittedPosition
  wifi : Option (List SubmittedWifi)
  cell : Option (List SubmittedCell)

def readWifi (j : Json Scalar) : Except Json.Error SubmittedWifi := do
  let key ← j.required "key" >>= asText
  let frequency ← j.optional "frequency" asInt32
  return ⟨key, frequency⟩

def readCell (j : Json Scalar) : Except Json.Error SubmittedCell := do
  let radio ← j.optional "radio" asText
  let mcc ← j.optional "mcc" asInt32
  let mnc ← j.optional "mnc" asInt32
  let lac ← j.optional "lac" asInt32
  let cid ← j.optional "cid" asInt32
  let psc ← j.optional "psc" asInt32
  let asu ← j.optional "asu" asInt32
  return ⟨radio, mcc, mnc, lac, cid, psc, asu⟩

def readPosition (j : Json Scalar) : Except Json.Error SubmittedPosition := do
  let lat ← j.required "lat" >>= asDouble
  let lon ← j.required "lon" >>= asDouble
  let accuracy ← j.optional "accuracy" asDouble
  let altitude ← j.optional "altitude" asDouble
  let altitudeAccuracy ← j.optional "altitude_accuracy" asDouble
  return ⟨lat, lon, accuracy, altitude, altitudeAccuracy⟩

/-- What an array is read as. -/
def readArray {β : Type} (read : Json Scalar → Except Json.Error β)
    (j : Json Scalar) : Except Json.Error (List β) :=
  j.asArray >>= Json.readAll read

def readItem (j : Json Scalar) : Except Json.Error SubmittedItem := do
  let radio ← j.required "radio" >>= asText
  let position ← readPosition j
  let wifi ← j.optional "wifi" (readArray readWifi)
  let cell ← j.optional "cell" (readArray readCell)
  return ⟨radio, position, wifi, cell⟩

/-- What a document says. -/
def readSubmission (j : Json Scalar) :
    Except Json.Error (List SubmittedItem) :=
  j.required "items" >>= readArray readItem

/-! ## What a document says -/

def SubmittedWifi.of (w : CachedWirelessNetwork) : SubmittedWifi :=
  ⟨w.bssid, validFrequency w⟩

def SubmittedCell.of (c : CachedRadioCell) : SubmittedCell :=
  let d := c.detail
  let mcc := validValue mccBounds d.mobileCountryCode
  let mnc := validValue mncBounds d.mobileNetworkCode
  let lac := validValue areaCodeBounds d.areaCode
  let cid := validValue (idBounds c.radioType) d.id
  match c.radioType with
  | .unknown => ⟨none, none, none, none, none, none, none⟩
  | .gsm =>
      ⟨some "gsm".toList, mcc, mnc, lac, cid, none,
        validValue strengthBounds d.fifth⟩
  | .umts =>
      ⟨some "umts".toList, mcc, mnc, lac, cid, none,
        validValue strengthBounds d.fifth⟩
  | .lte =>
      ⟨some "lte".toList, mcc, mnc, lac, cid,
        validValue physicalIdBounds d.physicalId,
        validValue strengthBounds d.sixth⟩

def SubmittedPosition.of (p : Position) : SubmittedPosition :=
  ⟨p.latitude.value.value, p.longitude.value.value,
    p.accuracy.horizontal.map (·.value), p.altitude.map (·.value.value),
    p.accuracy.vertical.map (·.value)⟩

/-- The networks that may be mapped, if any network is visible. -/
def submittedWifis (wifis : List CachedWirelessNetwork) :
    Option (List SubmittedWifi) :=
  if wifis.isEmpty then none
  else some ((wifis.filter isMappable).map .of)

def submittedCells (cells : List CachedRadioCell) :
    Option (List SubmittedCell) :=
  if cells.isEmpty then none else some (cells.map .of)

/-! ## Networks and cells are read back -/

theorem convertWifisToJson_eq (wifis : List CachedWirelessNetwork)
    (destination : List (Json Scalar)) :
    convertWifisToJson wifis destination =
      destination ++ (wifis.filter isMappable).map wifiToJson := by
  unfold convertWifisToJson
  induction wifis generalizing destination with
  | nil => simp
  | cons w rest ih =>
      rw [List.foldl_cons, ih]
      by_cases hw : isMappable w = true
      · simp [hw]
      · simp [hw]

theorem readWifi_wifiToJson (w : CachedWirelessNetwork) :
    readWifi (wifiToJson w) = .ok (.of w) := by
  unfold wifiToJson SubmittedWifi.of
  cases validFrequency w <;> rfl

/-- Reading a number that may be there. -/
theorem readIf_int32 (value : Option Int) :
    Json.readIf asInt32 (value.map fun v => .scalar (.int32 v)) =
      .ok value := by
  have hread := Json.readIf_map
    (fun v => rfl : ∀ v : Int, asInt32 (.scalar (.int32 v)) = .ok v) value
  simpa using hread

theorem readCell_cellToJson (c : CachedRadioCell) :
    readCell (.object (cellToJson c)) = .ok (.of c) := by
  unfold readCell SubmittedCell.of cellToJson
  cases c.radioType with
  | unknown => rfl
  | gsm =>
      simp [readIf_int32]
      rfl
  | umts =>
      simp [readIf_int32]
      rfl
  | lte =>
      simp [readIf_int32]
      rfl

/-! ## The document is read back -/

/-- Reading a double that may be there. -/
theorem readIf_double {γ : Type} (meaning : γ → Float) (value : Option γ) :
    Json.readIf asDouble
        (value.map fun x => .scalar (.double (meaning x))) =
      .ok (value.map meaning) := by
  have hread : ∀ x, asDouble (.scalar (.double (meaning x))) =
      .ok (meaning x) := fun _ => rfl
  exact Json.readIf_map hread value

section Document

variable (update : Update Position) (wifis : List CachedWirelessNetwork)
  (cells : List CachedRadioCell)

theorem readPosition_item :
    readPosition (.object (item update wifis cells)) =
      .ok (.of update.value) := by
  have hlat := Json.required_object (by simp [item] :
    Json.Members.member "lat" (item update wifis cells) =
      some (.scalar (.double update.value.latitude.value.value)))
  have hlon := Json.required_object (by simp [item] :
    Json.Members.member "lon" (item update wifis cells) =
      some (.scalar (.double update.value.longitude.value.value)))
  have haccuracy : (Json.object (item update wifis cells)).optional "accuracy"
      asDouble = .ok (update.value.accuracy.horizontal.map (·.value)) := by
    simp [item, readIf_double]
  have haltitude : (Json.object (item update wifis cells)).optional "altitude"
      asDouble = .ok (update.value.altitude.map (·.value.value)) := by
    simp [item, readIf_double]
  have hvertical : (Json.object (item update wifis cells)).optional
      "altitude_accuracy" asDouble =
        .ok (update.value.accuracy.vertical.map (·.value)) := by
    simp [item, readIf_double]
  unfold readPosition
  rw [hlat, hlon, haccuracy, haltitude, hvertical]
  rfl

theorem optional_wifi :
    (Json.object (item update wifis cells)).optional "wifi" (readArray readWifi) =
      .ok (submittedWifis wifis) := by
  have hread : readArray readWifi (.array (convertWifisToJson wifis [])) =
      .ok ((wifis.filter isMappable).map .of) := by
    rw [convertWifisToJson_eq]
    exact Json.readAll_map readWifi_wifiToJson _
  unfold submittedWifis
  cases hempty : wifis.isEmpty with
  | true => simp [item, hempty, Json.readIf]
  | false => simp [item, hempty, Json.readIf, hread, Except.map]

theorem optional_cell :
    (Json.object (item update wifis cells)).optional "cell" (readArray readCell) =
      .ok (submittedCells cells) := by
  have hread : readArray readCell (.array (convertCellsToJson cells [])) =
      .ok (cells.map .of) := by
    rw [convertCellsToJson_eq]
    exact Json.readAll_map readCell_cellToJson _
  unfold submittedCells
  cases hempty : cells.isEmpty with
  | true => simp [item, hempty, Json.readIf]
  | false => simp [item, hempty, Json.readIf, hread, Except.map]

theorem readItem_item :
    readItem (.object (item update wifis cells)) =
      .ok ⟨"gsm".toList, .of update.value, submittedWifis wifis,
        submittedCells cells⟩ := by
  have hradio := Json.required_object (by simp [item] :
    Json.Members.member "radio" (item update wifis cells) =
      some (.scalar (.string "gsm".toList)))
  unfold readItem
  rw [hradio, readPosition_item, optional_wifi, optional_cell]
  rfl

/-- A document with one item is read as what its item is read as. -/
theorem readSubmission_of_readItem {o : Json.Members Scalar}
    {i : SubmittedItem} (h : readItem (.object o) = .ok i) :
    readSubmission
        (.object (Json.Members.put "items" (.array [.object o]) [])) =
      .ok [i] := by
  have hitems := Json.required_object (by simp :
    Json.Members.member "items"
      (Json.Members.put "items" (.array [.object o]) []) =
        some (.array [.object o]))
  unfold readSubmission
  rw [hitems]
  show Json.readAll readItem [.object o] = _
  rw [Json.readAll, h]
  rfl

/-- A document is read back, whatever the position, the networks and the cells:
it has one item, with the position, each valid number, and each network that
may be mapped. -/
theorem readSubmission_document :
    readSubmission (document update wifis cells) =
      .ok [⟨"gsm".toList, .of update.value, submittedWifis wifis,
        submittedCells cells⟩] := by
  have hitem := readItem_item update wifis cells
  exact readSubmission_of_readItem hitem

end Document

/-! ## What can be told from a document -/

/-- Puts a number that may be there. -/
def putNumber (name : String) (value : Option Int)
    (o : Json.Members Scalar) : Json.Members Scalar :=
  Json.Members.putIf name (value.map fun v => .scalar (.int32 v)) o

def SubmittedCell.write (s : SubmittedCell) : Json Scalar :=
  let o := Json.Members.putIf "radio"
    (s.radio.map fun r => .scalar (.string r)) []
  let o := putNumber "mcc" s.mcc o
  let o := putNumber "mnc" s.mnc o
  let o := putNumber "lac" s.lac o
  let o := putNumber "cid" s.cid o
  let o := putNumber "psc" s.psc o
  .object (putNumber "asu" s.asu o)

/-- The object of a cell has what is submitted about it, and nothing else. -/
theorem cellToJson_eq (c : CachedRadioCell) :
    .object (cellToJson c) = (SubmittedCell.of c).write := by
  unfold cellToJson SubmittedCell.of
  cases c.radioType <;> rfl

def SubmittedWifi.write (s : SubmittedWifi) : Json Scalar :=
  .object (Json.Members.putIf "frequency"
    (s.frequency.map fun f => .scalar (.int32 f))
    [("key", .scalar (.string s.key))])

/-- The object of a network has what is submitted about it, and nothing
else. -/
theorem wifiToJson_eq (w : CachedWirelessNetwork) :
    wifiToJson w = (SubmittedWifi.of w).write :=
  rfl

/-- The item in terms of what is submitted about the position. -/
theorem item_eq (update : Update Position) (wifis : List CachedWirelessNetwork)
    (cells : List CachedRadioCell) :
    item update wifis cells =
      let double (x : Float) : Json Scalar := .scalar (.double x)
      let s := SubmittedPosition.of update.value
      Json.Members.putIf "cell"
        (if cells.isEmpty then none
          else some (.array (cells.map fun c => .object (cellToJson c))))
        (Json.Members.putIf "wifi"
          (if wifis.isEmpty then none
            else some (.array ((wifis.filter isMappable).map wifiToJson)))
          (Json.Members.putIf "altitude_accuracy"
            (s.altitudeAccuracy.map double)
            (Json.Members.putIf "altitude" (s.altitude.map double)
              (Json.Members.putIf "accuracy" (s.accuracy.map double)
                [("radio", .scalar (.string "gsm".toList)),
                  ("lat", double s.lat), ("lon", double s.lon)])))) := by
  unfold item
  rw [convertWifisToJson_eq, convertCellsToJson_eq]
  simp [SubmittedPosition.of, Function.comp_def, Json.Members.put]

/-- What a document says is all that can be told from it. -/
theorem item_eq_of {update update' : Update Position}
    {wifis wifis' : List CachedWirelessNetwork}
    {cells cells' : List CachedRadioCell}
    (hposition : SubmittedPosition.of update.value =
      SubmittedPosition.of update'.value)
    (hwifi : submittedWifis wifis = submittedWifis wifis')
    (hcell : submittedCells cells = submittedCells cells') :
    item update wifis cells = item update' wifis' cells' := by
  have hwriteWifi : wifiToJson = SubmittedWifi.write ∘ SubmittedWifi.of :=
    funext wifiToJson_eq
  have hwriteCell : (fun c => Json.object (cellToJson c)) =
      SubmittedCell.write ∘ SubmittedCell.of :=
    funext cellToJson_eq
  have hwifis : (if wifis.isEmpty then none
        else some (Json.array ((wifis.filter isMappable).map wifiToJson))) =
      if wifis'.isEmpty then none
        else some (Json.array ((wifis'.filter isMappable).map wifiToJson)) := by
    unfold submittedWifis at hwifi
    cases hempty : wifis.isEmpty <;> cases hempty' : wifis'.isEmpty <;>
      simp only [hempty, hempty', Bool.false_eq_true, if_true, if_false,
        Option.some.injEq, reduceCtorEq] at hwifi ⊢
    rw [hwriteWifi, ← List.map_map, ← List.map_map, hwifi]
  have hcells : (if cells.isEmpty then none
        else some (Json.array (cells.map fun c => .object (cellToJson c)))) =
      if cells'.isEmpty then none
        else some (Json.array (cells'.map fun c => .object (cellToJson c))) := by
    unfold submittedCells at hcell
    cases hempty : cells.isEmpty <;> cases hempty' : cells'.isEmpty <;>
      simp only [hempty, hempty', Bool.false_eq_true, if_true, if_false,
        Option.some.injEq, reduceCtorEq] at hcell ⊢
    rw [hwriteCell, ← List.map_map, ← List.map_map, hcell]
  rw [item_eq, item_eq, hposition, hwifis, hcells]

/-- Two reports give the same document exactly if they agree on the position, on
the addresses and valid frequencies of the networks that may be mapped, on the
valid numbers of the cells, and on whether there are any networks at all: a
document says nothing else about the networks that must not be mapped. -/
theorem document_eq_iff (update update' : Update Position)
    (wifis wifis' : List CachedWirelessNetwork)
    (cells cells' : List CachedRadioCell) :
    document update wifis cells = document update' wifis' cells' ↔
      SubmittedPosition.of update.value = SubmittedPosition.of update'.value ∧
        ((wifis.filter isMappable).map SubmittedWifi.of =
            (wifis'.filter isMappable).map SubmittedWifi.of ∧
          (wifis = [] ↔ wifis' = [])) ∧
        cells.map SubmittedCell.of = cells'.map SubmittedCell.of := by
  have hwifi : submittedWifis wifis = submittedWifis wifis' ↔
      (wifis.filter isMappable).map SubmittedWifi.of =
          (wifis'.filter isMappable).map SubmittedWifi.of ∧
        (wifis = [] ↔ wifis' = []) := by
    unfold submittedWifis
    cases wifis <;> cases wifis' <;> simp
  have hcell : submittedCells cells = submittedCells cells' ↔
      cells.map SubmittedCell.of = cells'.map SubmittedCell.of := by
    unfold submittedCells
    cases cells <;> cases cells' <;> simp
  rw [← hwifi, ← hcell]
  constructor
  · intro h
    have hread := readSubmission_document update wifis cells
    rw [h, readSubmission_document update' wifis' cells'] at hread
    simp only [Except.ok.injEq, List.cons.injEq, SubmittedItem.mk.injEq,
      true_and, and_true] at hread
    exact ⟨hread.1.symm, hread.2.1.symm, hread.2.2.symm⟩
  · intro ⟨hposition, hwifi, hcell⟩
    unfold document
    rw [item_eq_of hposition hwifi hcell]

end IchnaeaReporter

end LocationService
