import LocationService.Codec.Model

/-!
# Codecs round-trip

Every codec of the location service decodes what it encoded and stops right
behind it.  The laws of the composed types follow from those of their parts;
that of the map of space vehicles needs every entry to be stored under its own
key, and a map that is empty before.
-/

namespace LocationService

open Library Library.Wire SpaceVehicle

/-! ## Optional values, quantities and coordinates -/

section Optional

variable {α : Type} [Codec α] [LawfulCodec α]

theorem encodeOptional_some (value : α) (writer : Writer) :
    encodeOptional (some value) writer =
      writer ++ (encoded true ++ encoded value) := by
  show encodeArgument value (encodeArgument true writer) = _
  rw [LawfulCodec.encode, LawfulCodec.encode, List.append_assoc]

instance [Inhabited α] : LawfulCodec (Option α) where
  encode value writer := by
    cases value with
    | none => exact LawfulCodec.encode false writer
    | some value =>
        show encodeOptional (some value) writer =
          writer ++ encodeOptional (some value) []
        rw [encodeOptional_some, encodeOptional_some, List.nil_append]
  decode value old rest := by
    cases value with
    | none => rfl
    | some value =>
        show decodeOptional.run (encodeOptional (some value) [] ++ rest) = _
        unfold decodeOptional
        simp [encodeOptional_some, LawfulCodec.decode]

end Optional

instance {u : UnitOfMeasure} : LawfulCodec (Quantity u) where
  encode quantity writer := LawfulCodec.encode quantity.value writer
  decode _ _ _ := rfl

instance {tag : CoordinateTag} : LawfulCodec (Coordinate tag) where
  encode coordinate writer := LawfulCodec.encode coordinate.value writer
  decode _ _ _ := rfl

/-! ## Positions, criteria and updates -/

theorem encodePosition_eq (position : Position) (writer : Writer) :
    encodePosition position writer =
      writer ++ (encoded position.latitude ++ (encoded position.longitude ++
        (encoded position.altitude ++ (encoded position.accuracy.horizontal ++
          encoded position.accuracy.vertical)))) := by
  unfold encodePosition
  simp only [LawfulCodec.encode, List.append_assoc]

instance : LawfulCodec Position where
  encode position writer := by
    show encodePosition position writer = writer ++ encodePosition position []
    rw [encodePosition_eq, encodePosition_eq, List.nil_append]
  decode position old rest := by
    show (decodePosition old).run (encodePosition position [] ++ rest) = _
    unfold decodePosition
    simp [encodePosition_eq, LawfulCodec.decode]

theorem encodeCriteria_eq (criteria : Criteria) (writer : Writer) :
    encodeCriteria criteria writer =
      writer ++ (encoded criteria.requires.position ++
        (encoded criteria.requires.altitude ++
          (encoded criteria.requires.heading ++
            (encoded criteria.requires.velocity ++
              (encoded criteria.accuracy.horizontal ++
                (encoded criteria.accuracy.vertical ++
                  (encoded criteria.accuracy.velocity ++
                    encoded criteria.accuracy.heading))))))) := by
  unfold encodeCriteria
  simp only [LawfulCodec.encode, List.append_assoc]

instance : LawfulCodec Criteria where
  encode criteria writer := by
    show encodeCriteria criteria writer = writer ++ encodeCriteria criteria []
    rw [encodeCriteria_eq, encodeCriteria_eq, List.nil_append]
  decode criteria old rest := by
    show (decodeCriteria old).run (encodeCriteria criteria [] ++ rest) = _
    unfold decodeCriteria
    simp [encodeCriteria_eq, LawfulCodec.decode]

section Update

variable {α : Type} [Codec α] [LawfulCodec α]

theorem encodeUpdate_eq (update : Update α) (writer : Writer) :
    encodeUpdate update writer =
      writer ++ (encoded update.value ++ encoded update.when) := by
  unfold encodeUpdate
  rw [LawfulCodec.encode, LawfulCodec.encode, List.append_assoc]

instance : LawfulCodec (Update α) where
  encode update writer := by
    show encodeUpdate update writer = writer ++ encodeUpdate update []
    rw [encodeUpdate_eq, encodeUpdate_eq, List.nil_append]
  decode update old rest := by
    have htimestamp : popInt64.run (encoded update.when ++ rest) =
        some (update.when, rest) := rfl
    show (decodeUpdate old).run (encodeUpdate update [] ++ rest) = _
    unfold decodeUpdate
    simp [encodeUpdate_eq, LawfulCodec.decode, htimestamp]

end Update

/-! ## Space vehicles -/

/-- The order of the items of a space vehicle is that of its fields. -/
theorem encodeSpaceVehicle_eq (sv : SpaceVehicle) :
    encodeSpaceVehicle sv [] =
      [.uint32 sv.key.type.underlying.toUInt32, .uint32 sv.key.id,
        .floatingPoint (FloatFormat.widen sv.snr), .boolean sv.hasAlmanacData,
        .boolean sv.hasEphimerisData, .boolean sv.usedInFix,
        .floatingPoint sv.azimuth.value, .floatingPoint sv.elevation.value] :=
  rfl

theorem decodeSpaceVehicle_encoded (sv old : SpaceVehicle) :
    (decodeSpaceVehicle old).run (encodeSpaceVehicle sv []) =
      some (sv, []) := by
  have hsnr := FloatFormat.narrow_widen sv.snr
  have htype : sv.key.type.underlying.toUInt32.toInt32 =
      sv.key.type.underlying := by simp
  rw [encodeSpaceVehicle_eq]
  show some (_, _) = _
  rw [hsnr, htype]

instance : LawfulCodec SpaceVehicle where
  encode _ _ := rfl
  decode sv old rest := by
    have hdecode := decodeSpaceVehicle_encoded sv old
    show ((decodeSpaceVehicle old).run (encodeSpaceVehicle sv [])).map
      (fun result => (result.1, rest)) = some (sv, rest)
    rw [hdecode]
    rfl

/-- A vehicle has the type that the array of a map is opened with. -/
theorem signature_spaceVehicle (sv : SpaceVehicle) :
    signatureOf (encoded sv) = spaceVehicleSignature := by
  have hitems : encoded sv = [.struct (encodeSpaceVehicle sv [])] := rfl
  rw [hitems, encodeSpaceVehicle_eq]
  simp [signatureOf, Item.signature, spaceVehicleSignature]

/-! ## Maps of space vehicles -/

/-- Every entry is stored under the key of its vehicle. -/
def StoredUnderOwnKeys (map : SpaceVehicleMap) : Prop :=
  ∀ (k : Key) (sv : SpaceVehicle), map[k]? = some sv → sv.key = k

/-- Inserting vehicles one after the other keeps the first one of each key. -/
theorem getElem?_foldl_insertVehicle (vehicles : List SpaceVehicle)
    (out : SpaceVehicleMap) (k : Key) :
    (vehicles.foldl insertVehicle out)[k]? =
      out[k]?.or (vehicles.find? fun sv => sv.key = k) := by
  induction vehicles generalizing out with
  | nil => simp
  | cons sv vehicles ih =>
      have hinsert : (insertVehicle out sv)[k]? =
          out[k]?.or (if sv.key = k then some sv else none) := by
        unfold insertVehicle
        rw [Std.ExtTreeMap.getElem?_insertIfNew]
        by_cases hkey : sv.key = k
        · by_cases hmem : k ∈ out
          · simp [hkey, hmem]
          · simp [hkey, hmem]
        · simp [hkey]
      rw [List.foldl_cons, ih, hinsert, List.find?_cons]
      by_cases hkey : sv.key = k
      · simp [hkey]
      · simp [hkey]

/-- A map consists of its vehicles if they are stored under their own keys. -/
theorem find?_toList_of_storedUnderOwnKeys {map : SpaceVehicleMap}
    (h : StoredUnderOwnKeys map) (k : Key) :
    (map.toList.map Prod.snd).find? (fun sv => sv.key = k) = map[k]? := by
  have hmem : ∀ sv, sv ∈ map.toList.map Prod.snd ↔
      ∃ k' : Key, map[k']? = some sv := by
    intro sv
    simp
  cases hfind : (map.toList.map Prod.snd).find? (fun sv => sv.key = k) with
  | none =>
      rw [List.find?_eq_none] at hfind
      cases hget : map[k]? with
      | none => rfl
      | some sv =>
          have habsent := hfind sv ((hmem sv).mpr ⟨k, hget⟩)
          simp [h k sv hget] at habsent
  | some sv =>
      have hkey : sv.key = k := by
        simpa using List.find?_some hfind
      obtain ⟨k', hget⟩ := (hmem sv).mp (List.mem_of_find?_eq_some hfind)
      have hk' := h k' sv hget
      rw [← hkey, hk', hget]

theorem foldl_insertVehicle_toList {map : SpaceVehicleMap}
    (h : StoredUnderOwnKeys map) :
    (map.toList.map Prod.snd).foldl insertVehicle ∅ = map := by
  apply Std.ExtTreeMap.ext_getElem?
  intro k
  rw [getElem?_foldl_insertVehicle, find?_toList_of_storedUnderOwnKeys h]
  simp

theorem encodeSpaceVehicleMap_append (map : SpaceVehicleMap)
    (writer : Writer) :
    encodeArgument map writer = writer ++ encoded map :=
  rfl

/-- A map comes back if it is decoded into an empty one. -/
theorem decodeSpaceVehicleMap_encoded {map : SpaceVehicleMap}
    (h : StoredUnderOwnKeys map) (rest : Reader) :
    (decodeArgument (∅ : SpaceVehicleMap)).run (encoded map ++ rest) =
      some (map, rest) := by
  have hread := readAll_encoded (consumes_spaceVehicle {}) insertVehicle
    (map.toList.map Prod.snd) ∅
  rw [foldl_insertVehicle_toList h] at hread
  have hitems : encoded map =
      [.array spaceVehicleSignature
        ((map.toList.map Prod.snd).flatMap encoded)] := by
    show encodeSpaceVehicleMap map [] = _
    unfold encodeSpaceVehicleMap
    rw [writeAll_eq]
    rfl
  rw [hitems]
  show (decodeSpaceVehicleMap ∅).run _ = _
  unfold decodeSpaceVehicleMap
  simp [hread]

/-- Decoding after encoding gives the value again and leaves the reader at what
follows it in the message. -/
theorem codecs_round_trip :
    LawfulCodec Criteria ∧ LawfulCodec Position ∧
      (∀ (α : Type) [Inhabited α] [Codec α] [LawfulCodec α],
        LawfulCodec (Option α)) ∧
      LawfulCodec (Update Position) ∧ LawfulCodec (Update Velocity) ∧
      LawfulCodec (Update Heading) ∧ LawfulCodec SpaceVehicle ∧
      ∀ map : SpaceVehicleMap, StoredUnderOwnKeys map →
        ∀ writer rest : List Item,
          encodeArgument map writer = writer ++ encoded map ∧
            (decodeArgument ∅).run (encoded map ++ rest) =
              some (map, rest) := by
  have hmap : ∀ map : SpaceVehicleMap, StoredUnderOwnKeys map →
      ∀ writer rest : List Item,
        encodeArgument map writer = writer ++ encoded map ∧
          (decodeArgument ∅).run (encoded map ++ rest) = some (map, rest) := by
    intro map h writer rest
    exact ⟨encodeSpaceVehicleMap_append map writer,
      decodeSpaceVehicleMap_encoded h rest⟩
  exact ⟨inferInstance, inferInstance, fun _ _ _ _ => inferInstance,
    inferInstance, inferInstance, inferInstance, inferInstance, hmap⟩

/-- A vehicle with a known signal to noise ratio. -/
def vehicleInView : SpaceVehicle where
  key := ⟨.gps, 7⟩
  snr := 40
  usedInFix := true
  azimuth := ⟨112⟩

/-- A map with one vehicle, in front of a timestamp. -/
theorem codecs_round_trip_one_vehicle :
    (decodeArgument (∅ : SpaceVehicleMap)).run
      (encoded ((∅ : SpaceVehicleMap).insert ⟨.gps, 7⟩ vehicleInView) ++
        [.int64 1000]) =
      some ((∅ : SpaceVehicleMap).insert ⟨.gps, 7⟩ vehicleInView,
        [.int64 1000]) := by
  have hkeys : StoredUnderOwnKeys
      ((∅ : SpaceVehicleMap).insert ⟨.gps, 7⟩ vehicleInView) := by
    intro k sv hget
    rw [Std.ExtTreeMap.getElem?_insert] at hget
    split at hget
    · rename_i hkey
      rw [← Option.some.inj hget]
      exact Std.LawfulEqOrd.eq_of_compare hkey
    · simp at hget
  have hall := codecs_round_trip.2.2.2.2.2.2.2 _ hkeys [] [.int64 1000]
  exact hall.2

end LocationService
