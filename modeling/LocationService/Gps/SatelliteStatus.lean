import LocationService.Library.FloatFormat
import LocationService.Library.OrderedSet
import LocationService.Values.SpaceVehicle

/-!
# Satellite status reports of the driver

`on_sv_status_update` turns the list of satellites that the driver reports into
a set of space vehicles.  The flags of a satellite are the bits of three masks,
which a shift by its number selects; a shift by 32 or more is undefined in the
source, and so is the result here.  The set keeps the first of several entries
with one number.
-/

namespace LocationService

open Library SpaceVehicle

/-! ## Sets of space vehicles -/

namespace SpaceVehicleSet

def empty : SpaceVehicleSet := ⟨[], List.Pairwise.nil⟩

/-- `std::set::insert` -/
def insert (svs : SpaceVehicleSet) (sv : SpaceVehicle) : SpaceVehicleSet where
  vehicles := OrderedSet.insert (OrderedSet.keyLess SpaceVehicle.key) sv
    svs.vehicles
  ordered :=
    have hordered : OrderedSet.Ascending SpaceVehicle.key svs.vehicles :=
      svs.ordered
    hordered.insert sv

theorem find?_insert (svs : SpaceVehicleSet) (sv : SpaceVehicle) (k : Key) :
    (svs.insert sv).find? k =
      (svs.find? k).or (if sv.key = k then some sv else none) :=
  have hordered : OrderedSet.Ascending SpaceVehicle.key svs.vehicles :=
    svs.ordered
  hordered.find?_insert sv k

end SpaceVehicleSet

/-! ## The report -/

/-- `UHardwareGpsSvInfo` -/
structure UHardwareGpsSvInfo where
  prn : Int32
  snr : Float32
  elevation : Float32
  azimuth : Float32

/-- `UHardwareGpsSvStatus`, with the entries of `sv_list` that are in use. -/
structure UHardwareGpsSvStatus where
  svList : List UHardwareGpsSvInfo
  almanacMask : UInt32
  ephemerisMask : UInt32
  usedInFixMask : UInt32

namespace UHardwareGpsSvStatus

/-- A number of type `int`, where the source computes it without an
overflow. -/
def fitsInt (n : Int) : Option Int :=
  if -2147483648 ≤ n ∧ n ≤ 2147483647 then some n else none

/-- `1 << prn`, in the type of the masks, where it is defined. -/
def shiftedOne (prn : Int) : Option UInt32 :=
  if 0 ≤ prn ∧ prn < 32 then some (1 <<< UInt32.ofNat prn.toNat) else none

/-- The body of the loop over the satellites. -/
def visit (svInfo : UHardwareGpsSvStatus) (svs : SpaceVehicleSet)
    (entry : UHardwareGpsSvInfo) : Option SpaceVehicleSet := do
  let prn ← fitsInt (entry.prn.toInt - 1)
  if prn < 0 then
    return svs
  let shift ← shiftedOne prn
  return svs.insert
    { key := { type := .gps, id := entry.prn.toUInt32 }
      snr := entry.snr
      hasAlmanacData := svInfo.almanacMask &&& shift != 0
      hasEphimerisData := svInfo.ephemerisMask &&& shift != 0
      usedInFix := svInfo.usedInFixMask &&& shift != 0
      -- the two angles change places
      azimuth := ⟨FloatFormat.widen entry.elevation⟩
      elevation := ⟨FloatFormat.widen entry.azimuth⟩ }

/-- The set that `on_sv_status_update` emits. -/
def onSvStatusUpdate (svInfo : UHardwareGpsSvStatus) : Option SpaceVehicleSet :=
  svInfo.svList.foldlM svInfo.visit .empty

/-! ## What the report means -/

/-- The bit of a mask that belongs to a satellite; there is none from 33 on. -/
def flag (mask : UInt32) (prn : Int32) : Bool :=
  prn.toInt ≤ 32 && mask.toNat.testBit (prn.toInt - 1).toNat

/-- The vehicle that an entry describes. -/
def meant (svInfo : UHardwareGpsSvStatus) (entry : UHardwareGpsSvInfo) :
    SpaceVehicle where
  key := { type := .gps, id := entry.prn.toUInt32 }
  snr := entry.snr
  hasAlmanacData := flag svInfo.almanacMask entry.prn
  hasEphimerisData := flag svInfo.ephemerisMask entry.prn
  usedInFix := flag svInfo.usedInFixMask entry.prn
  azimuth := ⟨FloatFormat.widen entry.azimuth⟩
  elevation := ⟨FloatFormat.widen entry.elevation⟩

/-- The vehicle under a key: that of the first entry with a number of its own,
that is from 1 on. -/
def meantUnder (svInfo : UHardwareGpsSvStatus) (k : Key) :
    Option SpaceVehicle :=
  ((svInfo.svList.filter fun entry => 1 ≤ entry.prn.toInt).map
    svInfo.meant).find? fun sv => sv.key = k

/-- The report is translated faithfully: the loop is defined, and emits the
vehicles that are meant and no others. -/
def Translated (svInfo : UHardwareGpsSvStatus) : Prop :=
  ∃ svs, svInfo.onSvStatusUpdate = some svs ∧
    ∀ k, svs.find? k = svInfo.meantUnder k

/-- The numbers of the satellites are below 33, and can be decremented. -/
def InRange (svInfo : UHardwareGpsSvStatus) : Prop :=
  ∀ entry ∈ svInfo.svList,
    -2147483648 < entry.prn.toInt ∧ entry.prn.toInt ≤ 32

/-- The first entry of each satellite has the same elevation and azimuth. -/
def OnDiagonal (svInfo : UHardwareGpsSvStatus) : Prop :=
  ∀ entry ∈ svInfo.svList, 1 ≤ entry.prn.toInt →
    (svInfo.svList.find? fun other => other.prn = entry.prn) = some entry →
      entry.elevation = entry.azimuth

/-! ## The masks -/

/-- The shifted one selects the bit of its number. -/
theorem and_shiftedOne (mask : UInt32) {i : Nat} (h : i < 32) :
    (mask &&& (1 <<< UInt32.ofNat i) != 0) = mask.toNat.testBit i := by
  have hpow : 2 ^ i < 2 ^ 32 := Nat.pow_lt_pow_right (by decide) h
  have hamount : i % 2 ^ 32 % 32 = i := by omega
  have hshift : ((1 : UInt32) <<< UInt32.ofNat i).toNat = 2 ^ i := by
    rw [UInt32.toNat_shiftLeft, UInt32.toNat_ofNat', hamount,
      UInt32.toNat_one, Nat.one_shiftLeft, Nat.mod_eq_of_lt hpow]
  have hand : (mask &&& (1 <<< UInt32.ofNat i)).toNat =
      (mask.toNat.testBit i).toNat * 2 ^ i := by
    rw [UInt32.toNat_and, hshift, Nat.and_two_pow]
  have hzero : mask &&& (1 <<< UInt32.ofNat i) = 0 ↔
      mask.toNat.testBit i = false := by
    rw [← UInt32.toNat_inj, hand]
    cases mask.toNat.testBit i <;> simp
  cases hbit : mask.toNat.testBit i
  · simpa using hzero.mpr hbit
  · have hne : ¬ mask &&& (1 <<< UInt32.ofNat i) = 0 := by
      rw [hzero, hbit]
      decide
    simpa using hne

/-! ## The loop -/

/-- The vehicle that the loop inserts for an entry. -/
def emitted (svInfo : UHardwareGpsSvStatus) (entry : UHardwareGpsSvInfo) :
    SpaceVehicle :=
  { svInfo.meant entry with
    azimuth := ⟨FloatFormat.widen entry.elevation⟩
    elevation := ⟨FloatFormat.widen entry.azimuth⟩ }

theorem visit_of_not_inRange (svInfo : UHardwareGpsSvStatus)
    (svs : SpaceVehicleSet) {entry : UHardwareGpsSvInfo}
    (h : ¬ (-2147483648 < entry.prn.toInt ∧ entry.prn.toInt ≤ 32)) :
    svInfo.visit svs entry = none := by
  have hbound := Int32.toInt_lt entry.prn
  unfold visit
  by_cases hmin : -2147483648 < entry.prn.toInt
  · have hfits : fitsInt (entry.prn.toInt - 1) = some (entry.prn.toInt - 1) :=
      if_pos (by omega)
    have hshift : shiftedOne (entry.prn.toInt - 1) = none := if_neg (by omega)
    have hpos : ¬ entry.prn.toInt - 1 < 0 := by omega
    simp [hfits, hshift, hpos]
  · have hfits : fitsInt (entry.prn.toInt - 1) = none := if_neg (by omega)
    simp [hfits]

/-- Entries without a number of their own are skipped, and the others are
inserted. -/
theorem visit_of_inRange (svInfo : UHardwareGpsSvStatus)
    (svs : SpaceVehicleSet) {entry : UHardwareGpsSvInfo}
    (h : -2147483648 < entry.prn.toInt ∧ entry.prn.toInt ≤ 32) :
    svInfo.visit svs entry =
      some (if 1 ≤ entry.prn.toInt then svs.insert (svInfo.emitted entry)
        else svs) := by
  have hfits : fitsInt (entry.prn.toInt - 1) = some (entry.prn.toInt - 1) :=
    if_pos (by omega)
  unfold visit
  simp only [hfits, Option.bind_eq_bind, Option.bind_some]
  by_cases hone : 1 ≤ entry.prn.toInt
  · have hpos : ¬ entry.prn.toInt - 1 < 0 := by omega
    have hbits : (entry.prn.toInt - 1).toNat < 32 := by omega
    have hle : entry.prn.toInt ≤ 32 := h.2
    have hshift : shiftedOne (entry.prn.toInt - 1) =
        some (1 <<< UInt32.ofNat (entry.prn.toInt - 1).toNat) :=
      if_pos (by omega)
    simp only [if_neg hpos, if_pos hone, hshift, Option.bind_some,
      and_shiftedOne _ hbits, emitted, meant, flag, hle, decide_true,
      Bool.true_and]
    rfl
  · have hneg : entry.prn.toInt - 1 < 0 := by omega
    simp only [if_pos hneg, if_neg hone]
    rfl

/-- The vehicles that the loop inserts, in order. -/
def inserted (entries : List UHardwareGpsSvInfo)
    (f : UHardwareGpsSvInfo → SpaceVehicle) : List SpaceVehicle :=
  (entries.filter fun entry => 1 ≤ entry.prn.toInt).map f

/-- The loop keeps the first vehicle under each key. -/
theorem loop_of_inRange (svInfo : UHardwareGpsSvStatus)
    (entries : List UHardwareGpsSvInfo)
    (h : ∀ entry ∈ entries,
      -2147483648 < entry.prn.toInt ∧ entry.prn.toInt ≤ 32)
    (svs : SpaceVehicleSet) :
    ∃ svs', entries.foldlM svInfo.visit svs = some svs' ∧
      ∀ k, svs'.find? k = (svs.find? k).or
        ((inserted entries svInfo.emitted).find? fun sv => sv.key = k) := by
  induction entries generalizing svs with
  | nil => exact ⟨svs, rfl, fun k => by simp [inserted]⟩
  | cons entry entries ih =>
      have hrest := ih fun e he => h e (List.mem_cons_of_mem _ he)
      obtain ⟨svs', hloop, hfind⟩ := hrest
        (if 1 ≤ entry.prn.toInt then svs.insert (svInfo.emitted entry) else svs)
      refine ⟨svs', ?_, ?_⟩
      · rw [List.foldlM_cons,
          visit_of_inRange svInfo svs (h entry List.mem_cons_self)]
        exact hloop
      · intro k
        rw [hfind k]
        by_cases hone : 1 ≤ entry.prn.toInt
        · have hinserted : inserted (entry :: entries) svInfo.emitted =
              svInfo.emitted entry :: inserted entries svInfo.emitted := by
            simp [inserted, hone]
          rw [if_pos hone, SpaceVehicleSet.find?_insert, hinserted,
            Option.or_assoc, List.find?_cons]
          by_cases hk : (svInfo.emitted entry).key = k <;> simp [hk]
        · have hskipped : inserted (entry :: entries) svInfo.emitted =
              inserted entries svInfo.emitted := by
            simp [inserted, hone]
          rw [if_neg hone, hskipped]

theorem loop_of_not_inRange (svInfo : UHardwareGpsSvStatus)
    {entries : List UHardwareGpsSvInfo} {entry : UHardwareGpsSvInfo}
    (hmem : entry ∈ entries)
    (h : ¬ (-2147483648 < entry.prn.toInt ∧ entry.prn.toInt ≤ 32))
    (svs : SpaceVehicleSet) : entries.foldlM svInfo.visit svs = none := by
  induction entries generalizing svs with
  | nil => cases hmem
  | cons first entries ih =>
      rw [List.foldlM_cons]
      rcases List.mem_cons.mp hmem with rfl | hlater
      · rw [visit_of_not_inRange svInfo svs h]
        rfl
      · cases svInfo.visit svs first with
        | none => rfl
        | some svs' => exact ih hlater svs'

/-! ## Faithful reports -/

/-- The loop is defined for numbers in range, and keeps the first vehicle under
each key. -/
theorem onSvStatusUpdate_of_inRange {svInfo : UHardwareGpsSvStatus}
    (h : svInfo.InRange) : ∃ svs, svInfo.onSvStatusUpdate = some svs ∧
      ∀ k, svs.find? k =
        (inserted svInfo.svList svInfo.emitted).find? fun sv => sv.key = k := by
  obtain ⟨svs, hloop, hfind⟩ := loop_of_inRange svInfo svInfo.svList h .empty
  refine ⟨svs, hloop, ?_⟩
  intro k
  rw [hfind k]
  rfl

theorem inRange_of_onSvStatusUpdate {svInfo : UHardwareGpsSvStatus}
    {svs : SpaceVehicleSet} (h : svInfo.onSvStatusUpdate = some svs) :
    svInfo.InRange := by
  intro entry hmem
  by_contra hout
  unfold onSvStatusUpdate at h
  rw [loop_of_not_inRange svInfo hmem hout] at h
  cases h

/-- A report is translated faithfully exactly if its numbers are in range and
the vehicle that is inserted first under a key is the one that is meant. -/
theorem translated_iff_inserted (svInfo : UHardwareGpsSvStatus) :
    svInfo.Translated ↔ svInfo.InRange ∧
      ∀ k, ((inserted svInfo.svList svInfo.emitted).find? fun sv =>
        sv.key = k) = svInfo.meantUnder k := by
  constructor
  · rintro ⟨svs, hloop, hmeant⟩
    have hrange := inRange_of_onSvStatusUpdate hloop
    obtain ⟨svs', hloop', hfind⟩ := onSvStatusUpdate_of_inRange hrange
    obtain rfl : svs' = svs := Option.some.inj (hloop'.symm.trans hloop)
    exact ⟨hrange, fun k => (hfind k).symm.trans (hmeant k)⟩
  · rintro ⟨hrange, hmeant⟩
    obtain ⟨svs, hloop, hfind⟩ := onSvStatusUpdate_of_inRange hrange
    exact ⟨svs, hloop, fun k => (hfind k).trans (hmeant k)⟩

/-- Satellites with numbers from 1 on have the same key only if they have the
same number. -/
theorem meant_key_eq_iff (svInfo : UHardwareGpsSvStatus)
    (entry other : UHardwareGpsSvInfo) :
    (svInfo.meant other).key = (svInfo.meant entry).key ↔
      other.prn = entry.prn := by
  have hinj : other.prn.toUInt32 = entry.prn.toUInt32 ↔
      other.prn = entry.prn := by
    cases other.prn
    cases entry.prn
    simp
  simp only [meant, Key.mk.injEq, true_and, hinj]

/-- What is inserted for an entry is what is meant exactly if its angles are the
same. -/
theorem emitted_eq_iff (svInfo : UHardwareGpsSvStatus)
    (entry : UHardwareGpsSvInfo) :
    svInfo.emitted entry = svInfo.meant entry ↔
      entry.elevation = entry.azimuth := by
  constructor
  · intro h
    have hwide := congrArg (fun sv => sv.azimuth.value) h
    have hnarrow := congrArg FloatFormat.narrow hwide
    simpa [emitted, meant, FloatFormat.narrow_widen] using hnarrow
  · intro h
    simp [emitted, meant, h]

/-- The first entry with a number, among those from 1 on, is the first one under
its key. -/
theorem find?_prn_eq (svInfo : UHardwareGpsSvStatus)
    {entry : UHardwareGpsSvInfo} (hone : 1 ≤ entry.prn.toInt) :
    (svInfo.svList.find? fun other => other.prn = entry.prn) =
      (svInfo.svList.filter fun other => 1 ≤ other.prn.toInt).find?
        fun other => (svInfo.meant other).key = (svInfo.meant entry).key := by
  rw [List.find?_filter]
  congr 1
  funext other
  rw [decide_eq_decide, decide_eq_true_iff, decide_eq_true_iff,
    meant_key_eq_iff]
  exact ⟨fun h => ⟨h ▸ hone, h⟩, fun h => h.2⟩

/-- The vehicle that is inserted first under a key is that of the first entry
under it. -/
theorem find?_inserted (svInfo : UHardwareGpsSvStatus)
    {f : UHardwareGpsSvInfo → SpaceVehicle}
    (hkey : ∀ other, (f other).key = (svInfo.meant other).key) (k : Key) :
    ((inserted svInfo.svList f).find? fun sv => sv.key = k) =
      ((svInfo.svList.filter fun other => 1 ≤ other.prn.toInt).find?
        fun other => (svInfo.meant other).key = k).map f := by
  unfold inserted
  rw [List.find?_map]
  simp only [Function.comp_def, hkey]

/-- What is inserted is meant exactly if the angles of every first entry are the
same. -/
theorem inserted_meant_iff (svInfo : UHardwareGpsSvStatus) :
    (∀ k, ((inserted svInfo.svList svInfo.emitted).find? fun sv =>
      sv.key = k) = svInfo.meantUnder k) ↔ svInfo.OnDiagonal := by
  have hemitted := svInfo.find?_inserted (f := svInfo.emitted) fun _ => rfl
  have hmeant : ∀ k, svInfo.meantUnder k = _ :=
    svInfo.find?_inserted (f := svInfo.meant) fun _ => rfl
  simp only [hemitted, hmeant]
  constructor
  · intro hsame entry _ hone hentry
    rw [svInfo.find?_prn_eq hone] at hentry
    have hkey := hsame (svInfo.meant entry).key
    rw [hentry, Option.map_some, Option.map_some] at hkey
    exact (emitted_eq_iff svInfo entry).mp (Option.some.inj hkey)
  · intro hdiagonal k
    cases hentry : (svInfo.svList.filter fun other =>
        1 ≤ other.prn.toInt).find? fun other => (svInfo.meant other).key = k with
    | none => rw [Option.map_none, Option.map_none]
    | some entry =>
        have hmem := List.mem_filter.mp (List.mem_of_find?_eq_some hentry)
        have hone : 1 ≤ entry.prn.toInt := of_decide_eq_true hmem.2
        have hk : (svInfo.meant entry).key = k := by
          simpa using List.find?_some hentry
        have hangles : entry.elevation = entry.azimuth := by
          apply hdiagonal entry hmem.1 hone
          rw [svInfo.find?_prn_eq hone, hk]
          exact hentry
        rw [Option.map_some, Option.map_some,
          (emitted_eq_iff svInfo entry).mpr hangles]

/-- A report is translated faithfully exactly if no satellite has a number from
33 on, or the least `int`, and the first entry of each has the same elevation
and azimuth. -/
theorem translated_iff (svInfo : UHardwareGpsSvStatus) :
    svInfo.Translated ↔ svInfo.InRange ∧ svInfo.OnDiagonal := by
  rw [translated_iff_inserted, inserted_meant_iff]

/-- A satellite at 30 degrees over the eastern horizon is reported at 90 degrees
of elevation. -/
theorem translation_swaps_angles :
    ¬ ∀ svInfo : UHardwareGpsSvStatus, svInfo.Translated := by
  intro h
  have hinserted := ((translated_iff_inserted _).mp (h
    { svList := [{ prn := 7, snr := 40, elevation := 30, azimuth := 90 }]
      almanacMask := 64
      ephemerisMask := 64
      usedInFixMask := 64 })).2
  have hangles := (inserted_meant_iff _).mp hinserted _ List.mem_cons_self
    (by decide) (by simp)
  revert hangles
  decide +kernel

end UHardwareGpsSvStatus

end LocationService
