import Mathlib

/-!
# Conversions between floating point formats

A value of one IEEE format is converted to another one by unpacking it, rounding
it to the other format and packing it there.  Where every value of a narrow
format is a normal number of a wide one (`Embeds`), the conversion to the wide
format and back gives the value again, since both roundings are exact.

The formats, the packing and the rounding are those that `Float` and `Float32`
are specified with.  `widen` and `narrow` are the conversions between these.
-/

namespace LocationService.Library.FloatFormat

open Float.Model (Format UnpackedFloat totalExponent)
open Float.Model.UnpackedFloat

/-! ## Exact rounding -/

/-- The value of a format nearest to an unpacked number. -/
def convert (spec : Format) : UnpackedFloat → UnpackedFloat
  | .finite sign mantissa exponent _ => .round spec sign mantissa exponent
  | .infinity sign => .infinity sign
  | .zero sign => .zero sign
  | .notANumber => .notANumber

theorem shiftLeft_pos {m : Nat} (hm : 0 < m) (k : Nat) : 0 < m <<< k := by
  rw [Nat.shiftLeft_eq]
  exact Nat.mul_pos hm (Nat.two_pow_pos k)

theorem log2_shiftLeft {m : Nat} (hm : 0 < m) (k : Nat) :
    (m <<< k).log2 = m.log2 + k := by
  induction k with
  | zero => rfl
  | succ k ih =>
      have hpos := shiftLeft_pos hm k
      rw [Nat.shiftLeft_succ, Nat.log2_two_mul (Nat.ne_of_gt hpos), ih,
        Nat.add_assoc]

/-- Shifting a mantissa and its exponent against each other keeps the position
of the most significant digit. -/
theorem totalExponent_shiftLeft {m : Nat} (hm : 0 < m) (k : Nat) (e : Int) :
    totalExponent (m <<< k) (e - k) = totalExponent m e := by
  unfold totalExponent
  rw [log2_shiftLeft hm]
  omega

/-- Zero bits are shifted out without a trace. -/
theorem shiftRight_shiftLeft (m k : Nat) :
    ExtendedMantissa.mk (m <<< k) false false >>> k = ⟨m, false, false⟩ := by
  induction k generalizing m with
  | zero => rfl
  | succ k ih =>
      have hlast : ExtendedMantissa.mk (m <<< (k + 1)) false false >>> (k + 1) =
          (ExtendedMantissa.mk ((2 * m) <<< k) false false >>>
            k).shiftRightOne := rfl
      rw [hlast, ih, ExtendedMantissa.shiftRightOne]
      simp

theorem shiftToExponent_shiftLeft (m k : Nat) (e : Int) :
    shiftToExponent (m <<< k) (e - k) .exact e = (⟨m, false, false⟩, e) := by
  have hamount : (e - (e - k)).toNat = k := by omega
  unfold shiftToExponent
  simp only [hamount, ExtendedMantissa.ofMantissaAndAccuracy,
    shiftRight_shiftLeft, Prod.mk.injEq, true_and]
  omega

/-- A number with zero bits below its target exponent is rounded exactly. -/
theorem roundWithAccuracy_shiftLeft {spec : Format} (sign : Sign) {m : Nat}
    (hm : 0 < m) {e : Int}
    (htarget : spec.targetExponent (totalExponent m e) = e) (k : Nat) :
    roundWithAccuracy spec sign (m <<< k) (e - k) .exact =
      .finite sign m e hm := by
  have hfirst : shiftToTargetExponent spec (m <<< k) (e - k) .exact =
      (⟨m, false, false⟩, e) := by
    unfold shiftToTargetExponent
    simp only [totalExponent_shiftLeft hm, htarget, shiftToExponent_shiftLeft]
  have hsecond : shiftToTargetExponent spec m e .exact =
      (⟨m, false, false⟩, e) := by
    have hzero := shiftToExponent_shiftLeft m 0 e
    unfold shiftToTargetExponent
    simpa [htarget] using hzero
  have hrounded :
      (ExtendedMantissa.mk m false false).roundedMantissa = m := rfl
  unfold roundWithAccuracy
  simp only [hfirst, hrounded, hsecond]
  rw [dif_neg (Nat.ne_of_gt hm)]

/-- A number whose target exponent is not above its own is rounded exactly. -/
theorem round_of_targetExponent {spec : Format} (sign : Sign) {m : Nat}
    (hm : 0 < m) {e : Int} {k : Nat}
    (htarget : spec.targetExponent (totalExponent m e) = e - k) :
    UnpackedFloat.round spec sign m e =
      .finite sign (m <<< k) (e - k) (shiftLeft_pos hm k) := by
  have hamount : (e - (e - k)).toNat = k := by omega
  have hcanonical :
      spec.targetExponent (totalExponent (m <<< k) (e - k)) = e - k := by
    rw [totalExponent_shiftLeft hm, htarget]
  have hzero := roundWithAccuracy_shiftLeft sign (shiftLeft_pos hm k)
    hcanonical 0
  unfold UnpackedFloat.round decreaseExponent
  simp only [htarget, hamount]
  simpa using hzero

/-- A number of a format is rounded to itself, however many zero bits are
appended to it. -/
theorem round_shiftLeft {spec : Format} (sign : Sign) {m : Nat} (hm : 0 < m)
    {e : Int} (htarget : spec.targetExponent (totalExponent m e) = e)
    (k : Nat) :
    UnpackedFloat.round spec sign (m <<< k) (e - k) = .finite sign m e hm := by
  have hamount : (e - k - e).toNat = 0 := by omega
  have hexact := roundWithAccuracy_shiftLeft sign hm htarget k
  unfold UnpackedFloat.round decreaseExponent
  simp only [totalExponent_shiftLeft hm, htarget, hamount]
  simpa using hexact

/-! ## Packing -/

variable {spec : Format}

theorem exponentBias_succ (spec : Format) :
    spec.exponentBias + 1 = 2 ^ (spec.exponentBits - 1) := by
  have hpos := Nat.two_pow_pos (spec.exponentBits - 1)
  unfold Format.exponentBias
  omega

/-- The smallest exponent is the one that is stored as 1. -/
theorem minExponent_eq (spec : Format) :
    spec.minExponent =
      1 - (spec.exponentBias + spec.mantissaBitsWithoutImplicit : Int) := by
  have hbias : (spec.exponentBias : Int) + 1 = 2 ^ (spec.exponentBits - 1) := by
    exact_mod_cast exponentBias_succ spec
  unfold Format.minExponent Format.mantissaBits
  rw [← hbias]
  push_cast
  omega

/-- The number is in the range of the format, with the exponent that the format
gives it. -/
def IsCanonical (spec : Format) : UnpackedFloat → Prop
  | .finite _ m e _ =>
      spec.targetExponent (totalExponent m e) = e ∧
        e + spec.exponentBias + spec.mantissaBitsWithoutImplicit + 1 <
          2 ^ spec.exponentBits
  | .infinity _ => True
  | .zero _ => True
  | .notANumber => True

theorem toNat_implicit_append
    (mantissa : BitVec spec.mantissaBitsWithoutImplicit) :
    (1#1 ++ mantissa).toNat =
      2 ^ spec.mantissaBitsWithoutImplicit + mantissa.toNat := by
  rw [BitVec.toNat_append, ← Nat.shiftLeft_add_eq_or_of_lt mantissa.isLt,
    Nat.shiftLeft_eq]
  simp

/-- The mantissa of a normal number fills its bits. -/
theorem log2_implicit_add {n : Nat}
    (h : n < 2 ^ spec.mantissaBitsWithoutImplicit) :
    (2 ^ spec.mantissaBitsWithoutImplicit + n).log2 =
      spec.mantissaBitsWithoutImplicit := by
  have hpos := Nat.two_pow_pos spec.mantissaBitsWithoutImplicit
  rw [Nat.log2_eq_iff (by omega), Nat.pow_succ]
  omega

/-- An exponent other than that of the infinities and the NaN. -/
theorem exponent_succ_lt {exponent : BitVec spec.exponentBits}
    (h : exponent ≠ -1#_) : exponent.toNat + 1 < 2 ^ spec.exponentBits := by
  have hne : exponent.toNat ≠ 2 ^ spec.exponentBits - 1 := by
    intro heq
    apply h
    apply BitVec.eq_of_toNat_eq
    rw [heq, BitVec.neg_one_eq_allOnes, BitVec.toNat_allOnes]
  have hlt := exponent.isLt
  omega

theorem exponent_pos {exponent : BitVec spec.exponentBits}
    (h : exponent ≠ 0#_) : 0 < exponent.toNat := by
  apply Nat.pos_of_ne_zero
  intro heq
  apply h
  apply BitVec.eq_of_toNat_eq
  simpa using heq

theorem four_le_two_pow (hbits : 1 < spec.exponentBits) :
    4 ≤ 2 ^ spec.exponentBits := by
  have hle : 2 ^ 2 ≤ 2 ^ spec.exponentBits :=
    Nat.pow_le_pow_right (by omega) hbits
  omega

/-- The number that is stored in the bits, by the kind of its exponent. -/
inductive Unpacks (b : BitVec spec.numBits) : UnpackedFloat → Prop where
  | infinity :
      unpackExponent b = -1#_ → unpackMantissa b = 0#_ →
        Unpacks b (.infinity (Sign.ofBitVec (unpackSign b)))
  | notANumber :
      unpackExponent b = -1#_ → unpackMantissa b ≠ 0#_ →
        Unpacks b .notANumber
  | zero :
      unpackExponent b = 0#_ → unpackMantissa b = 0#_ →
        Unpacks b (.zero (Sign.ofBitVec (unpackSign b)))
  | subnormal (hpos : 0 < (unpackMantissa b).toNat) :
      unpackExponent b = 0#_ →
        Unpacks b (.finite (Sign.ofBitVec (unpackSign b))
          (unpackMantissa b).toNat spec.minExponent hpos)
  | normal (hpos : 0 < 2 ^ spec.mantissaBitsWithoutImplicit +
        (unpackMantissa b).toNat) :
      unpackExponent b ≠ -1#_ → unpackExponent b ≠ 0#_ →
        Unpacks b (.finite (Sign.ofBitVec (unpackSign b))
          (2 ^ spec.mantissaBitsWithoutImplicit + (unpackMantissa b).toNat)
          ((unpackExponent b).toNat -
            (spec.exponentBias + spec.mantissaBitsWithoutImplicit)) hpos)

theorem unpacks_unpack (b : BitVec spec.numBits) :
    Unpacks b (unpack spec b) := by
  unfold unpack
  simp only
  split
  · rename_i hexponent
    split
    · rename_i hmantissa
      exact .infinity hexponent hmantissa
    · rename_i hmantissa
      exact .notANumber hexponent hmantissa
  · rename_i hspecial
    split
    · rename_i hexponent
      split
      · rename_i hmantissa
        exact .zero hexponent hmantissa
      · rename_i hmantissa
        have hmin : ((unpackExponent b).toNat : Int) -
            (spec.exponentBias + spec.mantissaBitsWithoutImplicit) + 1 =
              spec.minExponent := by
          rw [hexponent, minExponent_eq]
          simp
          omega
        rw [hmin]
        exact .subnormal _ hexponent
    · rename_i hexponent
      simp only [toNat_implicit_append]
      exact .normal _ hspecial hexponent

/-- What is unpacked from a format is in its range. -/
theorem isCanonical_unpack (hbits : 1 < spec.exponentBits)
    (b : BitVec spec.numBits) : IsCanonical spec (unpack spec b) := by
  have hunpacks := unpacks_unpack b
  have hmantissa := (unpackMantissa b).isLt
  generalize unpack spec b = f at hunpacks ⊢
  cases hunpacks with
  | infinity _ _ => trivial
  | notANumber _ _ => trivial
  | zero _ _ => trivial
  | subnormal hpos hexponent =>
      have hlog := (Nat.log2_lt (Nat.ne_of_gt hpos)).mpr hmantissa
      have hlarge : (4 : Int) ≤ 2 ^ spec.exponentBits := by
        exact_mod_cast four_le_two_pow hbits
      have hmin := minExponent_eq spec
      constructor
      · unfold Format.targetExponent totalExponent Format.mantissaBits
        omega
      · omega
  | normal hpos hspecial hexponent =>
      have hlog := log2_implicit_add hmantissa
      have hmin := minExponent_eq spec
      have hlt := exponent_succ_lt hspecial
      have hone := exponent_pos hexponent
      constructor
      · unfold Format.targetExponent totalExponent Format.mantissaBits
        rw [hlog]
        omega
      · have hcast : ((unpackExponent b).toNat : Int) + 1 <
            2 ^ spec.exponentBits := by exact_mod_cast hlt
        omega

theorem pack_normal {sign : Sign} {m : Nat} {hm : 0 < m} {stored : Nat}
    (hlog : m.log2 = spec.mantissaBitsWithoutImplicit)
    (hlt : stored + 1 < 2 ^ spec.exponentBits) :
    pack spec (.finite sign m
      (stored - (spec.exponentBias + spec.mantissaBitsWithoutImplicit)) hm) =
        packComponents spec sign (BitVec.ofNat _ stored) (BitVec.ofNat _ m) := by
  have hstored : ((stored : Int) -
      (spec.exponentBias + spec.mantissaBitsWithoutImplicit) +
        spec.exponentBias + spec.mantissaBitsWithoutImplicit).toNat =
          stored := by omega
  have hbits : m.log2 + 1 = spec.mantissaBits := by
    unfold Format.mantissaBits
    omega
  unfold pack
  simp only [hstored]
  rw [if_neg (by omega), if_pos hbits]

theorem pack_subnormal (hbits : 1 < spec.exponentBits) {sign : Sign} {m : Nat}
    {hm : 0 < m} (hlt : m < 2 ^ spec.mantissaBitsWithoutImplicit) :
    pack spec (.finite sign m spec.minExponent hm) =
      packComponents spec sign 0#_ (BitVec.ofNat _ m) := by
  have hlog := (Nat.log2_lt (Nat.ne_of_gt hm)).mpr hlt
  have hlarge := four_le_two_pow hbits
  have hstored : (spec.minExponent + spec.exponentBias +
      spec.mantissaBitsWithoutImplicit).toNat = 1 := by
    rw [minExponent_eq]
    omega
  have hnot : ¬ m.log2 + 1 = spec.mantissaBits := by
    unfold Format.mantissaBits
    omega
  unfold pack
  simp only [hstored]
  rw [if_neg (by omega), if_neg hnot]

theorem unpack_packComponents_normal {sign : Sign}
    {exponent : BitVec spec.exponentBits}
    {mantissa : BitVec spec.mantissaBitsWithoutImplicit}
    (hspecial : exponent ≠ -1#_) (hexponent : exponent ≠ 0#_)
    (hpos : 0 < 2 ^ spec.mantissaBitsWithoutImplicit + mantissa.toNat) :
    unpack spec (packComponents spec sign exponent mantissa) =
      .finite sign (2 ^ spec.mantissaBitsWithoutImplicit + mantissa.toNat)
        (exponent.toNat -
          (spec.exponentBias + spec.mantissaBitsWithoutImplicit)) hpos := by
  unfold unpack
  simp only [unpackExponent_packComponents, unpackMantissa_packComponents,
    unpackSign_packComponents, Sign.ofBitVec_toBitVec, if_neg hspecial,
    if_neg hexponent, toNat_implicit_append]

theorem zero_ne_neg_one (hbits : 1 < spec.exponentBits) :
    0#(spec.exponentBits) ≠ -1#_ := by
  intro heq
  rw [BitVec.zero_eq_neg_one_iff] at heq
  omega

theorem unpack_packComponents_subnormal (hbits : 1 < spec.exponentBits)
    {sign : Sign} {mantissa : BitVec spec.mantissaBitsWithoutImplicit}
    (hpos : 0 < mantissa.toNat) :
    unpack spec (packComponents spec sign 0#_ mantissa) =
      .finite sign mantissa.toNat spec.minExponent hpos := by
  have hspecial := zero_ne_neg_one hbits
  have hne : mantissa ≠ 0#_ := by
    intro heq
    rw [heq] at hpos
    simp at hpos
  have hmin := minExponent_eq spec
  unfold unpack
  simp only [unpackExponent_packComponents, unpackMantissa_packComponents,
    unpackSign_packComponents, Sign.ofBitVec_toBitVec, if_neg hspecial, if_true,
    dif_neg hne, UnpackedFloat.finite.injEq, true_and]
  rw [BitVec.toNat_ofNat, Nat.zero_mod]
  omega

/-- Packing and unpacking gives the number again, if it is in the range of the
format. -/
theorem unpack_pack (hbits : 1 < spec.exponentBits) {f : UnpackedFloat}
    (h : IsCanonical spec f) : unpack spec (pack spec f) = f := by
  cases f with
  | infinity sign =>
      unfold pack packedInfinity unpack
      simp only [unpackExponent_packComponents, unpackMantissa_packComponents,
        unpackSign_packComponents, Sign.ofBitVec_toBitVec, if_true]
      rfl
  | notANumber => exact unpack_packedNaN
  | zero sign => exact unpack_packedZero
  | finite sign m e hm =>
      obtain ⟨htarget, hlt⟩ := h
      have hmin := minExponent_eq spec
      unfold Format.targetExponent totalExponent Format.mantissaBits at htarget
      by_cases hlog : m.log2 = spec.mantissaBitsWithoutImplicit
      · obtain ⟨stored, rfl⟩ : ∃ stored : Nat, e = stored -
            (spec.exponentBias + spec.mantissaBitsWithoutImplicit : Int) :=
          ⟨(e + spec.exponentBias + spec.mantissaBitsWithoutImplicit).toNat,
            by omega⟩
        have hstored : stored + 1 < 2 ^ spec.exponentBits := by
          have hcast : (stored : Int) + 1 < 2 ^ spec.exponentBits := by omega
          exact_mod_cast hcast
        have hm' := (Nat.log2_eq_iff (Nat.ne_of_gt hm)).mp hlog
        have hmantissa : 2 ^ spec.mantissaBitsWithoutImplicit +
            (BitVec.ofNat spec.mantissaBitsWithoutImplicit m).toNat = m := by
          rw [Nat.pow_succ] at hm'
          rw [BitVec.toNat_ofNat, Nat.mod_eq_sub_mod hm'.1,
            Nat.mod_eq_of_lt (by omega)]
          omega
        have hexponent :
            (BitVec.ofNat spec.exponentBits stored).toNat = stored := by
          rw [BitVec.toNat_ofNat, Nat.mod_eq_of_lt (by omega)]
        have hspecial : BitVec.ofNat spec.exponentBits stored ≠ -1#_ := by
          intro heq
          rw [heq, BitVec.neg_one_eq_allOnes, BitVec.toNat_allOnes] at hexponent
          omega
        have hzero : BitVec.ofNat spec.exponentBits stored ≠ 0#_ := by
          intro heq
          rw [heq, BitVec.toNat_ofNat, Nat.zero_mod] at hexponent
          omega
        rw [pack_normal hlog hstored, unpack_packComponents_normal hspecial
          hzero (by omega)]
        simp only [hmantissa, hexponent]
      · have hsmall : m < 2 ^ spec.mantissaBitsWithoutImplicit := by
          rw [← Nat.log2_lt (Nat.ne_of_gt hm)]
          omega
        obtain rfl : e = spec.minExponent := by omega
        have hmantissa :
            (BitVec.ofNat spec.mantissaBitsWithoutImplicit m).toNat = m := by
          rw [BitVec.toNat_ofNat, Nat.mod_eq_of_lt hsmall]
        rw [pack_subnormal hbits hsmall,
          unpack_packComponents_subnormal hbits (by omega)]
        simp only [hmantissa]

/-! ## Formats within formats -/

/-- Every number of the narrow format is a normal number of the wide one. -/
structure Embeds (narrow wide : Format) : Prop where
  mantissa : narrow.mantissaBits ≤ wide.mantissaBits
  smallest : wide.minExponent + wide.mantissaBits ≤ narrow.minExponent + 1
  largest : 2 ^ narrow.exponentBits + wide.exponentBias ≤
    2 ^ wide.exponentBits + narrow.exponentBias

/-- The conversion to a wide format is exact, and so is the way back. -/
theorem convert_convert {narrow wide : Format} (h : Embeds narrow wide)
    {f : UnpackedFloat} (hf : IsCanonical narrow f) :
    IsCanonical wide (convert wide f) ∧ convert narrow (convert wide f) = f := by
  cases f with
  | infinity sign => exact ⟨trivial, rfl⟩
  | notANumber => exact ⟨trivial, rfl⟩
  | zero sign => exact ⟨trivial, rfl⟩
  | finite sign m e hm =>
      obtain ⟨htarget, hrange⟩ := hf
      have hcanonical := htarget
      have hmantissa := h.mantissa
      have hsmallest := h.smallest
      have hlargest : (2 ^ narrow.exponentBits : Int) + wide.exponentBias ≤
          2 ^ wide.exponentBits + narrow.exponentBias := by
        exact_mod_cast h.largest
      unfold Format.targetExponent totalExponent at htarget
      unfold Format.mantissaBits at htarget hmantissa hsmallest
      obtain ⟨k, hk⟩ : ∃ k : Nat,
          m.log2 + k = wide.mantissaBitsWithoutImplicit :=
        ⟨wide.mantissaBitsWithoutImplicit - m.log2, by omega⟩
      have hwide : wide.targetExponent (totalExponent m e) = e - k := by
        unfold Format.targetExponent totalExponent Format.mantissaBits
        omega
      have hround := round_of_targetExponent sign hm hwide
      constructor
      · show IsCanonical wide (UnpackedFloat.round wide sign m e)
        rw [hround]
        constructor
        · rw [totalExponent_shiftLeft hm, hwide]
        · omega
      · show convert narrow (UnpackedFloat.round wide sign m e) = _
        rw [hround]
        exact round_shiftLeft sign hm hcanonical k

/-! ## The conversions of the language -/

theorem binary32_embeds_binary64 : Embeds .binary32 .binary64 where
  mantissa := by decide
  smallest := by decide
  largest := by decide

/-- The conversion of a `float` to a `double`. -/
def widen (x : Float32) : Float :=
  .ofModel (.pack (convert .binary64 x.toModel.unpack))

/-- The conversion of a `double` to a `float`, to the nearest value. -/
def narrow (x : Float) : Float32 :=
  .ofModel (.pack (convert .binary32 x.toModel.unpack))

/-- A `float` survives as a `double`. -/
theorem narrow_widen (x : Float32) : narrow (widen x) = x := by
  have hcanonical : IsCanonical .binary32 x.toModel.unpack :=
    isCanonical_unpack (by decide) _
  have hconvert := convert_convert binary32_embeds_binary64 hcanonical
  have hunpack : Float.Model.unpack
      (.pack (convert .binary64 x.toModel.unpack)) =
        convert .binary64 x.toModel.unpack :=
    @unpack_pack .binary64 (by decide) _ hconvert.1
  have hpack : Float32.Model.pack x.toModel.unpack = x.toModel := by
    rcases x with ⟨bits, hvalid⟩
    have hbits := pack_unpack_of_valid hvalid
    simp only [Float32.Model.pack, Float32.Model.unpack, hbits]
  unfold narrow widen
  simp only [hunpack, hconvert.2, hpack]

end LocationService.Library.FloatFormat
