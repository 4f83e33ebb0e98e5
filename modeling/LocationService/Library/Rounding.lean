import LocationService.Library.FloatFormat

/-!
# Rounded differences and bounds

The difference of two floating point numbers is rounded to the nearest number
of the format, and to the one with an even mantissa if two are equally near.
So a computed difference exceeds a number with an even mantissa exactly if the
exact difference exceeds it by more than half a unit in the last place
(`Bounds.sub_between_iff`).
-/

namespace LocationService.Library.FloatFormat

open Float.Model (Format UnpackedFloat totalExponent)
open Float.Model.UnpackedFloat

/-! ## Rounding a mantissa -/

/-- What the bits behind a mantissa say about the `k` bits that were shifted
out of `m`. -/
structure Remembers (m k : Nat) (em : ExtendedMantissa) (rest : Nat) :
    Prop where
  value : m = em.mantissa * 2 ^ k + rest
  lt : rest < 2 ^ k
  roundBit : em.roundBit = true ↔ 2 ^ k ≤ 2 * rest
  stickyBit : em.stickyBit = true ↔ 2 * rest ≠ 0 ∧ 2 * rest ≠ 2 ^ k

theorem Remembers.shiftRightOne {m k rest : Nat} {em : ExtendedMantissa}
    (h : Remembers m k em rest) :
    Remembers m (k + 1) em.shiftRightOne
      ((em.mantissa % 2) * 2 ^ k + rest) := by
  have hvalue := h.value
  have hlt := h.lt
  have hround := h.roundBit
  have hsticky := h.stickyBit
  have hpow : 2 ^ (k + 1) = 2 * 2 ^ k := by rw [Nat.pow_succ, Nat.mul_comm]
  have hsplit : em.mantissa * 2 ^ k =
      (em.mantissa / 2) * (2 * 2 ^ k) + (em.mantissa % 2) * 2 ^ k := by
    conv_lhs => rw [← Nat.div_add_mod em.mantissa 2]
    ring
  generalize 2 ^ k = unit at *
  have hsecond : (em.shiftRightOne.stickyBit = true) ↔
      em.roundBit = true ∨ em.stickyBit = true := by
    simp [ExtendedMantissa.shiftRightOne]
  have hfirst : (em.shiftRightOne.roundBit = true) ↔
      em.mantissa % 2 ≠ 0 := by
    simp [ExtendedMantissa.shiftRightOne]
  rcases Nat.mod_two_eq_zero_or_one em.mantissa with heven | hodd
  · rw [heven] at hsplit hfirst ⊢
    constructor
    · rw [hpow]
      show m = (em.mantissa / 2) * (2 * unit) + _
      omega
    · omega
    · rw [hfirst]
      omega
    · rw [hsecond, hround, hsticky]
      omega
  · rw [hodd] at hsplit hfirst ⊢
    constructor
    · rw [hpow]
      show m = (em.mantissa / 2) * (2 * unit) + _
      omega
    · omega
    · rw [hfirst]
      omega
    · rw [hsecond, hround, hsticky]
      omega

theorem remembers_shiftRight (m k : Nat) :
    ∃ rest, Remembers m k (ExtendedMantissa.mk m false false >>> k) rest := by
  induction k with
  | zero =>
      refine ⟨0, ?_, by omega, ?_, ?_⟩
      · show m = m * 2 ^ 0 + 0
        omega
      · show false = true ↔ _
        simp
      · show false = true ↔ _
        simp
  | succ k ih =>
      obtain ⟨rest, h⟩ := ih
      exact ⟨_, h.shiftRightOne⟩

/-- Rounding goes to one of the two neighbours. -/
theorem Remembers.rounded_bounds {m k rest : Nat} {em : ExtendedMantissa}
    (_ : Remembers m k em rest) :
    em.mantissa ≤ em.roundedMantissa ∧
      em.roundedMantissa ≤ em.mantissa + 1 := by
  rcases em with ⟨mantissa, roundBit, stickyBit⟩
  have hmod := Nat.mod_lt mantissa (show 0 < 2 by omega)
  cases roundBit <;> cases stickyBit <;>
    simp only [ExtendedMantissa.roundedMantissa, ExtendedMantissa.accuracy,
      Accuracy.roundToNearestEven] <;> omega

/-- The rounded mantissa exceeds an even number exactly if the number that was
rounded exceeds it by more than a half. -/
theorem Remembers.lt_rounded_iff {m k rest n : Nat} {em : ExtendedMantissa}
    (h : Remembers m k em rest) (heven : n % 2 = 0) :
    n < em.roundedMantissa ↔ (2 * n + 1) * 2 ^ k < 2 * m := by
  have hbounds := h.rounded_bounds
  have hvalue := h.value
  have hlt := h.lt
  have hround := h.roundBit
  have hsticky := h.stickyBit
  rcases Nat.lt_trichotomy n em.mantissa with hbelow | hequal | habove
  · have hle : (n + 1) * 2 ^ k ≤ em.mantissa * 2 ^ k :=
      Nat.mul_le_mul_right _ hbelow
    have hexpand : (2 * n + 1) * 2 ^ k + 2 ^ k = 2 * ((n + 1) * 2 ^ k) := by
      ring
    omega
  · have hexpand : (2 * n + 1) * 2 ^ k = 2 * (em.mantissa * 2 ^ k) + 2 ^ k := by
      rw [hequal]
      ring
    have hhalf : (2 * n + 1) * 2 ^ k < 2 * m ↔ 2 ^ k < 2 * rest := by omega
    rw [hhalf]
    generalize 2 ^ k = unit at hround hsticky
    rcases em with ⟨mantissa, roundBit, stickyBit⟩
    obtain rfl : n = mantissa := hequal
    cases roundBit <;> cases stickyBit <;>
      simp only [ExtendedMantissa.roundedMantissa, ExtendedMantissa.accuracy,
        Accuracy.roundToNearestEven, Bool.false_eq_true, false_iff,
        true_iff] at hround hsticky ⊢ <;> omega
  · have hle : (em.mantissa + 1) * 2 ^ k ≤ n * 2 ^ k :=
      Nat.mul_le_mul_right _ habove
    have hexpand : (2 * n + 1) * 2 ^ k = 2 * (n * 2 ^ k) + 2 ^ k := by ring
    have hsucc : (em.mantissa + 1) * 2 ^ k = em.mantissa * 2 ^ k + 2 ^ k := by
      ring
    omega

/-! ## Rounding a number -/

variable {spec : Format}

/-- The last stage of rounding, where a mantissa that has grown by a bit is
shifted once more. -/
def settle (spec : Format) (sign : Sign) (mantissa : Nat) (exponent : Int) :
    UnpackedFloat :=
  let shifted := shiftToTargetExponent spec mantissa exponent .exact
  if h : shifted.1.mantissa = 0 then .zero sign
  else .finite sign shifted.1.mantissa shifted.2 (Nat.pos_of_ne_zero h)

/-- The exponent at which a number is rounded. -/
abbrev roundingExponent (spec : Format) (m : Nat) (e : Int) : Int :=
  spec.targetExponent (totalExponent m e)

variable (spec) in
/-- A number is written with enough bits, the surplus is shifted out, and what
is left is rounded and settled. -/
theorem round_eq_settle (sign : Sign) {m : Nat} (hm : 0 < m) (e : Int) :
    ∃ (j k : Nat) (em : ExtendedMantissa) (rest : Nat),
      e - j + k = roundingExponent spec m e ∧
        Remembers (m <<< j) k em rest ∧
          UnpackedFloat.round spec sign m e =
            settle spec sign em.roundedMantissa (roundingExponent spec m e) := by
  let target := roundingExponent spec m e
  let j := (e - target).toNat
  let k := (target - (e - j)).toNat
  have hsum : e - j + k = target := by omega
  obtain ⟨rest, hremembers⟩ := remembers_shiftRight (m <<< j) k
  refine ⟨j, k, _, rest, hsum, hremembers, ?_⟩
  have htotal : spec.targetExponent (totalExponent (m <<< j) (e - j)) =
      target := by rw [totalExponent_shiftLeft hm]
  have hfirst : shiftToTargetExponent spec (m <<< j) (e - j) .exact =
      (ExtendedMantissa.mk (m <<< j) false false >>> k, target) := by
    unfold shiftToTargetExponent shiftToExponent
    simp only [htotal, ExtendedMantissa.ofMantissaAndAccuracy, Prod.mk.injEq]
    exact ⟨rfl, hsum⟩
  show roundWithAccuracy spec sign (m <<< j) (e - j) .exact = _
  unfold roundWithAccuracy settle
  simp only [hfirst]
  rfl

theorem minExponent_le_targetExponent (total : Int) :
    spec.minExponent ≤ spec.targetExponent total := by
  unfold Format.targetExponent
  omega

/-- A mantissa that fits stays as it is. -/
theorem settle_of_lt (sign : Sign) {r : Nat} (hr : 0 < r)
    (hfits : r < 2 ^ spec.mantissaBits) {t : Int} (ht : spec.minExponent ≤ t) :
    settle spec sign r t = .finite sign r t hr := by
  have hlog : r.log2 < spec.mantissaBits :=
    (Nat.log2_lt (Nat.ne_of_gt hr)).mpr hfits
  have hamount : (spec.targetExponent (totalExponent r t) - t).toNat = 0 := by
    unfold Format.targetExponent totalExponent
    omega
  unfold settle shiftToTargetExponent shiftToExponent
  simp only [hamount, ExtendedMantissa.ofMantissaAndAccuracy]
  have hkept : (ExtendedMantissa.mk r false false >>> 0).mantissa = r := rfl
  simp only [hkept, Int.natCast_zero, Int.add_zero]
  rw [dif_neg (Nat.ne_of_gt hr)]

theorem settle_zero (sign : Sign) (t : Int) :
    settle spec sign 0 t = .zero sign := by
  have hkept (k : Nat) :
      (ExtendedMantissa.mk 0 false false >>> k).mantissa = 0 := by
    have hshift := shiftRight_shiftLeft 0 k
    rw [Nat.zero_shiftLeft] at hshift
    rw [hshift]
  exact dif_pos (hkept _)

/-- A mantissa that has grown by a bit is halved. -/
theorem settle_grown (sign : Sign) {t : Int} (ht : spec.minExponent ≤ t) :
    settle spec sign (2 ^ spec.mantissaBits) t =
      .finite sign (2 ^ spec.mantissaBitsWithoutImplicit) (t + 1)
        (Nat.two_pow_pos _) := by
  have hlog : (2 ^ spec.mantissaBits).log2 = spec.mantissaBits :=
    Nat.log2_two_pow
  have hamount : (spec.targetExponent
      (totalExponent (2 ^ spec.mantissaBits) t) - t).toNat = 1 := by
    unfold Format.targetExponent totalExponent
    omega
  have hhalf : (2 ^ spec.mantissaBits) / 2 =
      2 ^ spec.mantissaBitsWithoutImplicit := by
    unfold Format.mantissaBits
    rw [Nat.add_comm, Nat.pow_succ]
    omega
  unfold settle shiftToTargetExponent shiftToExponent
  simp only [hamount, ExtendedMantissa.ofMantissaAndAccuracy]
  have hkept : (ExtendedMantissa.mk (2 ^ spec.mantissaBits) false false >>>
      1).mantissa = 2 ^ spec.mantissaBitsWithoutImplicit := hhalf
  simp only [hkept, Int.natCast_one]
  rw [dif_neg (Nat.ne_of_gt (Nat.two_pow_pos _))]

/-! ## The rounded number next to the exact one -/

/-- The mantissa `r` is that of `m * 2 ^ e`, rounded. -/
structure Rounded (spec : Format) (m : Nat) (e : Int) (r : Nat) : Prop where
  le : r ≤ 2 ^ spec.mantissaBits
  ge : spec.minExponent < roundingExponent spec m e →
    2 ^ spec.mantissaBitsWithoutImplicit ≤ r
  /-- Even mantissas are exceeded by more than a half. -/
  lt_iff : ∀ n : Nat, n % 2 = 0 →
    (n < r ↔ (2 * n + 1) * (2 : Rat) ^ roundingExponent spec m e <
      2 * (m * 2 ^ e))
  value_lt : (m : Rat) * 2 ^ e <
    2 ^ spec.mantissaBits * 2 ^ roundingExponent spec m e
  le_value : spec.minExponent < roundingExponent spec m e →
    (2 : Rat) ^ spec.mantissaBitsWithoutImplicit *
      2 ^ roundingExponent spec m e ≤ m * 2 ^ e

/-- The bits of a number that are kept are as many as the format has. -/
theorem shiftLeft_bounds {m : Nat} (hm : 0 < m) {e : Int} {j k : Nat}
    (hsum : e - j + k = roundingExponent spec m e) :
    m <<< j < 2 ^ spec.mantissaBits * 2 ^ k ∧
      (spec.minExponent < roundingExponent spec m e →
        2 ^ spec.mantissaBitsWithoutImplicit * 2 ^ k ≤ m <<< j) := by
  have hpos := shiftLeft_pos hm j
  have hlog := log2_shiftLeft hm j
  unfold roundingExponent Format.targetExponent totalExponent at *
  unfold Format.mantissaBits at *
  constructor
  · rw [← Nat.pow_add]
    apply (Nat.log2_lt (Nat.ne_of_gt hpos)).mp
    omega
  · intro hnormal
    rw [← Nat.pow_add]
    apply (Nat.le_log2 (Nat.ne_of_gt hpos)).mp
    omega

variable (spec) in
theorem exists_rounded (sign : Sign) {m : Nat} (hm : 0 < m) (e : Int) :
    ∃ r, Rounded spec m e r ∧ UnpackedFloat.round spec sign m e =
      settle spec sign r (roundingExponent spec m e) := by
  obtain ⟨j, k, em, rest, hsum, hremembers, hround⟩ :=
    round_eq_settle spec sign hm e
  refine ⟨em.roundedMantissa, ?_, hround⟩
  obtain ⟨hbelow, habove⟩ := shiftLeft_bounds hm hsum
  have hbounds := hremembers.rounded_bounds
  have hm' := hremembers.value
  have hrest := hremembers.lt
  have hunit : (0 : Rat) < 2 ^ (e - j) := zpow_pos (by norm_num) _
  have hvalue : (m : Rat) * 2 ^ e = (m <<< j : Nat) * 2 ^ (e - j) := by
    rw [Nat.shiftLeft_eq, zpow_sub₀ (by norm_num), zpow_natCast]
    push_cast
    field_simp
  have hscale : (2 : Rat) ^ roundingExponent spec m e =
      (2 ^ k : Nat) * 2 ^ (e - j) := by
    rw [← hsum, zpow_add₀ (by norm_num), zpow_natCast]
    push_cast
    ring
  constructor
  · have hlt : em.mantissa * 2 ^ k < 2 ^ spec.mantissaBits * 2 ^ k := by omega
    have hmantissa := Nat.lt_of_mul_lt_mul_right hlt
    omega
  · intro hnormal
    have hle := habove hnormal
    have hlt : 2 ^ spec.mantissaBitsWithoutImplicit * 2 ^ k <
        (em.mantissa + 1) * 2 ^ k := by
      rw [Nat.add_mul]
      omega
    have hmantissa := Nat.lt_of_mul_lt_mul_right hlt
    omega
  · intro n heven
    rw [hremembers.lt_rounded_iff heven, hvalue, hscale, ← mul_assoc,
      ← mul_assoc, mul_lt_mul_iff_left₀ hunit]
    exact_mod_cast Iff.rfl
  · rw [hvalue, hscale, ← mul_assoc, mul_lt_mul_iff_left₀ hunit]
    exact_mod_cast hbelow
  · intro hnormal
    rw [hvalue, hscale, ← mul_assoc, mul_le_mul_iff_left₀ hunit]
    exact_mod_cast habove hnormal

/-! ## Exceeding a bound -/

/-- The number has the sign `s`, and a greater magnitude than `n * 2 ^ q`. -/
def Over (s : Sign) (n : Nat) (q : Int) : UnpackedFloat → Prop
  | .finite sign m e _ => sign = s ∧ (q < e ∨ e = q ∧ n < m)
  | .infinity _ => False
  | .zero _ => False
  | .notANumber => False

/-- The bound `n * 2 ^ q` is a normal number of the format with an even
mantissa. -/
structure IsBound (spec : Format) (n : Nat) (q : Int) : Prop where
  log2 : n.log2 = spec.mantissaBitsWithoutImplicit
  even : n % 2 = 0
  pos : 0 < n
  min : spec.minExponent ≤ q

theorem IsBound.lt {n : Nat} {q : Int} (h : IsBound spec n q) :
    n < 2 ^ spec.mantissaBits := by
  apply (Nat.log2_lt (Nat.ne_of_gt h.pos)).mp
  rw [h.log2]
  unfold Format.mantissaBits
  omega

theorem IsBound.le {n : Nat} {q : Int} (h : IsBound spec n q) :
    2 ^ spec.mantissaBitsWithoutImplicit ≤ n := by
  apply (Nat.le_log2 (Nat.ne_of_gt h.pos)).mp
  rw [h.log2]

theorem settle_over_iff {n : Nat} {q : Int} (h : IsBound spec n q)
    (s sign : Sign) {r : Nat} (hr : r ≤ 2 ^ spec.mantissaBits) {t : Int}
    (ht : spec.minExponent ≤ t) :
    Over s n q (settle spec sign r t) ↔
      sign = s ∧ (q < t ∧ 0 < r ∨ t = q ∧ n < r) := by
  have hlt := h.lt
  have hle := h.le
  rcases Nat.eq_zero_or_pos r with rfl | hpos
  · rw [settle_zero]
    simp [Over]
  · rcases Nat.lt_or_eq_of_le hr with hfits | rfl
    · rw [settle_of_lt sign hpos hfits ht]
      simp [Over, hpos]
    · rw [settle_grown sign ht]
      unfold Over
      apply and_congr_right
      intro _
      omega

/-- Rounding takes a magnitude over a bound exactly if it exceeds the bound by
more than half a unit in the last place. -/
theorem round_over_iff {n : Nat} {q : Int} (h : IsBound spec n q)
    (s sign : Sign) {m : Nat} (hm : 0 < m) (e : Int) :
    Over s n q (UnpackedFloat.round spec sign m e) ↔
      sign = s ∧ (2 * n + 1) * (2 : Rat) ^ q < 2 * (m * 2 ^ e) := by
  obtain ⟨r, hrounded, hround⟩ := exists_rounded spec sign hm e
  have hmin : spec.minExponent ≤ roundingExponent spec m e :=
    minExponent_le_targetExponent _
  have hfits := h.lt
  have hlarge := h.le
  rw [hround, settle_over_iff h s sign hrounded.le hmin]
  apply and_congr_right
  intro _
  have hunit : (0 : Rat) < 2 ^ q := zpow_pos (by norm_num) _
  have hbits : (2 : Rat) ^ spec.mantissaBits =
      2 * 2 ^ spec.mantissaBitsWithoutImplicit := by
    unfold Format.mantissaBits
    rw [Nat.add_comm, pow_succ]
    ring
  have hq := h.min
  have hgrid (a b : Int) (hab : a < b) : 2 * (2 : Rat) ^ a ≤ 2 ^ b := by
    rw [← zpow_one_add₀ (by norm_num)]
    exact zpow_le_zpow_right₀ (by norm_num) (by omega)
  rcases lt_trichotomy (roundingExponent spec m e) q with hlt | heq | hgt
  · -- the magnitude is below every normal number of that exponent
    have hnot : ¬ (2 * n + 1) * (2 : Rat) ^ q < 2 * (m * 2 ^ e) := by
      have hvalue := hrounded.value_lt
      have hstep := hgrid _ _ hlt
      have hn : (2 : Rat) ^ spec.mantissaBitsWithoutImplicit ≤ n := by
        exact_mod_cast hlarge
      have hprod := mul_le_mul hn hstep (by positivity) (by positivity)
      rw [hbits] at hvalue
      rw [not_lt]
      nlinarith
    constructor
    · omega
    · intro hexceeds
      exact absurd hexceeds hnot
  · rw [heq, hrounded.lt_iff n h.even, heq]
    simp
  · -- the magnitude is above every number of the exponent of the bound
    have hvalue := hrounded.le_value (by omega)
    have hpos := hrounded.ge (by omega)
    have hstep := hgrid _ _ hgt
    have hn : (2 * n + 1 : Rat) < 2 * 2 ^ spec.mantissaBits := by
      exact_mod_cast (show 2 * n + 1 < 2 * 2 ^ spec.mantissaBits by omega)
    have hprod : (2 : Rat) ^ spec.mantissaBitsWithoutImplicit * (2 * 2 ^ q) ≤
        2 ^ spec.mantissaBitsWithoutImplicit *
          2 ^ roundingExponent spec m e :=
      mul_le_mul_of_nonneg_left hstep (by positivity)
    have hexceeds : (2 * n + 1) * (2 : Rat) ^ q < 2 * (m * 2 ^ e) := by
      rw [hbits] at hn
      nlinarith
    have hsome : 0 < r := Nat.lt_of_lt_of_le (Nat.two_pow_pos _) hpos
    simp [hgt, hsome, hexceeds]

/-! ## The numbers that are represented -/

/-- The number with a sign and a magnitude. -/
def signed : Sign → Rat → Rat
  | .negative, x => -x
  | .positive, x => x

theorem signed_neg (s : Sign) (x : Rat) : signed (-s) x = -signed s x := by
  cases s
  · exact (neg_neg x).symm
  · rfl

theorem abs_signed (s : Sign) (x : Rat) : |signed s x| = |x| := by
  cases s
  · exact abs_neg x
  · rfl

/-- The number that a finite floating point number stands for. -/
def toRat : UnpackedFloat → Rat
  | .finite sign m e _ => signed sign (m * 2 ^ e)
  | .infinity _ => 0
  | .zero _ => 0
  | .notANumber => 0

/-- The number is not infinite and not a NaN. -/
def IsFinite : UnpackedFloat → Prop
  | .finite _ _ _ _ => True
  | .infinity _ => False
  | .zero _ => True
  | .notANumber => False

/-- A rounded number is over a bound if the exact number is, with the signs of
both. -/
theorem round_over_iff_signed {n : Nat} {q : Int} (h : IsBound spec n q)
    (s sign : Sign) {m : Nat} (hm : 0 < m) (e : Int) :
    Over s n q (UnpackedFloat.round spec sign m e) ↔
      (2 * n + 1) * (2 : Rat) ^ q < 2 * signed s (signed sign (m * 2 ^ e)) := by
  rw [round_over_iff h s sign hm e]
  have hbound : (0 : Rat) < (2 * n + 1) * 2 ^ q := by positivity
  have hmagnitude : (0 : Rat) ≤ m * 2 ^ e := by positivity
  cases s <;> cases sign <;>
    simp only [signed, neg_neg, true_and, reduceCtorEq, false_and,
      false_iff] <;> linarith

/-- An integral mantissa is normalised by rounding its magnitude. -/
theorem normalize_cases (spec : Format) (m e : Int) (zeroSign : Sign) :
    (m = 0 ∧ UnpackedFloat.normalize spec m e zeroSign = .zero zeroSign) ∨
      ∃ (sign : Sign) (k : Nat), 0 < k ∧
        (m : Rat) * 2 ^ e = signed sign (k * 2 ^ e) ∧
          UnpackedFloat.normalize spec m e zeroSign =
            UnpackedFloat.round spec sign k e := by
  unfold UnpackedFloat.normalize
  rcases lt_trichotomy m 0 with hneg | rfl | hpos
  · have hcompare : compare m 0 = .lt := compare_lt_iff_lt.mpr hneg
    have hcast : (((-m).toNat : Nat) : Rat) = -m := by
      exact_mod_cast Int.toNat_of_nonneg (show 0 ≤ -m by omega)
    refine .inr ⟨.negative, (-m).toNat, by omega, ?_, by rw [hcompare]⟩
    rw [hcast, signed, neg_mul, neg_neg]
  · exact .inl ⟨rfl, rfl⟩
  · have hcompare : compare m 0 = .gt := compare_gt_iff_gt.mpr hpos
    have hcast : ((m.toNat : Nat) : Rat) = m := by
      exact_mod_cast Int.toNat_of_nonneg (show 0 ≤ m by omega)
    refine .inr ⟨.positive, m.toNat, by omega, ?_, by rw [hcompare]⟩
    rw [hcast, signed]

theorem normalize_over_iff {n : Nat} {q : Int} (h : IsBound spec n q)
    (s : Sign) (m e : Int) (zeroSign : Sign) :
    Over s n q (UnpackedFloat.normalize spec m e zeroSign) ↔
      (2 * n + 1) * (2 : Rat) ^ q < 2 * signed s (m * 2 ^ e) := by
  have hbound : (0 : Rat) < (2 * n + 1) * 2 ^ q := by positivity
  rcases normalize_cases spec m e zeroSign with
    ⟨rfl, hzero⟩ | ⟨sign, k, hk, hvalue, hround⟩
  · rw [hzero]
    cases s <;> simp only [Over, signed, Int.cast_zero, zero_mul, neg_zero,
      mul_zero, false_iff] <;> linarith
  · rw [hround, hvalue]
    exact round_over_iff_signed h s sign hk e

/-- A number of the format is rounded to itself. -/
theorem round_canonical {sign : Sign} {m : Nat} {e : Int} {hm : 0 < m}
    (h : IsCanonical spec (.finite sign m e hm)) (sign' : Sign) :
    UnpackedFloat.round spec sign' m e = .finite sign' m e hm := by
  have hround := round_shiftLeft sign' hm h.1 0
  simpa using hround

theorem decreaseExponent_value (m : Nat) {e e' : Int} (h : e' ≤ e) :
    ((decreaseExponent m e e').1 : Rat) * 2 ^ e' = m * 2 ^ e := by
  have hamount : ((e - e').toNat : Int) = e - e' := by omega
  unfold decreaseExponent
  simp only
  rw [Nat.shiftLeft_eq]
  push_cast
  rw [← zpow_natCast, hamount, mul_assoc, ← zpow_add₀ (by norm_num)]
  congr 2
  omega

theorem apply_cast (s : Sign) (m : Nat) (u : Rat) :
    ((s.apply m : Int) : Rat) * u = signed s (m * u) := by
  cases s
  · show ((-(m : Int) : Int) : Rat) * u = -(m * u)
    push_cast
    ring
  · rfl

/-- The kinds of a number that a rounding yields within the range. -/
def InRange (spec : Format) (f : UnpackedFloat) : Prop :=
  IsFinite f ∧ IsCanonical spec f

theorem normalize_apply (sign : Sign) {m : Nat} (hm : 0 < m) (e : Int)
    (zeroSign : Sign) :
    UnpackedFloat.normalize spec (sign.apply m) e zeroSign =
      UnpackedFloat.round spec sign m e := by
  unfold UnpackedFloat.normalize
  cases sign with
  | negative =>
      have hcompare : compare (-(m : Int)) 0 = .lt :=
        compare_lt_iff_lt.mpr (by omega)
      have hmagnitude : (-(-(m : Int))).toNat = m := by omega
      simp only [Sign.apply, hcompare, hmagnitude]
  | positive =>
      have hcompare : compare (m : Int) 0 = .gt :=
        compare_gt_iff_gt.mpr (by omega)
      simp only [Sign.apply, hcompare, Int.toNat_natCast]

/-- The difference of two numbers of the format is the exact difference,
rounded. -/
theorem exists_sub_eq_normalize {x y : UnpackedFloat} (hx : InRange spec x)
    (hy : InRange spec y) :
    ∃ (m e : Int) (zeroSign : Sign),
      UnpackedFloat.sub spec x y =
        UnpackedFloat.normalize spec m e zeroSign ∧
          (m : Rat) * 2 ^ e = toRat x - toRat y := by
  cases x with
  | infinity sign => exact hx.1.elim
  | notANumber => exact hx.1.elim
  | zero sign₁ =>
      cases y with
      | infinity sign => exact hy.1.elim
      | notANumber => exact hy.1.elim
      | zero sign₂ =>
          refine ⟨0, 0, if sign₁ == -sign₂ then sign₁ else .positive, ?_, ?_⟩
          · show (if sign₁ == -sign₂ then UnpackedFloat.zero sign₁
              else .zero .positive) = .zero _
            split <;> rfl
          · simp [toRat]
      | finite sign m e hm =>
          refine ⟨(-sign).apply m, e, .positive, ?_, ?_⟩
          · rw [normalize_apply (-sign) hm, round_canonical hy.2]
            rfl
          · rw [apply_cast, signed_neg]
            simp [toRat]
  | finite sign₁ m₁ e₁ hm₁ =>
      cases y with
      | infinity sign => exact hy.1.elim
      | notANumber => exact hy.1.elim
      | zero sign₂ =>
          refine ⟨sign₁.apply m₁, e₁, .positive, ?_, ?_⟩
          · rw [normalize_apply sign₁ hm₁, round_canonical hx.2]
            rfl
          · rw [apply_cast]
            simp [toRat]
      | finite sign₂ m₂ e₂ hm₂ =>
          have hfirst := decreaseExponent_value m₁ (Int.min_le_left e₁ e₂)
          have hsecond := decreaseExponent_value m₂ (Int.min_le_right e₁ e₂)
          refine ⟨sign₁.apply (decreaseExponent m₁ e₁ (min e₁ e₂)).1 -
            sign₂.apply (decreaseExponent m₂ e₂ (min e₁ e₂)).1, min e₁ e₂,
            .positive, rfl, ?_⟩
          rw [Int.cast_sub, sub_mul, apply_cast, apply_cast, hfirst, hsecond]
          rfl

/-- The difference of two numbers is over a bound if the exact difference is
over it by more than half a unit in the last place. -/
theorem sub_over_iff {n : Nat} {q : Int} (h : IsBound spec n q) (s : Sign)
    {x y : UnpackedFloat} (hx : InRange spec x) (hy : InRange spec y) :
    Over s n q (UnpackedFloat.sub spec x y) ↔
      (2 * n + 1) * (2 : Rat) ^ q < 2 * signed s (toRat x - toRat y) := by
  obtain ⟨m, e, zeroSign, hsub, hvalue⟩ := exists_sub_eq_normalize hx hy
  rw [hsub, normalize_over_iff h, hvalue]

/-! ## Differences within the range of the format -/

variable (spec) in
/-- A magnitude below `2 ^ b` is rounded at an exponent that leaves room. -/
theorem roundingExponent_lt {m : Nat} (hm : 0 < m) {e b : Int}
    (hlt : (m : Rat) * 2 ^ e < 2 ^ b) :
    roundingExponent spec m e ≤
      max (b - spec.mantissaBits) spec.minExponent := by
  have hlog : (2 : Rat) ^ (m.log2 + e : Int) < 2 ^ b := by
    have hle : ((2 ^ m.log2 : Nat) : Rat) ≤ m := by
      exact_mod_cast Nat.log2_self_le (Nat.ne_of_gt hm)
    rw [zpow_add₀ (by norm_num), zpow_natCast]
    push_cast at hle
    have hunit : (0 : Rat) ≤ 2 ^ e := by positivity
    exact lt_of_le_of_lt (mul_le_mul_of_nonneg_right hle hunit) hlt
  have htotal := (zpow_lt_zpow_iff_right₀ (by norm_num)).mp hlog
  unfold roundingExponent Format.targetExponent totalExponent
  omega

/-- A number whose magnitude is below `2 ^ b` stays in the range when it is
rounded. -/
theorem round_inRange (sign : Sign) {m : Nat} (hm : 0 < m) {e b : Int}
    (hlt : (m : Rat) * 2 ^ e < 2 ^ b)
    (hbits : 1 < spec.exponentBits)
    (hb : b + spec.exponentBias + 1 < 2 ^ spec.exponentBits) :
    InRange spec (UnpackedFloat.round spec sign m e) := by
  obtain ⟨r, hrounded, hround⟩ := exists_rounded spec sign hm e
  have hmin : spec.minExponent ≤ roundingExponent spec m e :=
    minExponent_le_targetExponent _
  have hexponent := roundingExponent_lt spec hm hlt
  have hsmallest := minExponent_eq spec
  have hlarge : (4 : Int) ≤ 2 ^ spec.exponentBits := by
    exact_mod_cast four_le_two_pow hbits
  have hnormal := hrounded.ge
  rw [hround]
  unfold Format.mantissaBits at hexponent
  rcases Nat.eq_zero_or_pos r with rfl | hpos
  · rw [settle_zero]
    exact ⟨trivial, trivial⟩
  · rcases Nat.lt_or_eq_of_le hrounded.le with hfits | rfl
    · rw [settle_of_lt sign hpos hfits hmin]
      have hlog := (Nat.log2_lt (Nat.ne_of_gt hpos)).mpr hfits
      refine ⟨trivial, ?_, by omega⟩
      rcases Int.lt_or_eq_of_le hmin with hgt | heq
      · have hfull := (Nat.le_log2 (Nat.ne_of_gt hpos)).mpr (hnormal hgt)
        unfold Format.mantissaBits at hlog
        unfold totalExponent
        generalize roundingExponent spec m e = t at *
        unfold Format.targetExponent Format.mantissaBits
        omega
      · generalize roundingExponent spec m e = t at *
        unfold Format.targetExponent totalExponent
        omega
    · rw [settle_grown sign hmin]
      have hlog : (2 ^ spec.mantissaBitsWithoutImplicit).log2 =
          spec.mantissaBitsWithoutImplicit := Nat.log2_two_pow
      refine ⟨trivial, ?_, by omega⟩
      generalize roundingExponent spec m e = t at *
      unfold Format.targetExponent totalExponent Format.mantissaBits
      rw [hlog]
      omega

theorem normalize_inRange {m e b : Int} (hlt : |(m : Rat) * 2 ^ e| < 2 ^ b)
    (hbits : 1 < spec.exponentBits)
    (hb : b + spec.exponentBias + 1 < 2 ^ spec.exponentBits)
    (zeroSign : Sign) :
    InRange spec (UnpackedFloat.normalize spec m e zeroSign) := by
  rcases normalize_cases spec m e zeroSign with
    ⟨-, hzero⟩ | ⟨sign, k, hk, hvalue, hround⟩
  · rw [hzero]
    exact ⟨trivial, trivial⟩
  · have hmagnitude : (0 : Rat) ≤ k * 2 ^ e := by positivity
    rw [hvalue, abs_signed, abs_of_nonneg hmagnitude] at hlt
    rw [hround]
    exact round_inRange sign hk hlt hbits hb

/-- The difference of two numbers that is below `2 ^ b` is in the range. -/
theorem sub_inRange {x y : UnpackedFloat} (hx : InRange spec x)
    (hy : InRange spec y) {b : Int} (hlt : |toRat x - toRat y| < 2 ^ b)
    (hbits : 1 < spec.exponentBits)
    (hb : b + spec.exponentBias + 1 < 2 ^ spec.exponentBits) :
    InRange spec (UnpackedFloat.sub spec x y) := by
  obtain ⟨m, e, zeroSign, hsub, hvalue⟩ := exists_sub_eq_normalize hx hy
  rw [hsub]
  rw [← hvalue] at hlt
  exact normalize_inRange hlt hbits hb zeroSign

/-! ## Comparisons with a bound -/

/-- A bound is below the numbers that are over it. -/
theorem lt_iff_over {n : Nat} {q : Int} {hn : 0 < n} {f : UnpackedFloat}
    (hf : IsFinite f) :
    UnpackedFloat.lt (.finite .positive n q hn) f = true ↔
      Over .positive n q f := by
  cases f with
  | infinity sign => exact hf.elim
  | notANumber => exact hf.elim
  | zero sign => simp [UnpackedFloat.lt, UnpackedFloat.compare, Over]
  | finite sign m e hm =>
      cases sign with
      | negative => simp [UnpackedFloat.lt, UnpackedFloat.compare, Over]
      | positive =>
          simp only [UnpackedFloat.lt, UnpackedFloat.compare, Over, beq_iff_eq,
            Option.some.injEq, Ordering.then_eq_lt, compare_lt_iff_lt,
            compare_eq_iff_eq, true_and]
          omega

theorem gt_iff_over {n : Nat} {q : Int} {hn : 0 < n} {f : UnpackedFloat}
    (hf : IsFinite f) :
    UnpackedFloat.lt f (.finite .negative n q hn) = true ↔
      Over .negative n q f := by
  cases f with
  | infinity sign => exact hf.elim
  | notANumber => exact hf.elim
  | zero sign => simp [UnpackedFloat.lt, UnpackedFloat.compare, Over]
  | finite sign m e hm =>
      cases sign with
      | negative =>
          simp only [UnpackedFloat.lt, UnpackedFloat.compare, Over, beq_iff_eq,
            Option.some.injEq, Ordering.swap_eq_lt, Ordering.then_eq_gt,
            compare_gt_iff_gt, compare_eq_iff_eq, true_and]
      | positive => simp [UnpackedFloat.lt, UnpackedFloat.compare, Over]

/-- What lies between two bounds of the same magnitude is a number, and smaller
than the next power of two. -/
theorem abs_toRat_lt {n : Nat} {q : Int} {hn : 0 < n} {f : UnpackedFloat}
    (hf : IsCanonical spec f)
    (hlower : UnpackedFloat.le (.finite .negative n q hn) f = true)
    (hupper : UnpackedFloat.le f (.finite .positive n q hn) = true) :
    InRange spec f ∧ |toRat f| < 2 ^ (q + spec.mantissaBits) := by
  cases f with
  | infinity sign =>
      cases sign <;> simp [UnpackedFloat.le, UnpackedFloat.compare] at *
  | notANumber => simp [UnpackedFloat.le, UnpackedFloat.compare] at hupper
  | zero sign =>
      refine ⟨⟨trivial, hf⟩, ?_⟩
      simp only [toRat, abs_zero]
      positivity
  | finite sign m e hm =>
      refine ⟨⟨trivial, hf⟩, ?_⟩
      have hexponent : e ≤ q := by
        by_contra hgreater
        have hlt : compare q e = .lt := compare_lt_iff_lt.mpr (by omega)
        have hgt : compare e q = .gt := compare_gt_iff_gt.mpr (by omega)
        cases sign
        · simp [UnpackedFloat.le, UnpackedFloat.compare, hlt] at hlower
        · simp [UnpackedFloat.le, UnpackedFloat.compare, hgt] at hupper
      have hlog : m.log2 < spec.mantissaBits := by
        have htarget := hf.1
        unfold Format.targetExponent totalExponent at htarget
        omega
      have hfits : (m : Rat) < 2 ^ spec.mantissaBits := by
        exact_mod_cast (Nat.log2_lt (Nat.ne_of_gt hm)).mp hlog
      have hmagnitude : |toRat (.finite sign m e hm)| = m * 2 ^ e := by
        have hnonneg : (0 : Rat) ≤ m * 2 ^ e := by positivity
        exact (abs_signed sign _).trans (abs_of_nonneg hnonneg)
      have hunit : (2 : Rat) ^ e ≤ 2 ^ q :=
        zpow_le_zpow_right₀ (by norm_num) hexponent
      have hpos : (0 : Rat) < 2 ^ q := by positivity
      rw [hmagnitude, add_comm q, zpow_add₀ (by norm_num), zpow_natCast]
      calc (m : Rat) * 2 ^ e ≤ m * 2 ^ q :=
            mul_le_mul_of_nonneg_left hunit (by positivity)
        _ < 2 ^ spec.mantissaBits * 2 ^ q :=
            mul_lt_mul_of_pos_right hfits hpos

/-! ## The numbers of the language -/

/-- The number that a `double` stands for. -/
def exact (x : Float) : Rat := toRat x.toModel.unpack

/-- The `double` that is `n * 2 ^ q`. -/
structure Bounds (bound : Float) (n : Nat) (q : Int) : Prop where
  isBound : IsBound .binary64 n q
  unpack : bound.toModel.unpack = .finite .positive n q isBound.pos
  unpack_neg : (-bound).toModel.unpack = .finite .negative n q isBound.pos
  small : q < 900

variable {bound x y : Float} {n : Nat} {q : Int}

theorem Bounds.inRange (h : Bounds bound n q) (hlower : -bound ≤ x)
    (hupper : x ≤ bound) :
    InRange .binary64 x.toModel.unpack ∧ |exact x| < 2 ^ (q + 53) := by
  have hlower' : UnpackedFloat.le (-bound).toModel.unpack x.toModel.unpack =
      true := of_decide_eq_true hlower
  have hupper' : UnpackedFloat.le x.toModel.unpack bound.toModel.unpack =
      true := of_decide_eq_true hupper
  rw [h.unpack_neg] at hlower'
  rw [h.unpack] at hupper'
  exact abs_toRat_lt (isCanonical_unpack (by decide) _) hlower' hupper'

/-- A computed difference exceeds a bound in its magnitude exactly if the exact
one exceeds it by more than half a unit in the last place. -/
theorem Bounds.sub_between_iff (h : Bounds bound n q) {limit : Float}
    {k : Nat} {p : Int} (hlimit : Bounds limit k p)
    (hx : -limit ≤ x ∧ x ≤ limit) (hy : -limit ≤ y ∧ y ≤ limit) :
    (¬ x - y < -bound ∧ ¬ bound < x - y) ↔
      |exact x - exact y| ≤ n * 2 ^ q + 2 ^ q / 2 := by
  obtain ⟨hrangeX, hsizeX⟩ := hlimit.inRange hx.1 hx.2
  obtain ⟨hrangeY, hsizeY⟩ := hlimit.inRange hy.1 hy.2
  have hdouble : (2 : Rat) ^ (p + 54) = 2 ^ (p + 53) + 2 ^ (p + 53) := by
    rw [show p + 54 = (p + 53) + 1 by omega, zpow_add_one₀ (by norm_num)]
    ring
  have hsize : |toRat x.toModel.unpack - toRat y.toModel.unpack| <
      2 ^ (p + 54) := by
    have htriangle := abs_sub (exact x) (exact y)
    unfold exact at *
    linarith
  have hrange : InRange .binary64
      (UnpackedFloat.sub .binary64 x.toModel.unpack y.toModel.unpack) := by
    apply sub_inRange hrangeX hrangeY hsize (by decide)
    have hsmall := hlimit.small
    have hbias : (Format.exponentBias .binary64 : Int) = 1023 := rfl
    show p + 54 + (Format.exponentBias .binary64 : Int) + 1 < 2048
    omega
  have hunpack : (x - y).toModel.unpack =
      UnpackedFloat.sub .binary64 x.toModel.unpack y.toModel.unpack :=
    @unpack_pack .binary64 (by decide) _ hrange.2
  have hbelow : x - y < -bound ↔ UnpackedFloat.lt (x - y).toModel.unpack
      (-bound).toModel.unpack = true := decide_eq_true_iff
  have habove : bound < x - y ↔ UnpackedFloat.lt bound.toModel.unpack
      (x - y).toModel.unpack = true := decide_eq_true_iff
  rw [hbelow, habove, hunpack, h.unpack, h.unpack_neg, lt_iff_over hrange.1,
    gt_iff_over hrange.1, sub_over_iff h.isBound _ hrangeX hrangeY,
    sub_over_iff h.isBound _ hrangeX hrangeY, abs_le]
  simp only [signed, not_lt]
  unfold exact
  constructor
  · rintro ⟨hlow, hhigh⟩
    constructor <;> linarith
  · rintro ⟨hlow, hhigh⟩
    constructor <;> linarith

end LocationService.Library.FloatFormat
