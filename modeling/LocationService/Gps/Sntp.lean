import Mathlib.Algebra.Order.Field.Rat
import Mathlib.Data.Rat.Cast.Order
import Mathlib.Tactic.NormNum
import Mathlib.Tactic.Positivity
import Mathlib.Tactic.Ring

/-!
# Time stamps of the network time client

`sntp::Timestamp` counts the seconds since 1900 in 32 bits and the fraction of
a second in units of `2⁻³²` seconds in another 32.  The conversions from and to
milliseconds since 1970 are modelled with the integer types of the code: counts
of a `std::chrono` duration are 64 bits wide and hold every number that occurs
here, a product of the fraction is formed in 32 bits, and a store into one of
the two fields keeps the low 32 bits.
-/

namespace LocationService.Gps.Sntp

/-- The number of seconds that elapsed between 1900 and 1970. -/
def offset1900To1970 : Int := ((365 * 70) + 17) * 24 * 60 * 60

/-- `std::numeric_limits<std::uint32_t>::max()`. -/
def fractionalSecondsMax : UInt32 := 4294967295

/-- A fixed-point time stamp relative to 01.01.1900. -/
structure Timestamp where
  seconds : UInt32
  fractionalSeconds : UInt32
  deriving DecidableEq, Repr

namespace Timestamp

/-- `from_milliseconds_since_epoch`. -/
def fromMillisecondsSinceEpoch (ts : Int) : Timestamp :=
  let secs := ts.tdiv 1000
  let msecs := ts - secs * 1000
  let secs := secs + offset1900To1970
  { seconds := UInt32.ofInt secs
    -- the division binds closer than the sum and yields zero
    fractionalSeconds :=
      UInt32.ofInt (msecs * fractionalSecondsMax.toNat + 1 / 1000) }

/-- `to_milliseconds_since_epoch`. -/
def toMillisecondsSinceEpoch (t : Timestamp) : Int :=
  (t.seconds.toNat - offset1900To1970) * 1000 +
    ((t.fractionalSeconds * 1000) / fractionalSecondsMax).toNat

/-- The instant a time stamp of the wire format stands for, in milliseconds
since 1970. -/
def instant (t : Timestamp) : Rat :=
  1000 * ((t.seconds.toNat : Rat) - offset1900To1970) +
    1000 * t.fractionalSeconds.toNat / 2 ^ 32

/-- The order of the instants: by the seconds, then by the fraction. -/
def NotAfter (t u : Timestamp) : Prop :=
  t.seconds < u.seconds ∨
    t.seconds = u.seconds ∧ t.fractionalSeconds ≤ u.fractionalSeconds

/-! ## What the fraction contributes -/

/-- The product keeps its low 32 bits only.  It is even and never reaches the
largest number, so the fraction is lost. -/
theorem fraction_lost (f : UInt32) : (f * 1000) / fractionalSecondsMax = 0 := by
  have hmod : (f * 1000).toNat = f.toNat * 1000 % 2 ^ 32 := by
    rw [UInt32.toNat_mul]
    rfl
  have hmax : fractionalSecondsMax.toNat = 4294967295 := rfl
  have hbelow : (f * 1000).toNat < fractionalSecondsMax.toNat := by omega
  apply UInt32.toNat_inj.mp
  rw [UInt32.toNat_div, Nat.div_eq_of_lt hbelow]
  rfl

/-- Only the seconds of a time stamp are decoded. -/
theorem toMillisecondsSinceEpoch_eq (t : Timestamp) :
    t.toMillisecondsSinceEpoch =
      1000 * (t.seconds.toNat - offset1900To1970) := by
  unfold toMillisecondsSinceEpoch
  rw [fraction_lost]
  simp only [UInt32.toNat_zero, Int.natCast_zero]
  ring

/-- The decoded time falls behind the instant by the whole fraction. -/
theorem instant_sub_toMillisecondsSinceEpoch (t : Timestamp) :
    t.instant - t.toMillisecondsSinceEpoch =
      1000 * t.fractionalSeconds.toNat / 2 ^ 32 := by
  rw [toMillisecondsSinceEpoch_eq]
  unfold instant
  push_cast
  ring

/-! ## Decoding -/

/-- Decoding lands within one millisecond of the instant for the small
fractions only, but keeps the order of time stamps. -/
theorem toMillisecondsSinceEpoch_exact (t : Timestamp) :
    (|(t.toMillisecondsSinceEpoch : Rat) - t.instant| ≤ 1 ↔
      t.fractionalSeconds.toNat ≤ 4294967) ∧
    ∀ u : Timestamp, t.NotAfter u →
      t.toMillisecondsSinceEpoch ≤ u.toMillisecondsSinceEpoch := by
  constructor
  · have hnonneg : (0 : Rat) ≤ 1000 * t.fractionalSeconds.toNat / 2 ^ 32 := by
      positivity
    rw [abs_sub_comm, instant_sub_toMillisecondsSinceEpoch,
      abs_of_nonneg hnonneg, div_le_one (by norm_num)]
    have hcast : (1000 : Rat) * t.fractionalSeconds.toNat ≤ 2 ^ 32 ↔
        1000 * t.fractionalSeconds.toNat ≤ 2 ^ 32 := by
      exact_mod_cast Iff.rfl
    rw [hcast]
    omega
  · intro u h
    have hseconds : t.seconds.toNat ≤ u.seconds.toNat := by
      rcases h with hlt | ⟨heq, _⟩
      · exact Nat.le_of_lt (UInt32.lt_iff_toNat_lt.mp hlt)
      · rw [heq]
    rw [toMillisecondsSinceEpoch_eq, toMillisecondsSinceEpoch_eq]
    omega

/-- Half a second is lost. -/
theorem toMillisecondsSinceEpoch_half_second :
    ¬ ((∀ t : Timestamp,
        |(t.toMillisecondsSinceEpoch : Rat) - t.instant| ≤ 1) ∧
      ∀ t u : Timestamp, t.NotAfter u →
        t.toMillisecondsSinceEpoch ≤ u.toMillisecondsSinceEpoch) := by
  intro h
  have hhalf := h.1 ⟨2208988800, 2147483648⟩
  have hlost : (1000 : Rat) * (2147483648 : UInt32).toNat / 2 ^ 32 = 500 := by
    norm_num [show (2147483648 : UInt32).toNat = 2147483648 from rfl]
  rw [abs_sub_comm, instant_sub_toMillisecondsSinceEpoch, hlost] at hhalf
  norm_num at hhalf

/-! ## Round trip -/

/-- The seconds survive the way through a time stamp. -/
theorem fromMillisecondsSinceEpoch_seconds {ts : Int} (hpos : 0 ≤ ts)
    (hfits : ts / 1000 + offset1900To1970 < 2 ^ 32) :
    ((fromMillisecondsSinceEpoch ts).seconds.toNat : Int) =
      ts / 1000 + offset1900To1970 := by
  have hoffset : 0 ≤ offset1900To1970 := by decide
  have hdiv : ts.tdiv 1000 = ts / 1000 := Int.tdiv_eq_ediv_of_nonneg hpos
  have hstored : (fromMillisecondsSinceEpoch ts).seconds.toNat =
      ((ts / 1000 + offset1900To1970) % 2 ^ 32).toNat % 2 ^ 32 := by
    unfold fromMillisecondsSinceEpoch
    rw [hdiv]
    exact UInt32.toNat_ofNat'
  omega

/-- A time comes back to within one millisecond exactly if it lies no more than
one millisecond after a full second. -/
theorem roundTrip_iff {ts : Int} (hpos : 0 ≤ ts)
    (hfits : ts / 1000 + offset1900To1970 < 2 ^ 32) :
    |(fromMillisecondsSinceEpoch ts).toMillisecondsSinceEpoch - ts| ≤ 1 ↔
      ts % 1000 ≤ 1 := by
  have hback : (fromMillisecondsSinceEpoch ts).toMillisecondsSinceEpoch =
      1000 * (ts / 1000) := by
    rw [toMillisecondsSinceEpoch_eq,
      fromMillisecondsSinceEpoch_seconds hpos hfits]
    ring
  rw [hback, abs_le]
  omega

theorem roundTrip_iff_at_first_millisecond :
    |(fromMillisecondsSinceEpoch 1001).toMillisecondsSinceEpoch - 1001| ≤ 1 :=
  (roundTrip_iff (by decide) (by decide)).mpr (by decide)

/-- Half a second after the epoch comes back as the epoch itself. -/
theorem roundTrip_fails_at_half_second :
    ¬ ∀ ts : Int, 0 ≤ ts → ts / 1000 + offset1900To1970 < 2 ^ 32 →
      |(fromMillisecondsSinceEpoch ts).toMillisecondsSinceEpoch - ts| ≤ 1 := by
  intro h
  have hhalf := h 500 (by decide) (by decide)
  revert hhalf
  decide

end Timestamp

end LocationService.Gps.Sntp
