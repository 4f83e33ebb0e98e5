import LocationService.Gps.Sntp
import LocationService.Library.ClockOffset
import Mathlib.Algebra.Order.Floor.Ring
import Mathlib.Data.Rat.Floor

/-!
# The reference time of the chip

`sntp::Client::request_time` sends its own time to a server, gets back when the
server received the request and when it answered, and estimates how far the
clock of the server is ahead.  `SntpReferenceTimeSource` hands the result on as
a reference time with its uncertainty, and the hardware abstraction layer
injects it when the chip asks for the time and is able to take it.

The conversions from the time stamps of the packet keep their seconds only
(`Timestamp.toMillisecondsSinceEpoch_eq`), which costs up to a second each.

Three clocks of the device are read on the way.  What is said about the error
holds if they advance together meanwhile (`DeviceClocks.AdvanceTogether`): a
system clock that is set or a device that is suspended in between spoils the
estimate.

## Main results

* `injected_time_lt_timeout` — how far a time that is injected is off, whatever
  the network did.
* `injected_time_lt_uncertainty` — how far it is off in terms of the uncertainty
  it is injected with, which alone is no bound.
-/

namespace LocationService.Gps.Sntp

open Library

/-- `Now`: the system clock, which is cut to milliseconds, and the time since
boot, both in nanoseconds. -/
structure Now where
  time : Int
  ticks : Int

/-- The time stamps of an `sntp::Packet` that are read. -/
structure Packet where
  originate : Timestamp
  receive : Timestamp
  transmit : Timestamp

/-- `ReferenceTimeSample`, in milliseconds. -/
structure ReferenceTimeSample where
  sinceEpoch : Int
  sinceBoot : Int
  uncertainty : Int
  deriving DecidableEq

/-- The end of `Client::request_time`, with its result as
`SntpReferenceTimeSource::sample` hands it on. -/
def Packet.toSample (packet : Packet) (before after : Now) :
    ReferenceTimeSample :=
  let originate := packet.originate.toMillisecondsSinceEpoch
  let receive := packet.receive.toMillisecondsSinceEpoch
  let transmit := packet.transmit.toMillisecondsSinceEpoch
  let rtt := after.ticks - before.ticks - (transmit - receive) * 1000000
  let offset :=
    ((receive - originate) * 1000000 + (transmit * 1000000 - after.time)).tdiv 2
  { sinceEpoch := (after.time + offset).tdiv 1000000
    sinceBoot := after.ticks.tdiv 1000000
    uncertainty := rtt.tdiv 1000000 }

/-- The clocks of the device, in milliseconds, by the moment. -/
structure DeviceClocks where
  /-- `std::chrono::steady_clock`, for the deadline. -/
  steady : Rat → Rat
  /-- `std::chrono::system_clock`, since the epoch. -/
  system : Rat → Rat
  /-- `time_since_boot`, which reads `CLOCK_BOOTTIME`. -/
  bootTime : Rat → Rat
  steady_mono : Monotone steady

/-- The moments of a request, in milliseconds. -/
structure Moments where
  /-- The timer is set. -/
  armed : Rat
  /-- The name of the host is resolved. -/
  resolved : Rat
  /-- `before` is read. -/
  before : Rat
  /-- The deadline is checked before the request. -/
  connected : Rat
  /-- The request gets its time stamp. -/
  sent : Rat
  /-- The deadline is checked after the answer. -/
  answered : Rat
  /-- `after` reads the system clock. -/
  time : Rat
  /-- `after` reads the time since boot. -/
  ticks : Rat
  armed_le : armed ≤ resolved
  resolved_le : resolved ≤ before
  before_le : before ≤ connected
  connected_le : connected ≤ sent
  sent_le : sent ≤ answered
  answered_le : answered ≤ time
  time_le : time ≤ ticks

/-- A request during which no time passes. -/
def Moments.still (moment : Rat) : Moments :=
  ⟨moment, moment, moment, moment, moment, moment, moment, moment,
    le_rfl, le_rfl, le_rfl, le_rfl, le_rfl, le_rfl, le_rfl⟩

/-- What `Now` reads at two moments. -/
def Now.read (clocks : DeviceClocks) (time ticks : Rat) : Now :=
  { time := ⌊clocks.system time⌋ * 1000000
    ticks := ⌊clocks.bootTime ticks * 1000000⌋ }

/-- `SntpReferenceTimeSource::sample`; `none` when it throws.  The answer is
`none` when resolving the host, connecting to it or one of the transfers
fails. -/
def sample (timeout : Int) (clocks : DeviceClocks) (m : Moments)
    (answer : Option Packet) : Option ReferenceTimeSample :=
  let expiry := clocks.steady m.armed + timeout
  if expiry ≤ clocks.steady m.resolved then none
  else if expiry ≤ clocks.steady m.connected then none
  else
    match answer with
    | none => none
    | some packet =>
        if expiry ≤ clocks.steady m.answered then none
        else
          some (packet.toSample (.read clocks m.before m.before)
            (.read clocks m.time m.ticks))

/-- `on_request_utc_time` and `inject_reference_time`: what the chip is told,
if it is capable of time injection on demand. -/
def onRequestUtcTime (onDemandTimeInjection : Bool) (timeout : Int)
    (clocks : DeviceClocks) (m : Moments) (answer : Option Packet) :
    Option ReferenceTimeSample :=
  match sample timeout clocks m answer with
  | none => none
  | some s => if onDemandTimeInjection then some s else none

/-- A server whose clock is ahead of the system clock by some milliseconds sent
the packet: it has the time stamp of the request, and the clock of the server
at two moments between sending the request and having its answer. -/
structure Answers (ahead : Rat) (clocks : DeviceClocks) (m : Moments)
    (packet : Packet) : Prop where
  originate : packet.originate =
    Timestamp.fromMillisecondsSinceEpoch ⌊clocks.system m.sent⌋
  received : clocks.system m.sent + ahead ≤ packet.receive.instant
  served : packet.receive.instant ≤ packet.transmit.instant
  returned : packet.transmit.instant ≤ clocks.system m.answered + ahead

/-- How far a sample is off: its times say how far the clock of the server is
ahead of the time since boot. -/
def ReferenceTimeSample.error (s : ReferenceTimeSample) (clocks : DeviceClocks)
    (ahead moment : Rat) : Rat :=
  (s.sinceEpoch - s.sinceBoot) -
    (clocks.system moment + ahead - clocks.bootTime moment)

/-- A clock advances as time does. -/
def Advances (clock : Rat → Rat) (start stop : Rat) : Prop :=
  ∀ t, start ≤ t → t ≤ stop → clock t - clock start = t - start

theorem Advances.sub {clock : Rat → Rat} {start stop t u : Rat}
    (h : Advances clock start stop) (ht : start ≤ t) (htu : t ≤ u)
    (hu : u ≤ stop) : clock u - clock t = u - t := by
  linarith [h t ht (htu.trans hu), h u (ht.trans htu) hu]

/-- During a request no clock is set, and the device is not suspended, which only
the time since boot would count. -/
structure DeviceClocks.AdvanceTogether (clocks : DeviceClocks) (m : Moments) :
    Prop where
  steady : Advances clocks.steady m.armed m.ticks
  system : Advances clocks.system m.armed m.ticks
  bootTime : Advances clocks.bootTime m.armed m.ticks

/-! ## What the readings are off -/

/-- A decoded time stamp falls behind by less than a second. -/
theorem Timestamp.toMillisecondsSinceEpoch_bounds (t : Timestamp) :
    t.instant - 1000 < t.toMillisecondsSinceEpoch ∧
      (t.toMillisecondsSinceEpoch : Rat) ≤ t.instant := by
  have hlost := t.instant_sub_toMillisecondsSinceEpoch
  have hbelow : (t.fractionalSeconds.toNat : Rat) < 2 ^ 32 := by
    exact_mod_cast t.fractionalSeconds.toNat_lt
  have hlow : (0 : Rat) ≤ 1000 * t.fractionalSeconds.toNat / 2 ^ 32 := by
    positivity
  have hhigh : (1000 : Rat) * t.fractionalSeconds.toNat / 2 ^ 32 < 1000 := by
    rw [div_lt_iff₀ (by positivity)]
    linarith
  constructor
  · linarith
  · linarith

/-- So does the time stamp of a request. -/
theorem Timestamp.originate_bounds {sent : Rat} (hpos : 0 ≤ sent)
    (hera : ⌊sent⌋ / 1000 + offset1900To1970 < 2 ^ 32) :
    let originate := (fromMillisecondsSinceEpoch ⌊sent⌋).toMillisecondsSinceEpoch
    sent - 1000 < originate ∧ (originate : Rat) ≤ sent := by
  have hback : (fromMillisecondsSinceEpoch ⌊sent⌋).toMillisecondsSinceEpoch =
      1000 * (⌊sent⌋ / 1000) := by
    rw [toMillisecondsSinceEpoch_eq,
      fromMillisecondsSinceEpoch_seconds (Int.floor_nonneg.mpr hpos) hera]
    ring
  have hcut : 1000 * (⌊sent⌋ / 1000) ≤ ⌊sent⌋ ∧
      ⌊sent⌋ + 1 ≤ 1000 * (⌊sent⌋ / 1000) + 1000 := by
    omega
  have hlow : ((1000 * (⌊sent⌋ / 1000) : Int) : Rat) ≤ ⌊sent⌋ := by
    exact_mod_cast hcut.1
  have hhigh : ((⌊sent⌋ : Rat) + 1) ≤
      ((1000 * (⌊sent⌋ / 1000) : Int) : Rat) + 1000 := by
    exact_mod_cast hcut.2
  have hfloor := Int.floor_le sent
  have hceil := Int.lt_floor_add_one sent
  dsimp only
  rw [hback]
  constructor
  · linarith
  · linarith

/-! ## What a sample is off -/

section Sample

variable {packet : Packet} {m : Moments} {clocks : DeviceClocks} {ahead : Rat}

/-- The time of a sample is the time of the system clock and the estimate of how
far the server is ahead, cut to milliseconds. -/
theorem Packet.abs_toSample_sinceEpoch_sub_lt (packet : Packet)
    (before : Now) (clocks : DeviceClocks) (time ticks : Rat) :
    let s := packet.toSample before (.read clocks time ticks)
    |(s.sinceEpoch : Rat) - (⌊clocks.system time⌋ +
      offsetEstimate (packet.originate.toMillisecondsSinceEpoch : Rat)
        packet.receive.toMillisecondsSinceEpoch
        packet.transmit.toMillisecondsSinceEpoch ⌊clocks.system time⌋)| <
          1 + 1 / 1000000 := by
  dsimp only [Packet.toSample, Now.read]
  generalize clocks.system time = time
  generalize packet.originate.toMillisecondsSinceEpoch = originate
  generalize packet.receive.toMillisecondsSinceEpoch = receive
  generalize packet.transmit.toMillisecondsSinceEpoch = transmit
  generalize hn : (receive - originate) * 1000000 +
    (transmit * 1000000 - ⌊time⌋ * 1000000) = n
  have hoffset := abs_tdiv_sub_lt (K := Rat) n (d := 2) (by decide)
  have hsum := abs_tdiv_sub_lt (K := Rat)
    (⌊time⌋ * 1000000 + n.tdiv 2) (d := 1000000) (by decide)
  have hn' : (n : Rat) = ((receive : Rat) - originate) * 1000000 +
      (transmit * 1000000 - ⌊time⌋ * 1000000) := by
    rw [← hn]
    push_cast
    ring
  rw [hn'] at hoffset
  push_cast at hsum hoffset
  unfold offsetEstimate
  rw [abs_lt] at hoffset hsum ⊢
  constructor
  · linarith
  · linarith

/-- The time since boot is cut to milliseconds. -/
theorem Packet.toSample_sinceBoot_bounds (packet : Packet) (before : Now)
    {ticks : Rat} (time : Rat) (hboot : 0 ≤ clocks.bootTime ticks) :
    let s := packet.toSample before (.read clocks time ticks)
    (s.sinceBoot : Rat) ≤ clocks.bootTime ticks ∧
      clocks.bootTime ticks < s.sinceBoot + 2 := by
  dsimp only [Packet.toSample, Now.read]
  generalize clocks.bootTime ticks = since at hboot ⊢
  have hpos : 0 ≤ ⌊since * 1000000⌋ := by
    rw [Int.floor_nonneg]
    linarith
  rw [Int.tdiv_eq_ediv_of_nonneg hpos]
  generalize hn : ⌊since * 1000000⌋ = n
  have hfloor := Int.floor_le (since * 1000000)
  have hceil := Int.lt_floor_add_one (since * 1000000)
  rw [hn] at hfloor hceil
  have hcut : n / 1000000 * 1000000 ≤ n ∧
      n + 1 ≤ n / 1000000 * 1000000 + 1000000 := by
    omega
  have hlow : ((n / 1000000 : Int) : Rat) * 1000000 ≤ n := by
    exact_mod_cast hcut.1
  have hhigh : (n : Rat) + 1 ≤ ((n / 1000000 : Int) : Rat) * 1000000 + 1000000 := by
    exact_mod_cast hcut.2
  constructor
  · linarith
  · linarith

/-- What the system clock shows between the moments of a request. -/
theorem DeviceClocks.AdvanceTogether.system_sub
    (h : clocks.AdvanceTogether m) :
    clocks.system m.answered - clocks.system m.sent = m.answered - m.sent ∧
      clocks.system m.time - clocks.system m.answered = m.time - m.answered ∧
      clocks.system m.ticks - clocks.system m.time = m.ticks - m.time := by
  have hsent : m.armed ≤ m.sent := by
    linarith [m.armed_le, m.resolved_le, m.before_le, m.connected_le]
  have hanswered := hsent.trans m.sent_le
  have hticks := m.answered_le.trans m.time_le
  refine ⟨?_, ?_, ?_⟩
  · exact h.system.sub hsent m.sent_le hticks
  · exact h.system.sub hanswered m.answered_le m.time_le
  · exact h.system.sub (hanswered.trans m.answered_le) m.time_le le_rfl

/-- How far a sample is off, by how long the packets were under way. -/
theorem Answers.error_bounds (h : Answers ahead clocks m packet)
    (htogether : clocks.AdvanceTogether m) (hpos : 0 ≤ clocks.system m.sent)
    (hera : ⌊clocks.system m.sent⌋ / 1000 + offset1900To1970 < 2 ^ 32)
    (hboot : 0 ≤ clocks.bootTime m.ticks) :
    let s := packet.toSample (.read clocks m.before m.before)
      (.read clocks m.time m.ticks)
    let trip := roundTrip (clocks.system m.sent) packet.receive.instant
      packet.transmit.instant (clocks.system m.time)
    s.error clocks ahead m.ticks < trip / 2 + 504 ∧
      -s.error clocks ahead m.ticks < trip / 2 + 1002 + (m.ticks - m.time) := by
  dsimp only
  obtain ⟨-, hanswered, hticks⟩ := htogether.system_sub
  have hepoch := packet.abs_toSample_sinceEpoch_sub_lt
    (.read clocks m.before m.before) clocks m.time m.ticks
  have hsince := packet.toSample_sinceBoot_bounds
    (.read clocks m.before m.before) m.time hboot
  have hreturned : packet.transmit.instant ≤ clocks.system m.time + ahead := by
    linarith [h.returned, m.answered_le]
  have hmid := abs_offsetEstimate_sub_le h.received hreturned
  have horiginate := Timestamp.originate_bounds hpos hera
  have hreceive := packet.receive.toMillisecondsSinceEpoch_bounds
  have htransmit := packet.transmit.toMillisecondsSinceEpoch_bounds
  have hfloor := Int.floor_le (clocks.system m.time)
  have hceil := Int.lt_floor_add_one (clocks.system m.time)
  rw [← h.originate] at horiginate
  unfold ReferenceTimeSample.error
  dsimp only at hepoch hsince horiginate
  unfold offsetEstimate at hepoch hmid
  rw [abs_lt] at hepoch
  rw [abs_le] at hmid
  constructor
  · linarith [m.time_le]
  · linarith

/-- The uncertainty is the time the packets were under way, with the time the
client itself took, to within a second. -/
theorem Packet.abs_toSample_uncertainty_sub_lt (packet : Packet) (m : Moments)
    (clocks : DeviceClocks) :
    let s := packet.toSample (.read clocks m.before m.before)
      (.read clocks m.time m.ticks)
    |(s.uncertainty : Rat) - roundTrip (clocks.bootTime m.before)
      packet.receive.instant packet.transmit.instant
        (clocks.bootTime m.ticks)| < 1002 := by
  dsimp only [Packet.toSample, Now.read]
  have hreceive := packet.receive.toMillisecondsSinceEpoch_bounds
  have htransmit := packet.transmit.toMillisecondsSinceEpoch_bounds
  generalize packet.receive.toMillisecondsSinceEpoch = receive at *
  generalize packet.transmit.toMillisecondsSinceEpoch = transmit at *
  generalize clocks.bootTime m.ticks = ticks
  generalize clocks.bootTime m.before = before
  generalize hn : ⌊ticks * 1000000⌋ - ⌊before * 1000000⌋ -
    (transmit - receive) * 1000000 = n
  have hn' : (n : Rat) = (⌊ticks * 1000000⌋ : Rat) - ⌊before * 1000000⌋ -
      (transmit - receive) * 1000000 := by
    rw [← hn]
    push_cast
    ring
  have hcut := abs_tdiv_sub_lt (K := Rat) n (d := 1000000) (by decide)
  have hfloor := Int.floor_le (ticks * 1000000)
  have hceil := Int.lt_floor_add_one (ticks * 1000000)
  have hfloor' := Int.floor_le (before * 1000000)
  have hceil' := Int.lt_floor_add_one (before * 1000000)
  rw [hn'] at hcut
  push_cast at hcut
  unfold roundTrip
  rw [abs_lt] at hcut ⊢
  constructor
  · linarith
  · linarith

/-- A time is injected only if the chip takes it, the server answered and the
deadline had not passed when it did. -/
theorem onRequestUtcTime_eq_some_iff {onDemandTimeInjection : Bool}
    {timeout : Int} {answer : Option Packet} {s : ReferenceTimeSample} :
    onRequestUtcTime onDemandTimeInjection timeout clocks m answer = some s ↔
      onDemandTimeInjection = true ∧
        clocks.steady m.answered < clocks.steady m.armed + timeout ∧
        ∃ packet, answer = some packet ∧
          packet.toSample (.read clocks m.before m.before)
            (.read clocks m.time m.ticks) = s := by
  have hconnected : clocks.steady m.connected ≤ clocks.steady m.answered :=
    clocks.steady_mono (m.connected_le.trans m.sent_le)
  have hresolved : clocks.steady m.resolved ≤ clocks.steady m.answered :=
    (clocks.steady_mono (m.resolved_le.trans m.before_le)).trans hconnected
  unfold onRequestUtcTime sample
  dsimp only
  by_cases hexpired : clocks.steady m.armed + timeout ≤ clocks.steady m.answered
  · have hnone : ¬ clocks.steady m.answered < clocks.steady m.armed + timeout :=
      not_lt.mpr hexpired
    simp only [hexpired, hnone, if_true, false_and, and_false, iff_false]
    split
    · simp
    · rename_i heq
      split_ifs at heq
      cases answer with
      | none => cases heq
      | some packet => cases heq
  · have hbefore : clocks.steady m.answered < clocks.steady m.armed + timeout :=
      not_le.mp hexpired
    have hresolved' :
        ¬ clocks.steady m.armed + timeout ≤ clocks.steady m.resolved := by
      linarith
    have hconnected' :
        ¬ clocks.steady m.armed + timeout ≤ clocks.steady m.connected := by
      linarith
    simp only [hexpired, hresolved', hconnected', if_false, hbefore, true_and]
    cases answer with
    | none => simp
    | some packet => cases onDemandTimeInjection <;> simp

end Sample

/-! ## What is injected -/

section Injected

variable {onDemandTimeInjection : Bool} {timeout : Int} {clocks : DeviceClocks}
  {ahead : Rat} {m : Moments} {packet : Packet} {s : ReferenceTimeSample}

/-- A server that is half a second ahead, with nothing in between: one second
after the epoch it answers as of a second and a half. -/
def halfSecondAhead : Packet :=
  { originate := .fromMillisecondsSinceEpoch 1000
    receive := ⟨2208988801, 2147483648⟩
    transmit := ⟨2208988801, 2147483648⟩ }

/-- The clocks of a device that was booted 400 ms after the epoch. -/
def lateBoot : DeviceClocks where
  steady := fun t => t - 300
  system := fun t => t
  bootTime := fun t => t - 400
  steady_mono := fun _ _ h => sub_le_sub_right h 300

theorem lateBoot_advanceTogether (m : Moments) : lateBoot.AdvanceTogether m where
  steady := fun _ _ _ => sub_sub_sub_cancel_right ..
  system := fun _ _ _ => rfl
  bootTime := fun _ _ _ => sub_sub_sub_cancel_right ..

theorem answers_halfSecondAhead :
    Answers 500 lateBoot (Moments.still 1000) halfSecondAhead := by
  have hinstant : halfSecondAhead.receive.instant = 1500 := by
    simp only [Timestamp.instant, halfSecondAhead, offset1900To1970,
      show (2208988801 : UInt32).toNat = 2208988801 from rfl,
      show (2147483648 : UInt32).toNat = 2147483648 from rfl]
    norm_num
  constructor
  · simp only [halfSecondAhead, Moments.still, lateBoot]
    norm_num
  · rw [hinstant]
    simp only [Moments.still, lateBoot]
    norm_num
  · exact le_rfl
  · rw [show halfSecondAhead.transmit = halfSecondAhead.receive from rfl,
      hinstant]
    simp only [Moments.still, lateBoot]
    norm_num

/-- Whatever the network does, and whatever the clocks of the device and the
server show, a time that is injected is off by at most half of the timeout and
about a second, and by the time that passes until the clocks are read.  The
clocks of the device have to advance together, and the time stamp of the request
has to be between 1970 and the end of its era. -/
theorem injected_time_lt_timeout (h : Answers ahead clocks m packet)
    (htogether : clocks.AdvanceTogether m) (hpos : 0 ≤ clocks.system m.sent)
    (hera : ⌊clocks.system m.sent⌋ / 1000 + offset1900To1970 < 2 ^ 32)
    (hboot : 0 ≤ clocks.bootTime m.ticks)
    (hinjected : onRequestUtcTime onDemandTimeInjection timeout clocks m
      (some packet) = some s) :
    s.error clocks ahead m.ticks <
        timeout / 2 + 504 + (m.time - m.answered) / 2 ∧
      -s.error clocks ahead m.ticks <
        timeout / 2 + 1002 + (m.ticks - m.answered) := by
  obtain ⟨-, hdeadline, packet', heq, hsample⟩ :=
    onRequestUtcTime_eq_some_iff.mp hinjected
  obtain rfl := Option.some.inj heq
  have hbounds := h.error_bounds htogether hpos hera hboot
  rw [hsample] at hbounds
  have hsent : m.armed ≤ m.sent := by
    linarith [m.armed_le, m.resolved_le, m.before_le, m.connected_le]
  have hsteady := htogether.steady.sub le_rfl (hsent.trans m.sent_le)
    (m.answered_le.trans m.time_le)
  obtain ⟨hanswered, htime, -⟩ := htogether.system_sub
  have htrip : roundTrip (clocks.system m.sent) packet.receive.instant
      packet.transmit.instant (clocks.system m.time) <
        timeout + (m.time - m.answered) := by
    unfold roundTrip
    linarith [h.served]
  constructor
  · linarith [hbounds.1]
  · linarith [hbounds.2, m.answered_le]

/-- The time of the server that is half a second ahead. -/
theorem injected_time_lt_timeout_half_second :
    ∃ s, onRequestUtcTime true 5000 lateBoot (.still 1000)
        (some halfSecondAhead) = some s ∧
      s.error lateBoot 500 1000 < 5000 / 2 + 504 := by
  have hinjected : onRequestUtcTime true 5000 lateBoot (.still 1000)
      (some halfSecondAhead) = some ⟨1000, 600, 0⟩ := by
    decide +kernel
  refine ⟨_, hinjected, ?_⟩
  have hbounds := injected_time_lt_timeout answers_halfSecondAhead
    (lateBoot_advanceTogether _) (by decide +kernel) (by decide +kernel)
    (by decide +kernel) hinjected
  have hnow : (Moments.still 1000).time - (Moments.still 1000).answered = 0 := by
    decide +kernel
  rw [hnow, zero_div, add_zero] at hbounds
  exact hbounds.1

/-- In terms of the uncertainty that is injected with it, a time is off by half
of the uncertainty and about a second and a half, and by the time that passes
between the readings of the two clocks, under the same conditions.  The
uncertainty may be negative. -/
theorem injected_time_lt_uncertainty (h : Answers ahead clocks m packet)
    (htogether : clocks.AdvanceTogether m) (hpos : 0 ≤ clocks.system m.sent)
    (hera : ⌊clocks.system m.sent⌋ / 1000 + offset1900To1970 < 2 ^ 32)
    (hboot : 0 ≤ clocks.bootTime m.ticks)
    (hinjected : onRequestUtcTime onDemandTimeInjection timeout clocks m
      (some packet) = some s) :
    s.error clocks ahead m.ticks < s.uncertainty / 2 + 1005 ∧
      -s.error clocks ahead m.ticks <
        s.uncertainty / 2 + 1503 + (m.ticks - m.time) / 2 ∧
      -1002 < s.uncertainty := by
  obtain ⟨-, -, packet', heq, hsample⟩ :=
    onRequestUtcTime_eq_some_iff.mp hinjected
  obtain rfl := Option.some.inj heq
  have hbounds := h.error_bounds htogether hpos hera hboot
  have huncertainty := packet.abs_toSample_uncertainty_sub_lt m clocks
  rw [hsample] at hbounds
  dsimp only at hbounds huncertainty
  rw [hsample, abs_lt] at huncertainty
  obtain ⟨hanswered, htime, hticks⟩ := htogether.system_sub
  have hreturned : packet.transmit.instant ≤ clocks.system m.time + ahead := by
    linarith [h.returned, m.answered_le]
  have htrip := roundTrip_nonneg h.received hreturned
  have hboots := htogether.bootTime.sub (m.armed_le.trans m.resolved_le)
    ((m.before_le.trans m.connected_le).trans
      (m.sent_le.trans (m.answered_le.trans m.time_le))) le_rfl
  have hsplit : roundTrip (clocks.bootTime m.before) packet.receive.instant
      packet.transmit.instant (clocks.bootTime m.ticks) =
      roundTrip (clocks.system m.sent) packet.receive.instant
          packet.transmit.instant (clocks.system m.time) +
        (m.ticks - m.time) + (m.sent - m.before) := by
    unfold roundTrip
    linarith
  rw [hsplit] at huncertainty
  have hbefore : m.before ≤ m.sent := m.before_le.trans m.connected_le
  refine ⟨?_, ?_, ?_⟩
  · linarith [hbounds.1, huncertainty.1, m.time_le]
  · linarith [hbounds.2, huncertainty.1]
  · have hneg : (-1002 : Rat) < s.uncertainty := by
      linarith [huncertainty.1, m.time_le]
    exact_mod_cast hneg

/-- The half second is missed with an uncertainty of zero. -/
theorem injected_time_lt_uncertainty_half_second :
    ∃ s, onRequestUtcTime true 5000 lateBoot (.still 1000)
        (some halfSecondAhead) = some s ∧
      s.uncertainty = 0 ∧ s.error lateBoot 500 1000 = -500 ∧
      s.error lateBoot 500 1000 < s.uncertainty / 2 + 1005 := by
  have hinjected : onRequestUtcTime true 5000 lateBoot (.still 1000)
      (some halfSecondAhead) = some ⟨1000, 600, 0⟩ := by
    decide +kernel
  have hbounds := injected_time_lt_uncertainty answers_halfSecondAhead
    (lateBoot_advanceTogether _) (by decide +kernel) (by decide +kernel)
    (by decide +kernel) hinjected
  exact ⟨_, hinjected, rfl, by decide +kernel, hbounds.1⟩

end Injected

end LocationService.Gps.Sntp
