import LocationService.Library.Machine
import LocationService.Library.Ticks
import LocationService.Values.Position

/-!
# The reference location of the engine

Every position that a provider emits is submitted to the update policy of the
engine, and what the policy returns becomes `last_known_location`.
`TimeBasedUpdatePolicy` compares a submitted update with the last one it
adopted: a significantly newer one replaces it, a significantly older one is
rejected, and in between the accuracies decide.

A new policy already has an update to compare with, a default position stamped
with the time of construction.  And it only ever compares with the last adopted
update, not with the newest one.  The two results say which submissions expose
the one and which ones exploit the other.  Timestamps and the limit are compared
as counts of 64 bits that wrap around.
-/

namespace LocationService

open Library

/-- `TimeBasedUpdatePolicy`, for positions; the limit is in minutes. -/
structure TimeBasedUpdatePolicy where
  lastPositionUpdate : Update Position
  limit : Int64

namespace TimeBasedUpdatePolicy

/-- `default_timeout` -/
def defaultTimeout : Int64 := 2

/-- The constructor, at a reading of the clock. -/
def init (limit now : Int64) : TimeBasedUpdatePolicy :=
  ⟨.ofValue {} now, limit⟩

/-- What a limit is converted to when it is compared with a difference of
timestamps. -/
def inNanoseconds (limit : Int64) : Int64 := limit * 60000000000

/-- `UpdatePolicy::is_significantly_newer` -/
def isSignificantlyNewer {α : Type} (last update : Update α) (limit : Int64) :
    Bool :=
  let delta := update.when - last.when
  decide (delta > inNanoseconds limit)

/-- `UpdatePolicy::is_significantly_older` -/
def isSignificantlyOlder {α : Type} (last update : Update α) (limit : Int64) :
    Bool :=
  let delta := update.when - last.when
  decide (delta < inNanoseconds (-1 * limit))

/-- The limit, and the time by which one update is older than another, are held
by a count of nanoseconds. -/
def FitsNanoseconds {α : Type} (last update : Update α) (limit : Int64) : Prop :=
  minutes limit.toInt < 2 ^ 63 ∧ -2 ^ 63 ≤ update.nanoseconds - last.nanoseconds

instance {α : Type} (last update : Update α) (limit : Int64) :
    Decidable (FitsNanoseconds last update limit) :=
  inferInstanceAs (Decidable (_ ∧ _))

theorem toInt_inNanoseconds {limit : Int64}
    (h : FitsTicks (minutes limit.toInt)) :
    (inNanoseconds limit).toInt = minutes limit.toInt := by
  have hminute : (60000000000 : Int64).toInt = 60000000000 := rfl
  have hminutes : minutes limit.toInt = limit.toInt * 60000000000 := by
    unfold minutes seconds
    omega
  rw [hminutes] at h ⊢
  unfold inNanoseconds
  rw [toInt_mul_of_fitsTicks (by rwa [hminute]), hminute]

theorem inNanoseconds_neg (limit : Int64) :
    inNanoseconds (-1 * limit) = -inNanoseconds limit := by
  unfold inNanoseconds
  rw [Int64.neg_mul, Int64.one_mul, Int64.neg_mul]

/-- What counts as newer is, unless the nanoseconds do not fit. -/
theorem newer_of_isSignificantlyNewer {α : Type} {last update : Update α}
    {limit : Int64} (hlimit : 0 ≤ limit.toInt)
    (hfits : FitsNanoseconds last update limit)
    (h : isSignificantlyNewer last update limit = true) :
    last.nanoseconds + minutes limit.toInt < update.nanoseconds := by
  obtain ⟨hminutes, hdelta⟩ := hfits
  have hnonneg : 0 ≤ minutes limit.toInt := by
    unfold minutes seconds
    omega
  unfold isSignificantlyNewer at h
  unfold Update.nanoseconds at hdelta ⊢
  rw [decide_eq_true_iff, gt_iff_lt, Int64.lt_iff_toInt_lt,
    toInt_inNanoseconds ⟨by omega, hminutes⟩, toInt_sub_ticks] at h
  split at h
  · omega
  · split at h <;> omega

/-- What counts as older than a timestamp since the epoch is. -/
theorem older_of_isSignificantlyOlder {α : Type} {last update : Update α}
    {limit : Int64} (hlast : 0 ≤ last.nanoseconds)
    (hfits : FitsTicks (minutes limit.toInt))
    (h : isSignificantlyOlder last update limit = true) :
    update.nanoseconds + minutes limit.toInt < last.nanoseconds := by
  have hnegative : (-inNanoseconds limit).toInt = -minutes limit.toInt := by
    rw [Int64.toInt_neg, toInt_inNanoseconds hfits, bmod_of_fitsTicks]
    unfold FitsTicks minutes seconds at hfits ⊢
    omega
  have hupdate := fitsTicks_toInt update.when
  unfold isSignificantlyOlder at h
  unfold Update.nanoseconds at hlast ⊢
  unfold FitsTicks at hfits hupdate
  rw [decide_eq_true_iff, Int64.lt_iff_toInt_lt, inNanoseconds_neg, hnegative,
    toInt_sub_ticks] at h
  split at h
  · omega
  · split at h <;> omega

/-- The comparison of accuracies within the time bracket. -/
def isAccurateEnough (last update : Position.Accuracy) : Bool :=
  match last.horizontal, update.horizontal with
  | none, _ => true
  | some _, none => false
  | some x, some y => x ≥ y

/-- The value of `use_new_update` in `verify_update`. -/
def usesNewUpdate (p : TimeBasedUpdatePolicy) (update : Update Position) :
    Bool :=
  if isSignificantlyNewer p.lastPositionUpdate update p.limit then true
  else if isSignificantlyOlder p.lastPositionUpdate update p.limit then false
  else
    isAccurateEnough p.lastPositionUpdate.value.accuracy update.value.accuracy

/-- `verify_update`: the policy afterwards and the update it returns. -/
def verifyUpdate (p : TimeBasedUpdatePolicy) (update : Update Position) :
    TimeBasedUpdatePolicy × Update Position :=
  if p.usesNewUpdate update then
    ({ p with lastPositionUpdate := update }, update)
  else (p, p.lastPositionUpdate)

section Cases

variable {p : TimeBasedUpdatePolicy} {update : Update Position}

theorem verifyUpdate_of_uses (h : p.usesNewUpdate update = true) :
    p.verifyUpdate update =
      ({ p with lastPositionUpdate := update }, update) :=
  if_pos h

theorem verifyUpdate_of_not_uses (h : ¬ p.usesNewUpdate update = true) :
    p.verifyUpdate update = (p, p.lastPositionUpdate) :=
  if_neg h

/-- The returned update is the reference from then on. -/
theorem verifyUpdate_snd (p : TimeBasedUpdatePolicy) (update : Update Position) :
    (p.verifyUpdate update).2 =
      (p.verifyUpdate update).1.lastPositionUpdate := by
  unfold verifyUpdate
  split <;> rfl

@[simp] theorem verifyUpdate_limit (p : TimeBasedUpdatePolicy)
    (update : Update Position) : (p.verifyUpdate update).1.limit = p.limit := by
  unfold verifyUpdate
  split <;> rfl

/-- An update is used if it is newer, or neither older nor less accurate. -/
theorem usesNewUpdate_iff :
    p.usesNewUpdate update = true ↔
      isSignificantlyNewer p.lastPositionUpdate update p.limit = true ∨
      isSignificantlyOlder p.lastPositionUpdate update p.limit = false ∧
        isAccurateEnough p.lastPositionUpdate.value.accuracy
          update.value.accuracy = true := by
  unfold usesNewUpdate
  split
  · simp [*]
  · split
    · simp [*]
    · simp [*]

/-- A reference without an accuracy is replaced by every update that is not too
old. -/
theorem usesNewUpdate_of_inaccurate
    (h : p.lastPositionUpdate.value.accuracy.horizontal = none) :
    p.usesNewUpdate update = true ↔
      isSignificantlyNewer p.lastPositionUpdate update p.limit = true ∨
      isSignificantlyOlder p.lastPositionUpdate update p.limit = false := by
  have haccurate : isAccurateEnough p.lastPositionUpdate.value.accuracy
      update.value.accuracy = true := by
    simp only [isAccurateEnough, h]
  rw [usesNewUpdate_iff, haccurate, eq_self, and_true]

/-- The reference itself is never rejected for its age. -/
theorem ne_of_older
    (hnewer : isSignificantlyNewer p.lastPositionUpdate update p.limit = false)
    (holder : isSignificantlyOlder p.lastPositionUpdate update p.limit = true) :
    update ≠ p.lastPositionUpdate := by
  intro heq
  unfold isSignificantlyNewer at hnewer
  unfold isSignificantlyOlder at holder
  rw [heq, Int64.sub_self, decide_eq_false_iff_not, gt_iff_lt,
    Int64.lt_iff_toInt_lt, Int64.toInt_zero] at hnewer
  rw [heq, Int64.sub_self, inNanoseconds_neg, decide_eq_true_iff,
    Int64.lt_iff_toInt_lt, Int64.toInt_neg, Int64.toInt_zero] at holder
  have hfits := fitsTicks_toInt (inNanoseconds p.limit)
  unfold FitsTicks at hfits
  rw [bmod_of_fitsTicks (by unfold FitsTicks; omega)] at holder
  omega

end Cases

end TimeBasedUpdatePolicy

/-- The part of an engine that keeps its reference location, with what was
submitted to the policy, what that returned, and the values that
`last_known_location` has taken, each with the newest first. -/
structure ReferenceLocation where
  policy : TimeBasedUpdatePolicy
  submitted : List (Update Position)
  returned : List (Update Position)
  published : List (Update Position)

namespace ReferenceLocation

open TimeBasedUpdatePolicy

/-- A new engine; its `last_known_location` is empty. -/
def init (limit now : Int64) : ReferenceLocation :=
  ⟨.init limit now, [], [], []⟩

/-- `updates.last_known_location` -/
def lastKnownLocation (s : ReferenceLocation) : Option (Update Position) :=
  s.published.head?

/-- `updates.last_known_location = value`: a property that is assigned an equal
value keeps the one it has. -/
def setLastKnownLocation (s : ReferenceLocation) (value : Update Position) :
    ReferenceLocation :=
  if optionalEq (Update.operatorEq Position.operatorEq) s.lastKnownLocation
      (some value) then s
  else { s with published := value :: s.published }

@[simp] theorem setLastKnownLocation_policy (s : ReferenceLocation)
    (value : Update Position) :
    (s.setLastKnownLocation value).policy = s.policy := by
  unfold setLastKnownLocation
  split <;> rfl

@[simp] theorem setLastKnownLocation_submitted (s : ReferenceLocation)
    (value : Update Position) :
    (s.setLastKnownLocation value).submitted = s.submitted := by
  unfold setLastKnownLocation
  split <;> rfl

@[simp] theorem setLastKnownLocation_returned (s : ReferenceLocation)
    (value : Update Position) :
    (s.setLastKnownLocation value).returned = s.returned := by
  unfold setLastKnownLocation
  split <;> rfl

theorem mem_published_of_set {s : ReferenceLocation} {value r : Update Position}
    (h : r ∈ (s.setLastKnownLocation value).published) :
    r = value ∨ r ∈ s.published := by
  unfold setLastKnownLocation at h
  split at h
  · exact .inr h
  · exact List.mem_cons.mp h

/-- The slot of `Engine::add_provider` on the positions of a provider. -/
def submit (update : Update Position) (s : ReferenceLocation) :
    ReferenceLocation :=
  let verified := s.policy.verifyUpdate update
  setLastKnownLocation
    { s with
      policy := verified.1
      submitted := update :: s.submitted
      returned := verified.2 :: s.returned }
    verified.2

@[simp] theorem submit_policy (update : Update Position)
    (s : ReferenceLocation) :
    (s.submit update).policy = (s.policy.verifyUpdate update).1 := by
  simp [submit]

@[simp] theorem submit_submitted (update : Update Position)
    (s : ReferenceLocation) :
    (s.submit update).submitted = update :: s.submitted := by
  simp [submit]

@[simp] theorem submit_returned (update : Update Position)
    (s : ReferenceLocation) :
    (s.submit update).returned =
      (s.policy.verifyUpdate update).2 :: s.returned := by
  simp [submit]

/-- The engines at the end of a run whose submissions all meet a condition. -/
abbrev Reachable (limit now : Int64)
    (guard : Update Position → ReferenceLocation → Prop)
    (s : ReferenceLocation) : Prop :=
  (Machine.ofStep (init limit now) submit).Reach guard s

/-! ## The reference is a submitted update -/

/-- What the policy returned and what the engine published was submitted. -/
structure Genuine (s : ReferenceLocation) : Prop where
  returned : ∀ r ∈ s.returned, r ∈ s.submitted
  published : ∀ r ∈ s.published, r ∈ s.submitted

/-- The first update is not rejected for its age, compared with the time of
construction. -/
def FirstIsTimely (update : Update Position) (s : ReferenceLocation) : Prop :=
  s.submitted = [] →
    isSignificantlyNewer s.policy.lastPositionUpdate update s.policy.limit =
        true ∨
      isSignificantlyOlder s.policy.lastPositionUpdate update s.policy.limit =
        false

instance (update : Update Position) (s : ReferenceLocation) :
    Decidable (FirstIsTimely update s) :=
  inferInstanceAs (Decidable (_ → _))

/-- What the reference is before and after the first submission. -/
structure Inv (s : ReferenceLocation) : Prop where
  default : s.submitted = [] →
    s.policy.lastPositionUpdate.value.accuracy.horizontal = none
  returned : s.submitted ≠ [] → s.policy.lastPositionUpdate ∈ s.returned

theorem Inv.init (limit now : Int64) :
    (ReferenceLocation.init limit now).Inv where
  default := fun _ => rfl
  returned := fun h => absurd rfl h

theorem Inv.submit (update : Update Position) (s : ReferenceLocation) :
    (s.submit update).Inv where
  default := by
    intro hnil
    rw [submit_submitted] at hnil
    cases hnil
  returned := by
    intro _
    rw [submit_policy, submit_returned, ← TimeBasedUpdatePolicy.verifyUpdate_snd]
    exact List.mem_cons_self

/-- A submission goes wrong exactly if what it returns was never submitted. -/
theorem Genuine.submit_iff {s : ReferenceLocation} (h : s.Genuine)
    (update : Update Position) :
    (s.submit update).Genuine ↔
      (s.policy.verifyUpdate update).2 ∈ update :: s.submitted := by
  constructor
  · intro hafter
    have hmem := hafter.returned (s.policy.verifyUpdate update).2
    rw [submit_returned, submit_submitted] at hmem
    exact hmem List.mem_cons_self
  · intro hmem
    constructor
    · intro r hr
      rw [submit_returned] at hr
      rw [submit_submitted]
      rcases List.mem_cons.mp hr with heq | hold
      · exact heq ▸ hmem
      · exact List.mem_cons_of_mem _ (h.returned r hold)
    · intro r hr
      rw [submit_submitted]
      rcases mem_published_of_set hr with heq | hold
      · exact heq ▸ hmem
      · exact List.mem_cons_of_mem _ (h.published r hold)

/-- A submission keeps the reference genuine exactly if it is timely or not the
first one. -/
theorem Genuine.submit_iff_timely {s : ReferenceLocation} (hinv : s.Inv)
    (h : s.Genuine) (update : Update Position) :
    (s.submit update).Genuine ↔ FirstIsTimely update s := by
  rw [h.submit_iff update]
  by_cases hfirst : s.submitted = []
  · have huses : s.policy.usesNewUpdate update = true ↔ _ :=
      usesNewUpdate_of_inaccurate (hinv.default hfirst)
    have htimely : FirstIsTimely update s ↔
        s.policy.usesNewUpdate update = true := by
      rw [huses]
      exact forall_prop_of_true hfirst
    rw [htimely, hfirst, List.mem_singleton]
    by_cases hnew : s.policy.usesNewUpdate update = true
    · simp [verifyUpdate_of_uses hnew, hnew]
    · -- the default update is returned, and it differs from the rejected one
      have hrejected := (not_congr huses).mp hnew
      rw [not_or, Bool.not_eq_true, Bool.not_eq_false] at hrejected
      have hne := ne_of_older hrejected.1 hrejected.2
      rw [verifyUpdate_of_not_uses hnew]
      exact iff_of_false (Ne.symm hne) hnew
  · have htimely : FirstIsTimely update s := fun hnil => absurd hnil hfirst
    refine iff_of_true ?_ htimely
    by_cases hnew : s.policy.usesNewUpdate update = true
    · rw [verifyUpdate_of_uses hnew]
      exact List.mem_cons_self
    · rw [verifyUpdate_of_not_uses hnew]
      have hlast := h.returned _ (hinv.returned hfirst)
      exact List.mem_cons_of_mem _ hlast

/-- As long as the first update is timely, every update that the policy returns
and every location that the engine publishes was submitted before; a first
update that is not timely ends that. -/
theorem reference_location_is_genuine (limit now : Int64)
    {s : ReferenceLocation} (h : Reachable limit now FirstIsTimely s) :
    s.Genuine ∧
      ∀ update, (s.submit update).Genuine ↔ FirstIsTimely update s := by
  have hinit : (init limit now).Inv ∧ (init limit now).Genuine := by
    refine ⟨.init limit now, ?_, ?_⟩ <;>
    · intro r hr
      cases hr
  have hrun := h.ofStep_keeps_exactly Inv Genuine hinit
    (fun update s _ => .submit update s)
    (fun update s hinv hs => hs.submit_iff_timely hinv update)
  exact hrun.2

theorem reference_location_is_genuine_two_updates :
    ∃ s, Reachable 2 0 FirstIsTimely s ∧ s.returned.length = 2 ∧
      s.Genuine := by
  have hrun : (Machine.replay (fun u s => some (submit u s)) FirstIsTimely
      [⟨{}, -60000000000⟩, ⟨{}, 60000000000⟩] (init 2 0)).any
        (fun s => decide (s.returned.length = 2)) = true := by
    decide
  obtain ⟨s, hreach, hlength⟩ := Machine.Reach.ofStep_exists_of_replay _ hrun
  have hgenuine := (reference_location_is_genuine 2 0 hreach).1
  exact ⟨s, hreach, hlength, hgenuine⟩

/-- The clock is set back by three minutes after the construction: the first
position is rejected, and the engine publishes one that nobody submitted. -/
theorem reference_location_invented :
    let s := (init defaultTimeout 180000000000).submit
      ⟨{ latitude := ⟨⟨9⟩⟩, longitude := ⟨⟨53⟩⟩ }, 0⟩
    s.lastKnownLocation = some ⟨{}, 180000000000⟩ ∧ ¬ s.Genuine := by
  intro s
  have hlast : s.lastKnownLocation = some ⟨{}, 180000000000⟩ := by decide
  refine ⟨hlast, ?_⟩
  intro hgenuine
  have hpublished := hgenuine.published ⟨{}, 180000000000⟩
    (List.mem_of_mem_head? hlast)
  revert hpublished
  decide

/-! ## The reference does not drift into the past -/

/-- The reference is at most the limit older than every update that was
returned, which includes every adopted one. -/
def HoldsPace (s : ReferenceLocation) : Prop :=
  ∀ r ∈ s.returned,
    r.nanoseconds - minutes s.policy.limit.toInt ≤
      s.policy.lastPositionUpdate.nanoseconds

instance (s : ReferenceLocation) : Decidable s.HoldsPace :=
  inferInstanceAs (Decidable (∀ r ∈ s.returned, _))

/-- An update is at most the limit older than every update that was returned. -/
def KeepsPace (update : Update Position) (s : ReferenceLocation) : Prop :=
  ∀ r ∈ s.returned,
    r.nanoseconds - minutes s.policy.limit.toInt ≤ update.nanoseconds

instance (update : Update Position) (s : ReferenceLocation) :
    Decidable (KeepsPace update s) :=
  inferInstanceAs (Decidable (∀ r ∈ s.returned, _))

/-- The limit is not negative.  An update within the time bracket that is
accurate enough is not too old for any update that was returned, nor is one that
only counts as newer because the nanoseconds do not fit. -/
structure NoStepBack (update : Update Position) (s : ReferenceLocation) :
    Prop where
  limit_nonneg : 0 ≤ s.policy.limit.toInt
  bracket :
    isSignificantlyNewer s.policy.lastPositionUpdate update s.policy.limit =
        false →
      isSignificantlyOlder s.policy.lastPositionUpdate update s.policy.limit =
        false →
      isAccurateEnough s.policy.lastPositionUpdate.value.accuracy
        update.value.accuracy = true →
      KeepsPace update s
  overflow :
    isSignificantlyNewer s.policy.lastPositionUpdate update s.policy.limit =
        true →
      ¬ FitsNanoseconds s.policy.lastPositionUpdate update s.policy.limit →
      KeepsPace update s

instance (update : Update Position) (s : ReferenceLocation) :
    Decidable (NoStepBack update s) :=
  decidable_of_iff
    (0 ≤ s.policy.limit.toInt ∧
      (isSignificantlyNewer s.policy.lastPositionUpdate update s.policy.limit =
          false →
        isSignificantlyOlder s.policy.lastPositionUpdate update
            s.policy.limit = false →
        isAccurateEnough s.policy.lastPositionUpdate.value.accuracy
          update.value.accuracy = true →
        KeepsPace update s) ∧
      (isSignificantlyNewer s.policy.lastPositionUpdate update s.policy.limit =
          true →
        ¬ FitsNanoseconds s.policy.lastPositionUpdate update s.policy.limit →
        KeepsPace update s))
    ⟨fun h => ⟨h.1, h.2.1, h.2.2⟩, fun h => ⟨h.1, h.2, h.3⟩⟩

/-- The reference of a submission is itself returned, so it holds pace with the
returned updates exactly if the limit is not negative and it holds pace with
the earlier ones. -/
theorem holdsPace_submit_iff (update : Update Position)
    (s : ReferenceLocation) :
    (s.submit update).HoldsPace ↔ 0 ≤ s.policy.limit.toInt ∧
      KeepsPace (s.policy.verifyUpdate update).2 s := by
  unfold HoldsPace KeepsPace
  rw [submit_policy, submit_returned, verifyUpdate_limit,
    ← TimeBasedUpdatePolicy.verifyUpdate_snd, List.forall_mem_cons]
  have hself : (s.policy.verifyUpdate update).2.nanoseconds -
      minutes s.policy.limit.toInt ≤
        (s.policy.verifyUpdate update).2.nanoseconds ↔
        0 ≤ s.policy.limit.toInt := by
    unfold minutes seconds
    omega
  rw [hself]

/-- An update that counts as newer, and whose nanoseconds fit, keeps pace with
what the reference kept pace with. -/
theorem keepsPace_of_newer {update : Update Position} {s : ReferenceLocation}
    (h : s.HoldsPace) (hlimit : 0 ≤ s.policy.limit.toInt)
    (hfits : FitsNanoseconds s.policy.lastPositionUpdate update s.policy.limit)
    (hnewer : isSignificantlyNewer s.policy.lastPositionUpdate update
      s.policy.limit = true) : KeepsPace update s := by
  have hlater := newer_of_isSignificantlyNewer hlimit hfits hnewer
  intro r hr
  have hpace := h r hr
  unfold minutes seconds at hlater hpace ⊢
  omega

/-- A submission keeps pace exactly if it is no step back. -/
theorem HoldsPace.submit_iff {s : ReferenceLocation} (h : s.HoldsPace)
    (update : Update Position) :
    (s.submit update).HoldsPace ↔ NoStepBack update s := by
  rw [holdsPace_submit_iff]
  by_cases huses : s.policy.usesNewUpdate update = true
  · rw [verifyUpdate_of_uses huses]
    constructor
    · intro ⟨hlimit, hpace⟩
      exact ⟨hlimit, fun _ _ _ => hpace, fun _ _ => hpace⟩
    · intro hstep
      refine ⟨hstep.limit_nonneg, ?_⟩
      cases hnewer : isSignificantlyNewer s.policy.lastPositionUpdate update
          s.policy.limit with
      | true =>
          by_cases hfits : FitsNanoseconds s.policy.lastPositionUpdate update
              s.policy.limit
          · exact keepsPace_of_newer h hstep.limit_nonneg hfits hnewer
          · exact hstep.overflow hnewer hfits
      | false =>
          rcases usesNewUpdate_iff.mp huses with htrue | ⟨holder, haccurate⟩
          · rw [hnewer] at htrue
            cases htrue
          · exact hstep.bracket hnewer holder haccurate
  · rw [verifyUpdate_of_not_uses huses]
    rw [usesNewUpdate_iff, not_or, not_and] at huses
    obtain ⟨hnewer, hinaccurate⟩ := huses
    constructor
    · intro ⟨hlimit, _⟩
      exact ⟨hlimit,
        fun _ holder haccurate => absurd haccurate (hinaccurate holder),
        fun htrue => absurd htrue hnewer⟩
    · intro hstep
      exact ⟨hstep.limit_nonneg, h⟩

/-- As long as no update that is adopted for its accuracy, or after an overflow, is
a step back behind an earlier returned one, the reference is at most the limit
older than each of them; the first such update ends that. -/
theorem reference_does_not_drift (limit now : Int64)
    {s : ReferenceLocation} (h : Reachable limit now NoStepBack s) :
    s.HoldsPace ∧
      ∀ update, (s.submit update).HoldsPace ↔ NoStepBack update s := by
  have hinit : (init limit now).HoldsPace := by
    intro r hr
    cases hr
  exact h.ofStep_keeps_itself HoldsPace hinit
    (fun update _ hs => hs.submit_iff update)

theorem reference_does_not_drift_two_updates :
    ∃ s, Reachable 2 0 NoStepBack s ∧ s.returned.length = 2 ∧
      s.HoldsPace := by
  have hrun : (Machine.replay (fun u s => some (submit u s)) NoStepBack
      [⟨{}, 60000000000⟩, ⟨{}, -60000000000⟩] (init 2 0)).any
        (fun s => decide (s.returned.length = 2)) = true := by
    decide
  obtain ⟨s, hreach, hlength⟩ := Machine.Reach.ofStep_exists_of_replay _ hrun
  have hpace := (reference_does_not_drift 2 0 hreach).1
  exact ⟨s, hreach, hlength, hpace⟩

/-- An update from the beginning of time replaces one from its end: the
difference wraps around to a nanosecond, which is more than a limit of 0. -/
example : ¬ (((init 0 9223372036854775807).submit
    ⟨{}, 9223372036854775807⟩).submit
      ⟨{}, -9223372036854775808⟩).HoldsPace := by
  decide

/-- A position that is accurate to ten meters. -/
def fixAt (when : Int64) : Update Position :=
  ⟨{ accuracy := { horizontal := some ⟨10⟩ } }, when⟩

/-- Positions that are equally accurate, each two minutes older than the one
before: all of them are adopted. -/
theorem reference_drifts :
    ¬ ((((init defaultTimeout 0).submit (fixAt 0)).submit
      (fixAt (-120000000000))).submit (fixAt (-240000000000))).HoldsPace := by
  decide

end ReferenceLocation

end LocationService
