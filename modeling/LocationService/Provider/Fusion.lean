import LocationService.Engine.Model
import LocationService.Library.Machine
import LocationService.Library.Merge
import LocationService.Library.Ticks
import LocationService.Values.Position

/-!
# The fusion of several position providers

A `FusionProvider` listens to a set of providers and emits one position for
every position it receives.  It remembers the last position it emitted together
with the provider that one came from, and an `UpdateSelector` chooses between
that pair and the received one.

`NewerOrMoreAccurateUpdateSelector` prefers positions from the same provider,
then significantly newer ones and then more accurate ones.  At the end of time
every position counts as significantly newer, as the sum that it is compared
with overflows.  The main result follows the remembered pair over every
interleaving of the providers.
-/

namespace LocationService

open Library

/-- `WithSource` -/
structure WithSource (τ : Type) where
  source : ProviderId
  value : τ

/-- `UpdateSelector::select`, which may throw. -/
abbrev UpdateSelector :=
  WithSource (Update Position) → WithSource (Update Position) →
    Except String (WithSource (Update Position))

namespace NewerOrMoreAccurateUpdateSelector

/-- In nanoseconds. -/
def cutoff : Int64 := 11000000000

/-- `NewerOrMoreAccurateUpdateSelector::select` -/
def select : UpdateSelector := fun older newer =>
  -- If the new position is from the same source as the old one then just use it
  if newer.source = older.source then .ok newer
  -- If the new position is newer by a significant margin then just use it
  else if newer.value.when > older.value.when + cutoff then .ok newer
  -- Choose the position with the smaller accuracy circle if both have them
  else if !older.value.value.accuracy.horizontal.isSome then .ok newer
  else if !newer.value.value.accuracy.horizontal.isSome then .ok older
  else if optionalLt newer.value.value.accuracy.horizontal
      older.value.value.accuracy.horizontal then .ok newer
  else .ok older

/-- A position may replace one from elsewhere: that has no accuracy, or the new
one has a strictly smaller one. -/
def Improves (newer older : Position) : Prop :=
  older.accuracy.horizontal = none ∨
    ∃ x y, newer.accuracy.horizontal = some x ∧
      older.accuracy.horizontal = some y ∧ x < y

/-- One position may replace another: it is from the same source, or
significantly newer, or more accurate. -/
def MayReplace (older newer : WithSource (Update Position)) : Prop :=
  newer.source ≠ older.source →
    newer.value.nanoseconds ≤ older.value.nanoseconds + seconds 11 →
    Improves newer.value.value older.value.value

/-- A position that only seems to be significantly newer than one from
elsewhere, since the cutoff leads over the end of time, is more accurate. -/
def NotDeceived (older newer : WithSource (Update Position)) : Prop :=
  newer.source ≠ older.source →
    ¬ FitsTicks (older.value.nanoseconds + seconds 11) →
    newer.value.when > older.value.when + cutoff →
    Improves newer.value.value older.value.value

/-- What a selection is, as far as the fusion depends on it. -/
structure Selects (older newer choice : WithSource (Update Position)) :
    Prop where
  eq_or_eq : choice = newer ∨ choice = older
  recent : newer.value.nanoseconds ≤ choice.value.nanoseconds + seconds 11
  replaces : (choice = newer → MayReplace older newer) ↔ NotDeceived older newer

theorem seconds_nonneg {n : Int} (h : 0 ≤ n) : 0 ≤ seconds n := by
  unfold seconds
  omega

/-- The incoming position itself is recent. -/
theorem Selects.newer {older newer : WithSource (Update Position)}
    (h : MayReplace older newer ↔ NotDeceived older newer) :
    Selects older newer newer := by
  refine { eq_or_eq := .inl rfl, recent := ?_, replaces := ?_ }
  · have heleven : 0 ≤ seconds 11 := seconds_nonneg (by decide)
    omega
  · rw [← h]
    exact forall_prop_of_true rfl

/-- A position that is not significantly newer, even as the code counts. -/
theorem notDeceived_of_not_newer {older newer : WithSource (Update Position)}
    (h : ¬ newer.value.when > older.value.when + cutoff) :
    NotDeceived older newer :=
  fun _ _ hnewer => absurd hnewer h

theorem toInt_add_cutoff {when : Int64}
    (h : FitsTicks (when.toInt + seconds 11)) :
    (when + cutoff).toInt = when.toInt + seconds 11 :=
  toInt_add_of_fitsTicks h

/-- What does not count as significantly newer is not. -/
theorem le_of_not_newer {older newer : WithSource (Update Position)}
    (h : ¬ newer.value.when > older.value.when + cutoff) :
    newer.value.nanoseconds ≤ older.value.nanoseconds + seconds 11 := by
  have hnewer := fitsTicks_toInt newer.value.when
  have holder := fitsTicks_toInt older.value.when
  unfold Update.nanoseconds
  rw [gt_iff_lt, Int64.lt_iff_toInt_lt] at h
  by_cases hfits : FitsTicks (older.value.when.toInt + seconds 11)
  · rw [toInt_add_cutoff hfits] at h
    omega
  · unfold FitsTicks seconds at *
    omega

/-- What counts as significantly newer may replace a position from elsewhere
exactly if that is no deception. -/
theorem mayReplace_iff_of_newer {older newer : WithSource (Update Position)}
    (h : newer.value.when > older.value.when + cutoff) :
    MayReplace older newer ↔ NotDeceived older newer := by
  have hnewer := fitsTicks_toInt newer.value.when
  have holder := fitsTicks_toInt older.value.when
  unfold MayReplace NotDeceived
  apply imp_congr_right
  intro _
  unfold Update.nanoseconds
  by_cases hfits : FitsTicks (older.value.when.toInt + seconds 11)
  · have hexact := h
    rw [gt_iff_lt, Int64.lt_iff_toInt_lt, toInt_add_cutoff hfits] at hexact
    refine iff_of_true ?_ (fun hnot => absurd hfits hnot)
    intro hle
    omega
  · have hle : newer.value.when.toInt ≤ older.value.when.toInt + seconds 11 := by
      unfold FitsTicks seconds at *
      omega
    rw [forall_prop_of_true hle, forall_prop_of_true hfits,
      forall_prop_of_true h]

/-- A selection that keeps the older position keeps one of another source. -/
theorem Selects.older {older newer : WithSource (Update Position)}
    (hsource : newer.source ≠ older.source)
    (h : ¬ newer.value.when > older.value.when + cutoff) :
    Selects older newer older := by
  refine { eq_or_eq := .inr rfl, recent := le_of_not_newer h, replaces := ?_ }
  refine iff_of_true ?_ (notDeceived_of_not_newer h)
  intro heq
  exact absurd (congrArg WithSource.source heq) (Ne.symm hsource)

/-- The selector never throws. -/
theorem select_spec (older newer : WithSource (Update Position)) :
    ∃ choice, select older newer = .ok choice ∧
      Selects older newer choice := by
  unfold select
  by_cases hsource : newer.source = older.source
  · rw [if_pos hsource]
    exact ⟨newer, rfl, .newer (iff_of_true (fun hne => absurd hsource hne)
      (fun hne => absurd hsource hne))⟩
  rw [if_neg hsource]
  by_cases hnewer : newer.value.when > older.value.when + cutoff
  · rw [if_pos hnewer]
    exact ⟨newer, rfl, .newer (mayReplace_iff_of_newer hnewer)⟩
  rw [if_neg hnewer]
  have himproves : Improves newer.value.value older.value.value →
      Selects older newer newer := by
    intro h
    exact .newer (iff_of_true (fun _ _ => h) (notDeceived_of_not_newer hnewer))
  cases hold : older.value.value.accuracy.horizontal with
  | none => exact ⟨newer, by simp, himproves (.inl hold)⟩
  | some y =>
      cases hnew : newer.value.value.accuracy.horizontal with
      | none => exact ⟨older, by simp, .older hsource hnewer⟩
      | some x =>
          by_cases hlt : x < y
          · have hsmaller := himproves (.inr ⟨x, y, hnew, hold, hlt⟩)
            exact ⟨newer, by simp [optionalLt, hlt], hsmaller⟩
          · exact ⟨older, by simp [optionalLt, hlt], .older hsource hnewer⟩

end NewerOrMoreAccurateUpdateSelector

/-! ## The provider -/

/-- `FusionProvider`: the providers it is connected to and the last position it
emitted. -/
structure FusionProvider where
  providers : List ProviderId
  lastPosition : Option (WithSource (Update Position))

/-- What arrives from a provider, and what a provider emits. -/
inductive ProviderUpdate where
  | position (u : Update Position)
  | heading (u : Update Heading)
  | velocity (u : Update Velocity)

namespace FusionProvider

/-- The constructor. -/
def init (providers : List ProviderId) : FusionProvider := ⟨providers, none⟩

section Slots

variable (select : UpdateSelector)

/-- The slot on the positions of one provider: the fusion provider afterwards
and what it emits. -/
def onPosition (f : FusionProvider) (provider : ProviderId)
    (u : Update Position) : FusionProvider × List ProviderUpdate :=
  match f.lastPosition with
  -- if this is the first update, use it
  | none => ({ f with lastPosition := some ⟨provider, u⟩ }, [.position u])
  -- otherwise use the selector
  | some last =>
      match select last ⟨provider, u⟩ with
      | .ok choice =>
          ({ f with lastPosition := some choice }, [.position choice.value])
      | .error _ => (f, [])

/-- The slots of the constructor; headings and velocities pass through. -/
def onUpdate (f : FusionProvider) (provider : ProviderId) :
    ProviderUpdate → FusionProvider × List ProviderUpdate
  | .position u => onPosition select f provider u
  | .heading u => (f, [.heading u])
  | .velocity u => (f, [.velocity u])

end Slots

end FusionProvider

/-! ## Runs -/

/-- A fusion provider with what it received, what it emitted, and what it
remembered after each position, the newest first. -/
structure FusionRun where
  fusion : FusionProvider
  received : List (WithSource ProviderUpdate)
  emitted : List ProviderUpdate
  remembered : List (WithSource (Update Position))

namespace ProviderUpdate

/-- The position, if it is one. -/
def position? : ProviderUpdate → Option (Update Position)
  | .position u => some u
  | .heading _ => none
  | .velocity _ => none

end ProviderUpdate

/-- What should become of a position `w` after some others: it or the position
emitted before is emitted, which is the one remembered with its source; that is
at most eleven seconds older than `w`; and `w` only replaces one from elsewhere
if it may. -/
structure SelectedSoundly (received : List (WithSource (Update Position)))
    (emitted : List (Update Position))
    (remembered : List (WithSource (Update Position)))
    (w : WithSource (Update Position)) (u : Update Position)
    (r : WithSource (Update Position)) : Prop where
  eq_or_eq : r = w ∧ u = w.value ∨
    remembered.head? = some r ∧ emitted.head? = some u
  source : r.value = u ∧ r ∈ w :: received
  recent : w.value.nanoseconds ≤ u.nanoseconds + seconds 11
  replaces : ∀ older, remembered.head? = some older → r = w →
    NewerOrMoreAccurateUpdateSelector.MayReplace older w

/-- Each received position led to one that was emitted and one that was
remembered, and all of them were selected soundly. -/
def AllSelectedSoundly : List (WithSource (Update Position)) →
    List (Update Position) → List (WithSource (Update Position)) → Prop
  | [], [], [] => True
  | w :: received, u :: emitted, r :: remembered =>
      SelectedSoundly received emitted remembered w u r ∧
        AllSelectedSoundly received emitted remembered
  | _, _, _ => False

namespace FusionRun

open NewerOrMoreAccurateUpdateSelector (Selects NotDeceived select_spec)

def init (providers : List ProviderId) : FusionRun :=
  ⟨.init providers, [], [], []⟩

/-- A provider emits an update. -/
def next (w : WithSource ProviderUpdate) (s : FusionRun) : FusionRun :=
  let (fusion, emitted) := s.fusion.onUpdate
    NewerOrMoreAccurateUpdateSelector.select w.source w.value
  { fusion := fusion
    received := w :: s.received
    emitted := emitted ++ s.emitted
    remembered :=
      match w.value with
      | .position _ => fusion.lastPosition.toList ++ s.remembered
      | _ => s.remembered }

/-- The positions that were received, with their sources. -/
def receivedPositions (s : FusionRun) : List (WithSource (Update Position)) :=
  s.received.filterMap fun w => w.value.position?.map fun u => ⟨w.source, u⟩

/-- The positions that were emitted. -/
def emittedPositions (s : FusionRun) : List (Update Position) :=
  s.emitted.filterMap ProviderUpdate.position?

/-- Every selection so far was sound. -/
def SelectsSoundly (s : FusionRun) : Prop :=
  AllSelectedSoundly s.receivedPositions s.emittedPositions s.remembered

/-- The update is from one of the providers that the fusion provider listens to,
and a position does not deceive the selector. -/
structure Accepts (w : WithSource ProviderUpdate) (s : FusionRun) : Prop where
  connected : w.source ∈ s.fusion.providers
  notDeceived : ∀ u, w.value = .position u → ∀ older,
    s.fusion.lastPosition = some older → NotDeceived older ⟨w.source, u⟩

abbrev Reachable (providers : List ProviderId) (s : FusionRun) : Prop :=
  (Machine.ofStep (init providers) next).Reach Accepts s

/-- What holds between two updates. -/
structure Inv (s : FusionRun) : Prop where
  /-- The remembered position is the last one that was emitted. -/
  emitted : s.emittedPositions.head? = s.fusion.lastPosition.map (·.value)
  remembered : s.remembered.head? = s.fusion.lastPosition
  /-- It was received from the remembered source. -/
  genuine : ∀ w, s.fusion.lastPosition = some w → w ∈ s.receivedPositions

theorem Inv.init (providers : List ProviderId) :
    (FusionRun.init providers).Inv where
  emitted := rfl
  remembered := rfl
  genuine := by
    intro w hw
    cases hw

/-- What the fusion provider does with a position: it emits the one that it
remembers from then on. -/
structure Fuses (s t : FusionRun) (newer choice : WithSource (Update Position)) :
    Prop where
  lastPosition : t.fusion.lastPosition = some choice
  emitted : t.emittedPositions = choice.value :: s.emittedPositions
  received : t.receivedPositions = newer :: s.receivedPositions
  remembered : t.remembered = choice :: s.remembered
  first : s.fusion.lastPosition = none → choice = newer
  selects : ∀ older, s.fusion.lastPosition = some older →
    Selects older newer choice

theorem fuses_of_onPosition {s : FusionRun} {source : ProviderId}
    {u : Update Position} {choice : WithSource (Update Position)}
    (hslot : s.fusion.onPosition NewerOrMoreAccurateUpdateSelector.select
      source u = ({ s.fusion with lastPosition := some choice },
        [.position choice.value]))
    (first : s.fusion.lastPosition = none → choice = ⟨source, u⟩)
    (selects : ∀ older, s.fusion.lastPosition = some older →
      Selects older ⟨source, u⟩ choice) :
    Fuses s (s.next ⟨source, .position u⟩) ⟨source, u⟩ choice := by
  refine { lastPosition := ?_, emitted := ?_, received := rfl,
           remembered := ?_, first := first, selects := selects }
  · simp only [next, FusionProvider.onUpdate, hslot]
  · simp only [emittedPositions, next, FusionProvider.onUpdate, hslot]
    rfl
  · simp only [next, FusionProvider.onUpdate, hslot]
    rfl

theorem exists_fuses (s : FusionRun) (source : ProviderId)
    (u : Update Position) :
    ∃ choice, Fuses s (s.next ⟨source, .position u⟩) ⟨source, u⟩ choice := by
  cases hlast : s.fusion.lastPosition with
  | none =>
      have hslot : s.fusion.onPosition NewerOrMoreAccurateUpdateSelector.select
          source u = ({ s.fusion with lastPosition := some ⟨source, u⟩ },
            [.position u]) := by
        simp only [FusionProvider.onPosition, hlast]
      refine ⟨⟨source, u⟩, fuses_of_onPosition hslot (fun _ => rfl) ?_⟩
      intro older holder
      rw [hlast] at holder
      cases holder
  | some older =>
      have hspec := select_spec older ⟨source, u⟩
      obtain ⟨choice, hchoice, hselects⟩ := hspec
      have hslot : s.fusion.onPosition NewerOrMoreAccurateUpdateSelector.select
          source u = ({ s.fusion with lastPosition := some choice },
            [.position choice.value]) := by
        simp only [FusionProvider.onPosition, hlast, hchoice]
      refine ⟨choice, fuses_of_onPosition hslot ?_ ?_⟩
      · intro hnone
        rw [hlast] at hnone
        cases hnone
      · intro older' holder
        rw [hlast] at holder
        cases holder
        exact hselects

/-- The choice was received: just now, or it is the one remembered. -/
theorem Fuses.eq_or_eq {s t : FusionRun}
    {newer choice : WithSource (Update Position)}
    (h : Fuses s t newer choice) :
    choice = newer ∨ s.fusion.lastPosition = some choice := by
  cases hlast : s.fusion.lastPosition with
  | none => exact .inl (h.first hlast)
  | some older =>
      rcases (h.selects older hlast).eq_or_eq with heq | heq
      · exact .inl heq
      · exact .inr (congrArg some heq.symm)

theorem Fuses.recent {s t : FusionRun}
    {newer choice : WithSource (Update Position)}
    (h : Fuses s t newer choice) :
    newer.value.nanoseconds ≤ choice.value.nanoseconds + seconds 11 := by
  cases hlast : s.fusion.lastPosition with
  | none =>
      rw [h.first hlast]
      have heleven : 0 ≤ seconds 11 :=
        NewerOrMoreAccurateUpdateSelector.seconds_nonneg (by decide)
      omega
  | some older => exact (h.selects older hlast).recent

theorem Fuses.mem_received {s t : FusionRun}
    {newer choice : WithSource (Update Position)}
    (h : Fuses s t newer choice) (hinv : s.Inv) :
    choice ∈ newer :: s.receivedPositions := by
  rcases h.eq_or_eq with heq | hlast
  · rw [heq]
    exact List.mem_cons_self
  · exact List.mem_cons_of_mem _ (hinv.genuine choice hlast)

theorem Inv.fuses {s t : FusionRun} {newer choice : WithSource (Update Position)}
    (hinv : s.Inv) (h : Fuses s t newer choice) : t.Inv where
  emitted := by
    rw [h.emitted, h.lastPosition]
    rfl
  remembered := by
    rw [h.remembered, h.lastPosition]
    rfl
  genuine := by
    intro w hw
    rw [h.lastPosition] at hw
    cases hw
    rw [h.received]
    exact h.mem_received hinv

theorem Inv.next {s : FusionRun} (h : s.Inv) (w : WithSource ProviderUpdate) :
    (s.next w).Inv := by
  obtain ⟨source, update⟩ := w
  cases update with
  | position u =>
      obtain ⟨choice, hfuses⟩ := s.exists_fuses source u
      exact h.fuses hfuses
  | heading u => exact ⟨h.emitted, h.remembered, h.genuine⟩
  | velocity u => exact ⟨h.emitted, h.remembered, h.genuine⟩

/-- A position is selected soundly exactly if it does not deceive the
selector. -/
theorem SelectsSoundly.fuses_iff {s t : FusionRun}
    {newer choice : WithSource (Update Position)} (hs : s.SelectsSoundly)
    (hinv : s.Inv) (h : Fuses s t newer choice) :
    t.SelectsSoundly ↔
      ∀ older, s.fusion.lastPosition = some older → NotDeceived older newer := by
  unfold SelectsSoundly
  rw [h.received, h.emitted, h.remembered]
  constructor
  · intro ⟨hsound, _⟩ older holder
    apply (h.selects older holder).replaces.mp
    exact hsound.replaces older (hinv.remembered.trans holder)
  · intro hhonest
    refine ⟨{ eq_or_eq := ?_, source := ⟨rfl, h.mem_received hinv⟩,
              recent := h.recent, replaces := ?_ }, hs⟩
    · rcases h.eq_or_eq with heq | hlast
      · exact .inl ⟨heq, congrArg WithSource.value heq⟩
      · refine .inr ⟨hinv.remembered.trans hlast, ?_⟩
        rw [hinv.emitted, hlast]
        rfl
    · intro older holder
      have hlast := hinv.remembered.symm.trans holder
      exact (h.selects older hlast).replaces.mpr (hhonest older hlast)

theorem SelectsSoundly.next_iff {s : FusionRun} (hs : s.SelectsSoundly)
    (hinv : s.Inv) {w : WithSource ProviderUpdate}
    (hconnected : w.source ∈ s.fusion.providers) :
    (s.next w).SelectsSoundly ↔ Accepts w s := by
  obtain ⟨source, update⟩ := w
  have haccepts : Accepts ⟨source, update⟩ s ↔
      ∀ u, update = .position u → ∀ older,
        s.fusion.lastPosition = some older → NotDeceived older ⟨source, u⟩ :=
    ⟨fun h => h.notDeceived, fun h => ⟨hconnected, h⟩⟩
  rw [haccepts]
  cases update with
  | position u =>
      obtain ⟨choice, hfuses⟩ := s.exists_fuses source u
      rw [hs.fuses_iff hinv hfuses]
      simp only [ProviderUpdate.position.injEq, forall_eq']
  | heading u => exact iff_of_true hs (fun _ heq => nomatch heq)
  | velocity u => exact iff_of_true hs (fun _ heq => nomatch heq)

/-- In every interleaving of the providers each received position leads to one
emitted position.  That is the received or the previously emitted one, it comes
from the source that is remembered, and it is at most eleven seconds older than
the received one.  A position from elsewhere that is not significantly newer
replaces another one only if it is more accurate, as long as that one is not so
close to the end of time that the cutoff overflows; the first update for which
this goes wrong ends that. -/
theorem fusion_selects_soundly {providers : List ProviderId} {s : FusionRun}
    (h : Reachable providers s) :
    s.SelectsSoundly ∧
      ∀ w : WithSource ProviderUpdate, w.source ∈ s.fusion.providers →
        ((s.next w).SelectsSoundly ↔ Accepts w s) := by
  have hrun : s.Inv ∧ s.SelectsSoundly := by
    refine h.ofStep_invariant (fun s => s.Inv ∧ s.SelectsSoundly)
      ⟨.init providers, trivial⟩ ?_
    intro w s hs haccepts
    exact ⟨hs.1.next w, (hs.2.next_iff hs.1 haccepts.connected).mpr haccepts⟩
  refine ⟨hrun.2, ?_⟩
  intro w hconnected
  exact hrun.2.next_iff hrun.1 hconnected

/-- A position without an accuracy, and one from elsewhere that replaces it. -/
def twoProviders : FusionRun :=
  ((init [0, 1]).next ⟨0, .position ⟨{}, 0⟩⟩).next ⟨1, .position ⟨{}, 7⟩⟩

theorem fusion_selects_soundly_two_providers :
    twoProviders.emittedPositions = [⟨{}, 7⟩, ⟨{}, 0⟩] ∧
      twoProviders.SelectsSoundly := by
  have hfirst : Accepts ⟨0, .position ⟨{}, 0⟩⟩ (init [0, 1]) :=
    { connected := by decide
      notDeceived := fun _ _ _ hlast => nomatch hlast }
  have hsecond : Accepts ⟨1, .position ⟨{}, 7⟩⟩
      ((init [0, 1]).next ⟨0, .position ⟨{}, 0⟩⟩) := by
    refine { connected := by decide, notDeceived := ?_ }
    intro u _ older holder _ _ _
    obtain rfl := Option.some.inj holder
    exact .inl rfl
  have hreach : Reachable [0, 1] twoProviders :=
    ((Machine.Reach.initial rfl).step ⟨0, .position ⟨{}, 0⟩⟩ hfirst rfl).step
      ⟨1, .position ⟨{}, 7⟩⟩ hsecond rfl
  exact ⟨by decide, (fusion_selects_soundly hreach).1⟩

/-- A position with an accuracy, at the end of time. -/
def lastFix (accuracy : Float) : Update Position :=
  ⟨{ accuracy := { horizontal := some ⟨accuracy⟩ } }, 9223372036854775807⟩

/-- At the end of time a less accurate position from elsewhere replaces another
one. -/
theorem fusion_deceived_at_end_of_time :
    ¬ ∀ s : FusionRun,
      (Machine.ofStep (init [0, 1]) next).Reach
          (fun w s => w.source ∈ s.fusion.providers) s →
        s.SelectsSoundly := by
  intro hall
  have hreach : (Machine.ofStep (init [0, 1]) next).Reach
      (fun w s => w.source ∈ s.fusion.providers)
      (((init [0, 1]).next ⟨0, .position (lastFix 10)⟩).next
        ⟨1, .position (lastFix 50)⟩) :=
    ((Machine.Reach.initial rfl).step ⟨0, .position (lastFix 10)⟩ (by decide)
      rfl).step ⟨1, .position (lastFix 50)⟩ (by decide) rfl
  have hfirst : ((init [0, 1]).next
      ⟨0, .position (lastFix 10)⟩).SelectsSoundly := by
    have hnew : (init [0, 1]).SelectsSoundly := trivial
    exact (hnew.next_iff (.init _) (by decide)).mpr
      { connected := by decide
        notDeceived := fun _ _ _ hlast => nomatch hlast }
  have haccepts := (hfirst.next_iff ((Inv.init _).next _) (by decide)).mp
    (hall _ hreach)
  have himproves := haccepts.notDeceived (lastFix 50) rfl ⟨0, lastFix 10⟩ rfl
    (by decide) (by decide) (by decide)
  obtain hnone | ⟨x, y, hx, hy, hlt⟩ := himproves
  · cases hnone
  · obtain rfl := Option.some.inj hx
    obtain rfl := Option.some.inj hy
    revert hlt
    decide

end FusionRun

end LocationService
