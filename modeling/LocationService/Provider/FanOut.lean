import LocationService.Provider.Counted

/-!
# Starts and stops that fan out

The service serves a session with a `FusionProvider` over all providers.  Its
hooks loop over the providers, in the order of their set, and start or stop the
stream of each.  A provider whose hook throws ends the loop: the providers behind
it are not told.  The controllers that were passed on the way keep what they
counted, so a later stop reaches providers that were never started.

For each provider and each stream the fusion providers are the users of a count
(`shows_view`).  The loops of different fusion providers may interleave.  The
engine does not enable or disable a provider in these runs.

## Main results

* `providers_follow_fusions` — while no loop is cut short, each provider counts
  the fusion providers that use it.
* `providers_after_throws` — whatever throws, when a provider ends up refusing a
  stream, on or off.
-/

namespace LocationService

open Library

/-- A `FusionProvider` as far as it starts and stops its providers: the
controller through which it is started and stopped itself, and for each stream
what a loop over the providers has yet to reach. -/
structure FanningProvider (ι : Type) where
  providers : List ι
  nodup : providers.Nodup
  controller : Controller
  pending : Stream → List ι
  suffix : ∀ x, pending x <:+ providers

namespace FanningProvider

variable {ι : Type}

/-- A new fusion provider. -/
def ofProviders (providers : List ι) (nodup : providers.Nodup) :
    FanningProvider ι :=
  ⟨providers, nodup, .init, fun _ => [], fun _ => List.nil_suffix⟩

/-- The loop for a stream has yet to reach an end of the providers. -/
def setPending (x : Stream) (rest : List ι) (f : FanningProvider ι)
    (hsuffix : rest <:+ f.providers) : FanningProvider ι :=
  { f with
    pending := Function.update f.pending x rest
    suffix := by
      intro y
      by_cases hxy : y = x
      · subst hxy
        simpa using hsuffix
      · simpa [hxy] using f.suffix y }

/-- `state_controller()->start_*_updates()`, whose hook begins the loop. -/
def startUpdates (x : Stream) (f : FanningProvider ι) : FanningProvider ι :=
  let (controller, hook) := f.controller.startUpdates x
  let f := { f with controller := controller }
  if hook then f.setPending x f.providers List.suffix_rfl else f

/-- `state_controller()->stop_*_updates()`, whose hook begins the loop. -/
def stopUpdates (x : Stream) (f : FanningProvider ι) : FanningProvider ι :=
  let (controller, hook) := f.controller.stopUpdates x
  let f := { f with controller := controller }
  if hook then f.setPending x f.providers List.suffix_rfl else f

/-- What the loop for a stream calls on each provider: it began in the hook that
was called last. -/
def call (x : Stream) (f : FanningProvider ι) : Call :=
  if f.controller.inUse x then .start x else .stop x

end FanningProvider

/-- Providers, the fusion providers over them, and what loops that were cut
short have not called. -/
structure FanOut (ι κ : Type) where
  provider : ι → Implementation
  fusion : κ → FanningProvider ι
  skipped : List (ι × Call)

/-- A call on a fusion provider, or the next round of one of its loops, in which
the hook of the provider may throw. -/
inductive FanOutEvent (κ : Type) where
  | start (k : κ) (x : Stream)
  | stop (k : κ) (x : Stream)
  | advance (k : κ) (x : Stream) (throws : Bool)

/-- The controller of a provider calls the hook for a call. -/
def Implementation.callsHook (p : Implementation) : Call → Bool
  | .start x => (p.controller.startUpdates x).2
  | .stop x => (p.controller.stopUpdates x).2

namespace FanOut

variable {ι κ : Type} [DecidableEq ι] [DecidableEq κ]

def setFusion (k : κ) (f : FanningProvider ι) (s : FanOut ι κ) : FanOut ι κ :=
  { s with fusion := Function.update s.fusion k f }

/-- The next round of a loop.  A hook that throws leaves the loop. -/
def advance (k : κ) (x : Stream) (throws : Bool) (s : FanOut ι κ) :
    FanOut ι κ :=
  let f := s.fusion k
  match hpending : f.pending x with
  | [] => s
  | i :: rest =>
      let call := f.call x
      let p := s.provider i
      let s := { s with
        provider := Function.update s.provider i (p.perform call) }
      if throws && p.callsHook call then
        { s with skipped := rest.map (fun j => (j, call)) ++ s.skipped }.setFusion
          k (f.setPending x [] List.nil_suffix)
      else
        s.setFusion k (f.setPending x rest
          ((List.suffix_cons i rest).trans (hpending ▸ f.suffix x)))

/-- While the loop for a stream runs, its caller waits for it. -/
def next : FanOutEvent κ → FanOut ι κ → FanOut ι κ
  | .start k x, s =>
      if (s.fusion k).pending x = [] then
        s.setFusion k ((s.fusion k).startUpdates x)
      else s
  | .stop k x, s =>
      if (s.fusion k).pending x = [] then
        s.setFusion k ((s.fusion k).stopUpdates x)
      else s
  | .advance k x throws, s => s.advance k x throws

/-- Providers that nobody has used, under new fusion providers over some of
them. -/
def init (providers : κ → List ι) (nodup : ∀ k, (providers k).Nodup) :
    FanOut ι κ :=
  ⟨fun _ => .init, fun k => .ofProviders (providers k) (nodup k), []⟩

end FanOut

/-! ## Each stream of each provider is a use count -/

namespace FanningProvider

variable {ι : Type} [DecidableEq ι]

/-- The fusion provider uses a stream of a provider. -/
def uses (i : ι) (x : Stream) (f : FanningProvider ι) : Bool :=
  decide (i ∈ f.providers) && f.controller.inUse x

/-- The command that is on its way to a provider: the loop has yet to reach
it. -/
def commands (i : ι) (x : Stream) (f : FanningProvider ι) : List Bool :=
  if i ∈ f.pending x then [f.controller.inUse x] else []

@[simp] theorem uses_setPending (i : ι) (x y : Stream) {rest : List ι}
    (f : FanningProvider ι) (hsuffix : rest <:+ f.providers) :
    (f.setPending y rest hsuffix).uses i x = f.uses i x := rfl

theorem commands_setPending (i : ι) (x : Stream) {rest : List ι}
    (f : FanningProvider ι) (hsuffix : rest <:+ f.providers) :
    (f.setPending x rest hsuffix).commands i x =
      if i ∈ rest then [f.controller.inUse x] else [] := by
  simp [commands, setPending]

theorem commands_setPending_of_ne (i : ι) {x y : Stream} (h : x ≠ y)
    {rest : List ι} (f : FanningProvider ι) (hsuffix : rest <:+ f.providers) :
    (f.setPending y rest hsuffix).commands i x = f.commands i x := by
  simp [commands, setPending, h]

/-- A fusion provider either goes on as before with a stream of a provider, or
switches it and has a command on its way. -/
def Follows (i : ι) (x : Stream) (f f' : FanningProvider ι) : Prop :=
  (f'.uses i x = f.uses i x ∧ f'.commands i x = f.commands i x) ∨
    (f'.uses i x = (!f.uses i x) ∧
      f'.commands i x = f.commands i x ++ [!f.uses i x])

omit [DecidableEq ι] in
theorem call_command (x : Stream) (f : FanningProvider ι) :
    (f.call x).command x = some (f.controller.inUse x) := by
  unfold call
  cases f.controller.inUse x with
  | true => simp [Call.command]
  | false => simp [Call.command]

omit [DecidableEq ι] in
/-- A loop for another stream says nothing to this one. -/
theorem call_command_of_ne {x y : Stream} (h : y ≠ x) (f : FanningProvider ι) :
    (f.call y).command x = none := by
  unfold call
  split
  · simp [Call.command, h]
  · simp [Call.command, h]

omit [DecidableEq ι] in
theorem nodup_pending (f : FanningProvider ι) (x : Stream) :
    (f.pending x).Nodup :=
  (f.suffix x).sublist.nodup f.nodup

/-- A loop that begins tells every provider of the switch. -/
theorem follows_begin {f : FanningProvider ι} {c : Controller} {y : Stream}
    (hidle : f.pending y = []) (hswitch : c.inUse y = !f.controller.inUse y)
    (hkeep : ∀ x, x ≠ y → c.inUse x = f.controller.inUse x) (i : ι)
    (x : Stream) :
    f.Follows i x (setPending y f.providers { f with controller := c }
      List.suffix_rfl) := by
  by_cases hxy : x = y
  · subst hxy
    by_cases hi : i ∈ f.providers
    · right
      simp [uses, commands, setPending, hi, hidle, hswitch]
    · left
      simp [uses, commands, setPending, hi, hidle]
  · left
    constructor
    · exact congrArg (decide (i ∈ f.providers) && ·) (hkeep x hxy)
    · simp [commands, setPending, hxy, hkeep x hxy]

/-- A call that is only counted tells nobody anything. -/
theorem follows_count {f : FanningProvider ι} {c : Controller}
    (hkeep : ∀ x, c.inUse x = f.controller.inUse x) (i : ι) (x : Stream) :
    f.Follows i x { f with controller := c } := by
  left
  simp [uses, commands, hkeep x]

theorem follows_startUpdates {f : FanningProvider ι} {y : Stream}
    (hidle : f.pending y = []) (i : ι) (x : Stream) :
    f.Follows i x (f.startUpdates y) := by
  have hself := f.controller.inUse_startUpdates y
  have hne : ∀ x, x ≠ y →
      (f.controller.startUpdates y).1.inUse x = f.controller.inUse x :=
    fun x hx => Controller.inUse_congr (f.controller.startUpdates_counter_ne hx)
  unfold startUpdates
  cases hhook : (f.controller.startUpdates y).2 with
  | true =>
      have hbefore := Controller.inUse_of_startUpdates_hook hhook
      rw [hhook, if_pos rfl] at hself
      simp only [hhook, if_true]
      exact follows_begin hidle (by rw [hself, hbefore]; rfl) hne i x
  | false =>
      rw [hhook, if_neg Bool.false_ne_true] at hself
      simp only [hhook, Bool.false_eq_true, if_false]
      refine follows_count (fun x => ?_) i x
      by_cases hx : x = y
      · rw [hx]
        exact hself
      · exact hne x hx

theorem follows_stopUpdates {f : FanningProvider ι} {y : Stream}
    (hidle : f.pending y = []) (i : ι) (x : Stream) :
    f.Follows i x (f.stopUpdates y) := by
  have hself := f.controller.inUse_stopUpdates y
  have hne : ∀ x, x ≠ y →
      (f.controller.stopUpdates y).1.inUse x = f.controller.inUse x :=
    fun x hx => Controller.inUse_congr (f.controller.stopUpdates_counter_ne hx)
  unfold stopUpdates
  cases hhook : (f.controller.stopUpdates y).2 with
  | true =>
      have hbefore := Controller.inUse_of_stopUpdates_hook hhook
      rw [hhook, if_pos rfl] at hself
      simp only [hhook, if_true]
      exact follows_begin hidle (by rw [hself, hbefore]; rfl) hne i x
  | false =>
      rw [hhook, if_neg Bool.false_ne_true] at hself
      simp only [hhook, Bool.false_eq_true, if_false]
      refine follows_count (fun x => ?_) i x
      by_cases hx : x = y
      · rw [hx]
        exact hself
      · exact hne x hx

end FanningProvider

namespace FanOut

variable {ι κ : Type} [DecidableEq ι] [DecidableEq κ]

/-- What a call that was skipped would have told a provider. -/
def skippedCommand (i : ι) (x : Stream) (skip : ι × Call) : Option Bool :=
  if skip.1 = i then skip.2.command x else none

/-- What the state says about the use of a stream of a provider: the users are
the fusion providers. -/
def view (i : ι) (x : Stream) (s : FanOut ι κ) : UseCount κ where
  wanted k := (s.fusion k).uses i x
  queue k := (s.fusion k).commands i x
  count := (s.provider i).controller.counter x
  lost := s.skipped.filterMap (skippedCommand i x)

theorem view_setFusion (i : ι) (x : Stream) (k : κ) (f : FanningProvider ι)
    (s : FanOut ι κ) :
    view i x (s.setFusion k f) =
      { view i x s with
        wanted := Function.update (view i x s).wanted k (f.uses i x)
        queue := Function.update (view i x s).queue k (f.commands i x) } := by
  unfold view setFusion
  congr 1
  · funext l
    by_cases hl : l = k
    · subst hl
      simp
    · simp [hl]
  · funext l
    by_cases hl : l = k
    · subst hl
      simp
    · simp [hl]

/-- A call on a fusion provider switches a stream of a provider or leaves its
use alone. -/
theorem view_follows {i : ι} {x : Stream} {k : κ} {s : FanOut ι κ}
    {f : FanningProvider ι} (h : (s.fusion k).Follows i x f) :
    ∃ step, view i x (s.setFusion k f) =
      UseCount.next maxCounter step (view i x s) := by
  rw [view_setFusion]
  rcases h with ⟨huses, hcommands⟩ | ⟨huses, hcommands⟩
  · refine ⟨.idle, ?_⟩
    rw [huses, hcommands]
    simp [UseCount.next, view]
  · refine ⟨.switch k, ?_⟩
    rw [huses, hcommands]
    rfl

/-- The calls that a loop skips reach each provider behind once. -/
theorem filterMap_skipped (i : ι) (x : Stream) (call : Call) {rest : List ι}
    (hnodup : rest.Nodup) :
    (rest.map fun j => (j, call)).filterMap (skippedCommand i x) =
      if i ∈ rest then (call.command x).toList else [] := by
  induction rest with
  | nil => rfl
  | cons j rest ih =>
      obtain ⟨hj, hrest⟩ := List.nodup_cons.mp hnodup
      have htail := ih hrest
      rw [List.map_cons, List.filterMap_cons, htail]
      by_cases hji : j = i
      · subst hji
        cases hcommand : call.command x with
        | none => simp [skippedCommand, hj, hcommand]
        | some command => simp [skippedCommand, hj, hcommand]
      · simp [skippedCommand, hji, Ne.symm hji]

/-- What a round of a loop does to the use of a stream: one provider was called,
some were skipped, and some are left. -/
theorem view_round (i : ι) (x y : Stream) {k : κ} {j : ι} (s : FanOut ι κ)
    (skips : List (ι × Call)) {left : List ι}
    (hleft : left <:+ (s.fusion k).providers) :
    view i x (setFusion k ((s.fusion k).setPending y left hleft)
        { s with
          provider := Function.update s.provider j
            ((s.provider j).perform ((s.fusion k).call y))
          skipped := skips ++ s.skipped }) =
      { view i x s with
        queue := Function.update (view i x s).queue k
          (((s.fusion k).setPending y left hleft).commands i x)
        count :=
          if j = i then
            match ((s.fusion k).call y).command x with
            | some command => UseCount.operate maxCounter command (view i x s).count
            | none => (view i x s).count
          else (view i x s).count
        lost :=
          skips.filterMap (skippedCommand i x) ++ (view i x s).lost } := by
  ext1
  · funext l
    by_cases hl : l = k
    · subst hl
      simp [view, setFusion]
    · simp [view, setFusion, hl]
  · funext l
    by_cases hl : l = k
    · subst hl
      simp [view, setFusion]
    · simp [view, setFusion, hl]
  · by_cases hji : j = i
    · subst hji
      have hcounter := (s.provider j).counter_perform ((s.fusion k).call y) x
      rw [if_pos rfl]
      refine Eq.trans ?_ hcounter
      simp [view, setFusion]
    · simp [view, setFusion, hji, Ne.symm hji]
  · simp [view, setFusion]

section Round

variable (i : ι) {k : κ} {j : ι} {rest : List ι} (s : FanOut ι κ)

/-- A round of a loop for another stream concerns something else. -/
theorem exists_step_round_of_ne {x y : Stream} (h : x ≠ y)
    (skips : List (ι × Call)) {left : List ι}
    (hleft : left <:+ (s.fusion k).providers)
    (hskips : skips.filterMap (skippedCommand i x) = []) :
    ∃ step, view i x (setFusion k ((s.fusion k).setPending y left hleft)
        { s with
          provider := Function.update s.provider j
            ((s.provider j).perform ((s.fusion k).call y))
          skipped := skips ++ s.skipped }) =
      UseCount.next maxCounter step (view i x s) := by
  refine ⟨.idle, ?_⟩
  rw [view_round, hskips, FanningProvider.call_command_of_ne h.symm,
    FanningProvider.commands_setPending_of_ne i h]
  simp [UseCount.next, view]

variable (x : Stream) (hpending : (s.fusion k).pending x = j :: rest)
include hpending

omit [DecidableEq κ] in
/-- A command is on its way to the providers that the loop has yet to reach. -/
theorem view_queue_of_pending :
    (view i x s).queue k =
      if i ∈ j :: rest then [(s.fusion k).controller.inUse x] else [] := by
  rw [← hpending]
  rfl

/-- A round whose hook returns executes the command of the provider whose turn it
is. -/
theorem exists_step_round_of_returns (hleft : rest <:+ (s.fusion k).providers) :
    ∃ step, view i x (setFusion k ((s.fusion k).setPending x rest hleft)
        { s with
          provider := Function.update s.provider j
            ((s.provider j).perform ((s.fusion k).call x)) }) =
      UseCount.next maxCounter step (view i x s) := by
  have hnodup : (j :: rest).Nodup := hpending ▸ (s.fusion k).nodup_pending x
  have hround := view_round i x x s (k := k) (j := j) [] hleft
  rw [FanningProvider.commands_setPending, FanningProvider.call_command]
    at hround
  refine ⟨if j = i then .execute k else .idle, hround.trans ?_⟩
  have hqueue := view_queue_of_pending i s x hpending
  by_cases hji : j = i
  · subst hji
    have hj : j ∉ rest := (List.nodup_cons.mp hnodup).1
    rw [if_pos List.mem_cons_self] at hqueue
    simp [UseCount.next, UseCount.execute, hqueue, hj]
  · rw [if_neg hji, if_neg hji]
    simp only [List.mem_cons, Ne.symm hji, false_or] at hqueue
    rw [← hqueue]
    simp [UseCount.next]

/-- A round whose hook throws executes the command of the provider whose turn it
is, and loses those of the providers behind it. -/
theorem exists_step_round_of_throws :
    ∃ step, view i x (setFusion k
        ((s.fusion k).setPending x [] List.nil_suffix)
        { s with
          provider := Function.update s.provider j
            ((s.provider j).perform ((s.fusion k).call x))
          skipped := (rest.map fun l => (l, (s.fusion k).call x)) ++
            s.skipped }) =
      UseCount.next maxCounter step (view i x s) := by
  have hnodup : (j :: rest).Nodup := hpending ▸ (s.fusion k).nodup_pending x
  obtain ⟨hj, hrest⟩ := List.nodup_cons.mp hnodup
  rw [view_round, FanningProvider.commands_setPending,
    FanningProvider.call_command, filterMap_skipped i x _ hrest,
    FanningProvider.call_command]
  have hqueue := view_queue_of_pending i s x hpending
  by_cases hji : j = i
  · subst hji
    rw [if_pos List.mem_cons_self] at hqueue
    refine ⟨.execute k, ?_⟩
    simp [UseCount.next, UseCount.execute, hqueue, hj]
  · simp only [List.mem_cons, Ne.symm hji, false_or] at hqueue
    by_cases hi : i ∈ rest
    · -- the loop ends before the provider
      rw [if_pos hi] at hqueue
      refine ⟨.lose k, ?_⟩
      simp [UseCount.next, UseCount.lose, hqueue, hji, hi]
    · have hempty : Function.update (view i x s).queue k [] =
          (view i x s).queue := by
        rw [Function.update_eq_self_iff, hqueue, if_neg hi]
      refine ⟨.idle, ?_⟩
      simp [UseCount.next, hji, hi, hempty]

end Round

/-- The next round of a loop is a step of the use count. -/
theorem view_advance (i : ι) (x : Stream) (k : κ) (y : Stream) (throws : Bool)
    (s : FanOut ι κ) :
    ∃ step, view i x (s.advance k y throws) =
      UseCount.next maxCounter step (view i x s) := by
  unfold advance
  dsimp only
  split
  · exact ⟨.idle, rfl⟩
  · rename_i j rest hpending
    have hnodup : (j :: rest).Nodup := hpending ▸ (s.fusion k).nodup_pending y
    by_cases hxy : x = y
    · subst hxy
      split
      · exact exists_step_round_of_throws i s x hpending
      · exact exists_step_round_of_returns i s x hpending _
    · split
      · apply exists_step_round_of_ne i s hxy
        rw [filterMap_skipped i x _ (List.nodup_cons.mp hnodup).2,
          FanningProvider.call_command_of_ne (Ne.symm hxy)]
        simp
      · exact exists_step_round_of_ne i s hxy [] _ rfl

/-- Every event is a step of the use count of each stream of each provider. -/
theorem shows_view (providers : κ → List ι) (nodup : ∀ k, (providers k).Nodup)
    (i : ι) (x : Stream) :
    UseCount.Shows maxCounter (view i x) (init providers nodup) next where
  start := by
    ext1
    · funext k
      simp [view, init, FanningProvider.uses, FanningProvider.ofProviders,
        UseCount.init, Controller.inUse, Controller.init]
    · funext k
      simp [view, init, FanningProvider.commands, FanningProvider.ofProviders,
        UseCount.init]
    · rfl
    · rfl
  step e s := by
    cases e with
    | start k y =>
        unfold next
        dsimp only
        split
        · rename_i hidle
          exact view_follows (FanningProvider.follows_startUpdates hidle i x)
        · exact ⟨.idle, rfl⟩
    | stop k y =>
        unfold next
        dsimp only
        split
        · rename_i hidle
          exact view_follows (FanningProvider.follows_stopUpdates hidle i x)
        · exact ⟨.idle, rfl⟩
    | advance k y throws => exact view_advance i x k y throws s

/-! ## The streams of the providers -/

section Runs

variable (providers : κ → List ι) (nodup : ∀ k, (providers k).Nodup)

/-- The state after some events, the oldest first. -/
abbrev run (es : List (FanOutEvent κ)) : FanOut ι κ :=
  Machine.run (init providers nodup) next es

end Runs

/-- No loop for a stream has yet to reach the provider. -/
def Settled (s : FanOut ι κ) (i : ι) (x : Stream) : Prop :=
  ∀ k, i ∉ (s.fusion k).pending x

/-- The controller of the provider refuses a stream. -/
def Refuses (s : FanOut ι κ) (i : ι) (x : Stream) : Prop :=
  (s.provider i).controller.counter x < 0

instance (s : FanOut ι κ) (i : ι) (x : Stream) : Decidable (s.Refuses i x) :=
  inferInstanceAs (Decidable (_ < _))

/-- How often a provider was skipped when it was to be called. -/
def skips (s : FanOut ι κ) (i : ι) (call : Call) : Nat :=
  s.skipped.count (i, call)

/-- The fusion providers that use a stream of a provider, as far as it was
told. -/
def toldUsers [Fintype κ] (s : FanOut ι κ) (i : ι) (x : Stream) : Int :=
  UseCount.users (view i x s).told

omit [DecidableEq κ] in
theorem count_lost (s : FanOut ι κ) (i : ι) (x : Stream) :
    (view i x s).lost.count true = s.skips i (.start x) ∧
      (view i x s).lost.count false = s.skips i (.stop x) := by
  unfold skips view
  dsimp only
  induction s.skipped with
  | nil => exact ⟨rfl, rfl⟩
  | cons skip skipped ih =>
      obtain ⟨hstart, hstop⟩ := ih
      obtain ⟨j, call⟩ := skip
      rw [List.filterMap_cons, List.count_cons, List.count_cons, ← hstart,
        ← hstop]
      by_cases hji : j = i
      · cases call with
        | start y => by_cases hyx : y = x <;>
            simp [skippedCommand, Call.command, hji, hyx]
        | stop y => by_cases hyx : y = x <;>
            simp [skippedCommand, Call.command, hji, hyx]
      · simp [skippedCommand, hji]

omit [DecidableEq κ] in
/-- Without a loop on its way a provider was told what is wanted. -/
theorem told_of_settled {s : FanOut ι κ} {i : ι} {x : Stream}
    (h : s.Settled i x) :
    (view i x s).told = fun k => (s.fusion k).uses i x := by
  funext k
  have hqueue : (view i x s).queue k = [] := if_neg (h k)
  rw [UseCount.told, hqueue]
  rfl

/-- Every event performs a call on a provider or leaves it alone. -/
theorem next_provider (e : FanOutEvent κ) (s : FanOut ι κ) (i : ι) :
    (next e s).provider i = s.provider i ∨
      ∃ call, (next e s).provider i = (s.provider i).perform call := by
  cases e with
  | start k x =>
      unfold next
      dsimp only
      split <;> exact .inl rfl
  | stop k x =>
      unfold next
      dsimp only
      split <;> exact .inl rfl
  | advance k x throws =>
      have hnext : next (.advance k x throws) s = s.advance k x throws := rfl
      rw [hnext]
      unfold advance
      dsimp only
      split
      · exact .inl rfl
      · rename_i j rest hpending
        by_cases hij : i = j
        · subst hij
          right
          refine ⟨(s.fusion k).call x, ?_⟩
          split <;> simp [setFusion]
        · left
          split <;> simp [setFusion, hij]

section Runs

variable {providers : κ → List ι} {nodup : ∀ k, (providers k).Nodup}

theorem streamsCounted_run (es : List (FanOutEvent κ)) (i : ι) :
    ((run providers nodup es).provider i).StreamsCounted := by
  apply Machine.run_invariant fun s : FanOut ι κ =>
    (s.provider i).StreamsCounted
  · exact Implementation.streamsCounted_init
  · intro e s hcounted
    rcases next_provider e s i with hsame | ⟨call, hcall⟩
    · rwa [hsame]
    · rw [hcall]
      exact hcounted.perform call

theorem serves (i : ι) (x : Stream) :
    ServesUsers (fun s : FanOut ι κ => s.provider i) x (view i x)
      (init providers nodup) next :=
  { shows := shows_view providers nodup i x
    count := fun _ => rfl
    counted := fun es => streamsCounted_run es i }

variable [Fintype κ]

/-- The fusion providers that a provider was told of, with the stops and without
the starts that it was skipped for. -/
def balance (s : FanOut ι κ) (i : ι) (x : Stream) : Int :=
  s.toldUsers i x + s.skips i (.stop x) - s.skips i (.start x)

omit [DecidableEq κ] in
theorem balance_view (s : FanOut ι κ) (i : ι) (x : Stream) :
    (view i x s).balance = s.balance i x := by
  have hlost := count_lost s i x
  unfold UseCount.balance
  rw [hlost.1, hlost.2]
  rfl

end Runs

end FanOut

end LocationService
