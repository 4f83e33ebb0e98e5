import LocationService.Session.Counting

/-!
# Sessions across an engine that is switched off and on

With position updates only, the counters of the engine are the numbers of
sessions that have position enabled, as long as the engine is not off.
Switching it off disables the counters and switching it on starts them at zero,
and neither tells the sessions.  So the counters are right after the cycle
exactly if nobody has position enabled when the engine is switched on.
-/

namespace LocationService

open LocationService.Library

namespace System

/-! ## Switching the engine off and on -/

/-- Switching off keeps the providers and the satellite switch. -/
theorem settle_off_keeps (s : System) :
    (s.settle (.engineState .off)).order = s.order ∧
      (s.settle (.engineState .off)).satelliteBasedPositioningState =
        s.satelliteBasedPositioningState := by
  rw [settle_engineState]
  unfold settleEngineState
  split
  · exact ⟨rfl, rfl⟩
  · exact ⟨s.swept_settleOff.order, s.swept_settleOff.satellite⟩

/-- With a service, or with nothing in use, switching off ends with the engine
off. -/
theorem settle_off_engineState {s : System}
    (h : s.service.isSome ∨ ∀ i ∈ s.order, ∀ x, s.counter i x ≤ 0) :
    (s.settle (.engineState .off)).engineState = .off := by
  rw [settle_engineState]
  unfold settleEngineState
  split
  · rename_i hoff
    exact hoff
  · rcases h with hsvc | hquiet
    · exact settleOff_engineState hsvc
    · have hlive : ∀ i ∈ s.order,
          ({ s with engineState := .off } : System).liveStreams i = [] := by
        intro i hi
        refine List.filter_eq_nil_iff.mpr fun x _ => ?_
        have hle : s.counter i x ≤ 0 := hquiet i hi x
        rw [decide_eq_true_eq]
        exact Int.not_lt.mpr hle
      have hloop : s.afterOffLoop.engineState = .off := by
        unfold afterOffLoop
        rw [foldl_settleDisable_quiet s.order _ hlive]
        rfl
      show s.settleOff.engineState = .off
      unfold settleOff
      dsimp only
      split
      · exact hloop
      · rw [if_neg (by simp [hloop])]
        exact hloop

/-- Going offline ends with the engine off. -/
theorem settle_offline {s : System} (h : Inv s) (hsvc : s.service.isSome) :
    let t := s.settle (.isOnline false)
    t.order = s.order ∧
      t.satelliteBasedPositioningState = s.satelliteBasedPositioningState ∧
      t.engineState = .off := by
  obtain ⟨svc, hsome⟩ := Option.isSome_iff_exists.mp hsvc
  dsimp only
  by_cases hoffline : svc.isOnline = false
  · rw [settle_of_holds (by simp [holds, hsome, hoffline])]
    exact ⟨rfl, rfl, h.switches.offline_off svc hsome hoffline⟩
  · rw [settle_isOnline (by simpa [holds, hsome] using hoffline)]
    let u : System := store (.isOnline false) s
    show (u.settleEngineState .off).order = _ ∧
      (u.settleEngineState .off).satelliteBasedPositioningState = _ ∧
      (u.settleEngineState .off).engineState = _
    unfold settleEngineState
    split
    · rename_i hoff
      exact ⟨rfl, rfl, hoff⟩
    · have hu : u.service.isSome := by simp [u, store, hsome]
      exact ⟨u.swept_settleOff.order, u.swept_settleOff.satellite,
        settleOff_engineState hu⟩

/-- `t` is `s` with every counter started at zero. -/
structure Zeroed (s t : System) : Prop where
  order : t.order = s.order
  satellite :
    t.satelliteBasedPositioningState = s.satelliteBasedPositioningState
  counter : ∀ i ∈ s.order, ∀ x, t.counter i x = 0

private theorem zeroed_settleOn {s : System}
    (hsat : s.satelliteBasedPositioningState = .on) : Zeroed s s.settleOn := by
  refine { order := rfl, satellite := rfl, counter := fun i hi x => ?_ }
  have hopen : s.satelliteBlocked i = false := by
    simp [satelliteBlocked, hsat]
  rw [settleOn_counter, if_pos ⟨hi, hopen⟩]

/-- Switching an engine that is off on. -/
theorem settle_on_of_off {s : System} (hoff : s.engineState = .off)
    (hsat : s.satelliteBasedPositioningState = .on) :
    Zeroed s (s.settle (.engineState .on)) := by
  have hrun : s.settle (.engineState .on) = s.settleOn := by
    rw [settle_engineState]
    exact if_neg (by simp [hoff])
  rw [hrun]
  exact zeroed_settleOn hsat

/-- Going online changes nothing, or switches an engine that is off on. -/
theorem settle_online {s : System} (h : Inv s)
    (hsat : s.satelliteBasedPositioningState = .on) :
    s.settle (.isOnline true) = s ∨
      s.engineState = .off ∧ Zeroed s (s.settle (.isOnline true)) := by
  by_cases hholds : holds (.isOnline true) s = true
  · exact .inl (settle_of_holds hholds)
  · refine .inr ?_
    have hoff : s.engineState = .off := by
      cases hsvc : s.service with
      | none => simp [holds, hsvc] at hholds
      | some svc =>
          apply h.switches.offline_off svc hsvc
          simpa [holds, hsvc] using hholds
    refine ⟨hoff, ?_⟩
    rw [settle_isOnline (by simpa using hholds)]
    let u : System := store (.isOnline true) s
    have hu : u.engineState ≠ .on := by
      show s.engineState ≠ .on
      rw [hoff]
      simp
    show Zeroed s (u.settleEngineState .on)
    rw [show u.settleEngineState .on = u.settleOn from if_neg hu]
    have hzero := zeroed_settleOn (s := u) hsat
    exact ⟨hzero.order, hzero.satellite, hzero.counter⟩

end System

namespace World

/-- The steps of position sessions and the transitions of the engine between
off and on. -/
def CycleStep : Action → World → Prop
  | .createSession _, _ => True
  | .setStatus _ x _, _ => x = .position
  | .destroySession _, _ => True
  | .engine (.addProvider ..), _ => True
  | .engine .constructService, w => w.sessions = []
  | .engine (.setEngineState .off), _ => True
  | .engine (.setEngineState .on), w => w.system.engineState = .off
  | .engine (.setOnline _), w => w.system.service.isSome
  | .engine _, _ => False

instance CycleStep.decidable : ∀ a w, Decidable (CycleStep a w)
  | .createSession _, _ => isTrue trivial
  | .setStatus _ x _, _ => inferInstanceAs (Decidable (x = .position))
  | .destroySession _, _ => isTrue trivial
  | .engine (.addProvider ..), _ => isTrue trivial
  | .engine .constructService, w =>
      inferInstanceAs (Decidable (w.sessions = []))
  | .engine (.setEngineState .off), _ => isTrue trivial
  | .engine (.setEngineState .on), w =>
      inferInstanceAs (Decidable (w.system.engineState = .off))
  | .engine (.setEngineState .active), _ => isFalse id
  | .engine (.setSatellite _), _ => isFalse id
  | .engine (.setOnline _), w =>
      inferInstanceAs (Decidable (w.system.service.isSome = true))
  | .engine (.setDoesSatellite _), _ => isFalse id
  | .engine (.start ..), _ => isFalse id
  | .engine (.stop ..), _ => isFalse id

/-- No session uses a provider. -/
def Idle (w : World) : Prop :=
  ∀ c ∈ w.sessions, ∀ x, c.status x = .enabled → c.selection x = none

instance (w : World) : Decidable w.Idle :=
  inferInstanceAs (Decidable (∀ c ∈ w.sessions, ∀ x,
    c.status x = .enabled → c.selection x = none))

/-- The engine is switched on while no session uses a provider, without a
service it is switched off while no session does, and no start makes a counter
wrap around. -/
def CyclesIdle : Action → World → Prop
  | .setStatus k x .enabled, w =>
      ∀ c ∈ w.sessions[k]?, c.status x = .disabled → c.Fits x w.system
  | .engine (.setEngineState .off), w => w.system.service.isSome ∨ w.Idle
  | .engine (.setEngineState .on), w => w.Idle
  | .engine (.setOnline true), w => w.system.engineState = .off → w.Idle
  | _, _ => True

instance CyclesIdle.decidable : ∀ a w, Decidable (CyclesIdle a w)
  | .engine (.setEngineState .off), w =>
      inferInstanceAs (Decidable (w.system.service.isSome = true ∨ w.Idle))
  | .engine (.setEngineState .on), w => inferInstanceAs (Decidable w.Idle)
  | .engine (.setEngineState .active), _ => isTrue trivial
  | .engine (.setOnline true), w =>
      inferInstanceAs (Decidable (w.system.engineState = .off → w.Idle))
  | .engine (.setOnline false), _ => isTrue trivial
  | .engine (.setSatellite _), _ => isTrue trivial
  | .engine (.setDoesSatellite _), _ => isTrue trivial
  | .engine (.start ..), _ => isTrue trivial
  | .engine (.stop ..), _ => isTrue trivial
  | .engine (.addProvider ..), _ => isTrue trivial
  | .engine .constructService, _ => isTrue trivial
  | .createSession _, _ => isTrue trivial
  | .setStatus k x .enabled, w =>
      inferInstanceAs (Decidable (∀ c ∈ w.sessions[k]?,
        c.status x = .disabled → c.Fits x w.system))
  | .setStatus _ _ .disabled, _ => isTrue trivial
  | .destroySession _, _ => isTrue trivial

/-- While the engine is not off, the position counter of a provider is the
number of sessions that have position enabled on it, and its implementation
runs if there is one.  A counter that is such a number is not negative, so
that no start is refused. -/
def CountsSessions (w : World) : Prop :=
  w.system.engineState ≠ .off → ∀ i ∈ w.system.order,
    w.system.counter i .position = w.users i .position ∧
      (0 < w.users i .position → w.system.Running i .position)

/-- What runs of position sessions preserve: the counters, and every provider
in use is active. -/
structure Cycled (w : World) : Prop where
  counted : Counted w
  position : ∀ c ∈ w.sessions, ∀ x, x ≠ .position → c.status x = .disabled
  active : w.system.engineState ≠ .off → ∀ i ∈ w.system.order, ∀ x,
    0 < w.system.counter i x → (w.system.provider i).state = .active

theorem Cycled.countsSessions {w : World} (h : Cycled w) :
    CountsSessions w := by
  intro hne i hi
  have hcount := h.counted.counter hne i hi .position
  refine ⟨hcount, fun hpos => ?_⟩
  have hsound := h.counted.linked.inv.sound
  rw [hsound.running_iff]
  apply hsound.covered i .position
  omega

theorem Cycled.users_of_ne {w : World} (h : Cycled w) (i : ProviderId)
    {x : Stream} (hx : x ≠ .position) : w.users i x = 0 := by
  have hnone : ¬ 0 < w.users i x := by
    intro hpos
    obtain ⟨c, hc, -, hen⟩ := users_pos.mp hpos
    rw [h.position c hc x hx] at hen
    cases hen
  omega

theorem Cycled.users_of_idle {w : World} (hidle : w.Idle) (i : ProviderId)
    (x : Stream) : w.users i x = 0 := by
  have hnone : ¬ 0 < w.users i x := by
    intro hpos
    obtain ⟨c, hc, hsel, hen⟩ := users_pos.mp hpos
    rw [hidle c hc x hen] at hsel
    cases hsel
  omega

/-! ## Session steps -/

/-- With one stream for each provider, a provider that leaves the active state
last leaves nothing in use behind. -/
theorem Cycled.stopsAlone {w : World} (h : Cycled w) (i : ProviderId)
    (hne : w.system.engineState ≠ .off) :
    w.system.StopsAlone i .position := by
  intro _ _ honly j hj y hjy
  have hcount := h.counted.counter hne j hj y
  have hnone : ¬ 0 < w.system.counter j y := by
    intro hpos
    have hji := honly j hj (h.active hne j hj y hpos)
    have hyx : y ≠ .position := fun e => hjy ⟨hji, e⟩
    rw [hcount, h.users_of_ne j hyx] at hpos
    exact absurd hpos (by simp)
  omega

private theorem position_set {w : World} (h : Cycled w) {k : Nat} {c : Session}
    (hc : w.sessions[k]? = some c) {x : Stream} {v : UpdatesStatus}
    (hv : x ≠ .position → v = .disabled) (s : System) :
    ∀ d ∈ (⟨s, w.sessions.set k (c.switched x v)⟩ : World).sessions,
      ∀ y, y ≠ .position → d.status y = .disabled := by
  intro d hd y hy
  rcases List.mem_or_eq_of_mem_set hd with hd | rfl
  · exact h.position d hd y hy
  · by_cases hyx : y = x
    · subst hyx
      rw [Session.switched_status_self]
      exact hv hy
    · rw [Session.switched_status_ne c v hyx]
      exact h.position c (List.mem_of_getElem? hc) y hy

theorem Cycled.enable {w : World} (h : Cycled w) {k : Nat} {c : Session}
    (hc : w.sessions[k]? = some c) (hx : c.status .position = .disabled)
    (hfits : c.Fits .position w.system) :
    let r := c.settleSetStatus .position .enabled w.system
    Cycled ⟨r.2, w.sessions.set k r.1⟩ := by
  have hcounted := h.counted.enable hc hx hfits
  obtain ⟨hr₁, hcases⟩ := h.counted.enable_cases hc hx
  dsimp only at hcounted ⊢
  rw [hr₁] at hcounted ⊢
  refine
    { counted := hcounted
      position := position_set h hc (fun hp => absurd rfl hp) _
      active := fun hne j hj y hy => ?_ }
  rcases hcases with ⟨-, hr₂⟩ | ⟨i, hi, -, hon, -, hst⟩
  · rw [hr₂] at hne hj hy ⊢
    exact h.active hne j hj y hy
  · have hj' : j ∈ w.system.order := hst.order ▸ hj
    have hstate := hst.state j
    by_cases hfirst : j = i ∧ w.system.counter i .position = 0
    · rw [if_pos hfirst] at hstate
      exact hstate
    · rw [if_neg hfirst] at hstate
      have hcount := hst.counter j hj' y
      apply hstate.trans
      by_cases hjy : j = i ∧ y = .position
      · -- The counter was positive before, so the provider was active.
        have hnonneg := h.counted.counter hon i hi .position
        have hpos : w.system.counter i .position ≠ 0 :=
          fun hz => hfirst ⟨hjy.1, hz⟩
        rw [hjy.1]
        exact h.active hon i hi .position (by omega)
      · rw [if_neg hjy] at hcount
        exact h.active hon j hj' y (hcount ▸ hy)

theorem Cycled.disable {w : World} (h : Cycled w) {k : Nat} {c : Session}
    (hc : w.sessions[k]? = some c) (hx : c.status .position = .enabled) :
    let r := c.settleSetStatus .position .disabled w.system
    Cycled ⟨r.2, w.sessions.set k r.1⟩ := by
  have halone : ∀ i, c.selection .position = some i →
      w.system.engineState ≠ .off → w.system.StopsAlone i .position :=
    fun i _ hne => h.stopsAlone i hne
  have hcounted := h.counted.disable hc hx halone
  obtain ⟨hr₁, hcases⟩ := h.counted.disable_cases hc hx halone
  dsimp only at hcounted ⊢
  rw [hr₁] at hcounted ⊢
  refine
    { counted := hcounted
      position := position_set h hc (fun _ => rfl) _
      active := fun hne j hj y hy => ?_ }
  rcases hcases with ⟨-, hr₂⟩ | ⟨i, hi, -, hon, -, hst⟩
  · rw [hr₂] at hne hj hy ⊢
    exact h.active hne j hj y hy
  · have hj' : j ∈ w.system.order := hst.order ▸ hj
    have hcount := hst.counter j hj' y
    have hafter : 0 < (c.settleSetStatus .position .disabled
        w.system).2.counter j y := hy
    have hbefore : 0 < w.system.counter j y := by
      by_cases hjy : j = i ∧ y = .position
      · rw [if_pos hjy] at hcount
        have := lowered_le (w.system.counter j y)
        omega
      · rw [if_neg hjy] at hcount
        omega
    have hold := h.active hon j hj' y hbefore
    have hkeep : ¬ (j = i ∧ w.system.counter i .position = 1) := by
      rintro ⟨hji, hone⟩
      by_cases hyp : y = .position
      · rw [if_pos ⟨hji, hyp⟩, hji, hyp, hone, lowered_one] at hcount
        rw [hji, hyp] at hafter
        omega
      · rw [h.counted.counter hon j hj' y, h.users_of_ne j hyp] at hbefore
        exact absurd hbefore (by simp)
    have hstate := hst.state j
    rw [if_neg hkeep] at hstate
    exact hstate.trans hold

/-- Setting the status of position to any value. -/
theorem Cycled.setStatus {w : World} (h : Cycled w) {k : Nat} {c : Session}
    (hc : w.sessions[k]? = some c) (v : UpdatesStatus)
    (hfits : v = .enabled → c.status .position = .disabled →
      c.Fits .position w.system) :
    let r := c.settleSetStatus .position v w.system
    Cycled ⟨r.2, w.sessions.set k r.1⟩ := by
  by_cases hv : c.status .position = v
  · dsimp only
    rw [Session.settleSetStatus_same hv]
    show Cycled ⟨w.system, w.sessions.set k c⟩
    rw [set_same hc]
    exact h
  · cases v with
    | enabled =>
        have hx : c.status .position = .disabled := by
          cases hval : c.status .position with
          | enabled => exact absurd hval hv
          | disabled => rfl
        exact h.enable hc hx (hfits rfl hx)
    | disabled => exact h.disable hc (enabled_of_ne hv)

theorem Cycled.destroy {w : World} (h : Cycled w) {k : Nat} {c : Session}
    (hc : w.sessions[k]? = some c) :
    Cycled ⟨c.settleDestroy w.system, w.sessions.eraseIdx k⟩ := by
  have hmem : c ∈ w.sessions := List.mem_of_getElem? hc
  let r := c.settleSetStatus .position .disabled w.system
  have hstep : Cycled ⟨r.2, w.sessions.set k r.1⟩ :=
    h.setStatus hc .disabled fun he => nomatch he
  have hget : (w.sessions.set k r.1)[k]? = some r.1 := by
    obtain ⟨hk, -⟩ := List.getElem?_eq_some_iff.mp hc
    simp [hk]
  have hposition : r.1.status .position = .disabled := by
    by_cases hx : c.status .position = .disabled
    · show (c.settleSetStatus .position .disabled w.system).1.status _ = _
      rw [Session.settleSetStatus_same hx]
      exact hx
    · have hen : c.status .position = .enabled := enabled_of_ne hx
      show (c.settleSetStatus .position .disabled w.system).1.status _ = _
      rw [(h.counted.linked.inStep c hmem).disable hen]
      exact Session.switched_status_self c .position .disabled
  have hidle : ∀ x, r.1.status x = .disabled := by
    intro x
    by_cases hx : x = .position
    · rw [hx]
      exact hposition
    · exact hstep.position r.1 (List.mem_of_getElem? hget) x hx
  -- The destructor's other two stops find their streams disabled.
  have hdestroy : c.settleDestroy w.system = r.2 := by
    rw [(h.counted.linked.inStep c hmem).settleDestroy_eq]
    show ((r.1.settleSetStatus .heading .disabled r.2).1.settleSetStatus
      .velocity .disabled (r.1.settleSetStatus .heading .disabled r.2).2).2 = _
    rw [Session.settleSetStatus_same (hidle .heading),
      Session.settleSetStatus_same (hidle .velocity)]
  have herase : (w.sessions.set k r.1).eraseIdx k = w.sessions.eraseIdx k :=
    List.eraseIdx_set_eq
  rw [hdestroy, ← herase]
  exact
    { counted := hstep.counted.eraseIdx hget hidle
      position := fun d hd => hstep.position d (List.mem_of_mem_eraseIdx hd)
      active := hstep.active }

theorem Cycled.create {w : World} (h : Cycled w)
    {selection : Stream → Option ProviderId}
    (hsel : SelectsKnown w.system selection) :
    Cycled { w with sessions := w.sessions ++ [.init selection] } := by
  refine
    { counted := h.counted.create hsel
      position := fun c hc x hx => ?_
      active := h.active }
  rcases List.mem_append.mp hc with hc | hc
  · exact h.position c hc x hx
  · rw [List.mem_singleton.mp hc]
    rfl

/-! ## Engine steps -/

/-- A system whose counters are the numbers of users and that has nothing in
use, or is off. -/
private theorem Cycled.engine {w : World} (h : Cycled w) {s : System}
    (hinv : s.Inv) (horder : s.order = w.system.order)
    (hsat : s.satelliteBasedPositioningState =
      w.system.satelliteBasedPositioningState)
    (hzero : s.engineState ≠ .off → ∀ i ∈ s.order, ∀ x,
      s.counter i x = 0 ∧ w.users i x = 0) :
    Cycled { w with system := s } := by
  refine
    { counted :=
        { linked :=
            { inv := hinv
              inStep := h.counted.linked.inStep
              known := fun c hc x i hi => ?_
              satellite := hsat.trans h.counted.linked.satellite }
          counter := fun hne i hi x => ?_ }
      position := h.position
      active := fun hne i hi x hx => ?_ }
  · show i ∈ s.order
    rw [horder]
    exact h.counted.linked.known c hc x i hi
  · obtain ⟨hc, hu⟩ := hzero hne i hi x
    have hu' : users { w with system := s } i x = 0 := hu
    rw [hc, hu']
    rfl
  · have hc := (hzero hne i hi x).1
    have hx' : 0 < s.counter i x := hx
    omega

theorem Cycled.addProvider {w : World} (h : Cycled w) (k : Nat) (req : Bool) :
    Cycled { w with system := w.system.addProvider k req } := by
  obtain ⟨hsame, -, hcount⟩ :=
    System.addProvider_counter k req h.counted.linked.satellite
  refine
    { counted := h.counted.addProvider k req
      position := h.position
      active := fun hne i hi x hx => ?_ }
  rcases mem_addProvider h.counted.linked k req hi with ⟨rfl, -⟩ | ⟨hi', hio⟩
  · rw [hcount hne x] at hx
    exact absurd hx (by decide)
  · unfold System.counter at hx
    rw [hsame i hi'] at hx ⊢
    exact h.active hne i hio x hx

theorem Cycled.constructService {w : World} (h : Cycled w)
    (hempty : w.sessions = []) :
    Cycled { w with system := w.system.settleConstructService } := by
  have hcounted := h.counted.constructService hempty
  refine
    { counted := hcounted
      position := h.position
      active := fun hne i hi x hx => ?_ }
  rw [hcounted.counter hne i hi x] at hx
  have hidle : Idle { w with system := w.system.settleConstructService } := by
    intro c hc
    rw [hempty] at hc
    cases hc
  rw [Cycled.users_of_idle hidle] at hx
  exact absurd hx (by simp)

/-- Every step that switches the engine on only while it is idle keeps the
counters. -/
theorem Cycled.step {a : Action} {w w' : World} (h : Cycled w)
    (hcyc : CycleStep a w) (hidle : CyclesIdle a w) (hst : Step a w w') :
    Cycled w' := by
  have hcases := step_cases hst
  have hsat := h.counted.linked.satellite
  have hinv := h.counted.linked.inv
  cases a with
  | createSession selection =>
      obtain ⟨hsel, rfl⟩ := hcases
      exact h.create hsel
  | setStatus k x v =>
      obtain ⟨c, hc, rfl⟩ := hcases
      obtain rfl : x = .position := hcyc
      refine h.setStatus hc v fun hv => ?_
      subst hv
      exact hidle c hc
  | destroySession k =>
      obtain ⟨c, hc, rfl⟩ := hcases
      exact h.destroy hc
  | engine a =>
      obtain ⟨s, hs, rfl⟩ := hcases
      have hinv' : s.Inv := System.inv_step hinv (System.step_iff.mpr hs)
      cases a with
      | addProvider k req =>
          obtain rfl : w.system.addProvider k req = s := Option.some.inj hs
          exact h.addProvider k req
      | constructService =>
          obtain ⟨-, rfl⟩ :=
            System.step_constructService (System.step_iff.mpr hs)
          exact h.constructService hcyc
      | setEngineState v =>
          obtain rfl : w.system.settle (.engineState v) = s :=
            Option.some.inj hs
          cases v with
          | off =>
              obtain ⟨horder, hsat'⟩ := w.system.settle_off_keeps
              refine h.engine hinv' horder hsat' fun hne => ?_
              by_cases hoff : w.system.engineState = .off
              · rw [System.settle_of_holds (by simp [System.holds, hoff])] at hne
                exact absurd hoff hne
              · refine absurd (System.settle_off_engineState ?_) hne
                refine hidle.imp_right fun hi i hio x => ?_
                rw [h.counted.counter hoff i hio x, Cycled.users_of_idle hi]
                simp
          | on =>
              have hzero := System.settle_on_of_off hcyc hsat
              refine h.engine hinv' hzero.order hzero.satellite
                fun _ i hi x => ⟨?_, Cycled.users_of_idle hidle i x⟩
              exact hzero.counter i (hzero.order ▸ hi) x
          | active => exact hcyc.elim
      | setOnline v =>
          obtain rfl : w.system.settle (.isOnline v) = s := Option.some.inj hs
          cases v with
          | false =>
              obtain ⟨horder, hsat', hoff⟩ := System.settle_offline hinv hcyc
              exact h.engine hinv' horder hsat' fun hne => absurd hoff hne
          | true =>
              rcases System.settle_online hinv hsat with hsame | ⟨hoff, hzero⟩
              · rw [hsame]
                exact h
              · refine h.engine hinv' hzero.order hzero.satellite
                  fun _ i hi x => ⟨?_, Cycled.users_of_idle (hidle hoff) i x⟩
                exact hzero.counter i (hzero.order ▸ hi) x
      | setSatellite v => exact hcyc.elim
      | setDoesSatellite v => exact hcyc.elim
      | start i x => exact hcyc.elim
      | stop i x => exact hcyc.elim

theorem cycled_initEngine (v : Status) : Cycled ⟨System.initEngine v, []⟩ :=
  { counted := counted_initEngine v
    position := fun _ hc => nomatch hc
    active := fun _ _ hi => nomatch hi }

/-- In every run that switches the engine on only while no session uses a
provider, and whose counters do not wrap around, the counters are the numbers
of sessions. -/
theorem counts_sessions {w : World}
    (h : machine.Reach (fun a w => CycleStep a w ∧ CyclesIdle a w) w) :
    CountsSessions w := by
  have hcyc : Cycled w := by
    refine Machine.Reach.invariant (fun w hw => ?_) (fun a w w' h hg hst => ?_) h
    · obtain ⟨v, rfl⟩ := hw
      exact cycled_initEngine v
    · exact h.step hg.1 hg.2 hst
  exact hcyc.countsSessions

/-- A session that is disabled before the engine comes back is counted when it
is enabled again. -/
theorem counts_sessions_after_cycle :
    ∃ w, Machine.replay settleExec (fun a w => CycleStep a w ∧ CyclesIdle a w)
        [.engine (.addProvider 0 false), .engine .constructService,
          .createSession fun _ => some 0, .setStatus 0 .position .enabled,
          .engine (.setEngineState .off), .setStatus 0 .position .disabled,
          .engine (.setEngineState .on), .setStatus 0 .position .enabled]
        ⟨System.initEngine .on, []⟩ = some w ∧
      w.users 0 .position = 1 ∧ CountsSessions w := by
  have hrun : (Machine.replay settleExec
      (fun a w => CycleStep a w ∧ CyclesIdle a w)
      [.engine (.addProvider 0 false), .engine .constructService,
        .createSession fun _ => some 0, .setStatus 0 .position .enabled,
        .engine (.setEngineState .off), .setStatus 0 .position .disabled,
        .engine (.setEngineState .on), .setStatus 0 .position .enabled]
      ⟨System.initEngine .on, []⟩).any (fun w =>
        decide (w.users 0 .position = 1)) = true := by
    decide
  obtain ⟨w, hw, hreach, husers⟩ := exists_of_replay hrun
  exact ⟨w, hw, husers, counts_sessions hreach⟩

/-- A session that stays enabled while the engine is switched off and on is
not counted afterwards. -/
theorem enabled_session_forgotten :
    ¬ ∀ w, machine.Reach CycleStep w → CountsSessions w := by
  intro hclaim
  have hrun : (Machine.replay settleExec CycleStep
      [.engine (.addProvider 0 false), .engine .constructService,
        .createSession fun _ => some 0, .setStatus 0 .position .enabled,
        .engine (.setEngineState .off), .engine (.setEngineState .on)]
      ⟨System.initEngine .on, []⟩).any (fun w =>
        decide (w.system.engineState ≠ .off ∧ 0 ∈ w.system.order ∧
          w.system.counter 0 .position ≠ w.users 0 .position)) = true := by
    decide
  obtain ⟨w, -, hreach, hne, hmem, hcount⟩ := exists_of_replay hrun
  exact hcount (hclaim w hreach hne 0 hmem).1

end World

end LocationService
