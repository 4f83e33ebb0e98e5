import Mathlib.Data.List.Count
import LocationService.Gps.Invariant

/-!
# One handle at a time

`register_callbacks` destroys the installed handle in its first phase and
creates the next one in its second, with the lock dropped in between.  Because
only one thread is in the reclaim, the handles that are alive can be read off
its program counter: none from the deletion to `u_hardware_gps_new`, the new
one until it is installed, the installed one otherwise.
-/

namespace LocationService.Gps

open LocationService.Library

/-! ## Handles in the log -/

/-- The handles created and not deleted. -/
def liveHandles : List Entry → List Handle
  | [] => []
  | ⟨_, .returned (some h)⟩ :: l => h :: liveHandles l
  | ⟨_, .delete h⟩ :: l => (liveHandles l).erase h
  | _ :: l => liveHandles l

/-- How often the driver handed out `h`. -/
def creations (h : Handle) (l : List Entry) : Nat :=
  l.countP fun e => e.event = .returned (some h)

/-- How often `h` was passed to `u_hardware_gps_delete`. -/
def deletions (h : Handle) (l : List Entry) : Nat :=
  l.countP fun e => e.event = .delete h

theorem Event.tracks_of_passive {e : Event} (h : e.passive = true) :
    e.tracks = false := by
  cases e <;> first | rfl | cases h

@[simp] theorem liveHandles_cons_other {e : Event} (he : e.tracks = false)
    (t : Nat) (l : List Entry) : liveHandles (⟨t, e⟩ :: l) = liveHandles l := by
  cases e <;> first | rfl | cases he

@[simp] theorem creations_cons (h : Handle) (t : Nat) (e : Event)
    (l : List Entry) :
    creations h (⟨t, e⟩ :: l) =
      creations h l + if e = .returned (some h) then 1 else 0 := by
  simp [creations, List.countP_cons]

@[simp] theorem deletions_cons (h : Handle) (t : Nat) (e : Event)
    (l : List Entry) :
    deletions h (⟨t, e⟩ :: l) =
      deletions h l + if e = .delete h then 1 else 0 := by
  simp [deletions, List.countP_cons]

/-! ## Steps outside the reclaim -/

/-- A step outside the reclaim leaves the handles alone; at most it puts a
thread into a reclaim in which there was none. -/
structure Outside (s t : State) : Prop where
  gpsHandle : t.gpsHandle = s.gpsHandle
  nextHandle : t.nextHandle = s.nextHandle
  log : t.log = s.log ∨
    ∃ e, e.tracks = false ∧ t.log = ⟨s.now, e⟩ :: s.log
  reclaim : t.reclaim = s.reclaim ∨ ((∀ u, s.reclaim u = none) ∧
    ∃ w, t.reclaim = Function.update s.reclaim w (some .lockDelete))

private theorem Quiet.untracked {s t : State} (h : Quiet s t) :
    t.log = s.log ∨ ∃ e, e.tracks = false ∧ t.log = ⟨s.now, e⟩ :: s.log := by
  rcases h with h | ⟨e, he, hl⟩
  · exact .inl h
  · exact .inr ⟨e, e.tracks_of_passive he, hl⟩

theorem Called.outside {s t : State} {op : ClientOp} (h : Called s t op) :
    Outside s t where
  gpsHandle := h.same.gpsHandle
  nextHandle := h.same.nextHandle
  log := .inr ⟨_, rfl, h.log⟩
  reclaim := .inl h.reclaim

theorem CallbackStep.outside {s t : State} {u : ThreadId} {pc : CallbackPc}
    (h : CallbackStep s t u pc) : Outside s t where
  gpsHandle := h.same.gpsHandle
  nextHandle := h.same.nextHandle
  log := by
    rcases h.log with hq | ⟨k, -, hk⟩
    · exact hq.untracked
    · exact .inr ⟨_, rfl, hk⟩
  reclaim := .inl h.reclaim

theorem ClientStep.outside {s t : State} (h : ClientStep s t) (hs : s.Held) :
    Outside s t where
  gpsHandle := h.same.gpsHandle
  nextHandle := h.same.nextHandle
  log := by
    rcases h.log with hq | ⟨x, -, -, hk⟩
    · exact hq.untracked
    · exact .inr ⟨_, rfl, hk⟩
  reclaim := by
    rcases h.token with ht | ht | ht
    · exact .inl ht.1
    · exact .inl ht.1
    · exact .inr
        ⟨hs.owned.none_of_spawn ht.1 hs.typed.client, _, ht.2.2.2.2⟩

theorem WatchdogStep.outside {s t : State} (h : WatchdogStep s t)
    (hs : s.Held) : Outside s t where
  gpsHandle := h.same.gpsHandle
  nextHandle := h.same.nextHandle
  log := .inl h.log
  reclaim := by
    rcases h.token with ht | ht
    · exact .inl ht.1
    · exact .inr ⟨hs.owned.none_of_inactive ht.1, _, ht.2.2.2⟩

/-- The thread in the reclaim stays where it is. -/
theorem Outside.keeps {s t : State} (h : Outside s t) {u : ThreadId}
    {pc : ReclaimPc} (hpc : s.reclaim u = some pc) : t.reclaim u = some pc := by
  rcases h.reclaim with hr | ⟨hnone, w, -⟩
  · rw [hr]
    exact hpc
  · rw [hnone u] at hpc
    cases hpc

/-- What is in the reclaim afterwards was there before or has just entered. -/
theorem Outside.entered {s t : State} (h : Outside s t) {u : ThreadId}
    {pc : ReclaimPc} (hpc : t.reclaim u = some pc) :
    s.reclaim u = some pc ∨ pc = .lockDelete := by
  rcases h.reclaim with hr | ⟨hnone, w, hr⟩
  · exact .inl (hr ▸ hpc)
  · rw [hr] at hpc
    by_cases huw : u = w
    · rw [huw, Function.update_self] at hpc
      exact .inr (Option.some.inj hpc).symm
    · rw [Function.update_of_ne huw, hnone u] at hpc
      cases hpc

/-- A step is outside the reclaim or is a step of the thread in it. -/
theorem Moves.outside_or_reclaim {a : Action} {s t : State} (hs : s.Held)
    (h : Moves s a t) :
    Outside s t ∨ ∃ u ok pc, a = .run u ok ∧ s.reclaim u = some pc ∧
      s.runReclaim u ok pc = some t := by
  cases h with
  | tick d => exact .inl ⟨rfl, rfl, .inl rfl, .inl rfl⟩
  | call op idle => exact .inl (Called.of_callOp s op).outside
  | enter u k free driver => exact .inl ⟨rfl, rfl, .inl rfl, .inl rfl⟩
  | callback u ok pc _ here runs =>
      exact .inl (CallbackStep.of_run runs).outside
  | reclaim u ok pc _ calm here runs => exact .inr ⟨u, ok, pc, rfl, here, runs⟩
  | client ok _ calm runs => exact .inl ((ClientStep.of_run runs).outside hs)
  | watchdog ok _ calm outside runs =>
      exact .inl ((WatchdogStep.of_run runs).outside hs)

/-! ## The handles by the program counter of the reclaim -/

/-- Which handles are alive, and which one is installed, while a thread is at
the given point of the reclaim. -/
def ReclaimPc.Fact (live : List Handle) (handle : Option Handle) :
    ReclaimPc → Prop
  | .clear => live = []
  | .unlockDelete | .callNew | .inNew => live = [] ∧ handle = none
  | .lockInstall new | .install new => live = new.toList ∧ handle = none
  | .loadMode => live = handle.toList ∧ handle ≠ none
  | .callMode o => live = handle.toList ∧ handle ≠ none ∧ o = handle
  | .unlockRead o => live = handle.toList ∧ o = handle
  | .loadAgain h | .inAgain h | .arm h | .start h =>
      live = handle.toList ∧ handle = some h
  | .callAgain h o => live = handle.toList ∧ handle = some h ∧ o = some h
  | _ => live = handle.toList

/-- The handles that are alive are those the program counters say. -/
structure State.Tracked (s : State) : Prop where
  fact : ∀ u pc, s.reclaim u = some pc →
    pc.Fact (liveHandles s.log) s.gpsHandle
  rest : (∀ u, s.reclaim u = none) → liveHandles s.log = s.gpsHandle.toList

/-- Whatever the reclaim is at, at most one handle is alive. -/
theorem ReclaimPc.Fact.length_le {live : List Handle} {handle : Option Handle}
    {pc : ReclaimPc} (h : pc.Fact live handle) : live.length ≤ 1 := by
  have htoList : ∀ o : Option Handle, o.toList.length ≤ 1 := by
    intro o
    cases o <;> simp
  cases pc
  case clear => simp [ReclaimPc.Fact] at h; simp [h]
  all_goals
    simp only [ReclaimPc.Fact] at h
    first
      | (rw [h]; exact htoList _)
      | (rw [h.1]; first | exact htoList _ | simp)

theorem State.Tracked.length_le {s : State} (h : s.Tracked) :
    (liveHandles s.log).length ≤ 1 := by
  by_cases hall : ∀ u, s.reclaim u = none
  · rw [h.rest hall]
    cases s.gpsHandle <;> simp
  · obtain ⟨u, hu⟩ := not_forall.mp hall
    obtain ⟨pc, hpc⟩ := Option.ne_none_iff_exists'.mp hu
    exact (h.fact u pc hpc).length_le

/-- One step of the reclaim takes the fact of its program counter to that of
the next. -/
theorem ReclaimPc.Fact.step {s t : State} {u : ThreadId} {ok : Bool}
    {pc : ReclaimPc} (h : pc.Fact (liveHandles s.log) s.gpsHandle)
    (hrun : s.runReclaim u ok pc = some t) :
    (∀ pc', t.reclaim u = some pc' →
      pc'.Fact (liveHandles t.log) t.gpsHandle) ∧
    (t.reclaim u = none → liveHandles t.log = t.gpsHandle.toList) := by
  cases pc
  all_goals simp only [State.runReclaim] at hrun
  case lockDelete | lockInstall new | lockRead =>
    obtain ⟨m, -, rfl⟩ := Option.map_eq_some_iff.mp hrun
    simpa [State.setReclaim, ReclaimPc.Fact] using h
  case delete =>
    split at hrun
    all_goals
      rename_i hh
      obtain rfl := Option.some.inj hrun
      simp_all [State.setReclaim, State.record, ReclaimPc.Fact, liveHandles]
  case inNew =>
    split at hrun
    all_goals
      obtain rfl := Option.some.inj hrun
      simp_all [State.setReclaim, State.record, ReclaimPc.Fact, liveHandles]
  case readHandle =>
    split at hrun
    all_goals
      rename_i hh
      obtain rfl := Option.some.inj hrun
      simp_all [State.setReclaim, ReclaimPc.Fact]
  case unlockRead o =>
    obtain rfl := Option.some.inj hrun
    obtain ⟨hl, rfl⟩ := h
    cases hg : s.gpsHandle with
    | none => simp_all [State.setReclaim, ReclaimPc.Fact]
    | some x =>
        by_cases hu : u = .watchdog
        · simp_all [State.setReclaim, ReclaimPc.Fact]
        · simp_all [State.setReclaim, ReclaimPc.Fact]
  all_goals
    obtain rfl := Option.some.inj hrun
    simp_all [State.setReclaim, State.record, State.dispatchModes,
      ReclaimPc.Fact, liveHandles]

theorem State.Tracked.outside {s t : State} (h : s.Tracked)
    (hout : Outside s t) : t.Tracked := by
  have hlive : liveHandles t.log = liveHandles s.log := by
    rcases hout.log with hl | ⟨e, he, hl⟩
    · rw [hl]
    · rw [hl, liveHandles_cons_other he]
  rcases hout.reclaim with hr | ⟨hnone, w, hr⟩
  · constructor
    · intro u pc hpc
      rw [hlive, hout.gpsHandle]
      exact h.fact u pc (hr ▸ hpc)
    · intro hall
      rw [hlive, hout.gpsHandle]
      exact h.rest (hr ▸ hall)
  · have hrest := h.rest hnone
    constructor
    · intro u pc hpc
      rw [hr] at hpc
      rw [hlive, hout.gpsHandle]
      by_cases hu : u = w
      · subst hu
        rw [Function.update_self] at hpc
        obtain rfl := Option.some.inj hpc
        exact hrest
      · rw [Function.update_of_ne hu, hnone u] at hpc
        cases hpc
    · intro _
      rw [hlive, hout.gpsHandle]
      exact hrest

theorem State.Tracked.step {a : Action} {s t : State} (h : s.Tracked)
    (hs : s.Held) (hst : Moves s a t) : t.Tracked := by
  rcases hst.outside_or_reclaim hs with hout | ⟨u, ok, pc, -, hpc, hrun⟩
  · exact h.outside hout
  · obtain ⟨hfact, hrest⟩ := (h.fact u pc hpc).step hrun
    have hothers := (ReclaimStep.of_run hrun).others
    constructor
    · intro v pc' hpc'
      by_cases hv : v = u
      · exact hfact pc' (hv ▸ hpc')
      · rw [hothers v hv] at hpc'
        have he : v = u :=
          hs.owned.alone (by rw [hpc']; simp) (by rw [hpc]; simp)
        exact absurd he hv
    · intro hall
      exact hrest (hall u)

theorem State.Tracked.init (b : Boot) : (afterConstructor b).Tracked := by
  constructor
  · intro u pc hpc
    cases hpc
  · intro _
    obtain ⟨ok, stamp, c, created, now⟩ := b
    cases ok <;> cases stamp <;> rfl

theorem Reachable.tracked {s : State} (h : Reachable s) : s.Tracked := by
  refine reach_invariant (fun b _ => .init b) ?_ h
  intro a s t hs htr _ hst
  exact htr.step hs.held hst

/-! ## Creations and deletions -/

/-- Every handle is created at most once, and deleted if it is no longer
alive; before the driver is asked for a handle, all earlier ones are gone. -/
structure Counted (l : List Entry) (next : Handle) : Prop where
  balance : ∀ h, deletions h l + (liveHandles l).count h = creations h l
  once : ∀ h, creations h l ≤ 1
  fresh : ∀ h, next ≤ h → creations h l = 0
  replaced : ∀ τ earlier h, (⟨τ, .new⟩ :: earlier) <:+ l →
    0 < creations h earlier → 0 < deletions h earlier

/-- What happens outside the reclaim does not count. -/
theorem Counted.other {l : List Entry} {next : Handle} (h : Counted l next)
    (t : Nat) {e : Event} (he : e.tracks = false) :
    Counted (⟨t, e⟩ :: l) next := by
  have hret : ∀ x, e ≠ .returned (some x) := by
    rintro x rfl
    cases he
  have hdel : ∀ x, e ≠ .delete x := by
    rintro x rfl
    cases he
  constructor
  · intro x
    simpa [he, hret, hdel] using h.balance x
  · intro x
    simpa [hret] using h.once x
  · intro x hx
    simpa [hret] using h.fresh x hx
  · intro τ earlier x hsuf hx
    rcases List.suffix_cons_iff.mp hsuf with heq | hsuf
    · obtain ⟨he', -⟩ := List.cons.inj heq
      have : e = .new := (congrArg Entry.event he').symm
      rw [this] at he
      cases he
    · exact h.replaced τ earlier x hsuf hx

/-- The driver is asked for a handle while none is alive. -/
theorem Counted.new {l : List Entry} {next : Handle} (h : Counted l next)
    (t : Nat) (hlive : liveHandles l = []) :
    Counted (⟨t, .new⟩ :: l) next := by
  constructor
  · intro x
    simpa [liveHandles] using h.balance x
  · intro x
    simpa using h.once x
  · intro x hx
    simpa using h.fresh x hx
  · intro τ earlier x hsuf hx
    rcases List.suffix_cons_iff.mp hsuf with heq | hsuf
    · obtain ⟨-, rfl⟩ := List.cons.inj heq
      have hbal := h.balance x
      rw [hlive, List.count_nil] at hbal
      omega
    · exact h.replaced τ earlier x hsuf hx

theorem Counted.returned_none {l : List Entry} {next : Handle}
    (h : Counted l next) (t : Nat) : Counted (⟨t, .returned none⟩ :: l) next := by
  constructor
  · intro x
    simpa [liveHandles] using h.balance x
  · intro x
    simpa using h.once x
  · intro x hx
    simpa using h.fresh x hx
  · intro τ earlier x hsuf hx
    rcases List.suffix_cons_iff.mp hsuf with heq | hsuf
    · cases heq
    · exact h.replaced τ earlier x hsuf hx

/-- The driver hands out the next handle. -/
theorem Counted.returned_some {l : List Entry} {next : Handle}
    (h : Counted l next) (t : Nat) :
    Counted (⟨t, .returned (some next)⟩ :: l) (next + 1) := by
  have hnew := h.fresh next (Nat.le_refl next)
  constructor
  · intro x
    have hbal := h.balance x
    by_cases hx : next = x
    · subst hx
      simp [liveHandles]
      omega
    · simpa [liveHandles, hx, List.count_cons_of_ne] using hbal
  · intro x
    by_cases hx : next = x
    · subst hx
      simp [hnew]
    · simpa [hx] using h.once x
  · intro x hx
    have hne : next ≠ x := Nat.ne_of_lt hx
    simpa [hne] using h.fresh x (Nat.le_of_succ_le hx)
  · intro τ earlier x hsuf hx
    rcases List.suffix_cons_iff.mp hsuf with heq | hsuf
    · cases heq
    · exact h.replaced τ earlier x hsuf hx

/-- A handle that is alive is deleted. -/
theorem Counted.delete {l : List Entry} {next : Handle} (h : Counted l next)
    (t : Nat) {x : Handle} (hx : x ∈ liveHandles l) :
    Counted (⟨t, .delete x⟩ :: l) next := by
  constructor
  · intro y
    have hbal := h.balance y
    by_cases hy : x = y
    · subst hy
      have hpos := List.count_pos_iff.mpr hx
      simp [liveHandles, List.count_erase_self]
      omega
    · simpa [liveHandles, hy, List.count_erase_of_ne (Ne.symm hy)] using hbal
  · intro y
    simpa using h.once y
  · intro y hy
    simpa using h.fresh y hy
  · intro τ earlier y hsuf hy
    rcases List.suffix_cons_iff.mp hsuf with heq | hsuf
    · cases heq
    · exact h.replaced τ earlier y hsuf hy

theorem Counted.outside {s t : State} (h : Counted s.log s.nextHandle)
    (hout : Outside s t) : Counted t.log t.nextHandle := by
  rw [hout.nextHandle]
  rcases hout.log with hl | ⟨e, he, hl⟩
  · rw [hl]
    exact h
  · rw [hl]
    exact h.other s.now he

theorem Counted.reclaim {s t : State} {u : ThreadId} {ok : Bool}
    {pc : ReclaimPc} (h : Counted s.log s.nextHandle)
    (hfact : pc.Fact (liveHandles s.log) s.gpsHandle)
    (hrun : s.runReclaim u ok pc = some t) : Counted t.log t.nextHandle := by
  cases pc
  all_goals simp only [State.runReclaim] at hrun
  case lockDelete | lockInstall new | lockRead =>
    obtain ⟨m, -, rfl⟩ := Option.map_eq_some_iff.mp hrun
    exact h
  case delete =>
    split at hrun
    · rename_i x hx
      obtain rfl := Option.some.inj hrun
      apply h.delete s.now
      have hlive : liveHandles s.log = s.gpsHandle.toList := hfact
      rw [hlive, hx]
      simp
    · obtain rfl := Option.some.inj hrun
      exact h
  case callNew =>
    obtain rfl := Option.some.inj hrun
    exact h.new s.now hfact.1
  case inNew =>
    split at hrun
    · obtain rfl := Option.some.inj hrun
      exact h.returned_some s.now
    · obtain rfl := Option.some.inj hrun
      exact h.returned_none s.now
  case readHandle =>
    split at hrun
    all_goals
      obtain rfl := Option.some.inj hrun
      exact h
  all_goals
    obtain rfl := Option.some.inj hrun
    first
      | exact h
      | exact h.other s.now rfl

theorem Counted.init (b : Boot) :
    Counted (afterConstructor b).log (afterConstructor b).nextHandle := by
  have hempty : Counted [] 0 :=
    { balance := fun _ => rfl
      once := fun _ => Nat.zero_le 1
      fresh := fun _ _ => rfl
      replaced := fun τ earlier h hsuf => nomatch List.eq_nil_of_suffix_nil hsuf }
  have hnew := hempty.new b.created rfl
  obtain ⟨ok, stamp, c, created, now⟩ := b
  cases ok with
  | false =>
      have hret := hnew.returned_none created
      cases stamp with
      | none => exact hret
      | some τ => exact hret.other τ rfl
  | true =>
      have hret := (hnew.returned_some created).other created
        (e := .setPositionMode (some 0) .mobileStationBased .periodic) rfl
      cases stamp with
      | none => exact hret
      | some τ => exact hret.other τ rfl

theorem Reachable.counted {s : State} (h : Reachable s) :
    Counted s.log s.nextHandle := by
  refine reach_invariant (P := fun s => Counted s.log s.nextHandle)
    (fun b _ => .init b) ?_ h
  intro a s t hs hct _ hst
  rcases hst.outside_or_reclaim hs.held with hout | ⟨u, ok, pc, -, hpc, hrun⟩
  · exact hct.outside hout
  · exact hct.reclaim (hs.tracked.fact u pc hpc) hrun

/-! ## Ownership -/

/-- The lines of `register_callbacks`. -/
def ReclaimPc.registers : ReclaimPc → Bool
  | .lockDelete | .delete | .clear | .unlockDelete | .callNew | .inNew
  | .lockInstall _ | .install _ | .unlockInstall | .readHandle | .loadMode
  | .callMode _ | .inMode => true
  | _ => false

/-- Thread `t` is executing `register_callbacks`. -/
def State.Registers (s : State) (t : ThreadId) : Prop :=
  (s.reclaim t).any ReclaimPc.registers = true

instance (s : State) (t : ThreadId) : Decidable (s.Registers t) :=
  inferInstanceAs (Decidable (_ = true))

/-- In every reachable state at most one handle is alive, at most one thread
executes `register_callbacks`, no handle has been deleted twice, and whenever
the driver was asked for a handle all handles created before had been
deleted. -/
theorem one_handle_at_a_time {s : State} (h : Reachable s) :
    (liveHandles s.log).length ≤ 1 ∧
    (∀ t u, s.Registers t → s.Registers u → t = u) ∧
    (∀ x, deletions x s.log ≤ 1) ∧
    (∀ τ earlier x, (⟨τ, .new⟩ :: earlier) <:+ s.log →
      0 < creations x earlier → 0 < deletions x earlier) := by
  have hct := h.counted
  refine ⟨h.tracked.length_le, fun t u ht hu => ?_, fun x => ?_, hct.replaced⟩
  · have hin : ∀ v, s.Registers v → s.reclaim v ≠ none := by
      intro v hv hnone
      rw [State.Registers, hnone] at hv
      cases hv
    exact h.held.owned.alone (hin t ht) (hin u hu)
  · have hbal := hct.balance x
    have honce := hct.once x
    omega

/-- A recovery thread that has just been handed the first handle. -/
theorem one_handle_while_recovering :
    ∃ s, play (fun _ _ => True) bootWithout
        (.call .startPositioning :: steps .client 5 ++
          steps (.recovery 0) 6) = some s ∧
      (liveHandles s.log).length ≤ 1 ∧
      (∀ t u, s.Registers t → s.Registers u → t = u) ∧
      (∀ x, deletions x s.log ≤ 1) ∧
      (∀ τ earlier x, (⟨τ, .new⟩ :: earlier) <:+ s.log →
        0 < creations x earlier → 0 < deletions x earlier) := by
  obtain ⟨s, hs⟩ := Option.isSome_iff_exists.mp
    (show (play (fun _ _ => True) bootWithout
      (.call .startPositioning :: steps .client 5 ++
        steps (.recovery 0) 6)).isSome by decide)
  exact ⟨s, hs, one_handle_at_a_time (reach_of_play bootWithout_timely hs)⟩

end LocationService.Gps
