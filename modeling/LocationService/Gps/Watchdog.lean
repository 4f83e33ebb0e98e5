import LocationService.Gps.NeverLost

/-!
# Ten seconds of silence

The watchdog should reclaim the callbacks whenever a start is wanted and
nothing has been heard for ten seconds.  It does so exactly if there is a
handle: without one it takes for granted that `start_positioning` is already
recovering, also when the driver refused to hand one out and that recovery is
over.
-/

namespace LocationService.Gps

open LocationService.Library

/-! ## What stamps the timestamp -/

/-- Signs of life: callbacks, starts and calls of the client. -/
def Event.isLife : Event → Bool
  | .callback _ | .start _ | .call _ => true
  | _ => false

/-- The timestamp is not ahead of the clock, and no later than some sign of
life, unless a thread has just armed the watchdog and is about to start the
chipset. -/
structure State.Stamped (s : State) : Prop where
  past : s.lastGpsMs ≤ s.now
  life : s.lastGpsMs = 0 ∨
    (∃ e ∈ s.log, e.event.isLife = true ∧ s.lastGpsMs ≤ e.time) ∨
    (∃ h, s.client = .startStart h) ∨
    ∃ u h, s.reclaim u = some (.start h)

/-- Steps that leave the timestamp and the pending starts alone. -/
private theorem stamped_same {s t : State} (h : s.Stamped)
    (hlast : t.lastGpsMs = s.lastGpsMs) (hnow : s.now ≤ t.now)
    (hlog : ∀ e ∈ s.log, e ∈ t.log)
    (hclient : ∀ x, s.client = .startStart x → t.client = .startStart x)
    (hreclaim : ∀ u x, s.reclaim u = some (.start x) →
      t.reclaim u = some (.start x)) : t.Stamped := by
  constructor
  · rw [hlast]
    exact Nat.le_trans h.past hnow
  · rw [hlast]
    rcases h.life with h0 | ⟨e, he, hlife, hle⟩ | ⟨x, hx⟩ | ⟨u, x, hx⟩
    · exact .inl h0
    · exact .inr (.inl ⟨e, hlog e he, hlife, hle⟩)
    · exact .inr (.inr (.inl ⟨x, hclient x hx⟩))
    · exact .inr (.inr (.inr ⟨u, x, hreclaim u x hx⟩))

/-- A sign of life at the present time. -/
private theorem stamped_life {t : State} {τ : Nat} {e : Event}
    {l : List Entry} (hpast : t.lastGpsMs ≤ τ) (hnow : τ ≤ t.now)
    (hlife : e.isLife = true) (hlog : t.log = ⟨τ, e⟩ :: l) : t.Stamped where
  past := Nat.le_trans hpast hnow
  life := by
    refine .inr (.inl ⟨⟨τ, e⟩, ?_, hlife, hpast⟩)
    rw [hlog]
    exact List.mem_cons_self

private theorem Quiet.log_mem {s t : State} (h : Quiet s t) :
    ∀ e ∈ s.log, e ∈ t.log := by
  rcases h with h | ⟨e, -, h⟩
  · rw [h]
    exact fun _ he => he
  · rw [h]
    exact fun _ he => List.mem_cons_of_mem _ he

private theorem stamped_reclaim {s t : State} {u : ThreadId}
    {pc : ReclaimPc} (h : s.Stamped) (hpc : s.reclaim u = some pc)
    (hrc : ReclaimStep s t u pc) : t.Stamped := by
  have hnow := Nat.le_of_eq hrc.now.symm
  rcases hrc.last with hlast | ⟨x, -, hnext, hlast⟩
  · by_cases hstart : ∃ x, pc = .start x
    · obtain ⟨x, hx⟩ := hstart
      exact stamped_life (hlast ▸ h.past) hnow rfl (hrc.starts x hx)
    · have hmem : ∀ e ∈ s.log, e ∈ t.log := by
        rcases hrc.log with hq | ⟨e, -, hl⟩ | ⟨y, -, -, hl⟩
        · exact hq.log_mem
        · rw [hl]
          exact fun _ he => List.mem_cons_of_mem _ he
        · rw [hl]
          exact fun _ he => List.mem_cons_of_mem _ he
      refine stamped_same h hlast hnow hmem ?_ ?_
      · rw [hrc.client]
        exact fun _ hx => hx
      · intro v x hx
        have hv : v ≠ u := by
          rintro rfl
          exact hstart ⟨x, Option.some.inj (hpc.symm.trans hx)⟩
        rw [hrc.others v hv]
        exact hx
  · exact
      { past := hlast ▸ hnow
        life := .inr (.inr (.inr ⟨u, x, hnext⟩)) }

private theorem stamped_client {s t : State} (h : s.Stamped) (hs : s.Held)
    (hcl : ClientStep s t) : t.Stamped := by
  have hnow := Nat.le_of_eq hcl.same.now.symm
  rcases hcl.last with hlast | ⟨x, -, hnext, hlast⟩
  · by_cases hstart : ∃ x, s.client = .startStart x
    · obtain ⟨x, hx⟩ := hstart
      exact stamped_life (hlast ▸ h.past) hnow rfl (hcl.starts x hx)
    · have hmem : ∀ e ∈ s.log, e ∈ t.log := by
        rcases hcl.log with hq | ⟨x, hx, -, -⟩
        · exact hq.log_mem
        · exact absurd ⟨x, hx⟩ hstart
      refine stamped_same h hlast hnow hmem ?_ ?_
      · intro x hx
        exact absurd ⟨x, hx⟩ hstart
      · intro u x hx
        exact (hcl.outside hs).keeps hx
  · exact
      { past := hlast ▸ hnow
        life := .inr (.inr (.inl ⟨x, hnext⟩)) }

theorem State.Stamped.step {a : Action} {s t : State} (h : s.Stamped)
    (hs : s.Held) (hst : Moves s a t) : t.Stamped := by
  cases hst with
  | tick d =>
      exact stamped_same h rfl (Nat.le_add_right _ _) (fun _ he => he)
        (fun _ hx => hx) (fun _ _ hx => hx)
  | call op idle =>
      have hcall := Called.of_callOp s op
      refine stamped_life ?_ (Nat.le_of_eq hcall.same.now.symm) rfl hcall.log
      rw [hcall.last]
      split
      · exact Nat.zero_le _
      · exact h.past
  | enter u k free driver =>
      exact stamped_same h rfl (Nat.le_refl _) (fun _ he => he)
        (fun _ hx => hx) (fun _ _ hx => hx)
  | callback u ok pc _ here runs =>
      have hcb := CallbackStep.of_run runs
      rcases hcb.last with hlast | ⟨k, -, -, hlast, hl⟩
      · have hmem : ∀ e ∈ s.log, e ∈ t.log := by
          rcases hcb.log with hq | ⟨k, -, hl⟩
          · exact hq.log_mem
          · rw [hl]
            exact fun _ he => List.mem_cons_of_mem _ he
        refine stamped_same h hlast (Nat.le_of_eq hcb.same.now.symm) hmem
          ?_ ?_
        · rw [hcb.client]
          exact fun _ hx => hx
        · rw [hcb.reclaim]
          exact fun _ _ hx => hx
      · exact stamped_life (Nat.le_of_eq hlast)
          (Nat.le_of_eq hcb.same.now.symm) rfl hl
  | reclaim u ok pc _ calm here runs => exact stamped_reclaim h here (.of_run runs)
  | client ok _ calm runs => exact stamped_client h hs (.of_run runs)
  | watchdog ok _ calm outside runs =>
      have hwd := WatchdogStep.of_run runs
      refine stamped_same h hwd.last (Nat.le_of_eq hwd.same.now.symm) ?_ ?_ ?_
      · rw [hwd.log]
        exact fun _ he => he
      · rw [hwd.client]
        exact fun _ hx => hx
      · intro v x hx
        exact (hwd.outside hs).keeps hx

theorem State.Stamped.init {b : Boot} (hb : b.Timely) :
    (afterConstructor b).Stamped := by
  have hstamp := hb.stamp
  obtain ⟨ok, stamp, c, created, now⟩ := b
  cases stamp with
  | none => exact ⟨Nat.zero_le _, .inl rfl⟩
  | some τ =>
      refine ⟨(hstamp τ rfl).2, .inr (.inl
        ⟨⟨τ, .callback .svStatusUpdate⟩, ?_, rfl, Nat.le_refl _⟩)⟩
      simp [afterConstructor, Boot.log]

theorem Reachable.stamped {s : State} (h : Reachable s) : s.Stamped := by
  refine reach_invariant (fun b hb => .init hb) ?_ h
  intro a s t hs hp _ hst
  exact hp.step hs.held hst

/-! ## An iteration of the watchdog -/

/-- The watchdog is between iterations. -/
def State.Between (s : State) : Prop :=
  s.watchdog = .sleep ∧ s.reclaim .watchdog = none

/-- The watchdog runs alone until it is between iterations; `ok` says whether
the driver hands out a handle. -/
inductive Alone (ok : Bool) : State → State → Prop where
  | ended {s : State} (between : s.Between) : Alone ok s s
  | next {s t w : State} (inside : ¬ s.Between)
      (runs : step (.run .watchdog ok) s = some t) (rest : Alone ok t w) :
      Alone ok s w

/-- A complete iteration, with no other step interleaved. -/
def Iteration (ok : Bool) (s w : State) : Prop :=
  ∃ t, step (.run .watchdog ok) s = some t ∧ Alone ok t w

/-- The event `e` was logged after `l`. -/
def Since (l log : List Entry) (e : Event) : Prop :=
  ∃ τ earlier, (⟨τ, e⟩ :: earlier) <:+ log ∧ l <:+ earlier

theorem Since.head {l log : List Entry} (h : l <:+ log) (τ : Nat)
    (e : Event) : Since l (⟨τ, e⟩ :: log) e :=
  ⟨τ, log, List.suffix_rfl, h⟩

theorem Since.cons {l log : List Entry} {e : Event} (h : Since l log e)
    (x : Entry) : Since l (x :: log) e := by
  obtain ⟨τ, earlier, hlog, hl⟩ := h
  exact ⟨τ, earlier, hlog.trans (List.suffix_cons ..), hl⟩

theorem Since.suffix {l log : List Entry} {e : Event} (h : Since l log e) :
    l <:+ log := by
  obtain ⟨τ, earlier, hlog, hl⟩ := h
  exact hl.trans ((List.suffix_cons ..).trans hlog)

/-- After `l` the driver was asked for a handle and, if it returned one, told
to start it. -/
def Reclaims (l : List Entry) (w : State) : Prop :=
  ∃ o, Since l w.log (.returned o) ∧
    ∀ x, o = some x → Since l w.log (.start x)

/-- The next iteration comes to an end and reclaims the callbacks, whatever
the driver returns. -/
def State.Recovers (s : State) : Prop :=
  ∀ ok, (∃ w, Iteration ok s w) ∧ ∀ w, Iteration ok s w → Reclaims s.log w

/-- The driver's answer is all that an iteration depends on. -/
theorem Alone.unique {ok : Bool} {s v w : State} (hv : Alone ok s v)
    (hw : Alone ok s w) : v = w := by
  induction hv with
  | ended between =>
      cases hw with
      | ended _ => rfl
      | next inside _ _ => exact absurd between inside
  | next inside runs rest ih =>
      cases hw with
      | ended between => exact absurd between inside
      | next _ runs' rest' =>
          obtain rfl := Option.some.inj (runs.symm.trans runs')
          exact ih rest'

theorem Iteration.unique {ok : Bool} {s v w : State}
    (hv : Iteration ok s v) (hw : Iteration ok s w) : v = w := by
  obtain ⟨t, ht, hv⟩ := hv
  obtain ⟨t', ht', hw⟩ := hw
  obtain rfl := Option.some.inj (ht.symm.trans ht')
  exact hv.unique hw

/-- On its own the watchdog gets from `s` to the end of its iteration, where
`Q` holds. -/
def Leads (ok : Bool) (s : State) (Q : State → Prop) : Prop :=
  ∃ w, Alone ok s w ∧ Q w

section Leads

variable {ok : Bool} {s t : State} {Q : State → Prop}

theorem step_watchdog (hcb : s.callback .watchdog = none)
    (hr : s.reclaim .watchdog = none) :
    step (.run .watchdog ok) s = s.runWatchdog := by
  simp only [step, State.run, hcb, hr]

theorem Leads.ended (hwd : s.watchdog = .sleep)
    (hr : s.reclaim .watchdog = none) (hq : Q s) : Leads ok s Q :=
  ⟨s, .ended ⟨hwd, hr⟩, hq⟩

theorem Leads.reclaim {pc : ReclaimPc} (h : Leads ok t Q)
    (hcb : s.callback .watchdog = none)
    (hpc : s.reclaim .watchdog = some pc)
    (hrun : s.runReclaim .watchdog ok pc = some t) : Leads ok s Q := by
  obtain ⟨w, hw, hq⟩ := h
  refine ⟨w, .next ?_ ?_ hw, hq⟩
  · intro hb
    rw [hb.2] at hpc
    cases hpc
  · simp only [step, State.run, hcb, hpc, hrun]

theorem Leads.watchdog (h : Leads ok t Q)
    (hcb : s.callback .watchdog = none) (hr : s.reclaim .watchdog = none)
    (hpc : s.watchdog ≠ .sleep) (hrun : s.runWatchdog = some t) :
    Leads ok s Q := by
  obtain ⟨w, hw, hq⟩ := h
  refine ⟨w, .next ?_ ?_ hw, hq⟩
  · intro hb
    exact hpc hb.1
  · rw [step_watchdog hcb hr, hrun]

end Leads

/-! ## The way through the reclaim -/

section Way

variable {ok : Bool} {s : State} {l : List Entry}

/-- From arming the watchdog to the end. -/
theorem leads_arm {x : Handle} (hcb : s.callback .watchdog = none)
    (hpc : s.reclaim .watchdog = some (.arm x)) (hwd : s.watchdog = .sleep)
    (hret : Since l s.log (.returned (some x))) :
    Leads ok s (Reclaims l) := by
  refine Leads.reclaim ?_ hcb hpc rfl
  refine Leads.reclaim ?_ hcb rfl rfl
  refine Leads.reclaim ?_ hcb rfl rfl
  refine Leads.reclaim ?_ hcb rfl rfl
  refine Leads.ended hwd rfl ⟨some x, hret.cons _, ?_⟩
  intro y hy
  obtain rfl := Option.some.inj hy
  exact Since.head hret.suffix s.now _

/-- From the second dispatch of the modes to the end. -/
theorem leads_loadAgain {x : Handle} (hcb : s.callback .watchdog = none)
    (hpc : s.reclaim .watchdog = some (.loadAgain x))
    (hwd : s.watchdog = .sleep) (hret : Since l s.log (.returned (some x))) :
    Leads ok s (Reclaims l) := by
  refine Leads.reclaim ?_ hcb hpc rfl
  refine Leads.reclaim ?_ hcb rfl rfl
  refine Leads.reclaim ?_ hcb rfl rfl
  apply leads_arm
  · simpa [State.dispatchModes] using hcb
  · rfl
  · simpa [State.dispatchModes] using hwd
  · simpa [State.dispatchModes] using hret.cons _

/-- From the handle read the second time to the end. -/
theorem leads_unlockRead {o : Option Handle}
    (hcb : s.callback .watchdog = none)
    (hpc : s.reclaim .watchdog = some (.unlockRead o))
    (hwd : s.watchdog = .sleep) (hret : Since l s.log (.returned o)) :
    Leads ok s (Reclaims l) := by
  refine Leads.reclaim ?_ hcb hpc rfl
  cases o with
  | none =>
      refine Leads.reclaim ?_ hcb rfl rfl
      exact Leads.ended hwd rfl ⟨none, hret, nofun⟩
  | some x => exact leads_loadAgain hcb rfl hwd hret

/-- From the request for the second read to the end. -/
theorem leads_lockRead (hcb : s.callback .watchdog = none)
    (hpc : s.reclaim .watchdog = some .lockRead)
    (hm : s.callbackMutex = .free) (hwd : s.watchdog = .sleep)
    (hret : Since l s.log (.returned s.gpsHandle)) :
    Leads ok s (Reclaims l) := by
  obtain ⟨m, hlock, -⟩ := SharedMutex.free_lockShared ThreadId.watchdog
  have hread : s.runReclaim .watchdog ok .lockRead = some
      { s.setReclaim .watchdog (some .read) with callbackMutex := m } := by
    simp only [State.runReclaim, hm, hlock, Option.map_some]
  refine Leads.reclaim ?_ hcb hpc hread
  refine Leads.reclaim ?_ hcb rfl rfl
  exact leads_unlockRead hcb rfl hwd hret

/-- From the first dispatch of the modes to the end. -/
theorem leads_loadMode (hcb : s.callback .watchdog = none)
    (hpc : s.reclaim .watchdog = some .loadMode)
    (hm : s.callbackMutex = .free) (hwd : s.watchdog = .sleep)
    (hret : Since l s.log (.returned s.gpsHandle)) :
    Leads ok s (Reclaims l) := by
  have hret' := hret.cons ⟨s.now,
    .setPositionMode s.gpsHandle s.assistanceMode s.positionMode⟩
  refine Leads.reclaim ?_ hcb hpc rfl
  refine Leads.reclaim ?_ hcb rfl rfl
  refine Leads.reclaim ?_ hcb rfl rfl
  apply leads_lockRead
  · simpa [State.dispatchModes] using hcb
  · rfl
  · simpa [State.dispatchModes] using hm
  · simpa [State.dispatchModes] using hwd
  · simpa [State.dispatchModes] using hret'

/-- From the test for the new handle to the end. -/
theorem leads_readHandle (hcb : s.callback .watchdog = none)
    (hpc : s.reclaim .watchdog = some .readHandle)
    (hm : s.callbackMutex = .free) (hwd : s.watchdog = .sleep)
    (hret : Since l s.log (.returned s.gpsHandle)) :
    Leads ok s (Reclaims l) := by
  rcases Option.eq_none_or_eq_some s.gpsHandle with hg | ⟨x, hg⟩
  · have hread : s.runReclaim .watchdog ok .readHandle =
        some (s.setReclaim .watchdog (some .lockRead)) := by
      simp only [State.runReclaim, hg]
    refine Leads.reclaim ?_ hcb hpc hread
    exact leads_lockRead hcb rfl hm hwd hret
  · have hread : s.runReclaim .watchdog ok .readHandle =
        some (s.setReclaim .watchdog (some .loadMode)) := by
      simp only [State.runReclaim, hg]
    refine Leads.reclaim ?_ hcb hpc hread
    exact leads_loadMode hcb rfl hm hwd hret

/-- From the installation of what the driver returned to the end. -/
theorem leads_lockInstall {new : Option Handle}
    (hcb : s.callback .watchdog = none)
    (hpc : s.reclaim .watchdog = some (.lockInstall new))
    (hm : s.callbackMutex = .free) (hwd : s.watchdog = .sleep)
    (hret : Since l s.log (.returned new)) : Leads ok s (Reclaims l) := by
  obtain ⟨m, hlock, hunlock⟩ := SharedMutex.free_lock ThreadId.watchdog
  have hinstall : s.runReclaim .watchdog ok (.lockInstall new) = some
      { s.setReclaim .watchdog (some (.install new)) with
        callbackMutex := m } := by
    simp only [State.runReclaim, hm, hlock, Option.map_some]
  refine Leads.reclaim ?_ hcb hpc hinstall
  refine Leads.reclaim ?_ hcb rfl rfl
  refine Leads.reclaim ?_ hcb rfl rfl
  exact leads_readHandle hcb rfl hunlock hwd hret

/-- From the call of the driver to the end. -/
theorem leads_callNew (hcb : s.callback .watchdog = none)
    (hpc : s.reclaim .watchdog = some .callNew)
    (hm : s.callbackMutex = .free) (hwd : s.watchdog = .sleep)
    (hl : l <:+ s.log) : Leads ok s (Reclaims l) := by
  have hnew : l <:+ (s.record .new).log := hl.trans (List.suffix_cons ..)
  refine Leads.reclaim ?_ hcb hpc rfl
  cases ok with
  | true =>
      refine Leads.reclaim ?_ hcb rfl rfl
      apply leads_lockInstall
      · simpa using hcb
      · rfl
      · simpa using hm
      · simpa using hwd
      · simpa using Since.head hnew s.now _
  | false =>
      refine Leads.reclaim ?_ hcb rfl rfl
      apply leads_lockInstall
      · simpa using hcb
      · rfl
      · simpa using hm
      · simpa using hwd
      · simpa using Since.head hnew s.now _

/-- The whole of it, from the lock around the deletion on. -/
theorem leads_lockDelete (hcb : s.callback .watchdog = none)
    (hpc : s.reclaim .watchdog = some .lockDelete)
    (hm : s.callbackMutex = .free) (hwd : s.watchdog = .sleep) {x : Handle}
    (hx : s.gpsHandle = some x) : Leads ok s (Reclaims s.log) := by
  obtain ⟨m, hlock, hunlock⟩ := SharedMutex.free_lock ThreadId.watchdog
  have hdelete : s.runReclaim .watchdog ok .lockDelete = some
      { s.setReclaim .watchdog (some .delete) with callbackMutex := m } := by
    simp only [State.runReclaim, hm, hlock, Option.map_some]
  refine Leads.reclaim ?_ hcb hpc hdelete
  have hgone : State.runReclaim
      { s.setReclaim .watchdog (some .delete) with callbackMutex := m }
      .watchdog ok .delete = some (State.setReclaim (State.record
        { s.setReclaim .watchdog (some .delete) with callbackMutex := m }
        (.delete x)) .watchdog (some .clear)) := by
    simp only [State.runReclaim, State.setReclaim, hx]
  refine Leads.reclaim ?_ hcb rfl hgone
  refine Leads.reclaim ?_ hcb rfl rfl
  refine Leads.reclaim ?_ hcb rfl rfl
  exact leads_callNew hcb rfl hunlock hwd (List.suffix_cons ..)

end Way

/-! ## Ten seconds of silence -/

/-- A start is wanted and has returned, nothing is in progress and nothing has
happened for more than ten seconds. -/
structure State.Silent (s : State) : Prop where
  wanted : wanted s.log = true
  returned : s.client = .idle
  reclaim : ∀ u, s.reclaim u = none
  sleeping : s.watchdog = .sleep
  callback : ∀ u, s.callback u = none
  silence : ∀ e ∈ s.log, e.event.isLife = true → e.time + 10000 < s.now

theorem State.Silent.mutex_free {s : State} (h : s.Silent) (hs : s.Held) :
    s.callbackMutex = .free := by
  refine hs.locked.eq_free (fun u => ?_) (fun u => ?_)
  · have hown : s.ownShares u = 0 := by
      cases u <;> simp [State.ownShares, h.returned, h.sleeping,
        ClientPc.shares, WatchdogPc.shares]
    simp [State.shares, hown, h.reclaim, h.callback]
  · simp [State.Excludes, h.reclaim]

/-- In the silence an armed timestamp is stale. -/
theorem State.Silent.stale {s : State} (h : s.Silent) (hst : s.Stamped)
    (hlast : s.lastGpsMs ≠ 0) : ¬ s.now - s.lastGpsMs ≤ 10000 := by
  rcases hst.life with h0 | ⟨e, he, hlife, hle⟩ | ⟨x, hx⟩ | ⟨u, x, hx⟩
  · exact absurd h0 hlast
  · have := h.silence e he hlife
    omega
  · rw [h.returned] at hx
    cases hx
  · rw [h.reclaim u] at hx
    cases hx

theorem State.Silent.inactive {s : State} (h : s.Silent) (hs : s.Held) :
    s.positioningActive = false := by
  by_contra hon
  obtain ⟨u, hu⟩ := hs.owned.owned (by simpa using hon)
  rcases hu with hu | ⟨-, hc⟩
  · exact hu (h.reclaim u)
  · rw [h.returned] at hc
    cases hc

/-- Every iteration begins by waking up. -/
theorem State.Silent.iteration {s : State} (h : s.Silent) {ok : Bool}
    {Q : State → Prop}
    (hq : Leads ok { s with watchdog := .loadLast } Q) :
    ∃ w, Iteration ok s w ∧ Q w := by
  obtain ⟨w, hw, hq⟩ := hq
  refine ⟨w, ⟨_, ?_, hw⟩, hq⟩
  rw [step_watchdog (h.callback _) (h.reclaim _)]
  simp only [State.runWatchdog, h.sleeping]

section Check

variable {ok : Bool} {s : State}

/-- The check of the handle when there is one. -/
theorem leads_lockCheck (hcb : s.callback .watchdog = none)
    (hr : s.reclaim .watchdog = none) (hpc : s.watchdog = .lockCheck)
    (hm : s.callbackMutex = .free) (hoff : s.positioningActive = false)
    {x : Handle} (hx : s.gpsHandle = some x) :
    Leads ok s (Reclaims s.log) := by
  obtain ⟨m, hlock, hunlock⟩ := SharedMutex.free_lockShared ThreadId.watchdog
  have hcheck : s.runWatchdog = some
      { s with callbackMutex := m, watchdog := .readHandle } := by
    simp only [State.runWatchdog, hpc, hm, hlock, Option.map_some]
  have hread : State.runWatchdog
      { s with callbackMutex := m, watchdog := .readHandle } =
      some { s with callbackMutex := m, watchdog := .unlockCheck true } := by
    simp only [State.runWatchdog, hx, Option.isSome_some]
  have hunlock' : State.runWatchdog
      { s with callbackMutex := m, watchdog := .unlockCheck true } =
      some { s with callbackMutex := .free, watchdog := .exchange } := by
    simp only [State.runWatchdog, hunlock, if_true]
  have hexchange : State.runWatchdog
      { s with callbackMutex := .free, watchdog := .exchange } =
      some { s.setReclaim .watchdog (some .lockDelete) with
        callbackMutex := .free
        positioningActive := true
        watchdog := .sleep } := by
    simp [State.runWatchdog, State.setReclaim, hoff]
  refine Leads.watchdog ?_ hcb hr (by simp [hpc]) hcheck
  refine Leads.watchdog ?_ hcb hr (by simp) hread
  refine Leads.watchdog ?_ hcb hr (by simp) hunlock'
  refine Leads.watchdog ?_ hcb hr (by simp) hexchange
  exact leads_lockDelete hcb rfl rfl rfl hx

/-- The check of the handle when there is none: back to sleep. -/
theorem leads_lockCheck_none (hcb : s.callback .watchdog = none)
    (hr : s.reclaim .watchdog = none) (hpc : s.watchdog = .lockCheck)
    (hm : s.callbackMutex = .free) (hx : s.gpsHandle = none) :
    Leads ok s fun w => w.log = s.log := by
  obtain ⟨m, hlock, hunlock⟩ := SharedMutex.free_lockShared ThreadId.watchdog
  have hcheck : s.runWatchdog = some
      { s with callbackMutex := m, watchdog := .readHandle } := by
    simp only [State.runWatchdog, hpc, hm, hlock, Option.map_some]
  have hread : State.runWatchdog
      { s with callbackMutex := m, watchdog := .readHandle } =
      some { s with callbackMutex := m, watchdog := .unlockCheck false } := by
    simp only [State.runWatchdog, hx, Option.isSome_none]
  refine Leads.watchdog ?_ hcb hr (by simp [hpc]) hcheck
  refine Leads.watchdog ?_ hcb hr (by simp) hread
  refine Leads.watchdog ?_ hcb hr (by simp) rfl
  exact Leads.ended rfl hr rfl

end Check

/-- An iteration that has seen data gets to the check of the handle. -/
theorem State.Silent.iteration_of_check {s : State} (hr : Reachable s)
    (h : s.Silent) (hlast : s.lastGpsMs ≠ 0) {ok : Bool} {P : State → Prop}
    (hcheck : Leads ok { s with watchdog := .lockCheck } P) :
    ∃ w, Iteration ok s w ∧ P w := by
  have hstale := h.stale hr.stamped hlast
  have hload : State.runWatchdog { s with watchdog := .loadLast } =
      some { s with watchdog := .compare s.lastGpsMs } := by
    simp only [State.runWatchdog, if_neg hlast]
  have hcompare : State.runWatchdog
      { s with watchdog := .compare s.lastGpsMs } =
      some { s with watchdog := .lockCheck } := by
    simp only [State.runWatchdog, if_neg hstale]
  apply h.iteration
  refine Leads.watchdog ?_ (h.callback _) (h.reclaim _) (by simp) hload
  exact Leads.watchdog hcheck (h.callback _) (h.reclaim _) (by simp) hcompare

/-- With a handle the next iteration reclaims the callbacks. -/
theorem silence_reclaims {s : State} (hr : Reachable s) (h : s.Silent)
    {x : Handle} (hx : s.gpsHandle = some x) (ok : Bool) :
    ∃ w, Iteration ok s w ∧ Reclaims s.log w := by
  have hlast := (start_is_never_lost hr h.wanted h.returned h.reclaim x hx).2
  apply h.iteration_of_check hr hlast
  exact leads_lockCheck (h.callback _) (h.reclaim _) rfl
    (h.mutex_free hr.held) (h.inactive hr.held) hx

/-- Without one the next iteration does nothing. -/
theorem silence_goes_on {s : State} (hr : Reachable s) (h : s.Silent)
    (hx : s.gpsHandle = none) (ok : Bool) :
    ∃ w, Iteration ok s w ∧ w.log = s.log := by
  by_cases hlast : s.lastGpsMs = 0
  · have hload : State.runWatchdog { s with watchdog := .loadLast } =
        some { s with watchdog := .sleep } := by
      simp only [State.runWatchdog, if_pos hlast]
    apply h.iteration
    refine Leads.watchdog ?_ (h.callback _) (h.reclaim _) (by simp) hload
    exact Leads.ended rfl (h.reclaim _) rfl
  · apply h.iteration_of_check hr hlast
    exact leads_lockCheck_none (h.callback _) (h.reclaim _) rfl
      (h.mutex_free hr.held) hx

/-- Nothing is logged after the end of the log. -/
theorem not_since_self (l : List Entry) (e : Event) : ¬ Since l l e := by
  rintro ⟨τ, earlier, hlog, hl⟩
  have hle := hlog.length_le
  have hle' := hl.length_le
  rw [List.length_cons] at hle
  omega

/-- Without a handle the silence goes on. -/
theorem not_recovers {s : State} (hr : Reachable s) (h : s.Silent)
    (hx : s.gpsHandle = none) : ¬ s.Recovers := by
  intro hrec
  obtain ⟨w, hw, hlog⟩ := silence_goes_on hr h hx true
  obtain ⟨o, ho, -⟩ := (hrec true).2 w hw
  rw [hlog] at ho
  exact not_since_self _ _ ho

/-- In the silence the watchdog reclaims the callbacks exactly if there is a
handle. -/
theorem silence_ends_iff {s : State} (hr : Reachable s) (h : s.Silent) :
    s.Recovers ↔ s.gpsHandle ≠ none := by
  constructor
  · intro hrec hx
    exact not_recovers hr h hx hrec
  · intro hx ok
    obtain ⟨x, hx⟩ := Option.ne_none_iff_exists'.mp hx
    obtain ⟨w, hw, hq⟩ := silence_reclaims hr h hx ok
    refine ⟨⟨w, hw⟩, fun v hv => ?_⟩
    rw [hv.unique hw]
    exact hq

/-- A start on the handle of the constructor, then silence. -/
theorem silence_ends_with_handle :
    ∃ s, play (fun _ _ => True) bootWith
        (.call .startPositioning :: steps .client 8 ++ [.tick 10001]) =
        some s ∧ s.Recovers := by
  have hrun : (play (fun _ _ => True) bootWith
      (.call .startPositioning :: steps .client 8 ++
        [.tick 10001])).isSome := by decide
  have hplay := (Option.some_get hrun).symm
  have hr := Reachable.of_reach (reach_of_play bootWith_timely hplay)
  have hsilence : ∀ e ∈ (Option.get _ hrun).log, e.event.isLife = true →
      e.time + 10000 < (Option.get _ hrun).now := of_decide_eq_true rfl
  have hsilent : State.Silent (Option.get _ hrun) :=
    { wanted := rfl
      returned := rfl
      reclaim := fun _ => rfl
      sleeping := rfl
      callback := fun _ => rfl
      silence := hsilence }
  have hhandle : (Option.get _ hrun).gpsHandle ≠ none := nofun
  exact ⟨_, hplay, (silence_ends_iff hr hsilent).mpr hhandle⟩

/-- The driver refuses a handle to the constructor and to the recovery that
the start spawns.  The recovery ends, and no later iteration reclaims. -/
theorem silence_without_handle :
    ¬ ∀ s, Reachable s → s.Silent → s.Recovers := by
  intro hall
  have hrun : (play (fun _ _ => True) bootWithout
      (.call .startPositioning :: steps .client 5 ++
        List.replicate 14 (.run (.recovery 0) false) ++
        [.tick 10001])).isSome := by decide
  have hplay := (Option.some_get hrun).symm
  have hr := Reachable.of_reach (reach_of_play bootWithout_timely hplay)
  have hreclaim : ∀ u, (Option.get _ hrun).reclaim u = none := by
    intro u
    cases u with
    | client => rfl
    | watchdog => rfl
    | recovery n => cases n <;> rfl
    | chipset n => rfl
  have hsilence : ∀ e ∈ (Option.get _ hrun).log, e.event.isLife = true →
      e.time + 10000 < (Option.get _ hrun).now := of_decide_eq_true rfl
  have hsilent : State.Silent (Option.get _ hrun) :=
    { wanted := rfl
      returned := rfl
      reclaim := hreclaim
      sleeping := rfl
      callback := fun _ => rfl
      silence := hsilence }
  have hhandle : (Option.get _ hrun).gpsHandle = none := rfl
  exact not_recovers hr hsilent hhandle (hall _ hr hsilent)

end LocationService.Gps
