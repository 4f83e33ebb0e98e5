import LocationService.Gps.Ownership

/-!
# A start is never lost

`start_positioning` returns true on three paths without starting anything
itself: the mutex is taken by a writer, another thread is reclaiming, or the
handle is missing.  In each case some thread in the reclaim has not passed the
point where it starts the chipset.  `Secured` says so, and `Kept` says what the
client knows at each point of the call on the way there.
-/

namespace LocationService.Gps

open LocationService.Library

/-! ## What the client asked for last -/

/-- The last call of `start_positioning` or `stop_positioning` is a start. -/
def wanted : List Entry → Bool
  | [] => false
  | ⟨_, .call .startPositioning⟩ :: _ => true
  | ⟨_, .call .stopPositioning⟩ :: _ => false
  | _ :: l => wanted l

/-- `u_hardware_gps_start` was called on `h` after the last
`stop_positioning`. -/
def startedSince (h : Handle) : List Entry → Bool
  | [] => false
  | ⟨_, .start h'⟩ :: l => h' = h || startedSince h l
  | ⟨_, .call .stopPositioning⟩ :: _ => false
  | _ :: l => startedSince h l

/-- The two calls that `wanted` goes by. -/
def Event.requests : Event → Bool
  | .call .startPositioning | .call .stopPositioning => true
  | _ => false

theorem Event.requests_of_passive {e : Event} (h : e.passive = true) :
    e.requests = false := by
  cases e <;> first | rfl | cases h

theorem Event.requests_of_tracks {e : Event} (h : e.tracks = true) :
    e.requests = false := by
  cases e <;> first | rfl | cases h

@[simp] theorem wanted_cons_other {e : Event} (he : e.requests = false)
    (t : Nat) (l : List Entry) : wanted (⟨t, e⟩ :: l) = wanted l := by
  cases e with
  | call op =>
      cases op
      case startPositioning | stopPositioning => cases he
      all_goals rfl
  | _ => rfl

/-- Only a stop makes a start count no longer. -/
theorem startedSince_cons {e : Event} (he : e.requests = false) {h : Handle}
    (t : Nat) {l : List Entry} (hl : startedSince h l = true) :
    startedSince h (⟨t, e⟩ :: l) = true := by
  cases e with
  | call op =>
      cases op
      case startPositioning | stopPositioning => cases he
      all_goals exact hl
  | start h' => simp [startedSince, hl]
  | _ => exact hl

theorem startedSince_start (h : Handle) (t : Nat) (l : List Entry) :
    startedSince h (⟨t, .start h⟩ :: l) = true := by
  simp [startedSince]

/-! ## What secures a start -/

/-- The reclaim has yet to start the chipset with the watchdog armed. -/
def ReclaimPc.WillStart (last : Nat) : ReclaimPc → Prop
  | .unlockRead none | .inStart | .release => False
  | .start _ => last ≠ 0
  | _ => True

/-- There is no handle to start, or it is started and watched, or the thread
in the reclaim will see to it. -/
def State.Secured (s : State) : Prop :=
  s.gpsHandle = none ∨
    (∃ h, s.gpsHandle = some h ∧ startedSince h s.log = true ∧
      s.lastGpsMs ≠ 0) ∨
    ∃ u pc, s.reclaim u = some pc ∧ pc.WillStart s.lastGpsMs

/-- What the client can rely on at each point when a start is wanted. -/
def ClientPc.Kept (s : State) : ClientPc → Prop
  | .startTry | .startRead => True
  | .startMode h | .startInMode h | .startUnlock h => s.gpsHandle = some h
  | .startUnlockNull => s.gpsHandle = none
  | .startArm h => s.gpsHandle = some h ∨ s.Secured
  | .startStart h => (s.gpsHandle = some h ∧ s.lastGpsMs ≠ 0) ∨ s.Secured
  | .stopTry | .stopRead | .stopStop | .stopInStop | .stopUnlock => False
  | _ => s.Secured

/-- Steps that forget no start and disarm nothing. -/
structure Keeps (s t : State) : Prop where
  gpsHandle : t.gpsHandle = s.gpsHandle
  last : s.lastGpsMs ≠ 0 → t.lastGpsMs ≠ 0
  started : ∀ h, startedSince h s.log = true → startedSince h t.log = true
  reclaim : ∀ u pc, s.reclaim u = some pc → t.reclaim u = some pc

theorem State.Secured.keeps {s t : State} (h : s.Secured) (hk : Keeps s t) :
    t.Secured := by
  rcases h with h | ⟨x, hx, hst, hl⟩ | ⟨u, pc, hpc, hw⟩
  · exact .inl (hk.gpsHandle.trans h)
  · exact .inr (.inl ⟨x, hk.gpsHandle.trans hx, hk.started x hst, hk.last hl⟩)
  · refine .inr (.inr ⟨u, pc, hk.reclaim u pc hpc, ?_⟩)
    cases pc
    case start x => exact hk.last hw
    case unlockRead o =>
      cases o with
      | none => exact hw
      | some x => trivial
    all_goals exact hw

theorem ClientPc.Kept.keeps {s t : State} {pc : ClientPc} (h : pc.Kept s)
    (hk : Keeps s t) : pc.Kept t := by
  cases pc
  case startTry | startRead => trivial
  case startMode x | startInMode x | startUnlock x =>
    exact hk.gpsHandle.trans h
  case startUnlockNull => exact hk.gpsHandle.trans h
  case startArm x =>
    rcases h with h | h
    · exact .inl (hk.gpsHandle.trans h)
    · exact .inr (h.keeps hk)
  case startStart x =>
    rcases h with h | h
    · exact .inl ⟨hk.gpsHandle.trans h.1, hk.last h.2⟩
    · exact .inr (h.keeps hk)
  case stopTry | stopRead | stopStop | stopInStop | stopUnlock => exact h
  all_goals exact State.Secured.keeps h hk

/-- A wanted start is kept, and the clock has started. -/
structure State.Promised (s : State) : Prop where
  positive : 0 < s.now
  kept : wanted s.log = true → s.client.Kept s

/-! ## The log of quiet steps -/

private theorem Quiet.wanted {s t : State} (h : Quiet s t) :
    wanted t.log = wanted s.log := by
  rcases h with h | ⟨e, he, hl⟩
  · rw [h]
  · rw [hl, wanted_cons_other (e.requests_of_passive he)]

private theorem Quiet.started {s t : State} (h : Quiet s t) (x : Handle)
    (hx : startedSince x s.log = true) : startedSince x t.log = true := by
  rcases h with h | ⟨e, he, hl⟩
  · rw [h]
    exact hx
  · rw [hl]
    exact startedSince_cons (e.requests_of_passive he) _ hx

/-! ## The reclaim -/

/-- A thread that holds the mutex exclusively has yet to start the chipset. -/
theorem ReclaimPc.willStart_of_excludes {pc : ReclaimPc}
    (h : pc.excludes = true) (last : Nat) : pc.WillStart last := by
  cases pc
  case delete | clear | unlockDelete | install | unlockInstall => trivial
  all_goals cases h

/-- Only a thread that holds the mutex exclusively changes the handle, and it
has yet to start the chipset. -/
theorem ReclaimStep.secured_of_write {s t : State} {u : ThreadId}
    {pc : ReclaimPc} (h : ReclaimStep s t u pc)
    (hwrite : t.gpsHandle ≠ s.gpsHandle) :
    pc.excludes = true ∧ t.Secured := by
  rcases h.gpsHandle with hsame | ⟨rfl, -, hnone⟩ | ⟨new, rfl, hnext, -⟩
  · exact absurd hsame hwrite
  · exact ⟨rfl, .inl hnone⟩
  · exact ⟨rfl, .inr (.inr ⟨u, _, hnext, trivial⟩)⟩

theorem ReclaimStep.wanted {s t : State} {u : ThreadId} {pc : ReclaimPc}
    (h : ReclaimStep s t u pc) : wanted t.log = wanted s.log := by
  rcases h.log with hq | ⟨e, he, hl⟩ | ⟨x, -, -, hl⟩
  · exact hq.wanted
  · rw [hl, wanted_cons_other (e.requests_of_tracks he)]
  · rw [hl]
    rfl

theorem ReclaimStep.started {s t : State} {u : ThreadId} {pc : ReclaimPc}
    (h : ReclaimStep s t u pc) (x : Handle)
    (hx : startedSince x s.log = true) : startedSince x t.log = true := by
  rcases h.log with hq | ⟨e, he, hl⟩ | ⟨y, -, -, hl⟩
  · exact hq.started x hx
  · rw [hl]
    exact startedSince_cons (e.requests_of_tracks he) _ hx
  · rw [hl]
    exact startedSince_cons (e := .start y) rfl _ hx

theorem ReclaimStep.last_ne {s t : State} {u : ThreadId} {pc : ReclaimPc}
    (h : ReclaimStep s t u pc) (hpos : 0 < s.now) (hl : s.lastGpsMs ≠ 0) :
    t.lastGpsMs ≠ 0 := by
  rcases h.last with he | ⟨x, -, -, he⟩
  · rwa [he]
  · rw [he]
    omega

/-- The thread in the reclaim passes the start on to its next step, or has
made it. -/
theorem secured_reclaim {s t : State} {u : ThreadId} {ok : Bool}
    {pc : ReclaimPc} (hs : s.Held) (htr : s.Tracked) (hpos : 0 < s.now)
    (hsec : s.Secured) (hpc : s.reclaim u = some pc)
    (hrun : s.runReclaim u ok pc = some t) : t.Secured := by
  have hfact := htr.fact u pc hpc
  have hrc := ReclaimStep.of_run hrun
  -- what is left of `hsec` once the reclaim no longer stands for it
  have hsettled : t.gpsHandle = s.gpsHandle → ¬ pc.WillStart s.lastGpsMs →
      t.Secured := by
    intro hg hno
    rcases hsec with h | ⟨x, hx, hst, hl⟩ | ⟨v, pc', hpc', hw⟩
    · exact .inl (hg.trans h)
    · exact .inr (.inl
        ⟨x, hg.trans hx, hrc.started x hst, hrc.last_ne hpos hl⟩)
    · obtain rfl := hs.owned.alone (t := v) (u := u) (by rw [hpc']; simp)
        (by rw [hpc]; simp)
      obtain rfl := Option.some.inj (hpc'.symm.trans hpc)
      exact absurd hw hno
  have hpass : ∀ next : ReclaimPc, t.reclaim u = some next →
      next.WillStart t.lastGpsMs → t.Secured :=
    fun next hn hw => .inr (.inr ⟨u, next, hn, hw⟩)
  cases pc
  all_goals simp only [State.runReclaim] at hrun
  case lockDelete | lockInstall new | lockRead =>
    obtain ⟨m, -, rfl⟩ := Option.map_eq_some_iff.mp hrun
    exact hpass _ (Function.update_self ..) trivial
  case delete | inNew | readHandle =>
    split at hrun
    all_goals
      obtain rfl := Option.some.inj hrun
      exact hpass _ (Function.update_self ..) trivial
  case read =>
    obtain rfl := Option.some.inj hrun
    rcases Option.eq_none_or_eq_some s.gpsHandle with hg | ⟨x, hg⟩
    · exact .inl hg
    · refine hpass (.unlockRead (some x)) ?_ trivial
      rw [← hg]
      exact Function.update_self ..
  case unlockRead o =>
    obtain rfl := Option.some.inj hrun
    cases o with
    | none => exact .inl hfact.2.symm
    | some x =>
        by_cases hu : u = .watchdog
        · refine hpass (.loadAgain x) ?_ trivial
          simp [State.setReclaim, hu]
        · refine hpass (.arm x) ?_ trivial
          simp [State.setReclaim, hu]
  case arm x =>
    obtain rfl := Option.some.inj hrun
    apply hpass (.start x) (Function.update_self ..)
    exact Nat.pos_iff_ne_zero.mp hpos
  case start x =>
    by_cases hl : s.lastGpsMs = 0
    · refine hsettled ?_ (fun hw => hw hl)
      obtain rfl := Option.some.inj hrun
      rfl
    · obtain rfl := Option.some.inj hrun
      exact .inr (.inl ⟨x, hfact.2, startedSince_start .., hl⟩)
  case inStart | release =>
    refine hsettled ?_ id
    obtain rfl := Option.some.inj hrun
    rfl
  all_goals
    obtain rfl := Option.some.inj hrun
    exact hpass _ (Function.update_self ..) trivial

/-- While the client holds the mutex the handle stays, and otherwise whoever
takes it away has yet to start the chipset. -/
theorem kept_reclaim {s t : State} {u : ThreadId} {ok : Bool}
    {pc : ReclaimPc} (hs : s.Held) (htr : s.Tracked) (hpos : 0 < s.now)
    (hkept : s.client.Kept s) (hpc : s.reclaim u = some pc)
    (hrun : s.runReclaim u ok pc = some t) : t.client.Kept t := by
  have hrc := ReclaimStep.of_run hrun
  rw [hrc.client]
  by_cases hg : t.gpsHandle = s.gpsHandle
  · have hsec : s.Secured → t.Secured :=
      fun h => secured_reclaim hs htr hpos h hpc hrun
    cases hc : s.client
    all_goals rw [hc] at hkept
    case startTry | startRead => trivial
    case startMode x | startInMode x | startUnlock x => exact hg.trans hkept
    case startUnlockNull => exact hg.trans hkept
    case startArm x =>
      rcases hkept with h | h
      · exact .inl (hg.trans h)
      · exact .inr (hsec h)
    case startStart x =>
      rcases hkept with h | h
      · exact .inl ⟨hg.trans h.1, hrc.last_ne hpos h.2⟩
      · exact .inr (hsec h)
    case stopTry | stopRead | stopStop | stopInStop | stopUnlock =>
      exact hkept
    all_goals exact hsec hkept
  · obtain ⟨hex, hsec⟩ := hrc.secured_of_write hg
    have hexcl : s.Excludes u := by
      simp [State.Excludes, hpc, hex]
    have hno : s.client.shares = 0 := by
      by_contra hne
      have hsh : 0 < s.shares .client := by
        simp only [State.shares, State.ownShares]
        omega
      exact hs.locked.not_exclusive hsh u hexcl
    cases hc : s.client
    all_goals rw [hc] at hkept hno
    case startTry | startRead => trivial
    case startMode x | startInMode x | startUnlock x => cases hno
    case startUnlockNull => cases hno
    case startArm x => exact .inr hsec
    case startStart x => exact .inr hsec
    case stopTry | stopRead | stopStop | stopInStop | stopUnlock =>
      exact hkept
    all_goals exact hsec

/-! ## The other threads -/

theorem promised_callback {s t : State} {u : ThreadId} {pc : CallbackPc}
    (h : s.Promised) (hcb : CallbackStep s t u pc) : t.Promised := by
  have hlast : s.lastGpsMs ≠ 0 → t.lastGpsMs ≠ 0 := by
    intro hl
    rcases hcb.last with he | ⟨k, -, -, he, -⟩
    · rwa [he]
    · rw [he]
      exact Nat.pos_iff_ne_zero.mp h.positive
  have hlog : wanted t.log = wanted s.log ∧
      ∀ x, startedSince x s.log = true → startedSince x t.log = true := by
    rcases hcb.log with hq | ⟨k, -, hl⟩
    · exact ⟨hq.wanted, hq.started⟩
    · rw [hl]
      exact ⟨rfl, fun x hx => hx⟩
  constructor
  · rw [hcb.same.now]
    exact h.positive
  · intro hw
    rw [hcb.client]
    apply (h.kept (hlog.1 ▸ hw)).keeps
    exact
      { gpsHandle := hcb.same.gpsHandle
        last := hlast
        started := hlog.2
        reclaim := fun v pc' hpc' => hcb.reclaim ▸ hpc' }

theorem promised_call {s : State} (h : s.Promised) (op : ClientOp)
    (hidle : s.client = .idle) : (s.callOp op).Promised := by
  have hcall := Called.of_callOp s op
  have hkeeps : op ≠ .stopPositioning → Keeps s (s.callOp op) := by
    intro hop
    constructor
    · exact hcall.same.gpsHandle
    · rw [hcall.last, if_neg hop]
      exact id
    · intro x hx
      rw [hcall.log]
      cases op
      case stopPositioning => exact absurd rfl hop
      all_goals exact hx
    · intro u pc hpc
      rw [hcall.reclaim]
      exact hpc
  have hsec : wanted s.log = true → s.Secured := by
    intro hw
    have hkept := h.kept hw
    rwa [hidle] at hkept
  constructor
  · rw [hcall.same.now]
    exact h.positive
  · rw [hcall.log, hcall.client]
    intro hw
    cases op with
    | startPositioning => trivial
    | stopPositioning => cases hw
    | setAssistanceMode m =>
        have hsec' := (hsec hw).keeps (hkeeps (by simp))
        by_cases hm : s.capabilities.isCapableOfAssistance m = true
        · simp only [hm, if_true]
          exact hsec'
        · simp only [hm, hidle]
          exact hsec'
    | setPositionMode m =>
        have hsec' := (hsec hw).keeps (hkeeps (by simp))
        by_cases hm : s.capabilities.isCapableOfPosition m = true
        · simp only [hm, if_true]
          exact hsec'
        · simp only [hm, hidle]
          exact hsec'
    | injectReferencePosition => exact (hsec hw).keeps (hkeeps (by simp))

/-- A refused try-lock means that somebody in the reclaim holds the mutex, and
that thread has yet to start the chipset. -/
theorem secured_of_busy {s : State} (hs : s.Held)
    (hbusy : s.callbackMutex.lockShared .client = none) : s.Secured := by
  obtain ⟨u, hu⟩ := hs.locked.exclusive_of_lockShared_none hbusy
  obtain ⟨pc, hpc, hex⟩ := Option.any_eq_true _ _ |>.mp hu
  exact .inr (.inr ⟨u, pc, hpc, pc.willStart_of_excludes hex _⟩)

/-- The client forgets no start and disarms nothing. -/
theorem ClientStep.keeps {s t : State} (hcl : ClientStep s t) (hs : s.Held)
    (hpos : 0 < s.now) : Keeps s t where
  gpsHandle := hcl.same.gpsHandle
  last := by
    intro hl
    rcases hcl.last with he | ⟨x, -, -, he⟩
    · rwa [he]
    · rw [he]
      exact Nat.pos_iff_ne_zero.mp hpos
  started := by
    intro x hx
    rcases hcl.log with hq | ⟨y, -, -, hl⟩
    · exact hq.started x hx
    · rw [hl]
      exact startedSince_cons (e := .start y) rfl _ hx
  reclaim := fun _ _ hpc => (hcl.outside hs).keeps hpc

theorem ClientStep.wanted_eq {s t : State} (hcl : ClientStep s t) :
    wanted t.log = wanted s.log := by
  rcases hcl.log with hq | ⟨x, -, -, hl⟩
  · exact hq.wanted
  · rw [hl]
    rfl

theorem promised_client {s t : State} (hs : s.Held) (h : s.Promised)
    (hrun : s.runClient = some t) : t.Promised := by
  have hcl := ClientStep.of_run hrun
  have hpos := h.positive
  have hkept := h.kept
  have hkeeps := hcl.keeps hs hpos
  constructor
  · rw [hcl.same.now]
    exact hpos
  intro hw
  rw [hcl.wanted_eq] at hw
  have hk := hkept hw
  cases hc : s.client
  all_goals
    rw [hc] at hk
    simp only [State.runClient, hc] at hrun
  case idle => cases hrun
  case startTry =>
    split at hrun
    · rename_i hbusy
      obtain rfl := Option.some.inj hrun
      exact State.Secured.keeps (secured_of_busy hs hbusy) hkeeps
    · obtain rfl := Option.some.inj hrun
      trivial
  case startRead =>
    split at hrun
    all_goals
      rename_i hg
      obtain rfl := Option.some.inj hrun
      exact hg
  case startMode x | startInMode x =>
    obtain rfl := Option.some.inj hrun
    exact hk
  case startUnlock x =>
    obtain rfl := Option.some.inj hrun
    exact .inl hk
  case startArm x =>
    obtain rfl := Option.some.inj hrun
    rcases hk with hg | hsec
    · exact .inl ⟨hg, Nat.pos_iff_ne_zero.mp hpos⟩
    · exact .inr (hsec.keeps hkeeps)
  case startStart x =>
    rcases hk with ⟨hg, hl⟩ | hsec
    · obtain rfl := Option.some.inj hrun
      exact .inr (.inl ⟨x, hg, startedSince_start .., hl⟩)
    · obtain rfl := Option.some.inj hrun
      exact hsec.keeps hkeeps
  case startUnlockNull =>
    obtain rfl := Option.some.inj hrun
    exact .inl hk
  case startExchange =>
    split at hrun
    all_goals
      obtain rfl := Option.some.inj hrun
      exact State.Secured.keeps hk hkeeps
  case startSpawn =>
    obtain rfl := Option.some.inj hrun
    exact State.Secured.keeps hk hkeeps
  case stopTry | stopRead | stopStop | stopInStop | stopUnlock => cases hk
  all_goals
    obtain rfl := Option.some.inj hrun
    exact State.Secured.keeps hk hkeeps

theorem State.Promised.step {a : Action} {s t : State} (h : s.Promised)
    (hs : s.Held) (htr : s.Tracked) (hst : Moves s a t) : t.Promised := by
  cases hst with
  | tick d =>
      refine ⟨Nat.add_pos_left h.positive d, fun hw => ?_⟩
      exact (h.kept hw).keeps ⟨rfl, id, fun _ hx => hx, fun _ _ hpc => hpc⟩
  | call op idle => exact promised_call h op idle
  | enter u k free driver =>
      refine ⟨h.positive, fun hw => ?_⟩
      exact (h.kept hw).keeps ⟨rfl, id, fun _ hx => hx, fun _ _ hpc => hpc⟩
  | callback u ok pc _ here runs => exact promised_callback h (.of_run runs)
  | reclaim u ok pc _ calm here runs =>
      have hrc := ReclaimStep.of_run runs
      refine ⟨hrc.now ▸ h.positive, fun hw => ?_⟩
      rw [hrc.wanted] at hw
      exact kept_reclaim hs htr h.positive (h.kept hw) here runs
  | client ok _ calm runs => exact promised_client hs h runs
  | watchdog ok _ calm outside runs =>
      have hwd := WatchdogStep.of_run runs
      refine ⟨hwd.same.now ▸ h.positive, fun hw => ?_⟩
      rw [hwd.log] at hw
      rw [hwd.client]
      refine (h.kept hw).keeps ⟨hwd.same.gpsHandle, ?_, ?_, ?_⟩
      · rw [hwd.last]
        exact id
      · rw [hwd.log]
        exact fun _ hx => hx
      · intro u pc hpc
        exact (hwd.outside hs).keeps hpc

theorem State.Promised.init {b : Boot} (hb : b.Timely) :
    (afterConstructor b).Promised := by
  constructor
  · exact Nat.lt_of_lt_of_le hb.positive hb.created
  · intro hw
    obtain ⟨ok, stamp, c, created, now⟩ := b
    cases ok <;> cases stamp <;> cases hw

theorem Reachable.promised {s : State} (h : Reachable s) : s.Promised := by
  refine reach_invariant (fun b hb => .init hb) ?_ h
  intro a s t hs hp _ hst
  exact hp.step hs.held hs.tracked hst

/-! ## Starts are not lost -/

/-- Once the start asked for last has returned and nobody reclaims, the
installed handle has been started since the last stop and the watchdog is
armed. -/
theorem start_is_never_lost {s : State} (h : Reachable s)
    (hwanted : wanted s.log = true) (hreturned : s.client = .idle)
    (hquiet : ∀ u, s.reclaim u = none) (x : Handle)
    (hx : s.gpsHandle = some x) :
    startedSince x s.log = true ∧ s.lastGpsMs ≠ 0 := by
  have hkept := h.promised.kept hwanted
  rw [hreturned] at hkept
  rcases hkept with hnone | ⟨y, hy, hst, hl⟩ | ⟨u, pc, hpc, -⟩
  · rw [hx] at hnone
    cases hnone
  · obtain rfl := Option.some.inj (hx.symm.trans hy)
    exact ⟨hst, hl⟩
  · rw [hquiet u] at hpc
    cases hpc

/-- A start without a handle: the thread that it spawns installs one and starts
it. -/
theorem start_is_never_lost_when_installed :
    ∃ s, play (fun _ _ => True) bootWithout
        (.call .startPositioning :: steps .client 5 ++
          steps (.recovery 0) 20) = some s ∧
      startedSince 0 s.log = true ∧ s.lastGpsMs ≠ 0 := by
  have hrun : (play (fun _ _ => True) bootWithout
      (.call .startPositioning :: steps .client 5 ++
        steps (.recovery 0) 20)).isSome := by decide
  have hplay := (Option.some_get hrun).symm
  have hr := Reachable.of_reach (reach_of_play bootWithout_timely hplay)
  have hquiet := hr.held.typed.quiet (of_decide_eq_true rfl)
  exact ⟨_, hplay, start_is_never_lost hr rfl rfl hquiet 0 rfl⟩

end LocationService.Gps
