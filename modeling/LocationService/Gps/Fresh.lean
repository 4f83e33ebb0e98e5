import LocationService.Gps.Ownership

/-!
# New handles

Nothing is started on a handle before it is installed: the client starts what
it has read under the mutex, and the thread in the reclaim what it has read
back after the installation.
-/

namespace LocationService.Gps

open LocationService.Library

/-- `u_hardware_gps_start` was called on `x`. -/
def Starts (x : Handle) (l : List Entry) : Prop :=
  ∃ τ, ⟨τ, .start x⟩ ∈ l

theorem Starts.cons_iff {x : Handle} {τ : Nat} {e : Event} {l : List Entry} :
    Starts x (⟨τ, e⟩ :: l) ↔ e = .start x ∨ Starts x l := by
  constructor
  · rintro ⟨τ', hmem⟩
    rcases List.mem_cons.mp hmem with heq | hmem
    · cases heq
      exact .inl rfl
    · exact .inr ⟨τ', hmem⟩
  · rintro (rfl | ⟨τ', hmem⟩)
    · exact ⟨τ, List.mem_cons_self⟩
    · exact ⟨τ', List.mem_cons_of_mem _ hmem⟩

private theorem Quiet.starts_iff {s t : State} (h : Quiet s t) (x : Handle) :
    Starts x t.log ↔ Starts x s.log := by
  rcases h with h | ⟨e, he, h⟩
  · rw [h]
  · rw [h, Starts.cons_iff]
    constructor
    · rintro (rfl | hx)
      · cases he
      · exact hx
    · exact .inr

/-- The handle that the client is on its way to start. -/
def ClientPc.startCopy : ClientPc → Option Handle
  | .startMode x | .startInMode x | .startUnlock x | .startArm x
  | .startStart x => some x
  | _ => none

/-- The handle that the reclaim has not yet let go of with `handle`
installed. -/
def ReclaimPc.fresh (handle : Option Handle) : ReclaimPc → Option Handle
  | .lockInstall new | .install new => new
  | .unlockInstall => handle
  | _ => none

/-- All handles are among those the driver handed out, and the one that the
reclaim is about to install is neither started nor in the client's hands. -/
structure State.Fresh (s : State) : Prop where
  installed : ∀ x, s.gpsHandle = some x → x < s.nextHandle
  copied : ∀ x, s.client.startCopy = some x → x < s.nextHandle
  started : ∀ x, Starts x s.log → x < s.nextHandle
  pending : ∀ u pc x, s.reclaim u = some pc →
    pc.fresh s.gpsHandle = some x → x < s.nextHandle
  unstarted : ∀ u pc x, s.reclaim u = some pc →
    pc.fresh s.gpsHandle = some x →
    ¬ Starts x s.log ∧ s.client.startCopy ≠ some x

/-- Steps outside the reclaim that leave the client what it has in hand and
start nothing. -/
private theorem fresh_outside {s t : State} (h : s.Fresh)
    (hout : Outside s t)
    (hcopy : t.client.startCopy = none ∨
      t.client.startCopy = s.client.startCopy)
    (hstarts : ∀ x, Starts x t.log ↔ Starts x s.log) : t.Fresh := by
  have hcopied : ∀ x, t.client.startCopy = some x →
      s.client.startCopy = some x := by
    intro x hx
    rcases hcopy with hc | hc
    · rw [hc] at hx
      cases hx
    · rw [← hc]
      exact hx
  have hrec : ∀ u pc x, t.reclaim u = some pc →
      pc.fresh t.gpsHandle = some x →
      s.reclaim u = some pc ∧ pc.fresh s.gpsHandle = some x := by
    intro u pc x hpc hx
    rw [hout.gpsHandle] at hx
    rcases hout.entered hpc with hpc | rfl
    · exact ⟨hpc, hx⟩
    · cases hx
  constructor
  · intro x hx
    rw [hout.nextHandle]
    exact h.installed x (hout.gpsHandle ▸ hx)
  · intro x hx
    rw [hout.nextHandle]
    exact h.copied x (hcopied x hx)
  · intro x hx
    rw [hout.nextHandle]
    exact h.started x ((hstarts x).mp hx)
  · intro u pc x hpc hx
    obtain ⟨hpc, hx⟩ := hrec u pc x hpc hx
    rw [hout.nextHandle]
    exact h.pending u pc x hpc hx
  · intro u pc x hpc hx
    obtain ⟨hpc, hx⟩ := hrec u pc x hpc hx
    obtain ⟨hno, hne⟩ := h.unstarted u pc x hpc hx
    exact ⟨fun hs => hno ((hstarts x).mp hs), fun hc => hne (hcopied x hc)⟩

/-- Where the client's hands change. -/
private theorem startCopy_cases {s t : State} (hrun : s.runClient = some t) :
    t.client.startCopy = none ∨ t.client.startCopy = s.client.startCopy ∨
      ∃ x, s.client = .startRead ∧ s.gpsHandle = some x ∧
        t.client = .startMode x := by
  cases hc : s.client
  all_goals simp only [State.runClient, hc] at hrun
  case idle => cases hrun
  case startTry | stopTry | stopRead | startExchange =>
    split at hrun
    all_goals
      obtain rfl := Option.some.inj hrun
      exact .inl rfl
  case startRead =>
    split at hrun
    · rename_i x hx
      obtain rfl := Option.some.inj hrun
      exact .inr (.inr ⟨x, rfl, hx, rfl⟩)
    · obtain rfl := Option.some.inj hrun
      exact .inl rfl
  case startMode x | startInMode x | startUnlock x | startArm x =>
    obtain rfl := Option.some.inj hrun
    exact .inr (.inl rfl)
  all_goals
    obtain rfl := Option.some.inj hrun
    exact .inl rfl

/-- While the client reads a handle under the mutex, no thread is about to
install one. -/
private theorem not_fresh_of_read {s t : State} (hr : Reachable s)
    (hcl : ClientStep s t) {x : Handle} (hc : s.client = .startRead)
    (hx : s.gpsHandle = some x) (hnext : t.client ≠ .startSpawn)
    {u : ThreadId} {pc : ReclaimPc} {y : Handle} (hpc : t.reclaim u = some pc) :
    pc.fresh t.gpsHandle ≠ some y := by
  have hs := hr.held
  intro hy
  rcases hcl.token with ht | ht | ht
  · rw [ht.1] at hpc
    have hfact := hr.tracked.fact u pc hpc
    cases pc
    case lockInstall new | install new =>
      rw [hfact.2] at hx
      cases hx
    case unlockInstall =>
      have hex : s.Excludes u := by
        simp [State.Excludes, hpc, ReclaimPc.excludes]
      have hone : s.client.shares = 1 := by
        rw [hc]
        rfl
      have hsh : 0 < s.shares .client := by
        simp only [State.shares, State.ownShares, hone]
        omega
      exact absurd hex (hs.locked.not_exclusive hsh u)
    all_goals cases hy
  · exact hnext ht.2.2.2
  · rw [hc] at ht
    cases ht.1

/-- The client reads the handle under the mutex. -/
private theorem fresh_read {s t : State} (h : s.Fresh) (hr : Reachable s)
    (hcl : ClientStep s t) (hq : Quiet s t) {x : Handle}
    (hc : s.client = .startRead) (hx : s.gpsHandle = some x)
    (hcopy : t.client.startCopy = some x) (hnext : t.client ≠ .startSpawn) :
    t.Fresh := by
  have hout := hcl.outside hr.held
  have hlt : x < t.nextHandle := by
    rw [hout.nextHandle]
    exact h.installed x hx
  constructor
  · intro y hy
    rw [hout.gpsHandle, hx] at hy
    obtain rfl := Option.some.inj hy
    exact hlt
  · intro y hy
    rw [hcopy] at hy
    obtain rfl := Option.some.inj hy
    exact hlt
  · intro y hy
    rw [hout.nextHandle]
    exact h.started y ((hq.starts_iff y).mp hy)
  · intro u pc y hpc hy
    exact absurd hy (not_fresh_of_read hr hcl hc hx hnext hpc)
  · intro u pc y hpc hy
    exact absurd hy (not_fresh_of_read hr hcl hc hx hnext hpc)

/-- The client starts the handle that it has read. -/
private theorem fresh_start {s t : State} (h : s.Fresh) (hs : s.Held)
    (hcl : ClientStep s t) {x : Handle} (hc : s.client = .startStart x)
    (hnext : t.client = .startInStart)
    (hl : t.log = ⟨s.now, .start x⟩ :: s.log) : t.Fresh := by
  have hout := hcl.outside hs
  have hcopy : s.client.startCopy = some x := by
    rw [hc]
    rfl
  have hrec : t.reclaim = s.reclaim := by
    rcases hcl.token with ht | ht | ht
    · exact ht.1
    · exact ht.1
    · rw [hc] at ht
      cases ht.1
  have hstarts : ∀ y, Starts y t.log ↔ x = y ∨ Starts y s.log := by
    intro y
    rw [hl, Starts.cons_iff, Event.start.injEq]
  constructor
  · intro y hy
    rw [hout.nextHandle]
    exact h.installed y (hout.gpsHandle ▸ hy)
  · intro y hy
    rw [hnext] at hy
    cases hy
  · intro y hy
    rw [hout.nextHandle]
    rcases (hstarts y).mp hy with rfl | hy
    · exact h.copied x hcopy
    · exact h.started y hy
  · intro u pc y hpc hy
    rw [hrec] at hpc
    rw [hout.gpsHandle] at hy
    rw [hout.nextHandle]
    exact h.pending u pc y hpc hy
  · intro u pc y hpc hy
    rw [hrec] at hpc
    rw [hout.gpsHandle] at hy
    obtain ⟨hno, hne⟩ := h.unstarted u pc y hpc hy
    constructor
    · rw [hstarts]
      rintro (rfl | hy')
      · exact hne hcopy
      · exact hno hy'
    · rw [hnext]
      intro hc
      cases hc

private theorem fresh_client {s t : State} (h : s.Fresh) (hr : Reachable s)
    (hrun : s.runClient = some t) : t.Fresh := by
  have hcl := ClientStep.of_run hrun
  have hout := hcl.outside hr.held
  rcases hcl.log with hq | ⟨x, hc, hnext, hl⟩
  · rcases startCopy_cases hrun with hcopy | hcopy | ⟨x, hc, hx, hnext⟩
    · exact fresh_outside h hout (.inl hcopy) hq.starts_iff
    · exact fresh_outside h hout (.inr hcopy) hq.starts_iff
    · apply fresh_read h hr hcl hq hc hx
      · rw [hnext]
        rfl
      · rw [hnext]
        nofun
  · exact fresh_start h hr.held hcl hc hnext hl

/-- A step of the reclaim that hands on what it is about to install, or
installs it, or starts what is installed. -/
private theorem fresh_pass {s t : State} {u : ThreadId} {pc : ReclaimPc}
    (h : s.Fresh) (hs : s.Held) (hpc : s.reclaim u = some pc)
    (hrc : ReclaimStep s t u pc) (hnext : t.nextHandle = s.nextHandle)
    (hhandle : ∀ x, t.gpsHandle = some x →
      s.gpsHandle = some x ∨ pc.fresh s.gpsHandle = some x)
    (hstarts : ∀ x, Starts x t.log → Starts x s.log ∨ s.gpsHandle = some x)
    (hfresh : ∀ next x, t.reclaim u = some next →
      next.fresh t.gpsHandle = some x →
      pc.fresh s.gpsHandle = some x ∧ (Starts x t.log → Starts x s.log)) :
    t.Fresh := by
  have halone : ∀ v pc', t.reclaim v = some pc' → v = u := by
    intro v pc' hpc'
    by_contra hv
    rw [hrc.others v hv] at hpc'
    exact hv (hs.owned.alone (by simp [hpc']) (by simp [hpc]))
  constructor
  · intro x hx
    rw [hnext]
    rcases hhandle x hx with hx | hx
    · exact h.installed x hx
    · exact h.pending u pc x hpc hx
  · intro x hx
    rw [hnext]
    exact h.copied x (hrc.client ▸ hx)
  · intro x hx
    rw [hnext]
    rcases hstarts x hx with hx | hx
    · exact h.started x hx
    · exact h.installed x hx
  · intro v next x hv hx
    obtain rfl := halone v next hv
    rw [hnext]
    exact h.pending v pc x hpc (hfresh next x hv hx).1
  · intro v next x hv hx
    obtain rfl := halone v next hv
    obtain ⟨hf, hst⟩ := hfresh next x hv hx
    obtain ⟨hno, hne⟩ := h.unstarted v pc x hpc hf
    rw [hrc.client]
    exact ⟨fun hx => hno (hst hx), hne⟩

/-- The driver hands out a handle that nobody has seen. -/
private theorem fresh_returned {s : State} {u : ThreadId} (h : s.Fresh)
    (hs : s.Held) (hpc : s.reclaim u = some .inNew) :
    State.Fresh { (s.record (.returned (some s.nextHandle))).setReclaim u
        (some (.lockInstall (some s.nextHandle))) with
      nextHandle := s.nextHandle + 1 } := by
  have hother : ∀ v pc, v ≠ u → s.reclaim v ≠ some pc := by
    intro v pc hv hvpc
    exact hv (hs.owned.alone (by simp [hvpc]) (by simp [hpc]))
  have hstarts : ∀ x, Starts x
      (⟨s.now, .returned (some s.nextHandle)⟩ :: s.log) → Starts x s.log := by
    intro x hx
    exact (Starts.cons_iff.mp hx).resolve_left (by simp)
  have hone : ∀ v pc x, Function.update s.reclaim u
        (some (.lockInstall (some s.nextHandle))) v = some pc →
      pc.fresh s.gpsHandle = some x → x = s.nextHandle := by
    intro v pc x hv hx
    by_cases hvu : v = u
    · rw [hvu, Function.update_self] at hv
      obtain rfl := Option.some.inj hv
      exact (Option.some.inj hx).symm
    · rw [Function.update_of_ne hvu] at hv
      exact absurd hv (hother v pc hvu)
  constructor
  · intro x hx
    exact Nat.lt_succ_of_lt (h.installed x hx)
  · intro x hx
    exact Nat.lt_succ_of_lt (h.copied x hx)
  · intro x hx
    exact Nat.lt_succ_of_lt (h.started x (hstarts x hx))
  · intro v pc x hv hx
    rw [hone v pc x hv hx]
    exact Nat.lt_succ_self _
  · intro v pc x hv hx
    rw [hone v pc x hv hx]
    constructor
    · intro hst
      exact Nat.lt_irrefl _ (h.started _ (hstarts _ hst))
    · intro hc
      exact Nat.lt_irrefl _ (h.copied _ hc)

/-- Only the answer of the driver brings in a handle. -/
private theorem reclaim_hands_on {s t : State} {u : ThreadId} {ok : Bool}
    {pc : ReclaimPc} (hrun : s.runReclaim u ok pc = some t) :
    (pc = .inNew ∧ t =
      { (s.record (.returned (some s.nextHandle))).setReclaim u
          (some (.lockInstall (some s.nextHandle))) with
        nextHandle := s.nextHandle + 1 }) ∨
    (t.nextHandle = s.nextHandle ∧
      ∀ next x, t.reclaim u = some next → next.fresh t.gpsHandle = some x →
        pc.fresh s.gpsHandle = some x ∧ t.log = s.log) := by
  have hlets : ∀ q, t.reclaim u = some q → q.fresh t.gpsHandle = none →
      ∀ next x, t.reclaim u = some next → next.fresh t.gpsHandle = some x →
        pc.fresh s.gpsHandle = some x ∧ t.log = s.log := by
    intro q hq hnone next x hn hx
    obtain rfl := Option.some.inj (hq.symm.trans hn)
    rw [hnone] at hx
    cases hx
  have hkeeps : ∀ q, t.reclaim u = some q → t.log = s.log →
      q.fresh t.gpsHandle = pc.fresh s.gpsHandle →
      ∀ next x, t.reclaim u = some next → next.fresh t.gpsHandle = some x →
        pc.fresh s.gpsHandle = some x ∧ t.log = s.log := by
    intro q hq hl he next x hn hx
    obtain rfl := Option.some.inj (hq.symm.trans hn)
    exact ⟨he ▸ hx, hl⟩
  cases pc
  all_goals simp only [State.runReclaim] at hrun
  case lockDelete | lockRead =>
    obtain ⟨m, -, rfl⟩ := Option.map_eq_some_iff.mp hrun
    exact .inr ⟨rfl, hlets _ (Function.update_self ..) rfl⟩
  case lockInstall new =>
    obtain ⟨m, -, rfl⟩ := Option.map_eq_some_iff.mp hrun
    exact .inr ⟨rfl, hkeeps _ (Function.update_self ..) rfl rfl⟩
  case install new =>
    obtain rfl := Option.some.inj hrun
    exact .inr ⟨rfl, hkeeps _ (Function.update_self ..) rfl rfl⟩
  case inNew =>
    split at hrun
    · obtain rfl := Option.some.inj hrun
      exact .inl ⟨rfl, rfl⟩
    · obtain rfl := Option.some.inj hrun
      exact .inr ⟨rfl, hlets _ (Function.update_self ..) rfl⟩
  case delete | readHandle =>
    split at hrun
    all_goals
      obtain rfl := Option.some.inj hrun
      exact .inr ⟨rfl, hlets _ (Function.update_self ..) rfl⟩
  case unlockRead o =>
    obtain rfl := Option.some.inj hrun
    refine .inr ⟨rfl, hlets _ (Function.update_self ..) ?_⟩
    cases o with
    | none => rfl
    | some x =>
        show ReclaimPc.fresh s.gpsHandle
          (if u = .watchdog then .loadAgain x else .arm x) = none
        by_cases hu : u = .watchdog
        · rw [if_pos hu]
          rfl
        · rw [if_neg hu]
          rfl
  case release =>
    obtain rfl := Option.some.inj hrun
    refine .inr ⟨rfl, fun next x hn => ?_⟩
    simp [State.setReclaim] at hn
  all_goals
    obtain rfl := Option.some.inj hrun
    exact .inr ⟨rfl, hlets _ (Function.update_self ..) rfl⟩

private theorem fresh_reclaim {s t : State} {u : ThreadId} {ok : Bool}
    {pc : ReclaimPc} (h : s.Fresh) (hr : Reachable s)
    (hpc : s.reclaim u = some pc) (hrun : s.runReclaim u ok pc = some t) :
    t.Fresh := by
  have hrc := ReclaimStep.of_run hrun
  rcases reclaim_hands_on hrun with ⟨rfl, rfl⟩ | ⟨hnext, hfresh⟩
  · exact fresh_returned h hr.held hpc
  · refine fresh_pass h hr.held hpc hrc hnext ?_ ?_ ?_
    · intro x hx
      rcases hrc.gpsHandle with he | ⟨-, -, he⟩ | ⟨new, rfl, -, he⟩
      · exact .inl (he ▸ hx)
      · rw [he] at hx
        cases hx
      · exact .inr (he ▸ hx)
    · intro x hx
      rcases hrc.log with hq | ⟨e, he, hl⟩ | ⟨y, rfl, -, hl⟩
      · exact .inl ((hq.starts_iff x).mp hx)
      · rw [hl] at hx
        refine .inl ((Starts.cons_iff.mp hx).resolve_left ?_)
        rintro rfl
        cases he
      · rw [hl] at hx
        rcases Starts.cons_iff.mp hx with he | hx
        · obtain rfl := Event.start.inj he
          exact .inr (hr.tracked.fact u _ hpc).2
        · exact .inl hx
    · intro next x hn hx
      obtain ⟨hf, hl⟩ := hfresh next x hn hx
      exact ⟨hf, fun hst => hl ▸ hst⟩

theorem State.Fresh.step {a : Action} {s t : State} (h : s.Fresh)
    (hr : Reachable s) (hst : Moves s a t) : t.Fresh := by
  cases hst with
  | tick d => exact ⟨h.1, h.2, h.3, h.4, h.5⟩
  | call op idle =>
      have hcall := Called.of_callOp s op
      refine fresh_outside h hcall.outside (.inl ?_) fun x => ?_
      · rw [hcall.client, idle]
        cases op <;> simp only <;> try split
        all_goals rfl
      · rw [hcall.log, Starts.cons_iff]
        exact ⟨fun hx => hx.resolve_left (by simp), .inr⟩
  | enter u k free driver => exact ⟨h.1, h.2, h.3, h.4, h.5⟩
  | callback u ok pc _ here runs =>
      have hcb := CallbackStep.of_run runs
      refine fresh_outside h hcb.outside (.inr ?_) fun x => ?_
      · rw [hcb.client]
      · rcases hcb.log with hq | ⟨k, -, hl⟩
        · exact hq.starts_iff x
        · rw [hl, Starts.cons_iff]
          exact ⟨fun hx => hx.resolve_left (by simp), .inr⟩
  | reclaim u ok pc _ calm here runs => exact fresh_reclaim h hr here runs
  | client ok _ calm runs => exact fresh_client h hr runs
  | watchdog ok _ calm outside runs =>
      have hwd := WatchdogStep.of_run runs
      refine fresh_outside h (hwd.outside hr.held) (.inr ?_) fun x => ?_
      · rw [hwd.client]
      · rw [hwd.log]

theorem State.Fresh.init (b : Boot) : (afterConstructor b).Fresh := by
  obtain ⟨ok, stamp, c, created, now⟩ := b
  have hnone : ∀ x, ¬ Starts x (Boot.log ⟨ok, stamp, c, created, now⟩) := by
    rintro x ⟨τ, hmem⟩
    cases ok <;> cases stamp <;> simp [Boot.log] at hmem
  constructor
  · intro x hx
    cases ok with
    | false => cases hx
    | true =>
        obtain rfl := Option.some.inj hx
        exact Nat.zero_lt_one
  · nofun
  · intro x hx
    exact absurd hx (hnone x)
  · nofun
  · nofun

theorem Reachable.fresh {s : State} (h : Reachable s) : s.Fresh := by
  refine reach_invariant (fun b _ => .init b) ?_ h
  intro a s t hs hf _ hst
  exact hf.step hs hst

end LocationService.Gps
