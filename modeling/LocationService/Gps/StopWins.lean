import LocationService.Gps.Fresh
import LocationService.Gps.NeverLost

/-!
# Stop wins

`stop_positioning` clears the timestamp and stops the installed handle if it
gets the mutex.  It does not wait for a reclaim in progress, and a callback in
flight stamps the timestamp again.  A stop holds exactly as long as no reclaim
goes on to its start after it and no such callback arms the watchdog.
-/

namespace LocationService.Gps

open LocationService.Library

/-! ## What the log says about a stop -/

/-- The last call of `start_positioning` or `stop_positioning` is a stop. -/
def halted : List Entry → Bool
  | [] => false
  | ⟨_, .call .stopPositioning⟩ :: _ => true
  | ⟨_, .call .startPositioning⟩ :: _ => false
  | _ :: l => halted l

/-- Between starting and stopping it, the chipset was last told to start
`x`. -/
def running (x : Handle) : List Entry → Bool
  | [] => false
  | ⟨_, .start y⟩ :: l => y = x || running x l
  | ⟨_, .stop o⟩ :: l => o ≠ some x && running x l
  | _ :: l => running x l

theorem halted_cons_other {e : Event} (he : e.requests = false) (t : Nat)
    (l : List Entry) : halted (⟨t, e⟩ :: l) = halted l := by
  cases e with
  | call op =>
      cases op
      case startPositioning | stopPositioning => cases he
      all_goals rfl
  | _ => rfl

/-- Only a start makes a handle run. -/
theorem running_cons {e : Event} {x : Handle} (he : e ≠ .start x) (t : Nat)
    {l : List Entry} (h : running x l = false) :
    running x (⟨t, e⟩ :: l) = false := by
  cases e with
  | start y =>
      have hne : y ≠ x := fun hy => he (congrArg Event.start hy)
      simp [running, hne, h]
  | stop o => simp [running, h]
  | _ => exact h

theorem startedSince_cons_ne {e : Event} {x : Handle} (he : e ≠ .start x)
    (t : Nat) {l : List Entry} (h : startedSince x l = false) :
    startedSince x (⟨t, e⟩ :: l) = false := by
  cases e with
  | start y =>
      have hne : y ≠ x := fun hy => he (congrArg Event.start hy)
      simp [startedSince, hne, h]
  | call op => cases op <;> first | exact h | rfl
  | _ => exact h

theorem running_of_not_starts {x : Handle} {l : List Entry}
    (h : ¬ Starts x l) : running x l = false := by
  induction l with
  | nil => rfl
  | cons e l ih =>
      obtain ⟨τ, e⟩ := e
      rw [Starts.cons_iff] at h
      exact running_cons (fun he => h (.inl he)) τ (ih fun hx => h (.inr hx))

/-! ## Steps that heed a stop -/

/-- From the test of the new handle to its start. -/
def ReclaimPc.committed : ReclaimPc → Bool
  | .loadAgain _ | .callAgain _ _ | .inAgain _ | .arm _ | .start _ => true
  | _ => false

/-- A data callback stamps the timestamp after a stop, with a handle
installed. -/
def State.lateData (s : State) : Action → Bool
  | .run t _ =>
      match s.callback t with
      | some (.body k) => halted s.log && k.isData && s.gpsHandle.isSome
      | _ => false
  | _ => false

/-- A reclaim takes the branch that starts its new handle after a stop, or
the stop comes between the branch and the start. -/
def State.lateStart (s : State) : Action → Bool
  | .call .stopPositioning =>
      s.reclaimers.any fun t => (s.reclaim t).any ReclaimPc.committed
  | .run t _ =>
      match s.callback t, s.reclaim t with
      | none, some (.unlockRead (some _)) => halted s.log
      | _, _ => false
  | _ => false

/-- No late data and no late start. -/
def HeedsStop (a : Action) (s : State) : Prop :=
  s.lateData a = false ∧ s.lateStart a = false

instance (a : Action) (s : State) : Decidable (HeedsStop a s) :=
  inferInstanceAs (Decidable (_ ∧ _))

/-- The steps that can follow a stop: anything but late data and another
start. -/
def Afterwards (a : Action) (s : State) : Prop :=
  s.lateData a = false ∧ a ≠ .call .startPositioning

/-! ## What a stop leaves -/

/-- The installed handle is not running, or about to be cleared. -/
def State.Stopped (s : State) : Prop :=
  ∀ x, s.gpsHandle = some x → running x s.log = false ∨
    ∃ u, s.reclaim u = some .delete ∨ s.reclaim u = some .clear

/-- What the client knows after a stop. -/
def ClientPc.Halting (s : State) : ClientPc → Prop
  | .stopTry | .stopRead | .stopStop => True
  | .idle | .stopInStop | .stopUnlock | .loadMode | .callMode _ | .inMode
  | .loadInject | .callInject _ => s.Stopped
  | _ => False

/-- From the installation of the new handle to the test of it. -/
def ReclaimPc.hasInstalled : ReclaimPc → Bool
  | .unlockInstall | .readHandle | .loadMode | .callMode _ | .inMode
  | .lockRead | .read | .unlockRead (some _) => true
  | _ => false

/-- The watchdog has nothing to act on, unless the reclaim has just installed
a handle. -/
def State.Unarmed (s : State) : Prop :=
  s.lastGpsMs = 0 ∨ s.gpsHandle = none ∨
    ∃ u pc, s.reclaim u = some pc ∧ pc.hasInstalled = true

/-- The state of affairs after a stop that has been heeded. -/
structure State.Heeded (s : State) : Prop where
  uncommitted : ∀ u pc, s.reclaim u = some pc → pc.committed = false
  unstarted : ∀ x, startedSince x s.log = false
  client : s.client.Halting s
  unarmed : s.Unarmed

/-! ## Steps that start nothing -/

/-- The step neither starts anything nor is a call that `halted` goes by. -/
def Unstarting (s t : State) : Prop :=
  t.log = s.log ∨ ∃ e, (∀ x, e ≠ .start x) ∧ e.requests = false ∧
    t.log = ⟨s.now, e⟩ :: s.log

private theorem Quiet.unstarting {s t : State} (h : Quiet s t) :
    Unstarting s t := by
  rcases h with h | ⟨e, he, hl⟩
  · exact .inl h
  · refine .inr ⟨e, ?_, e.requests_of_passive he, hl⟩
    rintro x rfl
    cases he

theorem Unstarting.halted_eq {s t : State} (h : Unstarting s t) :
    halted t.log = halted s.log := by
  rcases h with h | ⟨e, -, he, h⟩
  · rw [h]
  · rw [h, halted_cons_other he]

theorem Unstarting.running_eq_false {s t : State} (h : Unstarting s t)
    {x : Handle} (hx : running x s.log = false) :
    running x t.log = false := by
  rcases h with h | ⟨e, he, -, h⟩
  · rw [h]
    exact hx
  · rw [h]
    exact running_cons (he x) s.now hx

theorem Unstarting.startedSince_eq_false {s t : State} (h : Unstarting s t)
    {x : Handle} (hx : startedSince x s.log = false) :
    startedSince x t.log = false := by
  rcases h with h | ⟨e, he, -, h⟩
  · rw [h]
    exact hx
  · rw [h]
    exact startedSince_cons_ne (he x) s.now hx

theorem CallbackStep.unstarting {s t : State} {u : ThreadId}
    {pc : CallbackPc} (h : CallbackStep s t u pc) : Unstarting s t := by
  rcases h.log with hq | ⟨k, -, hl⟩
  · exact hq.unstarting
  · refine .inr ⟨_, ?_, rfl, hl⟩
    intro x hx
    cases hx

/-- The client starts something at one point only. -/
theorem ClientStep.unstarting {s t : State} (h : ClientStep s t)
    (hc : ∀ x, s.client ≠ .startStart x) : Unstarting s t := by
  rcases h.log with hq | ⟨x, hx, -, -⟩
  · exact hq.unstarting
  · exact absurd hx (hc x)

theorem ReclaimStep.unstarting {s t : State} {u : ThreadId}
    {pc : ReclaimPc} (h : ReclaimStep s t u pc)
    (hpc : ∀ x, pc ≠ .start x) : Unstarting s t := by
  rcases h.log with hq | ⟨e, he, hl⟩ | ⟨x, hx, -, -⟩
  · exact hq.unstarting
  · refine .inr ⟨e, ?_, e.requests_of_tracks he, hl⟩
    rintro x rfl
    cases he
  · exact absurd hx (hpc x)

/-! ## A stop that is heeded -/

theorem State.Stopped.outside {s t : State} (h : s.Stopped)
    (hout : Outside s t) (hlog : Unstarting s t) : t.Stopped := by
  intro x hx
  rw [hout.gpsHandle] at hx
  rcases h x hx with hrun | ⟨u, hu⟩
  · exact .inl (hlog.running_eq_false hrun)
  · refine .inr ⟨u, ?_⟩
    rcases hu with hu | hu
    · exact .inl (hout.keeps hu)
    · exact .inr (hout.keeps hu)

theorem State.Unarmed.outside {s t : State} (h : s.Unarmed)
    (hout : Outside s t)
    (hlast : t.lastGpsMs = s.lastGpsMs ∨ s.gpsHandle = none) :
    t.Unarmed := by
  rcases hlast with hlast | hnone
  · rcases h with h | h | ⟨u, pc, hu, hpc⟩
    · exact .inl (hlast.trans h)
    · exact .inr (.inl (hout.gpsHandle.trans h))
    · exact .inr (.inr ⟨u, pc, hout.keeps hu, hpc⟩)
  · exact .inr (.inl (hout.gpsHandle.trans hnone))

/-- Steps outside the reclaim; what the client knows is left to be shown. -/
private theorem heeded_outside {s t : State} (h : s.Heeded)
    (hout : Outside s t) (hlog : Unstarting s t)
    (hclient : t.client.Halting t)
    (hlast : t.lastGpsMs = s.lastGpsMs ∨ s.gpsHandle = none) :
    t.Heeded where
  uncommitted := by
    intro u pc hpc
    rcases hout.entered hpc with hpc | rfl
    · exact h.uncommitted u pc hpc
    · rfl
  unstarted := fun x => hlog.startedSince_eq_false (h.unstarted x)
  client := hclient
  unarmed := h.unarmed.outside hout hlast

theorem ClientPc.Halting.of_stopped {s t : State} {pc : ClientPc}
    (h : pc.Halting s) (hst : s.Stopped → t.Stopped) : pc.Halting t := by
  cases pc
  case stopTry | stopRead | stopStop => trivial
  case idle | stopInStop | stopUnlock | loadMode | callMode o | inMode
    | loadInject | callInject o => exact hst h
  all_goals exact h

/-- A writer that keeps `stop_positioning` out has the handle in its hands, or
has just installed one that nobody has started. -/
private theorem stopped_of_writer {s : State} (hr : Reachable s)
    {u : ThreadId} (hu : s.Excludes u) : s.Stopped := by
  intro x hx
  obtain ⟨pc, hpc, hex⟩ := Option.any_eq_true _ _ |>.mp hu
  have hfact := hr.tracked.fact u pc hpc
  cases pc
  case delete => exact .inr ⟨u, .inl hpc⟩
  case clear => exact .inr ⟨u, .inr hpc⟩
  case unlockDelete | install new =>
    rw [hfact.2] at hx
    cases hx
  case unlockInstall =>
    have hnot := (hr.fresh.unstarted u _ x hpc hx).1
    exact .inl (running_of_not_starts hnot)
  all_goals cases hex

/-- The client runs on after a stop. -/
private theorem halting_client {s t : State} (h : s.client.Halting s)
    (hr : Reachable s) (hrun : s.runClient = some t) :
    Unstarting s t ∧ t.client.Halting t ∧ t.lastGpsMs = s.lastGpsMs := by
  have hs := hr.held
  have hcl := ClientStep.of_run hrun
  have hout := hcl.outside hs
  have hlog : Unstarting s t := by
    apply hcl.unstarting
    intro x hx
    rw [hx] at h
    exact h
  have hlast : t.lastGpsMs = s.lastGpsMs := by
    rcases hcl.last with hl | ⟨x, hx, -, -⟩
    · exact hl
    · rw [hx] at h
      exact h.elim
  refine ⟨hlog, ?_, hlast⟩
  have hkeep : s.Stopped → t.Stopped := fun hst => hst.outside hout hlog
  cases hc : s.client
  all_goals
    rw [hc] at h
    simp only [State.runClient, hc] at hrun
  case idle => cases hrun
  case stopTry =>
    split at hrun
    · rename_i hbusy
      obtain rfl := Option.some.inj hrun
      obtain ⟨u, hu⟩ := hs.locked.exclusive_of_lockShared_none hbusy
      have hst : s.Stopped := stopped_of_writer hr hu
      exact hst
    · obtain rfl := Option.some.inj hrun
      trivial
  case stopRead =>
    split at hrun
    · obtain rfl := Option.some.inj hrun
      trivial
    · rename_i hnone
      obtain rfl := Option.some.inj hrun
      intro x hx
      rw [hnone] at hx
      cases hx
  case stopStop =>
    obtain rfl := Option.some.inj hrun
    intro x hx
    exact .inl (by simp [State.record, running, show s.gpsHandle = some x from hx])
  case stopInStop | stopUnlock | loadMode | callMode o | inMode | loadInject
    | callInject o =>
    obtain rfl := Option.some.inj hrun
    exact hkeep h
  all_goals exact h.elim

/-- The thread in the reclaim keeps the installed handle still: what it
installs is new. -/
private theorem stopped_reclaim {s t : State} {u : ThreadId} {ok : Bool}
    {pc : ReclaimPc} (h : s.Stopped) (hr : Reachable s)
    (hpc : s.reclaim u = some pc) (hrun : s.runReclaim u ok pc = some t)
    (hlog : Unstarting s t) : t.Stopped := by
  have hrc := ReclaimStep.of_run hrun
  have halone : ∀ v pc', s.reclaim v = some pc' → pc' = pc := by
    intro v pc' hv
    have he : v = u :=
      hr.held.owned.alone (by simp [hv]) (by simp [hpc])
    rw [he, hpc] at hv
    exact (Option.some.inj hv).symm
  intro x hx
  by_cases hdel : pc = .delete
  · subst hdel
    refine .inr ⟨u, .inr ?_⟩
    simp only [State.runReclaim] at hrun
    split at hrun
    all_goals
      obtain rfl := Option.some.inj hrun
      simp [State.setReclaim]
  by_cases hclear : pc = .clear
  · subst hclear
    obtain rfl := Option.some.inj hrun
    cases hx
  rcases hrc.gpsHandle with he | ⟨hc, -, -⟩ | ⟨new, rfl, -, he⟩
  · rw [he] at hx
    rcases h x hx with hrun | ⟨v, hv | hv⟩
    · exact .inl (hlog.running_eq_false hrun)
    · exact absurd (halone v _ hv).symm hdel
    · exact absurd (halone v _ hv).symm hclear
  · exact absurd hc hclear
  · rw [he] at hx
    have hnot := (hr.fresh.unstarted u _ x hpc hx).1
    exact .inl (hlog.running_eq_false (running_of_not_starts hnot))

/-- The reclaim reads back what it has installed. -/
private theorem unarmed_reclaim {s t : State} {u : ThreadId} {ok : Bool}
    {pc : ReclaimPc} (h : s.Unarmed) (hr : Reachable s)
    (hpc : s.reclaim u = some pc) (hrun : s.runReclaim u ok pc = some t)
    (hbranch : ∀ x, pc ≠ .unlockRead (some x)) (harm : ∀ x, pc ≠ .arm x) :
    t.Unarmed := by
  have hrc := ReclaimStep.of_run hrun
  rcases hrc.gpsHandle with he | ⟨-, -, he⟩ | ⟨new, -, hnext, -⟩
  · rcases h with h | h | ⟨v, pc', hv, hin⟩
    · rcases hrc.last with hl | ⟨x, hx, -, -⟩
      · exact .inl (hl.trans h)
      · exact absurd hx (harm x)
    · exact .inr (.inl (he.trans h))
    · have hvu : v = u :=
        hr.held.owned.alone (by simp [hv]) (by simp [hpc])
      rw [hvu, hpc] at hv
      obtain rfl := Option.some.inj hv
      have hnext : (∃ next, t.reclaim u = some next ∧
          next.hasInstalled = true) ∨ t.gpsHandle = none := by
        cases pc
        all_goals simp only [State.runReclaim] at hrun
        case lockRead =>
          obtain ⟨m, -, rfl⟩ := Option.map_eq_some_iff.mp hrun
          exact .inl ⟨_, Function.update_self .., rfl⟩
        case readHandle =>
          split at hrun
          all_goals
            obtain rfl := Option.some.inj hrun
            exact .inl ⟨_, Function.update_self .., rfl⟩
        case read =>
          obtain rfl := Option.some.inj hrun
          cases hg : s.gpsHandle with
          | none => exact .inr hg
          | some x =>
              refine .inl ⟨_, Function.update_self .., ?_⟩
              rfl
        case unlockInstall | loadMode | callMode o | inMode =>
          obtain rfl := Option.some.inj hrun
          exact .inl ⟨_, Function.update_self .., rfl⟩
        case unlockRead o =>
          cases o with
          | none => cases hin
          | some x => exact absurd rfl (hbranch x)
        all_goals cases hin
      rcases hnext with ⟨next, hn, hin⟩ | hnone
      · exact .inr (.inr ⟨u, next, hn, hin⟩)
      · exact .inr (.inl hnone)
  · exact .inr (.inl he)
  · exact .inr (.inr ⟨u, _, hnext, rfl⟩)

/-- Only the branch leads on to the start. -/
private theorem committed_step {s t : State} {u : ThreadId} {ok : Bool}
    {pc : ReclaimPc} (h : pc.committed = false)
    (hbranch : ∀ x, pc ≠ .unlockRead (some x))
    (hrun : s.runReclaim u ok pc = some t) {next : ReclaimPc}
    (hnext : t.reclaim u = some next) : next.committed = false := by
  cases pc
  all_goals simp only [State.runReclaim] at hrun
  case lockDelete | lockInstall new | lockRead =>
    obtain ⟨m, -, rfl⟩ := Option.map_eq_some_iff.mp hrun
    simp only [State.setReclaim, Function.update_self] at hnext
    obtain rfl := Option.some.inj hnext
    rfl
  case delete | inNew | readHandle =>
    split at hrun
    all_goals
      obtain rfl := Option.some.inj hrun
      simp only [State.setReclaim, Function.update_self] at hnext
      obtain rfl := Option.some.inj hnext
      rfl
  case unlockRead o =>
    cases o with
    | none =>
        obtain rfl := Option.some.inj hrun
        simp only [State.setReclaim, Function.update_self] at hnext
        obtain rfl := Option.some.inj hnext
        rfl
    | some x => exact absurd rfl (hbranch x)
  case release =>
    obtain rfl := Option.some.inj hrun
    simp [State.setReclaim] at hnext
  case loadAgain x | callAgain x o | inAgain x | arm x | start x => cases h
  all_goals
    obtain rfl := Option.some.inj hrun
    simp only [State.setReclaim, State.dispatchModes, State.record,
      Function.update_self] at hnext
    obtain rfl := Option.some.inj hnext
    rfl

/-- The step of a stop that the reclaim lets through. -/
private theorem heeded_reclaim {s t : State} {u : ThreadId} {ok : Bool}
    {pc : ReclaimPc} (h : s.Heeded) (hr : Reachable s)
    (hpc : s.reclaim u = some pc) (hrun : s.runReclaim u ok pc = some t)
    (hbranch : ∀ x, pc ≠ .unlockRead (some x)) : t.Heeded := by
  have hrc := ReclaimStep.of_run hrun
  have hnot := h.uncommitted u pc hpc
  have hlog : Unstarting s t := by
    apply hrc.unstarting
    rintro x rfl
    cases hnot
  constructor
  · intro v next hv
    by_cases hvu : v = u
    · exact committed_step hnot hbranch hrun (hvu ▸ hv)
    · rw [hrc.others v hvu] at hv
      exact h.uncommitted v next hv
  · intro x
    exact hlog.startedSince_eq_false (h.unstarted x)
  · rw [hrc.client]
    exact h.client.of_stopped fun hst => stopped_reclaim hst hr hpc hrun hlog
  · apply unarmed_reclaim h.unarmed hr hpc hrun hbranch
    rintro x rfl
    cases hnot

/-- A call of the client: a stop must not come too late for the reclaim. -/
private theorem heeded_call {s : State} (h : halted s.log = true → s.Heeded)
    (hs : s.Held) {op : ClientOp} (hidle : s.client = .idle)
    (hguard : s.lateStart (.call op) = false)
    (hhalt : halted (s.callOp op).log = true) : (s.callOp op).Heeded := by
  have hcall := Called.of_callOp s op
  have hout := hcall.outside
  by_cases hreq : Event.requests (.call op) = true
  · cases op
    case startPositioning =>
      rw [hcall.log] at hhalt
      cases hhalt
    case stopPositioning =>
      constructor
      · intro u pc hpc
        have hin : u ∈ s.reclaimers := hs.typed u (by simp [← hcall.reclaim, hpc])
        rw [hcall.reclaim] at hpc
        have hno := List.any_eq_false.mp hguard u hin
        rw [hpc] at hno
        exact Bool.eq_false_iff.mpr hno
      · intro x
        rw [hcall.log]
        rfl
      · trivial
      · exact .inl hcall.last
    all_goals cases hreq
  · have hno := Bool.eq_false_iff.mpr hreq
    have hlog : Unstarting s (s.callOp op) := by
      refine .inr ⟨_, ?_, hno, hcall.log⟩
      intro x hx
      cases hx
    have hh := h (hlog.halted_eq ▸ hhalt)
    have hst : s.Stopped := by
      have hcl := hh.client
      rw [hidle] at hcl
      exact hcl
    have hst' := hst.outside hout hlog
    refine heeded_outside hh hout hlog ?_ (.inl ?_)
    · rw [hcall.client, hidle]
      cases op
      case startPositioning | stopPositioning => exact absurd rfl hreq
      case setAssistanceMode m | setPositionMode m =>
        dsimp only
        split <;> exact hst'
      case injectReferencePosition => exact hst'
    · rw [hcall.last, if_neg]
      rintro rfl
      cases hno

theorem heeded_step {a : Action} {s t : State}
    (h : halted s.log = true → s.Heeded) (hr : Reachable s)
    (hguard : HeedsStop a s) (hst : Moves s a t) (hhalt : halted t.log = true) :
    t.Heeded := by
  cases hst with
  | tick d =>
      have hh := h hhalt
      exact ⟨hh.1, hh.2, hh.3.of_stopped id, hh.4⟩
  | call op idle => exact heeded_call h hr.held idle hguard.2 hhalt
  | enter u k free driver =>
      have hh := h hhalt
      exact ⟨hh.1, hh.2, hh.3.of_stopped id, hh.4⟩
  | callback u ok pc _ here runs =>
      have hcb := CallbackStep.of_run runs
      have hhalt' := hcb.unstarting.halted_eq ▸ hhalt
      have hh := h hhalt'
      refine heeded_outside hh hcb.outside hcb.unstarting ?_ ?_
      · rw [hcb.client]
        exact hh.client.of_stopped
          fun hst => hst.outside hcb.outside hcb.unstarting
      · rcases hcb.last with hl | ⟨k, rfl, hk, -, -⟩
        · exact .inl hl
        · have hlate := hguard.1
          simp only [State.lateData, here, hhalt', hk, Bool.true_and] at hlate
          exact .inr (Option.isNone_iff_eq_none.mp (by simpa using hlate))
  | reclaim u ok pc _ calm here runs =>
      have hrc := ReclaimStep.of_run runs
      by_cases hstart : ∃ x, pc = .start x
      · obtain ⟨x, rfl⟩ := hstart
        rw [hrc.starts x rfl] at hhalt
        exact nomatch (h hhalt).uncommitted u _ here
      · have hlog := hrc.unstarting fun x hx => hstart ⟨x, hx⟩
        have hhalt' := hlog.halted_eq ▸ hhalt
        apply heeded_reclaim (h hhalt') hr here runs
        rintro x rfl
        have hlate := hguard.2
        simp only [State.lateStart, calm, here, hhalt'] at hlate
        cases hlate
  | client ok _ calm runs =>
      have hcl := ClientStep.of_run runs
      by_cases hstart : ∃ x, s.client = .startStart x
      · obtain ⟨x, hx⟩ := hstart
        rw [hcl.starts x hx] at hhalt
        have hclient := (h hhalt).client
        rw [hx] at hclient
        exact hclient.elim
      · have hlog := hcl.unstarting fun x hx => hstart ⟨x, hx⟩
        have hh := h (hlog.halted_eq ▸ hhalt)
        obtain ⟨-, hclient, hlast⟩ := halting_client hh.client hr runs
        exact heeded_outside hh (hcl.outside hr.held) hlog hclient (.inl hlast)
  | watchdog ok _ calm outside runs =>
      have hwd := WatchdogStep.of_run runs
      have hlog : Unstarting s t := .inl hwd.log
      have hout := hwd.outside hr.held
      have hh := h (hlog.halted_eq ▸ hhalt)
      refine heeded_outside hh hout hlog ?_ (.inl hwd.last)
      rw [hwd.client]
      exact hh.client.of_stopped fun hst => hst.outside hout hlog

/-- In every run that heeds stops, a stop that was the last call is heeded. -/
theorem heeded_of_reach {s : State} (h : machine.Reach HeedsStop s)
    (hhalt : halted s.log = true) : s.Heeded := by
  revert hhalt
  refine reach_invariant (P := fun s => halted s.log = true → s.Heeded)
    ?_ ?_ h
  · intro b _ hhalt
    obtain ⟨ok, stamp, c, created, now⟩ := b
    cases ok <;> cases stamp <;> cases hhalt
  · intro a s t hr hh hg hst
    exact heeded_step hh hr hg hst

/-! ## Afterwards -/

/-- The client has a start in hand, or a thread to spawn. -/
def ClientPc.inStart : ClientPc → Bool
  | .startTry | .startRead | .startMode _ | .startInMode _ | .startUnlock _
  | .startArm _ | .startStart _ | .startInStart | .startUnlockNull
  | .startExchange | .startSpawn => true
  | _ => false

/-- What the watchdog can have seen while there was nothing to act on. -/
def WatchdogPc.Dismisses (handle : Option Handle) : WatchdogPc → Prop
  | .sleep | .loadLast => True
  | .unlockCheck true | .exchange => False
  | _ => handle = none

/-- Nothing is started and nothing is about to be. -/
structure State.Calm (s : State) : Prop where
  halted : halted s.log = true
  client : s.client.inStart = false
  reclaim : ∀ u, s.reclaim u = none
  unarmed : s.lastGpsMs = 0 ∨ s.gpsHandle = none
  watchdog : s.watchdog.Dismisses s.gpsHandle

/-- The step starts nothing on any handle. -/
def Idles (s t : State) : Prop :=
  t.log = s.log ∨ ∃ e, (∀ x, e ≠ .start x) ∧ t.log = ⟨s.now, e⟩ :: s.log

theorem Unstarting.idles {s t : State} (h : Unstarting s t) : Idles s t := by
  rcases h with h | ⟨e, he, -, h⟩
  · exact .inl h
  · exact .inr ⟨e, he, h⟩

/-- The client does not begin a start by itself. -/
private theorem inStart_client {s t : State} (h : s.client.inStart = false)
    (hrun : s.runClient = some t) : t.client.inStart = false := by
  cases hc : s.client
  all_goals
    rw [hc] at h
    simp only [State.runClient, hc] at hrun
  case idle => cases hrun
  case stopTry | stopRead =>
    split at hrun
    all_goals
      obtain rfl := Option.some.inj hrun
      rfl
  case stopStop | stopInStop | stopUnlock | loadMode | callMode o | inMode
    | loadInject | callInject o =>
    obtain rfl := Option.some.inj hrun
    rfl
  all_goals cases h

private theorem calm_client {s t : State} (h : s.Calm)
    (hrun : s.runClient = some t) : t.Calm ∧ Unstarting s t := by
  have hcl := ClientStep.of_run hrun
  have hnot : ∀ pc, s.client = pc → pc.inStart = false := by
    rintro pc rfl
    exact h.client
  have hlog : Unstarting s t := by
    apply hcl.unstarting
    intro x hx
    exact nomatch hnot _ hx
  have hnext := inStart_client h.client hrun
  have hlast : t.lastGpsMs = s.lastGpsMs := by
    rcases hcl.last with hl | ⟨x, hx, -, -⟩
    · exact hl
    · exact nomatch hnot _ hx
  refine ⟨⟨?_, hnext, ?_, ?_, ?_⟩, hlog⟩
  · rw [hlog.halted_eq]
    exact h.halted
  · rcases hcl.token with ht | ht | ht
    · rw [ht.1]
      exact h.reclaim
    · rw [ht.1]
      exact h.reclaim
    · exact nomatch hnot _ ht.1
  · rw [hlast, hcl.same.gpsHandle]
    exact h.unarmed
  · rw [hcl.watchdog, hcl.same.gpsHandle]
    exact h.watchdog

private theorem calm_watchdog {s t : State} (h : s.Calm)
    (hrun : s.runWatchdog = some t) : t.Calm ∧ Unstarting s t := by
  have hwd := WatchdogStep.of_run hrun
  have hlog : Unstarting s t := .inl hwd.log
  have hact := h.watchdog
  have hnext : t.watchdog.Dismisses t.gpsHandle ∧ t.reclaim = s.reclaim := by
    cases hw : s.watchdog
    all_goals
      rw [hw] at hact
      simp only [State.runWatchdog, hw] at hrun
    case sleep =>
      obtain rfl := Option.some.inj hrun
      exact ⟨trivial, rfl⟩
    case loadLast =>
      split at hrun
      · obtain rfl := Option.some.inj hrun
        exact ⟨trivial, rfl⟩
      · rename_i hne
        obtain rfl := Option.some.inj hrun
        exact ⟨h.unarmed.resolve_left hne, rfl⟩
    case compare last =>
      split at hrun
      · obtain rfl := Option.some.inj hrun
        exact ⟨trivial, rfl⟩
      · obtain rfl := Option.some.inj hrun
        exact ⟨hact, rfl⟩
    case lockCheck =>
      obtain ⟨m, -, rfl⟩ := Option.map_eq_some_iff.mp hrun
      exact ⟨hact, rfl⟩
    case readHandle =>
      obtain rfl := Option.some.inj hrun
      have hnone : s.gpsHandle = none := hact
      refine ⟨?_, rfl⟩
      simp only [hnone, Option.isSome_none]
      rfl
    case unlockCheck handleValid =>
      cases handleValid with
      | true => exact hact.elim
      | false =>
          obtain rfl := Option.some.inj hrun
          exact ⟨trivial, rfl⟩
    case exchange => exact hact.elim
  refine ⟨⟨?_, ?_, ?_, ?_, hnext.1⟩, hlog⟩
  · rw [hwd.log]
    exact h.halted
  · rw [hwd.client]
    exact h.client
  · rw [hnext.2]
    exact h.reclaim
  · rw [hwd.last, hwd.same.gpsHandle]
    exact h.unarmed

theorem State.Calm.step {a : Action} {s t : State} (h : s.Calm)
    (hguard : Afterwards a s) (hst : Moves s a t) : t.Calm ∧ Idles s t := by
  cases hst with
  | tick d => exact ⟨⟨h.1, h.2, h.3, h.4, h.5⟩, .inl rfl⟩
  | call op idle =>
      have hcall := Called.of_callOp s op
      have hne : op ≠ .startPositioning := by
        rintro rfl
        exact hguard.2 rfl
      refine ⟨⟨?_, ?_, ?_, ?_, ?_⟩, .inr ⟨_, ?_, hcall.log⟩⟩
      · rw [hcall.log]
        have hhalt := h.halted
        cases op
        case startPositioning => exact absurd rfl hne
        case stopPositioning => rfl
        all_goals exact hhalt
      · rw [hcall.client, idle]
        cases op
        case startPositioning => exact absurd rfl hne
        case setAssistanceMode m | setPositionMode m =>
          dsimp only
          split <;> rfl
        all_goals rfl
      · rw [hcall.reclaim]
        exact h.reclaim
      · rw [hcall.last, hcall.same.gpsHandle]
        split
        · exact .inl rfl
        · exact h.unarmed
      · rw [hcall.watchdog, hcall.same.gpsHandle]
        exact h.watchdog
      · intro x hx
        cases hx
  | enter u k free driver => exact ⟨⟨h.1, h.2, h.3, h.4, h.5⟩, .inl rfl⟩
  | callback u ok pc _ here runs =>
      have hcb := CallbackStep.of_run runs
      have hlog := hcb.unstarting
      refine ⟨⟨?_, ?_, ?_, ?_, ?_⟩, hlog.idles⟩
      · rw [hlog.halted_eq]
        exact h.halted
      · rw [hcb.client]
        exact h.client
      · rw [hcb.reclaim]
        exact h.reclaim
      · rw [hcb.same.gpsHandle]
        rcases hcb.last with hl | ⟨k, rfl, hk, -, -⟩
        · rw [hl]
          exact h.unarmed
        · have hlate := hguard.1
          simp only [State.lateData, here, h.halted, hk, Bool.true_and] at hlate
          exact .inr (Option.isNone_iff_eq_none.mp (by simpa using hlate))
      · rw [hcb.watchdog, hcb.same.gpsHandle]
        exact h.watchdog
  | reclaim u ok pc _ calm here runs =>
      rw [h.reclaim u] at here
      cases here
  | client ok _ calm runs =>
      obtain ⟨hcalm, hlog⟩ := calm_client h runs
      exact ⟨hcalm, hlog.idles⟩
  | watchdog ok _ calm outside runs =>
      obtain ⟨hcalm, hlog⟩ := calm_watchdog h runs
      exact ⟨hcalm, hlog.idles⟩

/-- What is in the log after a calm state starts nothing. -/
theorem State.Calm.afterwards {s t : State} (h : s.Calm) (hr : Reachable s)
    (ht : (machine.startingAt s).Reach Afterwards t) :
    Reachable t ∧ t.Calm ∧ ∃ added, t.log = added ++ s.log ∧
      ∀ e ∈ added, ∀ x, e.event ≠ .start x := by
  induction ht with
  | initial he =>
      obtain rfl := he
      exact ⟨hr, h, [], rfl, nofun⟩
  | @step u v a _ hg hst ih =>
      obtain ⟨hru, hcalm, added, hlog, hadded⟩ := ih
      obtain ⟨hcalm', hidle⟩ := hcalm.step hg (.of_step hst)
      refine ⟨hru.step a trivial hst, hcalm', ?_⟩
      rcases hidle with hl | ⟨e, he, hl⟩
      · exact ⟨added, hl.trans hlog, hadded⟩
      · refine ⟨⟨u.now, e⟩ :: added, by rw [hl, hlog]; rfl, ?_⟩
        intro e' he'
        rcases List.mem_cons.mp he' with rfl | he'
        · exact he
        · exact hadded e' he'

/-! ## The last call is a stop -/

/-- The stop that was the last call has returned, and no recovery thread and
no iteration of the watchdog is in progress. -/
structure State.Over (s : State) : Prop where
  halted : halted s.log = true
  client : s.client = .idle
  reclaim : ∀ u, s.reclaim u = none
  watchdog : s.watchdog = .sleep

/-- The stop has won: nothing was started after it, the installed handle is
not running, and nothing is started afterwards. -/
structure State.StopWon (s : State) : Prop where
  unstarted : ∀ x, startedSince x s.log = false
  stopped : ∀ x, s.gpsHandle = some x → running x s.log = false
  afterwards : ∀ t, (machine.startingAt s).Reach Afterwards t →
    ∃ added, t.log = added ++ s.log ∧ ∀ e ∈ added, ∀ x, e.event ≠ .start x

/-- In a run in which no reclaim goes on to a start after a stop, and no
callback arms the watchdog after one, a stop wins once it is over. -/
theorem stop_wins {s : State} (h : machine.Reach HeedsStop s) (hover : s.Over) :
    s.StopWon := by
  have hr := Reachable.of_reach h
  have hh := heeded_of_reach h hover.halted
  have hst : s.Stopped := by
    have hcl := hh.client
    rw [hover.client] at hcl
    exact hcl
  have hcalm : s.Calm := by
    refine ⟨hover.halted, ?_, hover.reclaim, ?_, ?_⟩
    · rw [hover.client]
      rfl
    · rcases hh.unarmed with hl | hnone | ⟨u, pc, hu, -⟩
      · exact .inl hl
      · exact .inr hnone
      · rw [hover.reclaim u] at hu
        cases hu
    · rw [hover.watchdog]
      trivial
  refine ⟨hh.unstarted, fun x hx => ?_, fun t ht => ?_⟩
  · rcases hst x hx with hrun | ⟨u, hu | hu⟩
    · exact hrun
    · rw [hover.reclaim u] at hu
      cases hu
    · rw [hover.reclaim u] at hu
      cases hu
  · exact (hcalm.afterwards hr ht).2.2

/-- A start without a handle, whose thread installs one and starts it, and then a
stop. -/
theorem stop_wins_after_start :
    ∃ s, play HeedsStop bootWithout
        (.call .startPositioning :: steps .client 5 ++
          steps (.recovery 0) 20 ++
            .call .stopPositioning :: steps .client 5) = some s ∧
      s.gpsHandle = some 0 ∧ s.StopWon := by
  have hrun : (play HeedsStop bootWithout
      (.call .startPositioning :: steps .client 5 ++ steps (.recovery 0) 20 ++
        .call .stopPositioning :: steps .client 5)).isSome := by decide
  have hplay := (Option.some_get hrun).symm
  have hreach := reach_of_play bootWithout_timely hplay
  have hr := Reachable.of_reach hreach
  have hquiet := hr.held.typed.quiet (of_decide_eq_true rfl)
  exact ⟨_, hplay, rfl, stop_wins hreach ⟨rfl, rfl, hquiet, rfl⟩⟩

/-- The client stops while the thread it has spawned is still creating the
handle; the thread starts the chipset all the same. -/
theorem recovery_starts_after_stop :
    ¬ ∀ s, Reachable s → s.Over → s.StopWon := by
  intro hall
  have hrun : (play (fun _ _ => True) bootWithout
      (.call .startPositioning :: steps .client 5 ++
        steps (.recovery 0) 5 ++ .call .stopPositioning :: steps .client 3 ++
        steps (.recovery 0) 15)).isSome := by decide
  have hplay := (Option.some_get hrun).symm
  have hr := Reachable.of_reach (reach_of_play bootWithout_timely hplay)
  have hdone := hr.held.typed.quiet (of_decide_eq_true rfl)
  have hwon := hall _ hr ⟨rfl, rfl, hdone, rfl⟩
  have hstarted : startedSince 0 (Option.get _ hrun).log = true :=
    of_decide_eq_true rfl
  rw [hwon.unstarted 0] at hstarted
  cases hstarted

end LocationService.Gps
