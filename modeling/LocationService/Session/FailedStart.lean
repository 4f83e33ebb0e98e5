import LocationService.Engine.Counting
import LocationService.Session.Projection
import LocationService.Session.Streams

/-!
# A start that fails

When the start hook of an implementation throws, the exception passes three
controllers, the state of the provider and the status of the session, and each
of them keeps what it had stored before.  The client gets an error, the session
counts as enabled, a retry finds the status enabled already and does nothing,
and a later stop goes all the way down to the implementation that never
started.
-/

namespace LocationService

open LocationService.Library

/-! ## The implementation under a start and a stop -/

namespace System

private theorem settleProviderState_impl (s : System) (i j : ProviderId)
    (c : Controller) (v : ProviderState) :
    (((s.setController i c).settleProviderState i v).provider j).impl =
      (s.provider j).impl := by
  have hreset := reset_settleProviderState (s.setController i c) i v
  rw [hreset.impl j, setProviderState_impl, setController_impl]

theorem settleStartUpdates_impl {s : System} {i : ProviderId} {x : Stream}
    (h : s.counter i x = 0) :
    ((s.settleStartUpdates i x).provider i).impl =
      (s.provider i).impl.startUpdates x := by
  rcases s.settleStartUpdates_cases i x with ⟨hc, -⟩ | ⟨-, hs⟩ | ⟨hc, -⟩
  · exact absurd h (Int.ne_of_lt hc)
  · rw [hs]
    show ((setImpl _ i _).provider i).impl = _
    rw [setImpl_impl_self, settleProviderState_impl]
  · exact absurd h (Int.ne_of_gt hc)

theorem settleStopUpdates_impl {s : System} {i : ProviderId} {x : Stream}
    (h : s.counter i x = 1) :
    ((s.settleStopUpdates i x).provider i).impl =
      (s.provider i).impl.stopUpdates x := by
  rcases s.settleStopUpdates_cases i x with ⟨hc, -⟩ | ⟨-, hs⟩ | ⟨-, hc, -⟩
  · omega
  · rw [hs]
    show ((setImpl _ i _).provider i).impl = _
    rw [setImpl_impl_self, settleProviderState_impl]
  · exact absurd h hc

end System

/-- A start from zero and the stop that follows both reach the hardware. -/
theorem Implementation.start_stop_calls {p : Implementation} {x : Stream}
    (h : p.controller.counter x = 0) :
    ((p.startUpdates x).stopUpdates x).calls =
      .stop x :: .start x :: p.calls := by
  have hstart : p.startUpdates x =
      ⟨p.controller.setCounter x 1, .start x :: p.calls⟩ := by
    simp [startUpdates, Controller.startUpdates_of_zero h]
  rw [hstart]
  simp [stopUpdates, Controller.stopUpdates]

/-! ## Error replies -/

/-- Only a start that reaches a start hook throws. -/
theorem Session.setStatusThrows_eq_some {hooks : StartHooks} {c : Session}
    {x : Stream} {v : UpdatesStatus} {s : System} {e : Thrown}
    (h : c.setStatusThrows hooks x v s = some e) :
    v = .enabled ∧ c.status x = .disabled ∧ c.controller.counter x = 0 ∧
      ∃ i, c.selection x = some i ∧ s.counter i x = 0 ∧
        s.implCounter i x = 0 ∧ hooks i x = some e := by
  unfold setStatusThrows at h
  split at h
  · cases h
  · rename_i hne
    cases v with
    | disabled => cases h
    | enabled =>
        have hoff : c.status x = .disabled := by
          cases hstatus : c.status x with
          | enabled => exact absurd hstatus hne
          | disabled => rfl
        dsimp only [startThrows] at h
        split at h
        · rename_i hproxy
          cases hsel : c.selection x with
          | none =>
              rw [hsel] at h
              cases h
          | some i =>
              rw [hsel] at h
              dsimp only [System.startThrows] at h
              split at h
              · rename_i hcounts
                exact ⟨rfl, hoff, hproxy, i, rfl, hcounts.1, hcounts.2, h⟩
              · cases h
        · cases h

/-- What an error reply says about the request. -/
structure Fails (hooks : StartHooks) (k : Nat) (m : SessionCall) (w : World)
    (r : Answered) (c : Session) (i : ProviderId) : Prop where
  session : w.sessions[k]? = some c
  requested : m.requested = .enabled
  disabled : c.status m.target = .disabled
  proxy : c.controller.counter m.target = 0
  selection : c.selection m.target = some i
  counter : w.system.counter i m.target = 0
  implCounter : w.system.implCounter i m.target = 0
  throws : hooks i m.target = some .runtimeError
  world : r.world =
    ⟨(c.settleSetStatus m.target .enabled w.system).2,
      w.sessions.set k (c.settleSetStatus m.target .enabled w.system).1⟩

theorem fails_of_error {hooks : StartHooks} {k : Nat} {m : SessionCall}
    {w : World} {r : Answered} {text : String} (h : Handled hooks k m w r)
    (herr : r.reply = some (.errorStartingUpdate text)) :
    ∃ c i, Fails hooks k m w r c i := by
  obtain ⟨c, hc, rfl⟩ := Option.map_eq_some_iff.mp (handled_iff.mp h)
  dsimp only at herr ⊢
  have hthrown : c.setStatusThrows hooks m.target m.requested w.system =
      some .runtimeError := by
    cases hthrows : c.setStatusThrows hooks m.target m.requested w.system with
    | none => simp [Ended.answer, hthrows] at herr
    | some e =>
        cases e with
        | runtimeError => rfl
        | other => simp [Ended.answer, hthrows] at herr
  obtain ⟨hrequested, hstatus, hproxy, i, hsel, hcounter, himpl, hhook⟩ :=
    Session.setStatusThrows_eq_some hthrown
  refine ⟨c, i, hc, hrequested, hstatus, hproxy, hsel, hcounter, himpl, hhook,
    ?_⟩
  rw [answer_world, hrequested]

/-- Whatever a hook throws, a request is a step of the whole. -/
theorem Handled.reachable {hooks : StartHooks} {k : Nat} {m : SessionCall}
    {w : World} {r : Answered} (h : Handled hooks k m w r)
    (hw : w.Reachable) : r.world.Reachable := by
  obtain ⟨c, hc, rfl⟩ := Option.map_eq_some_iff.mp (handled_iff.mp h)
  have hstep : World.Step (.setStatus k m.target m.requested) w
      ⟨(c.settleSetStatus m.target m.requested w.system).2,
        w.sessions.set k (c.settleSetStatus m.target m.requested w.system).1⟩ := by
    apply World.step_iff.mpr
    simp [World.settleExec, hc]
  dsimp only
  rw [answer_world]
  exact hw.step _ trivial hstep

/-! ## What is left -/

/-- The request has changed nothing on the path of stream `x` of session
`k`. -/
structure LeavesNoTrace (k : Nat) (x : Stream) (w w' : World) : Prop where
  status : w'.sessions[k]?.map (fun c => c.status x) =
    w.sessions[k]?.map (fun c => c.status x)
  proxy : w'.sessions[k]?.map (fun c => c.controller.counter x) =
    w.sessions[k]?.map (fun c => c.controller.counter x)
  provider : ∀ c i, w.sessions[k]? = some c → c.selection x = some i →
    w'.system.counter i x = w.system.counter i x ∧
    w'.system.implCounter i x = w.system.implCounter i x ∧
    (w'.system.provider i).state = (w.system.provider i).state

/-- Stream `x` of session `k`, which uses provider `i`, is not in use. -/
structure CountsAsIdle (k : Nat) (x : Stream) (i : ProviderId) (w : World) :
    Prop where
  session : ∃ c, w.sessions[k]? = some c ∧ c.selection x = some i ∧
    c.status x = .disabled ∧ c.controller.counter x = 0
  counter : w.system.counter i x = 0
  implCounter : w.system.implCounter i x = 0

/-- Stream `x` of session `k` counts as in use, and provider `i` as active. -/
structure CountsAsStarted (k : Nat) (x : Stream) (i : ProviderId) (w : World) :
    Prop where
  session : ∃ c, w.sessions[k]? = some c ∧ c.selection x = some i ∧
    c.status x = .enabled ∧ c.controller.counter x = 1
  counter : w.system.counter i x = 1
  implCounter : w.system.implCounter i x = 1
  state : (w.system.provider i).state = .active

theorem CountsAsIdle.trace {k : Nat} {x : Stream} {i : ProviderId}
    {w w' : World} (h : CountsAsIdle k x i w) (h' : CountsAsStarted k x i w') :
    ¬ LeavesNoTrace k x w w' := by
  intro htrace
  obtain ⟨c, hc, -, hoff, -⟩ := h.session
  obtain ⟨c', hc', -, hon, -⟩ := h'.session
  have hsame := htrace.status
  rw [hc, hc', Option.map_some, Option.map_some, hoff, hon] at hsame
  cases hsame

/-- The session under a request that failed. -/
theorem Fails.session_after {hooks : StartHooks} {k : Nat} {m : SessionCall}
    {w : World} {r : Answered} {c : Session} {i : ProviderId}
    (h : Fails hooks k m w r c i) :
    ∃ c', r.world.sessions[k]? = some c' ∧
      c'.status = Function.update c.status m.target .enabled ∧
      c'.selection = c.selection ∧ c'.controller.counter m.target = 1 := by
  have hk : k < w.sessions.length := (List.getElem?_eq_some_iff.mp h.session).1
  have hne : c.status m.target ≠ .enabled := by
    rw [h.disabled]
    simp
  refine ⟨(c.settleSetStatus m.target .enabled w.system).1, ?_,
    settleSetStatus_status c m.target .enabled w.system, ?_, ?_⟩
  · rw [h.world]
    exact List.getElem?_set_self hk
  · unfold Session.settleSetStatus
    rw [if_neg hne]
    rfl
  · unfold Session.settleSetStatus
    rw [if_neg hne]
    show (c.controller.startUpdates m.target).1.counter m.target = 1
    rw [Controller.startUpdates_of_zero h.proxy]
    exact Controller.setCounter_self _ _ _

/-- The engine under a request that failed is the one under a start that
worked. -/
theorem Fails.system_after {hooks : StartHooks} {k : Nat} {m : SessionCall}
    {w : World} {r : Answered} {c : Session} {i : ProviderId}
    (h : Fails hooks k m w r c i) :
    r.world.system = w.system.settleStartUpdates i m.target := by
  have hne : c.status m.target ≠ .enabled := by
    rw [h.disabled]
    simp
  have hhook : (c.controller.startUpdates m.target).2 = true := by
    rw [Controller.startUpdates_of_zero h.proxy]
  rw [h.world]
  unfold Session.settleSetStatus
  rw [if_neg hne]
  dsimp only [Session.settleStart]
  rw [if_pos hhook, h.selection]

/-- A retry finds the status enabled. -/
theorem Fails.retry {hooks : StartHooks} {k : Nat} {m : SessionCall}
    {w : World} {r r' : Answered} {c : Session} {i : ProviderId}
    (h : Fails hooks k m w r c i) (hr : Handled hooks k m r.world r') :
    r'.reply = some .methodReturn ∧ r'.world = r.world := by
  obtain ⟨c', hc', hstatus, -, -⟩ := h.session_after
  have hon : c'.status m.target = .enabled := by
    rw [hstatus]
    simp
  obtain ⟨d, hd, rfl⟩ := Option.map_eq_some_iff.mp (handled_iff.mp hr)
  obtain rfl : c' = d := Option.some.inj (hc'.symm.trans hd)
  have hthrows : c'.setStatusThrows hooks m.target m.requested r.world.system =
      none := by
    unfold Session.setStatusThrows
    rw [h.requested, if_pos hon]
  have hsame : c'.settleSetStatus m.target m.requested r.world.system =
      (c', r.world.system) := by
    unfold Session.settleSetStatus
    rw [h.requested, if_pos hon]
  have hset : r.world.sessions.set k c' = r.world.sessions := by
    obtain ⟨hk, hget⟩ := List.getElem?_eq_some_iff.mp hc'
    rw [← hget]
    exact List.set_getElem_self hk
  dsimp only
  rw [hthrows, hsame]
  exact ⟨rfl, by rw [answer_world, hset]⟩

theorem Fails.idle {hooks : StartHooks} {k : Nat} {m : SessionCall}
    {w : World} {r : Answered} {c : Session} {i : ProviderId}
    (h : Fails hooks k m w r c i) : CountsAsIdle k m.target i w :=
  { session := ⟨c, h.session, h.selection, h.disabled, h.proxy⟩
    counter := h.counter
    implCounter := h.implCounter }

private theorem Fails.started {hooks : StartHooks} {k : Nat} {m : SessionCall}
    {w : World} {r : Answered} {c : Session} {i : ProviderId}
    (h : Fails hooks k m w r c i) (hw : w.Reachable) :
    System.Started w.system r.world.system i m.target ∧ i ∈ w.system.order := by
  obtain ⟨hrouted, hreach⟩ := hw.system
  have hi : i ∈ w.system.order :=
    hrouted c (List.mem_of_getElem? h.session) m.target i h.selection
  rw [h.system_after]
  exact ⟨System.started_settleStartUpdates (System.inv_of_reachable hreach) hi
    (Int.le_of_eq h.counter.symm), hi⟩

/-- A failed start counts as a start. -/
theorem Fails.countsAsStarted {hooks : StartHooks} {k : Nat} {m : SessionCall}
    {w : World} {r : Answered} {c : Session} {i : ProviderId}
    (h : Fails hooks k m w r c i) (hw : w.Reachable) :
    CountsAsStarted k m.target i r.world := by
  obtain ⟨hstarted, hi⟩ := h.started hw
  obtain ⟨c', hc', hstatus, hsel, hproxy⟩ := h.session_after
  refine ⟨⟨c', hc', ?_, ?_, hproxy⟩, ?_, ?_, ?_⟩
  · rw [hsel]
    exact h.selection
  · rw [hstatus, Function.update_self]
  · rw [hstarted.counter i hi, if_pos ⟨rfl, rfl⟩, h.counter]
    rfl
  · rw [hstarted.implCounter, if_pos ⟨⟨rfl, rfl⟩, h.counter⟩, h.implCounter]
    rfl
  · rw [hstarted.state, if_pos ⟨rfl, h.counter⟩]

/-- The stop of a session whose start has failed. -/
theorem Fails.stop {hooks : StartHooks} {k : Nat} {m m' : SessionCall}
    {w : World} {r r' : Answered} {c : Session} {i : ProviderId}
    (h : Fails hooks k m w r c i) (hw : w.Reachable)
    (htarget : m'.target = m.target) (hrequested : m'.requested = .disabled)
    (hr : Handled hooks k m' r.world r') :
    (r'.world.system.provider i).impl.calls =
      .stop m.target :: .start m.target :: (w.system.provider i).impl.calls := by
  have hcounts := h.countsAsStarted hw
  obtain ⟨c', hc', hsel, hon, hproxy⟩ := hcounts.session
  have hne : c'.status m.target ≠ .disabled := by
    rw [hon]
    simp
  have hhook : (c'.controller.stopUpdates m.target).2 = true := by
    simp [Controller.stopUpdates, hproxy]
  obtain ⟨d, hd, rfl⟩ := Option.map_eq_some_iff.mp (handled_iff.mp hr)
  obtain rfl : c' = d := Option.some.inj (hc'.symm.trans hd)
  have hsystem : (c'.settleSetStatus m'.target m'.requested r.world.system).2 =
      r.world.system.settleStopUpdates i m.target := by
    unfold Session.settleSetStatus
    rw [htarget, hrequested, if_neg hne]
    dsimp only [Session.settleStop]
    rw [if_pos hhook, hsel]
  dsimp only
  rw [answer_world, hsystem, System.settleStopUpdates_impl hcounts.counter,
    h.system_after, System.settleStartUpdates_impl h.counter]
  exact Implementation.start_stop_calls h.implCounter

/-- A start that is answered with an error counts as a start on the session,
its proxy, the provider and the implementation, none of which was in use.  A
retry is answered as a success and changes nothing, and a stop then stops the
implementation whose start hook has thrown. -/
theorem failed_start_leaves_trace {hooks : StartHooks} {k : Nat}
    {m stop : SessionCall} {w : World} {r : Answered} {text : String}
    (hw : w.Reachable)
    (hm : (m = .startPositionUpdates ∧ stop = .stopPositionUpdates) ∨
      (m = .startVelocityUpdates ∧ stop = .stopVelocityUpdates))
    (h : Handled hooks k m w r)
    (herr : r.reply = some (.errorStartingUpdate text)) :
    ¬ LeavesNoTrace k m.stream w r.world ∧
    (∀ r', Handled hooks k m r.world r' →
      r'.reply = some .methodReturn ∧ r'.world = r.world) ∧
    ∃ i, hooks i m.stream = some .runtimeError ∧
      CountsAsIdle k m.stream i w ∧ CountsAsStarted k m.stream i r.world ∧
      ∀ r', Handled hooks k stop r.world r' →
        (r'.world.system.provider i).impl.calls = .stop m.stream ::
          .start m.stream :: (w.system.provider i).impl.calls := by
  have hmeth : m.target = m.stream ∧ stop.target = m.target ∧
      stop.requested = .disabled := by
    rcases hm with ⟨rfl, rfl⟩ | ⟨rfl, rfl⟩
    · exact ⟨rfl, rfl, rfl⟩
    · exact ⟨rfl, rfl, rfl⟩
  obtain ⟨htarget, hstop, hrequested⟩ := hmeth
  obtain ⟨c, i, hfails⟩ := fails_of_error h herr
  have hidle := hfails.idle
  have hstarted := hfails.countsAsStarted hw
  have hthrows := hfails.throws
  have hcalls := fun r' (hr : Handled hooks k stop r.world r') =>
    hfails.stop hw hstop hrequested hr
  rw [htarget] at hidle hstarted hthrows hcalls
  exact ⟨hidle.trace hstarted, fun r' hr => hfails.retry hr, i, hthrows, hidle,
    hstarted, hcalls⟩

/-- The start hook of the only provider throws. -/
def brokenHardware : StartHooks := fun _ _ => some .runtimeError

private theorem broken_start :
    ∃ w r, oneSession = some w ∧ w.Reachable ∧
      Handled brokenHardware 0 .startPositionUpdates w r ∧
      r.reply =
        some (.errorStartingUpdate "Could not enable position updates") := by
  have hrun : oneSession.isSome := by decide
  have hs := (Option.some_get hrun).symm
  have hc : (oneSession.get hrun).sessions[0]? =
      some (Session.init fun _ => some 0) := rfl
  obtain ⟨r, hr⟩ : ∃ r, Handled brokenHardware 0 .startPositionUpdates
      (oneSession.get hrun) r := exists_handled hc
  refine ⟨_, r, hs, World.reach_of_replay hs, hr, ?_⟩
  obtain ⟨c, hc', rfl⟩ := Option.map_eq_some_iff.mp (handled_iff.mp hr)
  obtain rfl := Option.some.inj (hc.symm.trans hc')
  rfl

/-- The first session asks a provider for positions that cannot start. -/
theorem failed_start_leaves_trace_first_session :
    ∃ w r, oneSession = some w ∧
      Handled brokenHardware 0 .startPositionUpdates w r ∧
      ¬ LeavesNoTrace 0 .position w r.world ∧
      (∀ r', Handled brokenHardware 0 .startPositionUpdates r.world r' →
        r'.reply = some .methodReturn ∧ r'.world = r.world) ∧
      ∃ i, brokenHardware i .position = some .runtimeError ∧
        CountsAsIdle 0 .position i w ∧ CountsAsStarted 0 .position i r.world ∧
        ∀ r', Handled brokenHardware 0 .stopPositionUpdates r.world r' →
          (r'.world.system.provider i).impl.calls = .stop .position ::
            .start .position :: (w.system.provider i).impl.calls := by
  obtain ⟨w, r, hs, hreach, hr, herr⟩ := broken_start
  exact ⟨w, r, hs, hr,
    failed_start_leaves_trace hreach (.inl ⟨rfl, rfl⟩) hr herr⟩

/-- The error leaves the stream counted everywhere and the provider active. -/
theorem broken_start_is_counted :
    ∃ w r, oneSession = some w ∧ w.Reachable ∧
      Handled brokenHardware 0 .startPositionUpdates w r ∧
      r.reply =
        some (.errorStartingUpdate "Could not enable position updates") ∧
      ∃ i, CountsAsIdle 0 .position i w ∧
        CountsAsStarted 0 .position i r.world ∧
        ¬ LeavesNoTrace 0 .position w r.world := by
  obtain ⟨w, r, hs, hreach, hr, herr⟩ := broken_start
  obtain ⟨c, i, hfails⟩ := fails_of_error hr herr
  have hidle := hfails.idle
  have hstarted := hfails.countsAsStarted hreach
  exact ⟨w, r, hs, hreach, hr, herr, i, hidle, hstarted, hidle.trace hstarted⟩

end LocationService
