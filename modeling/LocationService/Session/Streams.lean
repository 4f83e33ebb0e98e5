import LocationService.Session.Bus
import Mathlib.Data.List.Induction

/-!
# The three streams of a session on the bus

Each method of a session is named after one stream.  Five of the six handlers
assign the status of that stream; `on_start_heading_updates` assigns
`position_status`.  A session therefore follows the requests it gets, and
agrees with its stub, exactly as long as nobody asks for headings.
-/

namespace LocationService

open LocationService.Library

/-! ## Requests and statuses -/

/-- The status that the last request for the stream asked for. -/
def lastRequest (x : Stream) (ms : List SessionCall) : Option UpdatesStatus :=
  (ms.filter fun m => m.stream == x).getLast?.map SessionCall.requested

/-- What the handlers leave in the status properties of a session. -/
def statusAfter (ms : List SessionCall) (status : Stream → UpdatesStatus) :
    Stream → UpdatesStatus :=
  ms.foldl (fun status m => Function.update status m.target m.requested) status

theorem lastRequest_append (x : Stream) (ms : List SessionCall)
    (m : SessionCall) :
    lastRequest x (ms ++ [m]) =
      if m.stream = x then some m.requested else lastRequest x ms := by
  unfold lastRequest
  by_cases hx : m.stream = x
  · simp [hx]
  · simp [hx]

theorem statusAfter_append (ms : List SessionCall) (m : SessionCall)
    (status : Stream → UpdatesStatus) :
    statusAfter (ms ++ [m]) status =
      Function.update (statusAfter ms status) m.target m.requested := by
  simp [statusAfter]

/-- Only one handler is wired to another stream. -/
theorem target_of_ne {m : SessionCall} (h : m ≠ .startHeadingUpdates) :
    m.target = m.stream := by
  cases m with
  | startHeadingUpdates => exact absurd rfl h
  | _ => rfl

theorem eq_startHeading_of {m : SessionCall} (hstream : m.stream = .heading)
    (hrequested : m.requested = .enabled) : m = .startHeadingUpdates := by
  cases m with
  | startHeadingUpdates => rfl
  | stopHeadingUpdates => cases hrequested
  | _ => cases hstream

/-- No request for headings, so none was the last one. -/
theorem lastRequest_heading_ne {ms : List SessionCall}
    (h : .startHeadingUpdates ∉ ms) :
    lastRequest .heading ms ≠ some .enabled := by
  intro hlast
  obtain ⟨m, hm, hrequested⟩ := Option.map_eq_some_iff.mp hlast
  have hmem := List.mem_filter.mp (List.mem_of_getLast? hm)
  have hstart := eq_startHeading_of (beq_iff_eq.mp hmem.2) hrequested
  exact h (hstart ▸ hmem.1)

/-- Without requests for headings, every status is the one last asked for. -/
theorem statusAfter_enabled_iff (ms : List SessionCall)
    (h : .startHeadingUpdates ∉ ms) (x : Stream) :
    statusAfter ms (fun _ => .disabled) x = .enabled ↔
      lastRequest x ms = some .enabled := by
  induction ms using List.reverseRecOn with
  | nil => simp [statusAfter, lastRequest]
  | append_singleton ms m ih =>
      have hms : .startHeadingUpdates ∉ ms :=
        fun hmem => h (List.mem_append_left _ hmem)
      have hm : m ≠ .startHeadingUpdates := by
        rintro rfl
        exact h (List.mem_append_right _ (List.mem_singleton_self _))
      rw [statusAfter_append, lastRequest_append, target_of_ne hm]
      by_cases hx : m.stream = x
      · subst hx
        simp
      · rw [if_neg hx, Function.update_of_ne (Ne.symm hx)]
        exact ih hms

/-- After a request for headings that is the first, the status of headings is
not the one asked for. -/
theorem statusAfter_startHeading {ms : List SessionCall}
    (h : .startHeadingUpdates ∉ ms) :
    ¬ (statusAfter (ms ++ [.startHeadingUpdates]) (fun _ => .disabled) .heading
        = .enabled ↔
      lastRequest .heading (ms ++ [.startHeadingUpdates]) = some .enabled) := by
  intro hiff
  rw [statusAfter_append, lastRequest_append] at hiff
  have hstored := hiff.mpr rfl
  have hkept : statusAfter ms (fun _ => .disabled) .heading = .enabled := hstored
  exact lastRequest_heading_ne h ((statusAfter_enabled_iff ms h _).mp hkept)

/-! ## Handling requests -/

/-- The requests are handled one after the other. -/
inductive Serves (hooks : StartHooks) (k : Nat) :
    List SessionCall → World → World → Prop where
  | nil (w : World) : Serves hooks k [] w w
  | cons {m : SessionCall} {ms : List SessionCall} {w w' : World}
      {r : Answered} :
      Handled hooks k m w r → Serves hooks k ms r.world w' →
      Serves hooks k (m :: ms) w w'

theorem settleSetStatus_status (c : Session) (x : Stream)
    (v : UpdatesStatus) (s : System) :
    (c.settleSetStatus x v s).1.status = Function.update c.status x v := by
  unfold Session.settleSetStatus
  split
  · rename_i heq
    rw [← heq, Function.update_eq_self]
  · cases v <;> rfl

theorem answer_world (text : String) (r : Ended World) :
    (r.answer text).world = r.state := by
  unfold Ended.answer
  split <;> rfl

/-- A handler assigns one status of its session. -/
theorem handled_status {hooks : StartHooks} {k : Nat} {m : SessionCall}
    {w : World} {r : Answered} {c : Session} (hc : w.sessions[k]? = some c)
    (h : Handled hooks k m w r) :
    ∃ c', r.world.sessions[k]? = some c' ∧
      c'.status = Function.update c.status m.target m.requested := by
  have hset := handled_iff.mp h
  unfold settleHandle at hset
  rw [hc] at hset
  obtain rfl := Option.some.inj hset
  have hk : k < w.sessions.length := (List.getElem?_eq_some_iff.mp hc).1
  refine ⟨_, ?_, settleSetStatus_status c m.target m.requested w.system⟩
  rw [answer_world]
  exact List.getElem?_set_self hk

theorem exists_handled {hooks : StartHooks} {k : Nat} {m : SessionCall}
    {w : World} {c : Session} (hc : w.sessions[k]? = some c) :
    ∃ r, Handled hooks k m w r := by
  have hsome : (settleHandle hooks k m w).isSome := by
    unfold settleHandle
    rw [hc]
    rfl
  obtain ⟨r, hr⟩ := Option.isSome_iff_exists.mp hsome
  exact ⟨r, handled_iff.mpr hr⟩

/-- The handlers of a run leave what `statusAfter` says. -/
theorem serves_status {hooks : StartHooks} {k : Nat} {ms : List SessionCall}
    {w w' : World} (h : Serves hooks k ms w w') {c : Session}
    (hc : w.sessions[k]? = some c) :
    ∃ c', w'.sessions[k]? = some c' ∧ c'.status = statusAfter ms c.status := by
  induction h generalizing c with
  | nil w => exact ⟨c, hc, rfl⟩
  | cons hm _ ih =>
      obtain ⟨c₁, hc₁, hstatus₁⟩ := handled_status hc hm
      obtain ⟨c', hc', hstatus⟩ := ih hc₁
      refine ⟨c', hc', ?_⟩
      rw [hstatus, hstatus₁]
      rfl

theorem exists_serves {hooks : StartHooks} {k : Nat} (ms : List SessionCall)
    {w : World} {c : Session} (hc : w.sessions[k]? = some c) :
    ∃ w', Serves hooks k ms w w' := by
  induction ms generalizing w c with
  | nil => exact ⟨w, .nil w⟩
  | cons m ms ih =>
      obtain ⟨r, hr⟩ : ∃ r, Handled hooks k m w r := exists_handled hc
      obtain ⟨c', hc', -⟩ := handled_status hc hr
      obtain ⟨w', hw'⟩ := ih hc'
      exact ⟨w', .cons hr hw'⟩

/-- The statuses of session `k` are those last asked for. -/
def Follows (k : Nat) (ms : List SessionCall) (w : World) : Prop :=
  ∃ c, w.sessions[k]? = some c ∧
    ∀ x, c.status x = .enabled ↔ lastRequest x ms = some .enabled

/-- While `ms` is handled, by providers that do not throw, session `k` follows
its requests, and no request changes the status of another stream. -/
structure RequestsIndependent (k : Nat) (ms : List SessionCall) (w : World) :
    Prop where
  served : ∀ n, ∃ w', Serves .sound k (ms.take n) w w'
  follows : ∀ n w', Serves .sound k (ms.take n) w w' →
    Follows k (ms.take n) w'
  untouched : ∀ n m, ms[n]? = some m → ∀ w' r, Serves .sound k (ms.take n) w w' →
    Handled .sound k m w' r → ∀ c c', w'.sessions[k]? = some c →
      r.world.sessions[k]? = some c' → ∀ x, x ≠ m.stream →
        c'.status x = c.status x

private theorem follows_iff {k : Nat} {ms : List SessionCall} {w w' : World}
    {c : Session} (hc : w.sessions[k]? = some c)
    (hfresh : c.status = fun _ => .disabled) (h : Serves .sound k ms w w') :
    Follows k ms w' ↔ ∀ x, statusAfter ms (fun _ => .disabled) x = .enabled ↔
      lastRequest x ms = some .enabled := by
  obtain ⟨c', hc', hstatus⟩ := serves_status h hc
  rw [hfresh] at hstatus
  rw [← hstatus]
  constructor
  · rintro ⟨c'', hc'', hfollow⟩
    obtain rfl : c' = c'' := Option.some.inj (hc'.symm.trans hc'')
    exact hfollow
  · intro hfollow
    exact ⟨c', hc', hfollow⟩

/-- Requests to a new session are independent of each other when none of them
is for headings, and only then. -/
theorem requestsIndependent_iff {k : Nat} {w : World} {c : Session}
    (hc : w.sessions[k]? = some c) (hfresh : c.status = fun _ => .disabled)
    (ms : List SessionCall) :
    RequestsIndependent k ms w ↔ .startHeadingUpdates ∉ ms := by
  constructor
  · intro h hmem
    obtain ⟨pre, post, rfl, hpre⟩ := List.eq_append_cons_of_mem hmem
    have htake : (pre ++ .startHeadingUpdates :: post).take (pre.length + 1) =
        pre ++ [.startHeadingUpdates] := by
      rw [List.take_length_add_append]
      rfl
    obtain ⟨w', hw'⟩ := h.served (pre.length + 1)
    have hfollow := h.follows _ w' hw'
    rw [htake] at hw' hfollow
    exact statusAfter_startHeading hpre
      ((follows_iff hc hfresh hw').mp hfollow .heading)
  · intro h
    refine ⟨fun n => exists_serves _ hc, ?_, ?_⟩
    · intro n w' hw'
      refine (follows_iff hc hfresh hw').mpr fun x => ?_
      exact statusAfter_enabled_iff _ (fun hm => h (List.mem_of_mem_take hm)) x
    · intro n m hm w' r _ hr c c' hc hc' x hx
      obtain ⟨c'', hc'', hstatus⟩ := handled_status hc hr
      obtain rfl : c'' = c' := Option.some.inj (hc''.symm.trans hc')
      have hne : m ≠ .startHeadingUpdates := by
        rintro rfl
        exact h (List.mem_of_getElem? hm)
      rw [hstatus, target_of_ne hne, Function.update_of_ne hx]

/-! ## The stub -/

/-- An assignment to a status property of the stub of session `k`, which ends
in `r`. -/
def Link.Sets (hooks : StartHooks) (k : Nat) (x : Stream) (v : UpdatesStatus)
    (l : Link) (r : Ended Link) : Prop :=
  ∃ n, l.setStatus (System.network.assign n) hooks k x v = some r

theorem Link.sets_iff {hooks : StartHooks} {k : Nat} {x : Stream}
    {v : UpdatesStatus} {l : Link} {r : Ended Link} :
    l.Sets hooks k x v r ↔
      (l.status x = v ∧ r = ⟨l, none⟩) ∨
      (l.status x ≠ v ∧ ∃ a, Handled hooks k (stubCall x v) l.world a ∧
        r = ⟨⟨Function.update l.status x v, a.world⟩, stubThrows v a.reply⟩) := by
  unfold Link.Sets Link.setStatus Handled
  by_cases heq : l.status x = v
  · simp [heq, eq_comm]
  · simp only [heq, if_false, false_and, false_or, Option.map_eq_some_iff,
      ne_eq, not_false_eq_true, true_and]
    constructor
    · rintro ⟨n, a, ha, rfl⟩
      exact ⟨a, ⟨n, ha⟩, rfl⟩
    · rintro ⟨a, ⟨n, ha⟩, rfl⟩
      exact ⟨n, a, ha, rfl⟩

/-- Assignments to the status properties of a stub, one after the other. -/
inductive Link.Runs (hooks : StartHooks) (k : Nat) :
    List (Stream × UpdatesStatus) → Link → Link → Prop where
  | nil (l : Link) : Link.Runs hooks k [] l l
  | cons {x : Stream} {v : UpdatesStatus} {as : List (Stream × UpdatesStatus)}
      {l l' : Link} {r : Ended Link} :
      l.Sets hooks k x v r → Link.Runs hooks k as r.state l' →
      Link.Runs hooks k ((x, v) :: as) l l'

/-- The stub and session `k` have the same statuses. -/
def Link.Agrees (k : Nat) (l : Link) : Prop :=
  ∃ c, l.world.sessions[k]? = some c ∧ c.status = l.status

/-- While the statuses of the stub are assigned, over providers that do not
throw, the session agrees with them. -/
structure StubAgrees (k : Nat) (as : List (Stream × UpdatesStatus))
    (l : Link) : Prop where
  served : ∀ n, ∃ l', Link.Runs .sound k (as.take n) l l'
  agrees : ∀ n l', Link.Runs .sound k (as.take n) l l' → l'.Agrees k

theorem stubCall_stream (x : Stream) (v : UpdatesStatus) :
    (stubCall x v).stream = x ∧ (stubCall x v).requested = v := by
  cases x <;> cases v <;> exact ⟨rfl, rfl⟩

/-- The session takes over any assignment but the one that asks for
headings. -/
theorem Link.Agrees.sets {hooks : StartHooks} {k : Nat} {x : Stream}
    {v : UpdatesStatus} {l : Link} {r : Ended Link} (h : l.Agrees k)
    (hne : (x, v) ≠ (.heading, .enabled)) (hset : l.Sets hooks k x v r) :
    r.state.Agrees k := by
  rcases Link.sets_iff.mp hset with ⟨-, rfl⟩ | ⟨-, a, ha, rfl⟩
  · exact h
  · obtain ⟨c, hc, hstatus⟩ := h
    obtain ⟨c', hc', hstatus'⟩ := handled_status hc ha
    obtain ⟨hstream, hrequested⟩ := stubCall_stream x v
    have hcall : stubCall x v ≠ .startHeadingUpdates := by
      intro heq
      rw [heq] at hstream hrequested
      exact hne (by rw [← hstream, ← hrequested]; rfl)
    refine ⟨c', hc', ?_⟩
    rw [hstatus', target_of_ne hcall, hstream, hrequested, hstatus]

/-- The request for headings goes to another status. -/
theorem not_agrees_of_sets_heading {hooks : StartHooks} {k : Nat} {l : Link}
    {r : Ended Link} (h : l.Agrees k) (hoff : l.status .heading = .disabled)
    (hset : l.Sets hooks k .heading .enabled r) : ¬ r.state.Agrees k := by
  rcases Link.sets_iff.mp hset with ⟨hon, -⟩ | ⟨-, a, ha, rfl⟩
  · rw [hoff] at hon
    cases hon
  · obtain ⟨c, hc, hstatus⟩ := h
    obtain ⟨c', hc', hstatus'⟩ := handled_status hc ha
    rintro ⟨c'', hc'', hagree⟩
    obtain rfl : c' = c'' := Option.some.inj (hc'.symm.trans hc'')
    have hserver : c'.status .heading = .disabled := by
      rw [hstatus', ← hoff, ← hstatus]
      rfl
    have hstub : c'.status .heading = .enabled := by
      rw [hagree]
      rfl
    rw [hserver] at hstub
    cases hstub

private theorem Link.sets_status {hooks : StartHooks} {k : Nat} {x : Stream}
    {v : UpdatesStatus} {l : Link} {r : Ended Link}
    (h : l.Sets hooks k x v r) :
    r.state.status = Function.update l.status x v := by
  rcases Link.sets_iff.mp h with ⟨heq, rfl⟩ | ⟨-, a, -, rfl⟩
  · rw [← heq, Function.update_eq_self]
  · rfl

/-- A run without requests for headings keeps the two sides together, with
headings disabled. -/
theorem Link.Agrees.runs {hooks : StartHooks} {k : Nat}
    {as : List (Stream × UpdatesStatus)} {l l' : Link}
    (hrun : Link.Runs hooks k as l l') (h : l.Agrees k)
    (hoff : l.status .heading = .disabled)
    (hnone : (.heading, .enabled) ∉ as) :
    l'.Agrees k ∧ l'.status .heading = .disabled := by
  induction hrun with
  | nil l => exact ⟨h, hoff⟩
  | @cons x v as l l' r hset _ ih =>
      have hne : (x, v) ≠ (.heading, .enabled) :=
        fun heq => hnone (heq ▸ List.mem_cons_self ..)
      refine ih (h.sets hne hset) ?_ fun hm => hnone (List.mem_cons_of_mem _ hm)
      rw [Link.sets_status hset]
      by_cases hx : x = .heading
      · subst hx
        rw [Function.update_self]
        cases v with
        | enabled => exact absurd rfl hne
        | disabled => rfl
      · rw [Function.update_of_ne (Ne.symm hx)]
        exact hoff

theorem Link.runs_append {hooks : StartHooks} {k : Nat}
    {as bs : List (Stream × UpdatesStatus)} {l l'' : Link}
    (h : Link.Runs hooks k (as ++ bs) l l'') :
    ∃ l', Link.Runs hooks k as l l' ∧ Link.Runs hooks k bs l' l'' := by
  induction as generalizing l with
  | nil => exact ⟨l, .nil l, h⟩
  | cons a as ih =>
      cases h with
      | cons hset hrest =>
          obtain ⟨l', hl', hbs⟩ := ih hrest
          exact ⟨l', .cons hset hl', hbs⟩

private theorem exists_runs {hooks : StartHooks} {k : Nat}
    (as : List (Stream × UpdatesStatus)) {l : Link} {c : Session}
    (hc : l.world.sessions[k]? = some c) :
    ∃ l', Link.Runs hooks k as l l' := by
  induction as generalizing l c with
  | nil => exact ⟨l, .nil l⟩
  | cons a as ih =>
      obtain ⟨x, v⟩ := a
      by_cases heq : l.status x = v
      · obtain ⟨l', hl'⟩ := ih hc
        exact ⟨l', .cons (Link.sets_iff.mpr (.inl ⟨heq, rfl⟩)) hl'⟩
      · obtain ⟨r, hr⟩ : ∃ r, Handled hooks k (stubCall x v) l.world r :=
          exists_handled hc
        obtain ⟨c', hc', -⟩ := handled_status hc hr
        obtain ⟨l', hl'⟩ := ih (l := ⟨Function.update l.status x v, r.world⟩) hc'
        exact ⟨l', .cons (Link.sets_iff.mpr (.inr ⟨heq, r, hr, rfl⟩)) hl'⟩

/-- A new stub and its session stay together when the stub never asks for
headings, and only then. -/
theorem stubAgrees_iff {k : Nat} {w : World} {c : Session}
    (hc : w.sessions[k]? = some c) (hfresh : c.status = fun _ => .disabled)
    (as : List (Stream × UpdatesStatus)) :
    StubAgrees k as ⟨fun _ => .disabled, w⟩ ↔ (.heading, .enabled) ∉ as := by
  have hstart : Link.Agrees k ⟨fun _ => .disabled, w⟩ := ⟨c, hc, hfresh⟩
  constructor
  · intro h hmem
    obtain ⟨pre, post, rfl, hpre⟩ := List.eq_append_cons_of_mem hmem
    have htake : (pre ++ (.heading, .enabled) :: post).take (pre.length + 1) =
        pre ++ [(Stream.heading, UpdatesStatus.enabled)] := by
      rw [List.take_length_add_append]
      rfl
    obtain ⟨l', hl'⟩ := h.served (pre.length + 1)
    have hagree := h.agrees _ l' hl'
    rw [htake] at hl'
    obtain ⟨m, hm, hlast⟩ := Link.runs_append hl'
    obtain ⟨hboth, hoff⟩ := Link.Agrees.runs hm hstart rfl hpre
    cases hlast with
    | cons hset hnil =>
        cases hnil
        exact not_agrees_of_sets_heading hboth hoff hset hagree
  · intro h
    refine ⟨fun n => exists_runs _ hc, fun n l' hl' => ?_⟩
    have hnone : (Stream.heading, UpdatesStatus.enabled) ∉ as.take n :=
      fun hm => h (List.mem_of_mem_take hm)
    exact (Link.Agrees.runs hl' hstart rfl hnone).1

/-- The streams of a new session are independent of each other, and client and
service agree on them, as long as nobody asks for headings. -/
theorem streams_independent_iff {k : Nat} {w : World} {c : Session}
    (hc : w.sessions[k]? = some c) (hfresh : c.status = fun _ => .disabled) :
    (∀ ms, RequestsIndependent k ms w ↔ .startHeadingUpdates ∉ ms) ∧
    ∀ as, StubAgrees k as ⟨fun _ => .disabled, w⟩ ↔
      (.heading, .enabled) ∉ as :=
  ⟨requestsIndependent_iff hc hfresh, stubAgrees_iff hc hfresh⟩

/-- An engine with one provider, and a session that uses it for all
streams. -/
def oneSession : Option World :=
  Machine.replay World.settleExec (fun _ _ => True)
    [.engine .constructService, .engine (.addProvider 0 false),
      .createSession fun _ => some 0] ⟨System.initEngine .on, []⟩

/-- The first session of an engine with one provider. -/
theorem streams_independent_first_session :
    ∃ w, oneSession = some w ∧
      (∀ ms, RequestsIndependent 0 ms w ↔ .startHeadingUpdates ∉ ms) ∧
      ∀ as, StubAgrees 0 as ⟨fun _ => .disabled, w⟩ ↔
        (.heading, .enabled) ∉ as := by
  have hrun : oneSession.isSome := by decide
  have hs := (Option.some_get hrun).symm
  have hc : (oneSession.get hrun).sessions[0]? =
      some (Session.init fun _ => some 0) := rfl
  exact ⟨_, hs, streams_independent_iff hc rfl⟩

/-- A request for headings enables positions, also in the middle of what the
Qt plugin starts. -/
theorem start_heading_enables_position :
    ∃ w, oneSession = some w ∧
      (∃ r c, Handled .sound 0 .startHeadingUpdates w r ∧
        r.world.sessions[0]? = some c ∧ c.status .position = .enabled ∧
        c.status .heading = .disabled) ∧
      ¬ RequestsIndependent 0 [.startHeadingUpdates] w ∧
      ¬ StubAgrees 0 qtStartUpdates ⟨fun _ => .disabled, w⟩ := by
  have hrun : oneSession.isSome := by decide
  have hs := (Option.some_get hrun).symm
  have hc : (oneSession.get hrun).sessions[0]? =
      some (Session.init fun _ => some 0) := rfl
  refine ⟨_, hs, ?_, ?_, ?_⟩
  · obtain ⟨r, hr⟩ : ∃ r, Handled .sound 0 .startHeadingUpdates
        (oneSession.get hrun) r := exists_handled hc
    obtain ⟨c, hc', hstatus⟩ := handled_status hc hr
    exact ⟨r, c, hr, hc', by rw [hstatus]; rfl, by rw [hstatus]; rfl⟩
  · intro h
    exact (requestsIndependent_iff hc rfl _).mp h (by decide)
  · intro h
    exact (stubAgrees_iff hc rfl _).mp h (by decide)

end LocationService
