import LocationService.Library.Machine
import LocationService.Session.Bus

/-!
# The position source of the Qt plugin

`core::GeoPositionInfoSource` offers an application continuous updates and
single requests over one session of the location service.  It enables and
disables the three streams of the session together, has a timer for the request
and suspends itself while the application is inactive.

Both kinds of updates share `startUpdates` and `stopUpdates`, and `m_state` has
a value `one_shot` for the requests that nothing ever assigns.  So a request
looks like continuous updates to everything that follows it.  The main result
says which events do no harm then, over all sequences of calls, updates, timer
expirations and changes of the application.
-/

namespace LocationService

/-- `QTimer`; this one is a single shot timer. -/
structure QTimer where
  isActive : Bool
  interval : Int
  deriving DecidableEq, Repr

/-- `QTimer::stop` -/
def QTimer.stop (t : QTimer) : QTimer := { t with isActive := false }

/-- `QTimer::start` -/
def QTimer.start (_ : QTimer) (msec : Int) : QTimer := ⟨true, msec⟩

/-- `Qt::ApplicationState` -/
inductive ApplicationState where
  | suspended
  | hidden
  | inactive
  | active
  deriving DecidableEq, Repr

/-- The values of `QGeoPositionInfoSource::Error` that occur. -/
inductive PositionSourceError where
  | noError
  | accessError
  deriving DecidableEq, Repr

/-- `GeoPositionInfoSource::State` -/
inductive PositionSourceState where
  | stopped
  | running
  | oneShot
  | suspended
  deriving DecidableEq, Repr

/-- `core::GeoPositionInfoSource` -/
structure GeoPositionInfoSource where
  applicationActive : Bool
  lastReqTimeout : Int
  state : PositionSourceState
  /-- The status properties of the session, if there is one. -/
  session : Option (Stream → UpdatesStatus)
  timer : QTimer
  error : PositionSourceError

namespace GeoPositionInfoSource

/-- The constructor. -/
def init : GeoPositionInfoSource where
  applicationActive := true
  lastReqTimeout := -1
  state := .stopped
  session := none
  timer := ⟨false, 0⟩
  error := .noError

/-- If an application requests an individual position update with a timeout
value of 0, we bump the timeout to the default value of 10 seconds. -/
def defaultTimeoutInMs : Int := 10 * 1000

/-- `createLocationServiceSession`, with a service that creates the session. -/
def createLocationServiceSession (s : GeoPositionInfoSource) :
    GeoPositionInfoSource :=
  { s with session := some fun _ => .disabled, error := .noError }

/-- Assignments to the status properties of the session. -/
def setStatuses (assignments : List (Stream × UpdatesStatus))
    (s : GeoPositionInfoSource) : GeoPositionInfoSource :=
  { s with
    session := s.session.map fun status =>
      assignments.foldl (fun status a => Function.update status a.1 a.2)
        status }

/-- `startUpdates` -/
def startUpdates (s : GeoPositionInfoSource) : GeoPositionInfoSource :=
  let s := if s.session.isNone then s.createLocationServiceSession else s
  if s.error ≠ .noError then s
  else
    let s := s.setStatuses qtStartUpdates
    if s.state ≠ .oneShot then { s with state := .running } else s

/-- `stopUpdates` -/
def stopUpdates (s : GeoPositionInfoSource) : GeoPositionInfoSource :=
  if s.error ≠ .noError ∨ s.session.isNone then s
  else { s.setStatuses qtStopUpdates with state := .stopped }

/-- `requestUpdate` -/
def requestUpdate (timeout : Int) (s : GeoPositionInfoSource) :
    GeoPositionInfoSource :=
  if s.error ≠ .noError then s
  else if s.timer.isActive then s
  else
    -- Bump the timeout if caller indicates "choose default value".
    let timeout := if timeout ≤ 0 then defaultTimeoutInMs else timeout
    let s := s.startUpdates
    { s with timer := s.timer.start timeout }

/-- `timeout`, the slot of the timer. -/
def timeout (s : GeoPositionInfoSource) : GeoPositionInfoSource :=
  s.stopUpdates

/-- `Private::handlePositionUpdate`, behind the signal that it queues. -/
def handlePositionUpdate (s : GeoPositionInfoSource) : GeoPositionInfoSource :=
  let s := if s.timer.isActive then { s with timer := s.timer.stop } else s
  if s.state = .oneShot then s.stopUpdates else s

/-- `applicationStateChanged` -/
def applicationStateChanged (applicationState : ApplicationState)
    (s : GeoPositionInfoSource) : GeoPositionInfoSource :=
  if applicationState = .inactive then
    if s.applicationActive then
      let state := s.state
      let s := { s.stopUpdates with applicationActive := false }
      if state = .oneShot then
        -- Save current time out
        if s.timer.isActive then
          { s with lastReqTimeout := s.timer.interval, timer := s.timer.stop }
        else s
      else if state = .running then
        -- Stop continuous updates and suspend
        { s with state := .suspended }
      else s
    else s
  else if applicationState = .active then
    if !s.applicationActive then
      let s := { s with applicationActive := true }
      -- Only restart updates if active before suspending
      if s.lastReqTimeout > -1 then
        { s.requestUpdate s.lastReqTimeout with lastReqTimeout := -1 }
      else if s.state = .suspended then
        -- Restart continuous updates
        s.startUpdates
      else s
    else s
  else s

/-- The stream of the session is enabled. -/
def isEnabled (s : GeoPositionInfoSource) (x : Stream) : Bool :=
  s.session.any fun status => status x = .enabled

/-! ## What the events leave in place -/

/-- What holds of a source between two events: no state but `stopped`,
`running` and `suspended` occurs, and the streams are enabled in the second. -/
structure Inv (s : GeoPositionInfoSource) : Prop where
  error : s.error = .noError
  state : s.state ≠ .oneShot
  lastReqTimeout : s.lastReqTimeout = -1
  session : s.session = none ∧ s.state = .stopped ∨
    s.session = some fun _ =>
      if s.state = .running then .enabled else .disabled
  timer : s.timer.isActive = true → s.session ≠ none
  suspended : s.applicationActive = true → s.state ≠ .suspended

theorem Inv.init : GeoPositionInfoSource.init.Inv where
  error := rfl
  state := by decide
  lastReqTimeout := rfl
  session := .inl ⟨rfl, rfl⟩
  timer := by decide
  suspended := by decide

variable {s : GeoPositionInfoSource}

theorem foldl_qtStartUpdates (status : Stream → UpdatesStatus) :
    qtStartUpdates.foldl (fun status a => Function.update status a.1 a.2)
      status = fun _ => .enabled := by
  funext x
  cases x <;> rfl

theorem foldl_qtStopUpdates (status : Stream → UpdatesStatus) :
    qtStopUpdates.foldl (fun status a => Function.update status a.1 a.2)
      status = fun _ => .disabled := by
  funext x
  cases x <;> rfl

/-- A start enables all streams, over a new session if need be. -/
theorem startUpdates_eq (herror : s.error = .noError)
    (hstate : s.state ≠ .oneShot) :
    s.startUpdates =
      { s with session := some fun _ => .enabled, state := .running } := by
  unfold startUpdates
  cases hsession : s.session with
  | none =>
      simp [createLocationServiceSession, setStatuses, hstate, herror,
        foldl_qtStartUpdates]
  | some status =>
      simp [setStatuses, hsession, hstate, herror, foldl_qtStartUpdates]

/-- A stop disables all streams of the session. -/
theorem Inv.stopUpdates_eq (h : s.Inv) :
    s.stopUpdates =
      { s with
        session := s.session.map fun _ _ => .disabled
        state := .stopped } := by
  have herror := h.error
  unfold stopUpdates
  rcases h.session with ⟨hnone, hstopped⟩ | hsome
  · rw [if_pos (.inr (by simp [hnone]))]
    obtain ⟨applicationActive, lastReqTimeout, state, session, timer, error⟩ := s
    simp only at hnone hstopped
    rw [hnone, hstopped]
    rfl
  · rw [if_neg (by simp [herror, hsome])]
    simp [setStatuses, hsome, foldl_qtStopUpdates]

/-- Everything else may be as it is while the source runs with its streams
enabled. -/
theorem Inv.running (h : s.Inv) (applicationActive : Bool) (timer : QTimer) :
    Inv { s with
      applicationActive := applicationActive
      session := some fun _ => .enabled
      state := .running
      timer := timer } where
  error := h.error
  state := by simp
  lastReqTimeout := h.lastReqTimeout
  session := .inr rfl
  timer := by simp
  suspended := by simp

theorem Inv.startUpdates (h : s.Inv) : s.startUpdates.Inv := by
  rw [startUpdates_eq h.error h.state]
  exact h.running s.applicationActive s.timer

theorem Inv.stopUpdates (h : s.Inv) : s.stopUpdates.Inv := by
  rw [h.stopUpdates_eq]
  refine {
    error := h.error
    state := by simp
    lastReqTimeout := h.lastReqTimeout
    session := ?_
    timer := ?_
    suspended := by simp }
  · rcases h.session with ⟨hnone, -⟩ | hsome
    · exact .inl ⟨by simp [hnone], rfl⟩
    · exact .inr (by simp [hsome])
  · intro hactive
    simpa using h.timer hactive

/-- Stopping the timer leaves everything else in place. -/
theorem Inv.stopTimer (h : s.Inv) : Inv { s with timer := s.timer.stop } where
  error := h.error
  state := h.state
  lastReqTimeout := h.lastReqTimeout
  session := h.session
  timer := by
    intro hactive
    cases hactive
  suspended := h.suspended

theorem Inv.requestUpdate (h : s.Inv) (timeout : Int) :
    (s.requestUpdate timeout).Inv := by
  unfold GeoPositionInfoSource.requestUpdate
  rw [if_neg (by simp [h.error])]
  split
  · exact h
  · rw [startUpdates_eq h.error h.state]
    exact h.running s.applicationActive _

/-- Without a `one_shot` state a position only stops the timer. -/
theorem Inv.handlePositionUpdate_eq (h : s.Inv) :
    s.handlePositionUpdate = { s with timer := s.timer.stop } := by
  unfold handlePositionUpdate
  have hstop : (if s.timer.isActive then { s with timer := s.timer.stop }
      else s) = { s with timer := s.timer.stop } := by
    split
    · rfl
    · rename_i hactive
      rw [Bool.not_eq_true] at hactive
      unfold QTimer.stop
      rw [← hactive]
  rw [hstop]
  exact if_neg h.state

/-- The source is suspended when the application becomes inactive. -/
theorem Inv.deactivate_eq (h : s.Inv) :
    s.applicationStateChanged .inactive =
      if s.applicationActive then
        { s.stopUpdates with
          applicationActive := false
          state := if s.state = .running then .suspended else .stopped }
      else s := by
  unfold applicationStateChanged
  rw [if_pos rfl]
  by_cases hactive : s.applicationActive = true
  · rw [if_pos hactive, if_pos hactive, if_neg h.state]
    by_cases hrunning : s.state = .running
    · rw [if_pos hrunning, if_pos hrunning]
    · rw [if_neg hrunning, if_neg hrunning, h.stopUpdates_eq]
  · rw [if_neg hactive, if_neg hactive]

/-- The source takes up where it was suspended. -/
theorem Inv.activate_eq (h : s.Inv) :
    s.applicationStateChanged .active =
      if s.state = .suspended then
        { s with
          applicationActive := true
          session := some fun _ => .enabled
          state := .running }
      else { s with applicationActive := true } := by
  have htimeout : ¬ s.lastReqTimeout > -1 := by
    rw [h.lastReqTimeout]
    decide
  unfold applicationStateChanged
  rw [if_neg (by decide), if_pos rfl]
  cases hactive : s.applicationActive with
  | false =>
      rw [if_pos (by rfl)]
      simp only [htimeout, if_false]
      by_cases hsuspended : s.state = .suspended
      · rw [if_pos hsuspended, if_pos hsuspended]
        exact startUpdates_eq h.error h.state
      · rw [if_neg hsuspended, if_neg hsuspended]
  | true =>
      have hsame : s = { s with applicationActive := true } := by
        rw [← hactive]
      rw [if_neg (by decide), if_neg (h.suspended hactive)]
      exact hsame

theorem Inv.deactivate (h : s.Inv) :
    (s.applicationStateChanged .inactive).Inv := by
  rw [h.deactivate_eq]
  split
  · rw [h.stopUpdates_eq]
    refine {
      error := h.error
      state := by split <;> simp
      lastReqTimeout := h.lastReqTimeout
      session := ?_
      timer := ?_
      suspended := by simp }
    · rcases h.session with ⟨hnone, hstopped⟩ | hsome
      · exact .inl ⟨by simp [hnone], by simp [hstopped]⟩
      · right
        by_cases hrunning : s.state = .running <;> simp [hsome, hrunning]
    · intro hactive
      simpa using h.timer hactive
  · exact h

theorem Inv.activate (h : s.Inv) :
    (s.applicationStateChanged .active).Inv := by
  rw [h.activate_eq]
  split
  · exact h.running true s.timer
  · rename_i hsuspended
    exact {
      error := h.error
      state := h.state
      lastReqTimeout := h.lastReqTimeout
      session := h.session
      timer := h.timer
      suspended := fun _ => hsuspended }

theorem Inv.applicationStateChanged (h : s.Inv) (v : ApplicationState) :
    (s.applicationStateChanged v).Inv := by
  cases v with
  | suspended => exact h
  | hidden => exact h
  | inactive => exact h.deactivate
  | active => exact h.activate

/-- The source delivers updates, or will do so when the application is active
again. -/
def Wants (s : GeoPositionInfoSource) : Prop :=
  s.state = .running ∨ s.state = .suspended

instance (s : GeoPositionInfoSource) : Decidable s.Wants :=
  inferInstanceAs (Decidable (_ ∨ _))

theorem Inv.wants_startUpdates (h : s.Inv) : s.startUpdates.Wants := by
  rw [startUpdates_eq h.error h.state]
  exact .inl rfl

theorem Inv.not_wants_stopUpdates (h : s.Inv) : ¬ s.stopUpdates.Wants := by
  rw [h.stopUpdates_eq]
  simp [Wants]

theorem Inv.wants_requestUpdate_iff (h : s.Inv) (timeout : Int) :
    (s.requestUpdate timeout).Wants ↔
      (s.timer.isActive = true → s.Wants) := by
  unfold GeoPositionInfoSource.requestUpdate
  rw [if_neg (by simp [h.error])]
  cases hactive : s.timer.isActive with
  | true => simp
  | false =>
      rw [startUpdates_eq h.error h.state]
      simp [Wants]

theorem Inv.wants_applicationStateChanged_iff (h : s.Inv)
    (v : ApplicationState) : (s.applicationStateChanged v).Wants ↔ s.Wants := by
  cases v with
  | suspended => exact Iff.rfl
  | hidden => exact Iff.rfl
  | inactive =>
      rw [h.deactivate_eq]
      cases hactive : s.applicationActive with
      | false => exact Iff.rfl
      | true =>
          have hsuspended := h.suspended hactive
          by_cases hrunning : s.state = .running <;>
            simp [Wants, hrunning, hsuspended]
  | active =>
      rw [h.activate_eq]
      by_cases hsuspended : s.state = .suspended <;> simp [Wants, hsuspended]

/-- While the application is active the streams are enabled exactly if the
source delivers updates. -/
theorem Inv.isEnabled_iff (h : s.Inv) (hactive : s.applicationActive = true)
    (x : Stream) : s.isEnabled x = true ↔ s.Wants := by
  have hsuspended := h.suspended hactive
  unfold isEnabled Wants
  rcases h.session with ⟨hnone, hstopped⟩ | hsome
  · simp [hnone, hstopped]
  · by_cases hrunning : s.state = .running <;>
      simp [hsome, hrunning, hsuspended]

end GeoPositionInfoSource

/-! ## Runs -/

/-- What happens to a position source. -/
inductive PositionSourceEvent where
  | startUpdates
  | stopUpdates
  | requestUpdate (timeout : Int)
  /-- The timer of a request expires. -/
  | timerExpired
  /-- The session has a new position, heading or velocity. -/
  | updated (x : Stream)
  /-- A queued `positionUpdated` is delivered. -/
  | positionUpdated
  | applicationStateChanged (v : ApplicationState)
  deriving DecidableEq, Repr

/-- A position source with the `positionUpdated` signals that are queued, and
with what the application has asked for. -/
structure PositionSourceRun where
  source : GeoPositionInfoSource
  queued : Nat
  /-- Continuous updates were started and not stopped since. -/
  continuous : Bool
  /-- There was no position, timeout or stop since the last request. -/
  pending : Bool

namespace PositionSourceRun

open GeoPositionInfoSource

def init : PositionSourceRun := ⟨.init, 0, false, false⟩

/-- The timer expires, if it is active. -/
def expire (r : PositionSourceRun) : PositionSourceRun :=
  if r.source.timer.isActive then
    { r with
      source := { r.source with timer := r.source.timer.stop }.timeout
      pending := false }
  else r

/-- The session has a new value for a stream, if there is a session. -/
def receive (x : Stream) (r : PositionSourceRun) : PositionSourceRun :=
  if r.source.session.isNone then r
  else
    match x with
    | .position =>
        { r with
          source := r.source.handlePositionUpdate
          queued := r.queued + 1
          pending := false }
    | .heading | .velocity => { r with queued := r.queued + 1 }

/-- A queued signal reaches the timer, if there is one. -/
def deliver (r : PositionSourceRun) : PositionSourceRun :=
  if r.queued = 0 then r
  else
    { r with
      source := { r.source with timer := r.source.timer.stop }
      queued := r.queued - 1 }

/-- What an event does. -/
def next (e : PositionSourceEvent) (r : PositionSourceRun) :
    PositionSourceRun :=
  match e with
  | .startUpdates =>
      { r with source := r.source.startUpdates, continuous := true }
  | .stopUpdates =>
      { r with
        source := r.source.stopUpdates
        continuous := false
        pending := false }
  | .requestUpdate timeout =>
      { r with source := r.source.requestUpdate timeout, pending := true }
  | .timerExpired => r.expire
  | .updated x => r.receive x
  | .positionUpdated => r.deliver
  | .applicationStateChanged v =>
      { r with source := r.source.applicationStateChanged v }

abbrev Reachable (guard : PositionSourceEvent → PositionSourceRun → Prop)
    (r : PositionSourceRun) : Prop :=
  (Library.Machine.ofStep init next).Reach guard r

/-- The application has asked for updates. -/
def Asked (r : PositionSourceRun) : Prop :=
  r.continuous = true ∨ r.pending = true

instance (r : PositionSourceRun) : Decidable r.Asked :=
  inferInstanceAs (Decidable (_ ∨ _))

/-- While the application is active, each stream is enabled exactly if the
application has asked for updates. -/
def Follows (r : PositionSourceRun) : Prop :=
  r.source.applicationActive = true →
    ∀ x, r.source.isEnabled x = true ↔ r.Asked

instance (r : PositionSourceRun) : Decidable r.Follows :=
  inferInstanceAs (Decidable (_ → ∀ x, r.source.isEnabled x = true ↔ _))

/-- No request is made while the timer of one runs that is over, unless the
updates are continuous; no timer expires during continuous updates; and no
position arrives for a request without them. -/
def Undisturbed (e : PositionSourceEvent) (r : PositionSourceRun) : Prop :=
  match e with
  | .requestUpdate _ => r.source.timer.isActive = true → r.Asked
  | .timerExpired => r.source.timer.isActive = true → r.continuous = false
  | .updated .position => r.pending = true → r.continuous = true
  | _ => True

instance (e : PositionSourceEvent) (r : PositionSourceRun) :
    Decidable (Undisturbed e r) :=
  match e with
  | .requestUpdate _ => inferInstanceAs (Decidable (_ → r.Asked))
  | .timerExpired => inferInstanceAs (Decidable (_ → r.continuous = false))
  | .updated .position =>
      inferInstanceAs (Decidable (r.pending = true → r.continuous = true))
  | .updated .heading => .isTrue trivial
  | .updated .velocity => .isTrue trivial
  | .startUpdates => .isTrue trivial
  | .stopUpdates => .isTrue trivial
  | .positionUpdated => .isTrue trivial
  | .applicationStateChanged _ => .isTrue trivial

theorem inv_next (e : PositionSourceEvent) (r : PositionSourceRun)
    (h : r.source.Inv) : (next e r).source.Inv := by
  cases e with
  | startUpdates => exact h.startUpdates
  | stopUpdates => exact h.stopUpdates
  | requestUpdate timeout => exact h.requestUpdate timeout
  | timerExpired =>
      show r.expire.source.Inv
      unfold expire
      split
      · exact h.stopTimer.stopUpdates
      · exact h
  | updated x =>
      show (r.receive x).source.Inv
      unfold receive
      split
      · exact h
      · cases x with
        | position =>
            show r.source.handlePositionUpdate.Inv
            rw [h.handlePositionUpdate_eq]
            exact h.stopTimer
        | heading => exact h
        | velocity => exact h
  | positionUpdated =>
      show r.deliver.source.Inv
      unfold deliver
      split
      · exact h
      · exact h.stopTimer
  | applicationStateChanged v => exact h.applicationStateChanged v

/-- The source wants to deliver updates exactly if the application has asked
for them. -/
def Agrees (r : PositionSourceRun) : Prop := r.source.Wants ↔ r.Asked

section Agreement

variable {r : PositionSourceRun} (hinv : r.source.Inv) (h : r.Agrees)
include hinv h

theorem agrees_request_iff (timeout : Int) :
    (next (.requestUpdate timeout) r).Agrees ↔
      Undisturbed (.requestUpdate timeout) r := by
  have hasked : (next (.requestUpdate timeout) r).Asked := .inr rfl
  unfold Agrees at h ⊢
  rw [iff_true_right hasked]
  show (r.source.requestUpdate timeout).Wants ↔ (_ → r.Asked)
  rw [hinv.wants_requestUpdate_iff, h]

theorem agrees_expire_iff :
    r.expire.Agrees ↔ Undisturbed .timerExpired r := by
  unfold expire Undisturbed
  cases hactive : r.source.timer.isActive with
  | false =>
      apply iff_of_true h
      intro hexpired
      cases hexpired
  | true =>
      have hstopped := hinv.stopTimer.not_wants_stopUpdates
      simp only [if_true, Agrees, Asked, timeout, hstopped, false_iff]
      simp

theorem agrees_receive_position_iff :
    (r.receive .position).Agrees ↔ Undisturbed (.updated .position) r := by
  unfold receive Undisturbed
  unfold Agrees at h
  cases hsession : r.source.session with
  | none =>
      -- no session was created yet, so nothing was asked for
      have hnot : ¬ r.Asked := by
        rw [← h]
        rcases hinv.session with ⟨-, hstopped⟩ | hsome
        · simp [Wants, hstopped]
        · rw [hsession] at hsome
          cases hsome
      apply iff_of_true h
      intro hpending
      exact absurd (.inr hpending) hnot
  | some status =>
      have hsame : r.source.handlePositionUpdate.Wants ↔ r.Asked := by
        rw [hinv.handlePositionUpdate_eq]
        exact h
      show (r.source.handlePositionUpdate.Wants ↔
        r.continuous = true ∨ false = true) ↔ _
      rw [hsame]
      unfold Asked
      cases r.continuous <;> cases r.pending <;> simp

omit hinv in
/-- A heading or a velocity is only passed on. -/
theorem Agrees.receive_of_ne {x : Stream} (hx : x ≠ .position) :
    (r.receive x).Agrees := by
  unfold PositionSourceRun.receive
  split
  · exact h
  · cases x with
    | position => exact absurd rfl hx
    | heading => exact h
    | velocity => exact h

omit hinv in
theorem Agrees.deliver : r.deliver.Agrees := by
  unfold PositionSourceRun.deliver
  split
  · exact h
  · exact h

/-- An event keeps the source in agreement with the application exactly if it
meets the condition. -/
theorem agrees_next_iff (e : PositionSourceEvent) :
    (next e r).Agrees ↔ Undisturbed e r := by
  cases e with
  | startUpdates =>
      exact iff_of_true (iff_of_true hinv.wants_startUpdates (.inl rfl)) trivial
  | stopUpdates =>
      refine iff_of_true (iff_of_false hinv.not_wants_stopUpdates ?_) trivial
      simp [Asked, next]
  | requestUpdate timeout => exact agrees_request_iff hinv h timeout
  | timerExpired => exact agrees_expire_iff hinv h
  | updated x =>
      cases x with
      | position => exact agrees_receive_position_iff hinv h
      | heading => exact iff_of_true (h.receive_of_ne (by decide)) trivial
      | velocity => exact iff_of_true (h.receive_of_ne (by decide)) trivial
  | positionUpdated => exact iff_of_true h.deliver trivial
  | applicationStateChanged v =>
      have hsame := hinv.wants_applicationStateChanged_iff v
      exact iff_of_true (hsame.trans h) trivial

end Agreement

/-- In an active application agreement is what the streams show. -/
theorem follows_iff_agrees {r : PositionSourceRun} (hinv : r.source.Inv)
    (hactive : r.source.applicationActive = true) :
    r.Follows ↔ r.Agrees := by
  unfold Follows Agrees
  constructor
  · intro h
    have hposition := h hactive .position
    rwa [hinv.isEnabled_iff hactive] at hposition
  · intro h _ x
    rw [hinv.isEnabled_iff hactive]
    exact h

/-- The application becomes active. -/
theorem follows_activated_iff {r : PositionSourceRun} (hinv : r.source.Inv) :
    (next (.applicationStateChanged .active) r).Follows ↔ r.Agrees := by
  have hinv' := inv_next (.applicationStateChanged .active) r hinv
  have hactive :
      (next (.applicationStateChanged .active) r).source.applicationActive =
        true := by
    show (r.source.applicationStateChanged .active).applicationActive = true
    rw [hinv.activate_eq]
    split <;> rfl
  have hsame := hinv.wants_applicationStateChanged_iff .active
  rw [follows_iff_agrees hinv' hactive]
  exact iff_congr hsame Iff.rfl

/-- As long as no event disturbs a request or continuous updates, each stream
is enabled, while the application is active, exactly if one of the two was
asked for.  The first other event shows at once in an active application, and
otherwise when that becomes active. -/
theorem streams_follow_requests {r : PositionSourceRun}
    (h : Reachable Undisturbed r) :
    r.Follows ∧
      ∀ e, ((next e r).source.applicationActive = true →
          ((next e r).Follows ↔ Undisturbed e r)) ∧
        ((next (.applicationStateChanged .active) (next e r)).Follows ↔
          Undisturbed e r) := by
  have hinit : init.source.Inv ∧ init.Agrees := by
    refine ⟨.init, iff_of_false ?_ ?_⟩ <;> decide
  have hrun := h.ofStep_keeps_exactly (fun r => r.source.Inv) Agrees hinit
    inv_next (fun e _ hinv hagrees => agrees_next_iff hinv hagrees e)
  obtain ⟨hinv, hagrees, hnext⟩ := hrun
  refine ⟨?_, ?_⟩
  · intro hactive
    exact (follows_iff_agrees hinv hactive).mpr hagrees hactive
  · intro e
    have hinv' := inv_next e r hinv
    constructor
    · intro hactive
      rw [follows_iff_agrees hinv' hactive]
      exact hnext e
    · rw [follows_activated_iff hinv']
      exact hnext e

/-- Continuous updates over a deactivation, and a request that times out. -/
theorem streams_follow_requests_resumed :
    ∃ r, Reachable Undisturbed r ∧ r.source.state = .running ∧
      r.Follows := by
  have hrun : (Library.Machine.replay (fun e r => some (next e r)) Undisturbed
      [.requestUpdate 0, .timerExpired, .startUpdates,
        .applicationStateChanged .inactive, .updated .position,
        .applicationStateChanged .active, .positionUpdated] init).any
        (fun r => decide (r.source.state = .running)) = true := by
    decide
  obtain ⟨r, hreach, hrunning⟩ :=
    Library.Machine.Reach.ofStep_exists_of_replay _ hrun
  have hfollows := (streams_follow_requests hreach).1
  exact ⟨r, hreach, hrunning, hfollows⟩

/-- The position that a request was for arrives, and the streams stay
enabled.  And the timeout of a request ends continuous updates. -/
theorem streams_do_not_follow_requests :
    ¬ (next (.updated .position) (next (.requestUpdate 5000) init)).Follows ∧
      ¬ (next .timerExpired
        (next (.requestUpdate 5000) (next .startUpdates init))).Follows := by
  decide

end PositionSourceRun

end LocationService
