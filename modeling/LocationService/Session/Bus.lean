import LocationService.Session.Model

/-!
# A session on the bus

`session::Skeleton` answers six method calls, each with an assignment to one of
the status properties of its session, and `session::Stub` makes these calls
from the slots of its own copies of the properties.  A start may end in an
exception of the provider's start hook.  It passes through the controllers and
properties on its way, none of which takes back what it has stored, until the
skeleton turns it into an error reply.
-/

namespace LocationService

open LocationService.Library

/-- What a start hook throws: an exception the skeleton catches, which is
anything derived from `std::runtime_error`, or another one. -/
inductive Thrown where
  | runtimeError
  | other
  deriving DecidableEq, Repr

/-- How a call ends: with a state, and an exception when there is one. -/
structure Ended (σ : Type) where
  state : σ
  thrown : Option Thrown

/-- What the start hook of an implementation throws, if it throws. -/
abbrev StartHooks := ProviderId → Stream → Option Thrown

/-- Start hooks that never throw. -/
def StartHooks.sound : StartHooks := fun _ _ => none

/-! ## Starts that may throw -/

/-- `state_controller()->start_*_updates()` on an implementation whose start
hook throws `e`. -/
def Implementation.tryStartUpdates (p : Implementation) (x : Stream)
    (e : Option Thrown) : Ended Implementation :=
  let (c, hook) := p.controller.startUpdates x
  if hook then ⟨⟨c, .start x :: p.calls⟩, e⟩ else ⟨⟨c, p.calls⟩, none⟩

section Starts

variable (set : Assigner System System.Assignment) (hooks : StartHooks)

/-- `StateTrackingProvider::start_*_updates`. -/
def System.tryStartHook (s : System) (i : ProviderId) (x : Stream) :
    Option (Ended System) := do
  let s ← set (.providerState i .active) s
  let r := (s.provider i).impl.tryStartUpdates x (hooks i x)
  return ⟨s.setProvider i { s.provider i with impl := r.state }, r.thrown⟩

/-- `state_controller()->start_*_updates()` on a state tracking provider. -/
def System.tryStartUpdates (s : System) (i : ProviderId) (x : Stream) :
    Option (Ended System) :=
  let (c, hook) := (s.provider i).controller.startUpdates x
  let s := s.setController i c
  if hook then s.tryStartHook set hooks i x else some ⟨s, none⟩

namespace Session

/-- `ProxyProvider::start_*_updates`. -/
def tryStartHook (c : Session) (x : Stream) (s : System) :
    Option (Ended System) :=
  match c.selection x with
  | none => some ⟨s, none⟩
  | some i => s.tryStartUpdates set hooks i x

/-- `session::Implementation::start_*_updates`. -/
def tryStartUpdates (c : Session) (x : Stream) (s : System) :
    Option (Ended (Session × System)) :=
  let (p, hook) := c.controller.startUpdates x
  let c := { c with controller := p }
  (if hook then tryStartHook set hooks c x s else some ⟨s, none⟩).map
    fun r => ⟨(c, r.state), r.thrown⟩

/-- An assignment to one of the three status properties.  Stops are
`noexcept`. -/
def trySetStatus (c : Session) (x : Stream) (v : UpdatesStatus) (s : System) :
    Option (Ended (Session × System)) :=
  if c.status x = v then some ⟨(c, s), none⟩
  else
    let c := { c with status := Function.update c.status x v }
    match v with
    | .enabled => tryStartUpdates set hooks c x s
    | .disabled => (stopUpdates set c x s).map fun r => ⟨r, none⟩

end Session

/-! ## The skeleton -/

/-- The method calls on a session. -/
inductive SessionCall where
  | startPositionUpdates
  | stopPositionUpdates
  | startVelocityUpdates
  | stopVelocityUpdates
  | startHeadingUpdates
  | stopHeadingUpdates
  deriving DecidableEq, Repr

/-- The stream a method is named after. -/
def SessionCall.stream : SessionCall → Stream
  | .startPositionUpdates | .stopPositionUpdates => .position
  | .startVelocityUpdates | .stopVelocityUpdates => .velocity
  | .startHeadingUpdates | .stopHeadingUpdates => .heading

/-- The status a method asks for. -/
def SessionCall.requested : SessionCall → UpdatesStatus
  | .startPositionUpdates | .startVelocityUpdates | .startHeadingUpdates =>
      .enabled
  | .stopPositionUpdates | .stopVelocityUpdates | .stopHeadingUpdates =>
      .disabled

/-- What the skeleton sends back. -/
inductive Reply where
  | methodReturn
  /-- An error named `Interface::Errors::ErrorStartingUpdate`. -/
  | errorStartingUpdate (text : String)
  deriving DecidableEq, Repr

/-- A request that has been handled.  There is no reply when an exception has
left the handler. -/
structure Answered where
  world : World
  reply : Option Reply

/-- The assignment in the body of a handler of session `k`. -/
def World.trySetStatus (k : Nat) (x : Stream) (v : UpdatesStatus) (w : World) :
    Option (Ended World) := do
  let c ← w.sessions[k]?
  let r ← c.trySetStatus set hooks x v w.system
  return ⟨⟨r.state.2, w.sessions.set k r.state.1⟩, r.thrown⟩

/-- The `try` and `catch` of a handler. -/
def Ended.answer (text : String) (r : Ended World) : Answered :=
  match r.thrown with
  | none => ⟨r.state, some .methodReturn⟩
  | some .runtimeError => ⟨r.state, some (.errorStartingUpdate text)⟩
  | some .other => ⟨r.state, none⟩

/-- A handler that assigns `v` to the status of `x` and reports a failure with
`text`. -/
def onRequest (x : Stream) (v : UpdatesStatus) (text : String) (k : Nat)
    (w : World) : Option Answered :=
  (w.trySetStatus set hooks k x v).map (Ended.answer text)

def onStartPositionUpdates :=
  onRequest set hooks .position .enabled "Could not enable position updates"

def onStopPositionUpdates :=
  onRequest set hooks .position .disabled "Could not disable position updates"

/-- The handler assigns `position_status`. -/
def onStartHeadingUpdates :=
  onRequest set hooks .position .enabled "Could not enable position updates"

def onStopHeadingUpdates :=
  onRequest set hooks .heading .disabled "Could not enable position updates"

def onStartVelocityUpdates :=
  onRequest set hooks .velocity .enabled "Could not enable position updates"

def onStopVelocityUpdates :=
  onRequest set hooks .velocity .disabled "Could not enable position updates"

/-- The handlers that `session::Skeleton` installs for session `k`. -/
def handle (k : Nat) : SessionCall → World → Option Answered
  | .startPositionUpdates => onStartPositionUpdates set hooks k
  | .stopPositionUpdates => onStopPositionUpdates set hooks k
  | .startVelocityUpdates => onStartVelocityUpdates set hooks k
  | .stopVelocityUpdates => onStopVelocityUpdates set hooks k
  | .startHeadingUpdates => onStartHeadingUpdates set hooks k
  | .stopHeadingUpdates => onStopHeadingUpdates set hooks k

/-! ## The stub -/

/-- The method that the slot of a stub on a status property calls. -/
def stubCall : Stream → UpdatesStatus → SessionCall
  | .position, .enabled => .startPositionUpdates
  | .position, .disabled => .stopPositionUpdates
  | .velocity, .enabled => .startVelocityUpdates
  | .velocity, .disabled => .stopVelocityUpdates
  | .heading, .enabled => .startHeadingUpdates
  | .heading, .disabled => .stopHeadingUpdates

/-- What `session::Stub` throws on a reply: `start_*_updates` on anything but a
method return, `stop_*_updates` nothing. -/
def stubThrows : UpdatesStatus → Option Reply → Option Thrown
  | .enabled, some .methodReturn => none
  | .enabled, _ => some .runtimeError
  | .disabled, _ => none

/-- The status properties of a stub, and the world its session is in. -/
structure Link where
  status : Stream → UpdatesStatus
  world : World

/-- An assignment to a status property of the stub of session `k`. -/
def Link.setStatus (k : Nat) (x : Stream) (v : UpdatesStatus) (l : Link) :
    Option (Ended Link) :=
  if l.status x = v then some ⟨l, none⟩
  else (handle set hooks k (stubCall x v) l.world).map fun r =>
    ⟨⟨Function.update l.status x v, r.world⟩, stubThrows v r.reply⟩

/-- The assignments of `GeoPositionInfoSource::startUpdates` of the Qt
plugin. -/
def qtStartUpdates : List (Stream × UpdatesStatus) :=
  [(.position, .enabled), (.heading, .enabled), (.velocity, .enabled)]

/-- The assignments of `GeoPositionInfoSource::stopUpdates`. -/
def qtStopUpdates : List (Stream × UpdatesStatus) :=
  [(.position, .disabled), (.heading, .disabled), (.velocity, .disabled)]

end Starts

/-- The request is handled, with this outcome. -/
def Handled (hooks : StartHooks) (k : Nat) (m : SessionCall) (w : World)
    (r : Answered) : Prop :=
  ∃ n, handle (System.network.assign n) hooks k m w = some r

/-! ## What a request settles to -/

/-- What a start on a state tracking provider throws. -/
def System.startThrows (hooks : StartHooks) (s : System) (i : ProviderId)
    (x : Stream) : Option Thrown :=
  if s.counter i x = 0 ∧ s.implCounter i x = 0 then hooks i x else none

/-- What a start on a session throws. -/
def Session.startThrows (hooks : StartHooks) (c : Session) (x : Stream)
    (s : System) : Option Thrown :=
  if c.controller.counter x = 0 then
    match c.selection x with
    | none => none
    | some i => s.startThrows hooks i x
  else none

/-- What an assignment to a status property throws. -/
def Session.setStatusThrows (hooks : StartHooks) (c : Session) (x : Stream)
    (v : UpdatesStatus) (s : System) : Option Thrown :=
  if c.status x = v then none
  else
    match v with
    | .enabled => c.startThrows hooks x s
    | .disabled => none

/-- The stream whose status the handler of a method assigns. -/
def SessionCall.target : SessionCall → Stream
  | .startHeadingUpdates => .position
  | m => m.stream

/-- The text of the error reply of a handler. -/
def SessionCall.errorText : SessionCall → String
  | .stopPositionUpdates => "Could not disable position updates"
  | _ => "Could not enable position updates"

/-- What a request settles to. -/
def settleHandle (hooks : StartHooks) (k : Nat) (m : SessionCall) (w : World) :
    Option Answered :=
  w.sessions[k]?.map fun c =>
    let r := c.settleSetStatus m.target m.requested w.system
    Ended.answer m.errorText
      ⟨⟨r.2, w.sessions.set k r.1⟩,
        c.setStatusThrows hooks m.target m.requested w.system⟩

theorem Implementation.tryStartUpdates_eq (p : Implementation) (x : Stream)
    (e : Option Thrown) :
    p.tryStartUpdates x e =
      ⟨p.startUpdates x, if p.controller.counter x = 0 then e else none⟩ := by
  have hhook := p.controller.startUpdates_hook_iff x
  unfold tryStartUpdates startUpdates
  by_cases hzero : p.controller.counter x = 0
  · have htrue := hhook.mpr hzero
    simp only [htrue, hzero, if_true]
  · have hfalse : (p.controller.startUpdates x).2 = false :=
      Bool.eq_false_iff.mpr fun h => hzero (hhook.mp h)
    simp only [hfalse, hzero, if_false]
    rfl

theorem System.tryStartUpdates_eq (n : Nat) (hooks : StartHooks) (s : System)
    (i : ProviderId) (x : Stream) :
    s.tryStartUpdates (System.network.assign (n + 5)) hooks i x =
      some ⟨s.settleStartUpdates i x, s.startThrows hooks i x⟩ := by
  have hhook := (s.provider i).controller.startUpdates_hook_iff x
  let u := s.setController i ((s.provider i).controller.startUpdates x).1
  let w := u.settleProviderState i .active
  have himpl : (w.provider i).impl = (s.provider i).impl := by
    have hreset := reset_settleProviderState u i .active
    rw [hreset.impl i, setProviderState_impl, setController_impl]
  unfold tryStartUpdates settleStartUpdates startThrows
  by_cases hzero : s.counter i x = 0
  · have htrue := hhook.mpr hzero
    simp only [htrue, if_true, hzero, true_and]
    unfold tryStartHook
    rw [assign_providerState n u i .active]
    show some (⟨w.setProvider i _, _⟩ : Ended System) = _
    rw [Implementation.tryStartUpdates_eq]
    congr 2
    show (if (w.provider i).impl.controller.counter x = 0 then _ else _) = _
    rw [himpl]
    rfl
  · have hfalse : ((s.provider i).controller.startUpdates x).2 = false :=
      Bool.eq_false_iff.mpr fun h => hzero (hhook.mp h)
    simp [hfalse, hzero]

namespace Session

private theorem tryStartUpdates_eq (n : Nat) (hooks : StartHooks) (c : Session)
    (x : Stream) (s : System) :
    c.tryStartUpdates (System.network.assign (n + 5)) hooks x s =
      some ⟨c.settleStart x s, c.startThrows hooks x s⟩ := by
  have hhook := c.controller.startUpdates_hook_iff x
  unfold tryStartUpdates settleStart startThrows tryStartHook
  by_cases hzero : c.controller.counter x = 0
  · have htrue := hhook.mpr hzero
    simp only [htrue, hzero, if_true]
    cases c.selection x with
    | none => rfl
    | some i =>
        dsimp only
        rw [System.tryStartUpdates_eq]
        rfl
  · have hfalse : (c.controller.startUpdates x).2 = false :=
      Bool.eq_false_iff.mpr fun h => hzero (hhook.mp h)
    simp [hfalse, hzero]

theorem trySetStatus_eq (n : Nat) (hooks : StartHooks) (c : Session)
    (x : Stream) (v : UpdatesStatus) (s : System) :
    c.trySetStatus (System.network.assign (n + 5)) hooks x v s =
      some ⟨c.settleSetStatus x v s, c.setStatusThrows hooks x v s⟩ := by
  unfold trySetStatus settleSetStatus setStatusThrows
  split
  · rfl
  · cases v with
    | enabled => exact tryStartUpdates_eq n hooks _ x s
    | disabled =>
        dsimp only
        rw [stopUpdates_eq]
        rfl

end Session

private theorem onRequest_eq (n : Nat) (hooks : StartHooks) (x : Stream)
    (v : UpdatesStatus) (text : String) (k : Nat) (w : World) :
    onRequest (System.network.assign (n + 5)) hooks x v text k w =
      w.sessions[k]?.map fun c =>
        let r := c.settleSetStatus x v w.system
        Ended.answer text ⟨⟨r.2, w.sessions.set k r.1⟩,
          c.setStatusThrows hooks x v w.system⟩ := by
  unfold onRequest World.trySetStatus
  cases w.sessions[k]? with
  | none => rfl
  | some c =>
      simp only [Option.bind_eq_bind, Option.bind_some, Option.map_some]
      rw [Session.trySetStatus_eq]
      rfl

theorem handle_eq (n : Nat) (hooks : StartHooks) (k : Nat) (m : SessionCall)
    (w : World) :
    handle (System.network.assign (n + 5)) hooks k m w =
      settleHandle hooks k m w := by
  cases m <;> exact onRequest_eq n hooks _ _ _ k w

section Monotone

variable {f g : Assigner System System.Assignment} (h : f.Le g)
include h

private theorem System.tryStartUpdates_le (hooks : StartHooks) (s : System)
    (i : ProviderId) (x : Stream) (r : Ended System)
    (ht : s.tryStartUpdates f hooks i x = some r) :
    s.tryStartUpdates g hooks i x = some r := by
  unfold System.tryStartUpdates at ht ⊢
  dsimp only at ht ⊢
  split
  · rename_i hhook
    rw [if_pos hhook] at ht
    exact bind_le (h _ _) (fun _ _ hu => hu) ht
  · rename_i hhook
    rwa [if_neg hhook] at ht

private theorem Session.tryStartUpdates_le (hooks : StartHooks) (c : Session)
    (x : Stream) (s : System) (r : Ended (Session × System))
    (ht : c.tryStartUpdates f hooks x s = some r) :
    c.tryStartUpdates g hooks x s = some r := by
  unfold Session.tryStartUpdates Session.tryStartHook at ht ⊢
  obtain ⟨u, hu, rfl⟩ := Option.map_eq_some_iff.mp ht
  refine Option.map_eq_some_iff.mpr ⟨u, ?_, rfl⟩
  dsimp only at hu ⊢
  split
  · rename_i hhook
    rw [if_pos hhook] at hu
    cases hsel : c.selection x with
    | none => simpa only [hsel] using hu
    | some i =>
        simp only [hsel] at hu ⊢
        exact System.tryStartUpdates_le h hooks s i x u hu
  · rename_i hhook
    rwa [if_neg hhook] at hu

private theorem Session.trySetStatus_le (hooks : StartHooks) (c : Session)
    (x : Stream) (v : UpdatesStatus) (s : System)
    (r : Ended (Session × System))
    (ht : c.trySetStatus f hooks x v s = some r) :
    c.trySetStatus g hooks x v s = some r := by
  unfold Session.trySetStatus at ht ⊢
  split
  · rename_i heq
    rwa [if_pos heq] at ht
  · rename_i heq
    rw [if_neg heq] at ht
    cases v with
    | enabled => exact Session.tryStartUpdates_le h hooks _ x s r ht
    | disabled =>
        obtain ⟨u, hu, rfl⟩ := Option.map_eq_some_iff.mp ht
        refine Option.map_eq_some_iff.mpr ⟨u, ?_, rfl⟩
        exact Session.stopUpdates_le h _ x s u hu

private theorem handle_le (hooks : StartHooks) (k : Nat) (m : SessionCall)
    (w : World) (r : Answered) (ht : handle f hooks k m w = some r) :
    handle g hooks k m w = some r := by
  have hrequest : ∀ x v text,
      onRequest f hooks x v text k w = some r →
        onRequest g hooks x v text k w = some r := by
    intro x v text ht
    obtain ⟨u, hu, rfl⟩ := Option.map_eq_some_iff.mp ht
    refine Option.map_eq_some_iff.mpr ⟨u, ?_, rfl⟩
    exact bind_le (fun _ hc => hc) (fun c _ hc => bind_le
      (fun r hr => Session.trySetStatus_le h hooks c x v _ r hr)
      (fun _ _ hw => hw) hc) hu
  cases m <;> exact hrequest _ _ _ ht

end Monotone

/-- A request ends as it settles. -/
theorem handled_iff {hooks : StartHooks} {k : Nat} {m : SessionCall}
    {w : World} {r : Answered} :
    Handled hooks k m w r ↔ settleHandle hooks k m w = some r := by
  constructor
  · rintro ⟨n, hn⟩
    have hmono := System.network.assign_mono (Nat.le_add_right n 5)
    have hm := handle_le hmono hooks k m w r hn
    rwa [handle_eq] at hm
  · intro h
    exact ⟨5, by rw [handle_eq 0]; exact h⟩

end LocationService
