import Mathlib.Logic.Function.Basic
import Mathlib.Tactic.Simps.Basic
import LocationService.Library.Machine
import LocationService.Library.SharedMutex

/-!
# The hardware abstraction layer of the GPS provider

`android::HardwareAbstractionLayer` as a step relation over its threads: the
client, the watchdog, the recovery threads that `start_positioning` spawns and
the threads of the driver.  A step is one access to the mutex, one access to
an atomic, one access to the handle or one call of the driver.  While a thread
is inside a call of the driver, the driver may call back on that thread.

What the driver sees, and what the client asks for, is kept in a log.
-/

namespace LocationService.Gps

open LocationService.Library

/-! ## Data -/

/-- A `UHardwareGps` that is not null. -/
abbrev Handle := Nat

inductive AssistanceMode where
  | standalone
  | mobileStationAssisted
  | mobileStationBased
  deriving DecidableEq, Repr

inductive PositionMode where
  | singleShot
  | periodic
  deriving DecidableEq, Repr

/-- The bits of `capabilities` that the layer looks at. -/
structure Capabilities where
  msa : Bool
  msb : Bool
  singleShot : Bool
  scheduling : Bool
  onDemandTime : Bool
  deriving DecidableEq, Repr

def Capabilities.isCapableOfAssistance (c : Capabilities) :
    AssistanceMode → Bool
  | .standalone => true
  | .mobileStationAssisted => c.msa
  | .mobileStationBased => c.msb

def Capabilities.isCapableOfPosition (c : Capabilities) : PositionMode → Bool
  | .singleShot => c.singleShot
  | .periodic => c.scheduling

/-- The callbacks that take the mutex, with what decides their course: whether
a location is taken as the new reference position, whether the reference time
could be sampled, whether there is extended ephemeris data to inject. -/
inductive Callback where
  | locationUpdate (reference : Bool)
  | statusUpdate
  | svStatusUpdate
  | setCapabilities (c : Capabilities)
  | agpsStatusUpdate
  | requestUtcTime (sampled : Bool)
  | xtraDownloadRequest (downloaded : Bool)
  deriving DecidableEq, Repr

/-- The callbacks that stamp `last_gps_ms`. -/
def Callback.isData : Callback → Bool
  | .locationUpdate _ | .svStatusUpdate => true
  | _ => false

/-- The callbacks that go on to inject something. -/
def Callback.injects : Callback → Bool
  | .locationUpdate b | .requestUtcTime b | .xtraDownloadRequest b => b
  | _ => false

/-- What the client can call. -/
inductive ClientOp where
  | startPositioning
  | stopPositioning
  | setAssistanceMode (m : AssistanceMode)
  | setPositionMode (m : PositionMode)
  | injectReferencePosition
  deriving DecidableEq, Repr

inductive ThreadId where
  | client
  | watchdog
  | recovery (n : Nat)
  | chipset (n : Nat)
  deriving DecidableEq, Repr

/-- What happens at the boundaries of the layer.  A call of the driver carries
the handle it is made on, which is `none` when it is null. -/
inductive Event where
  | call (op : ClientOp)
  | callback (k : Callback)
  | new
  | returned (h : Option Handle)
  | delete (h : Handle)
  | start (h : Handle)
  | stop (h : Option Handle)
  | setPositionMode (h : Option Handle) (am : AssistanceMode) (pm : PositionMode)
  | injectLocation (h : Option Handle)
  | injectTime (h : Option Handle)
  | injectXtraData (h : Option Handle)
  deriving DecidableEq, Repr

structure Entry where
  time : Nat
  event : Event
  deriving DecidableEq, Repr

/-! ## Program counters -/

/-- The client inside `start_positioning`, `stop_positioning` and the other
calls.  `startMode` to `startUnlock`, `startUnlockNull` and `stopRead` to
`stopUnlock` hold the mutex shared. -/
inductive ClientPc where
  | idle
  | startTry
  | startRead
  | startMode (h : Handle)
  | startInMode (h : Handle)
  | startUnlock (h : Handle)
  | startArm (h : Handle)
  | startStart (h : Handle)
  | startInStart
  | startUnlockNull
  | startExchange
  | startSpawn
  | stopTry
  | stopRead
  | stopStop
  | stopInStop
  | stopUnlock
  | loadMode
  | callMode (o : Option Handle)
  | inMode
  | loadInject
  | callInject (o : Option Handle)
  deriving DecidableEq, Repr

/-- The watchdog outside `register_callbacks`. -/
inductive WatchdogPc where
  | sleep
  | loadLast
  | compare (last : Nat)
  | lockCheck
  | readHandle
  | unlockCheck (handleValid : Bool)
  | exchange
  deriving DecidableEq, Repr

/-- The watchdog or a recovery thread from the first line of
`register_callbacks` to the store that clears `positioning_active`. -/
inductive ReclaimPc where
  | lockDelete
  | delete
  | clear
  | unlockDelete
  | callNew
  | inNew
  | lockInstall (new : Option Handle)
  | install (new : Option Handle)
  | unlockInstall
  | readHandle
  | loadMode
  | callMode (o : Option Handle)
  | inMode
  | lockRead
  | read
  | unlockRead (o : Option Handle)
  | loadAgain (h : Handle)
  | callAgain (h : Handle) (o : Option Handle)
  | inAgain (h : Handle)
  | arm (h : Handle)
  | start (h : Handle)
  | inStart
  | release
  deriving DecidableEq, Repr

/-- A callback in progress. -/
inductive CallbackPc where
  | request (k : Callback)
  | body (k : Callback)
  | inject (k : Callback)
  | unlock
  deriving DecidableEq, Repr

/-- The layer and its threads; `nextHandle` is above every handle the driver
has handed out, and the log has its newest entry first. -/
structure State where
  gpsHandle : Option Handle
  positioningActive : Bool
  lastGpsMs : Nat
  capabilities : Capabilities
  assistanceMode : AssistanceMode
  positionMode : PositionMode
  callbackMutex : SharedMutex ThreadId
  now : Nat
  nextHandle : Handle
  spawned : Nat
  client : ClientPc
  watchdog : WatchdogPc
  reclaim : ThreadId → Option ReclaimPc
  callback : ThreadId → Option CallbackPc
  log : List Entry

namespace State

/-- Appends an event to the log. -/
@[simps]
def record (s : State) (e : Event) : State :=
  { s with log := ⟨s.now, e⟩ :: s.log }

/-- Moves thread `t` within (or out of) the reclaim. -/
@[simps]
def setReclaim (s : State) (t : ThreadId) (pc : Option ReclaimPc) : State :=
  { s with reclaim := Function.update s.reclaim t pc }

/-- Moves the callback on thread `t`. -/
@[simps]
def setCallback (s : State) (t : ThreadId) (pc : Option CallbackPc) : State :=
  { s with callback := Function.update s.callback t pc }

/-- `dispatch_updated_modes_to_driver` on the handle `o`. -/
def dispatchModes (s : State) (o : Option Handle) : State :=
  s.record (.setPositionMode o s.assistanceMode s.positionMode)

/-! ## The client -/

/-- The client makes a call: up to the first access that matters to others.
For `stop_positioning` that is the store that clears the timestamp; the
setters return early when the chipset lacks the mode. -/
def callOp (s : State) (op : ClientOp) : State :=
  let s := s.record (.call op)
  match op with
  | .startPositioning => { s with client := .startTry }
  | .stopPositioning => { s with lastGpsMs := 0, client := .stopTry }
  | .setAssistanceMode m =>
      if s.capabilities.isCapableOfAssistance m then
        { s with assistanceMode := m, client := .loadMode }
      else s
  | .setPositionMode m =>
      if s.capabilities.isCapableOfPosition m then
        { s with positionMode := m, client := .loadMode }
      else s
  | .injectReferencePosition => { s with client := .loadInject }

/-- One step of the client inside a call. -/
def runClient (s : State) : Option State :=
  match s.client with
  | .idle => none
  | .startTry =>
      -- try_to_lock: a writer makes the call return true at once
      match s.callbackMutex.lockShared .client with
      | none => some { s with client := .idle }
      | some m => some { s with callbackMutex := m, client := .startRead }
  | .startRead =>
      match s.gpsHandle with
      | some h => some { s with client := .startMode h }
      | none => some { s with client := .startUnlockNull }
  | .startMode h =>
      some { s.dispatchModes s.gpsHandle with client := .startInMode h }
  | .startInMode h => some { s with client := .startUnlock h }
  | .startUnlock h =>
      some { s with
        callbackMutex := s.callbackMutex.unlockShared .client
        client := .startArm h }
  | .startArm h => some { s with lastGpsMs := s.now, client := .startStart h }
  | .startStart h => some { s.record (.start h) with client := .startInStart }
  | .startInStart => some { s with client := .idle }
  | .startUnlockNull =>
      some { s with
        callbackMutex := s.callbackMutex.unlockShared .client
        client := .startExchange }
  | .startExchange =>
      if s.positioningActive then some { s with client := .idle }
      else some { s with positioningActive := true, client := .startSpawn }
  | .startSpawn =>
      some { s.setReclaim (.recovery s.spawned) (some .lockDelete) with
        spawned := s.spawned + 1
        client := .idle }
  | .stopTry =>
      match s.callbackMutex.lockShared .client with
      | none => some { s with client := .idle }
      | some m => some { s with callbackMutex := m, client := .stopRead }
  | .stopRead =>
      match s.gpsHandle with
      | some _ => some { s with client := .stopStop }
      | none => some { s with client := .stopUnlock }
  | .stopStop =>
      some { s.record (.stop s.gpsHandle) with client := .stopInStop }
  | .stopInStop => some { s with client := .stopUnlock }
  | .stopUnlock =>
      some { s with
        callbackMutex := s.callbackMutex.unlockShared .client
        client := .idle }
  | .loadMode => some { s with client := .callMode s.gpsHandle }
  | .callMode o => some { s.dispatchModes o with client := .inMode }
  | .inMode => some { s with client := .idle }
  | .loadInject => some { s with client := .callInject s.gpsHandle }
  | .callInject o =>
      some { s.record (.injectLocation o) with client := .idle }

/-! ## The watchdog -/

/-- One step of the watchdog outside `register_callbacks`. -/
def runWatchdog (s : State) : Option State :=
  match s.watchdog with
  | .sleep => some { s with watchdog := .loadLast }
  | .loadLast =>
      if s.lastGpsMs = 0 then some { s with watchdog := .sleep }
      else some { s with watchdog := .compare s.lastGpsMs }
  | .compare last =>
      if s.now - last ≤ 10000 then some { s with watchdog := .sleep }
      else some { s with watchdog := .lockCheck }
  | .lockCheck =>
      (s.callbackMutex.lockShared .watchdog).map fun m =>
        { s with callbackMutex := m, watchdog := .readHandle }
  | .readHandle =>
      some { s with watchdog := .unlockCheck s.gpsHandle.isSome }
  | .unlockCheck handleValid =>
      some { s with
        callbackMutex := s.callbackMutex.unlockShared .watchdog
        watchdog := if handleValid then .exchange else .sleep }
  | .exchange =>
      if s.positioningActive then some { s with watchdog := .sleep }
      else
        some { s.setReclaim .watchdog (some .lockDelete) with
          positioningActive := true
          watchdog := .sleep }

/-! ## Reclaiming the callbacks -/

/-- One step of `register_callbacks` and of what its two callers do after it;
`ok` says whether the driver returns a handle. -/
def runReclaim (s : State) (t : ThreadId) (ok : Bool) :
    ReclaimPc → Option State
  | .lockDelete =>
      (s.callbackMutex.lock t).map fun m =>
        { s.setReclaim t (some .delete) with callbackMutex := m }
  | .delete =>
      match s.gpsHandle with
      | some h => some ((s.record (.delete h)).setReclaim t (some .clear))
      | none => some (s.setReclaim t (some .clear))
  | .clear =>
      some { s.setReclaim t (some .unlockDelete) with gpsHandle := none }
  | .unlockDelete =>
      some { s.setReclaim t (some .callNew) with
        callbackMutex := s.callbackMutex.unlock }
  | .callNew => some ((s.record .new).setReclaim t (some .inNew))
  | .inNew =>
      if ok then
        some { (s.record (.returned (some s.nextHandle))).setReclaim t
            (some (.lockInstall (some s.nextHandle))) with
          nextHandle := s.nextHandle + 1 }
      else
        some ((s.record (.returned none)).setReclaim t
          (some (.lockInstall none)))
  | .lockInstall new =>
      (s.callbackMutex.lock t).map fun m =>
        { s.setReclaim t (some (.install new)) with callbackMutex := m }
  | .install new =>
      some { s.setReclaim t (some .unlockInstall) with gpsHandle := new }
  | .unlockInstall =>
      some { s.setReclaim t (some .readHandle) with
        callbackMutex := s.callbackMutex.unlock }
  | .readHandle =>
      match s.gpsHandle with
      | some _ => some (s.setReclaim t (some .loadMode))
      | none => some (s.setReclaim t (some .lockRead))
  | .loadMode => some (s.setReclaim t (some (.callMode s.gpsHandle)))
  | .callMode o => some ((s.dispatchModes o).setReclaim t (some .inMode))
  | .inMode => some (s.setReclaim t (some .lockRead))
  | .lockRead =>
      (s.callbackMutex.lockShared t).map fun m =>
        { s.setReclaim t (some .read) with callbackMutex := m }
  | .read => some (s.setReclaim t (some (.unlockRead s.gpsHandle)))
  | .unlockRead o =>
      -- only the watchdog dispatches the modes a second time
      some { s.setReclaim t (some (match o with
          | none => .release
          | some h => if t = .watchdog then .loadAgain h else .arm h)) with
        callbackMutex := s.callbackMutex.unlockShared t }
  | .loadAgain h => some (s.setReclaim t (some (.callAgain h s.gpsHandle)))
  | .callAgain h o =>
      some ((s.dispatchModes o).setReclaim t (some (.inAgain h)))
  | .inAgain h => some (s.setReclaim t (some (.arm h)))
  | .arm h =>
      some { s.setReclaim t (some (.start h)) with lastGpsMs := s.now }
  | .start h => some ((s.record (.start h)).setReclaim t (some .inStart))
  | .inStart => some (s.setReclaim t (some .release))
  | .release =>
      some { s.setReclaim t none with positioningActive := false }

/-! ## Callbacks -/

/-- What a callback does first under the lock. -/
def callbackBody (s : State) (k : Callback) : State :=
  let s := s.record (.callback k)
  match k with
  | .locationUpdate _ | .svStatusUpdate => { s with lastGpsMs := s.now }
  | .setCapabilities c => { s with capabilities := c }
  | _ => s

/-- What a callback injects: a location that becomes the reference position
comes back to the chipset through the engine. -/
def callbackInject (s : State) : Callback → State
  | .locationUpdate _ => s.record (.injectLocation s.gpsHandle)
  | .requestUtcTime _ =>
      if s.capabilities.onDemandTime then s.record (.injectTime s.gpsHandle)
      else s
  | .xtraDownloadRequest _ => s.record (.injectXtraData s.gpsHandle)
  | _ => s

/-- One step of a callback on thread `t`. -/
def runCallback (s : State) (t : ThreadId) : CallbackPc → Option State
  | .request k =>
      (s.callbackMutex.lockShared t).map fun m =>
        { s.setCallback t (some (.body k)) with callbackMutex := m }
  | .body k =>
      some ((s.callbackBody k).setCallback t
        (some (if k.injects then .inject k else .unlock)))
  | .inject k => some ((s.callbackInject k).setCallback t (some .unlock))
  | .unlock =>
      some { s.setCallback t none with
        callbackMutex := s.callbackMutex.unlockShared t }

end State

/-- The calls of the driver in which it may call back on the client. -/
def ClientPc.inDriver : ClientPc → Bool
  | .startInMode _ | .startInStart | .stopInStop | .inMode => true
  | _ => false

/-- The calls of the driver in which it may call back on a thread that
reclaims. -/
def ReclaimPc.inDriver : ReclaimPc → Bool
  | .inNew | .inMode | .inAgain _ | .inStart => true
  | _ => false

/-- The driver may call back on its own threads at any time, and on the
others while they are inside a call of the driver. -/
def State.inDriver (s : State) (t : ThreadId) : Bool :=
  match t with
  | .chipset _ => true
  | .client => s.client.inDriver
  | .watchdog | .recovery _ => (s.reclaim t).any ReclaimPc.inDriver

/-! ## The transition system -/

inductive Action where
  | tick (d : Nat)
  | call (op : ClientOp)
  | enter (t : ThreadId) (k : Callback)
  | run (t : ThreadId) (ok : Bool)
  deriving DecidableEq, Repr

/-- One step of thread `t`: the callback on it, the reclaim it is in, or the
code of its own. -/
def State.run (s : State) (t : ThreadId) (ok : Bool) : Option State :=
  match s.callback t with
  | some pc => s.runCallback t pc
  | none =>
      match s.reclaim t with
      | some pc => s.runReclaim t ok pc
      | none =>
          match t with
          | .client => s.runClient
          | .watchdog => s.runWatchdog
          | .recovery _ | .chipset _ => none

def step (a : Action) (s : State) : Option State :=
  match a with
  | .tick d => some { s with now := s.now + d }
  | .call op => if s.client = .idle then some (s.callOp op) else none
  | .enter t k =>
      if s.callback t = none ∧ s.inDriver t then
        some (s.setCallback t (some (.request k)))
      else none
  | .run t ok => s.run t ok

/-- How the constructor went: whether the driver returned a handle, when a
callback last stamped the timestamp and which capabilities were announced. -/
structure Boot where
  ok : Bool
  stamp : Option Nat
  capabilities : Capabilities
  created : Nat
  now : Nat
  deriving DecidableEq, Repr

/-- Clock readings are positive and the constructor's events are in order. -/
structure Boot.Timely (b : Boot) : Prop where
  positive : 0 < b.created
  created : b.created ≤ b.now
  stamp : ∀ t ∈ b.stamp, b.created ≤ t ∧ t ≤ b.now

instance (b : Boot) : Decidable b.Timely :=
  decidable_of_iff
    (0 < b.created ∧ b.created ≤ b.now ∧
      ∀ t ∈ b.stamp, b.created ≤ t ∧ t ≤ b.now)
    ⟨fun h => ⟨h.1, h.2.1, h.2.2⟩, fun h => ⟨h.1, h.2, h.3⟩⟩

/-- What the constructor leaves in the log. -/
def Boot.log (b : Boot) : List Entry :=
  (b.stamp.toList.map fun t => ⟨t, .callback .svStatusUpdate⟩) ++
    (if b.ok then
      [⟨b.created, .setPositionMode (some 0) .mobileStationBased .periodic⟩]
    else []) ++
    [⟨b.created, .returned (if b.ok then some 0 else none)⟩, ⟨b.created, .new⟩]

/-- The layer when the constructor returns. -/
def afterConstructor (b : Boot) : State where
  gpsHandle := if b.ok then some 0 else none
  positioningActive := false
  lastGpsMs := b.stamp.getD 0
  capabilities := b.capabilities
  assistanceMode := .mobileStationBased
  positionMode := .periodic
  callbackMutex := .free
  now := b.now
  nextHandle := if b.ok then 1 else 0
  spawned := 0
  client := .idle
  watchdog := .sleep
  reclaim := fun _ => none
  callback := fun _ => none
  log := b.log

/-- Every interleaving of the threads, from the end of the constructor on. -/
def machine : Machine State Action where
  initial s := ∃ b : Boot, b.Timely ∧ s = afterConstructor b
  step a s t := step a s = some t

/-- The states of all runs. -/
def Reachable (s : State) : Prop := machine.Reach (fun _ _ => True) s

end LocationService.Gps
