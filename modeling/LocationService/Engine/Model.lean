import LocationService.Library.Notification
import LocationService.Provider.Controller

/-!
# The positioning engine and the service bound to it

An `Engine` owns state tracking providers and three observable properties:
its own status, the state of satellite based positioning and, inside each
provider, whether the provider is active.  `service::Implementation` binds its
boolean D-Bus properties to the first two in both directions.  All of them
notify synchronously and re-entrantly, so one assignment can run through
several others before it returns.

This file is the source's slots, statement by statement, as the slots of a
property network.  Nothing is proved here but the monotonicity the network
asks for.
-/

namespace LocationService

open LocationService.Library

/-- `Engine::Status`. -/
inductive Status where
  | off
  | on
  | active
  deriving DecidableEq, Repr

/-- `SatelliteBasedPositioningState`. -/
inductive SatelliteBasedPositioningState where
  | on
  | off
  deriving DecidableEq, Repr

/-- `StateTrackingProvider::State`. -/
inductive ProviderState where
  | active
  | enabled
  deriving DecidableEq, Repr

/-- `service::State`, the `State` property on the bus. -/
inductive ServiceState where
  | disabled
  | enabled
  | active
  deriving DecidableEq, Repr

abbrev ProviderId := Nat

/-- A `StateTrackingProvider` and the implementation it wraps. -/
structure StateTrackingProvider where
  /-- The answer of `requires(Requirements::satellites)`. -/
  requiresSatellites : Bool
  controller : Controller
  state : ProviderState
  impl : Implementation

/-- `StateTrackingProvider::StateTrackingProvider` around a new
implementation. -/
def StateTrackingProvider.init (requiresSatellites : Bool) :
    StateTrackingProvider :=
  ⟨requiresSatellites, .init, .enabled, .init⟩

/-- The properties of `service::Implementation` that are bound to the
engine. -/
structure Service where
  isOnline : Bool
  state : ServiceState
  doesSatelliteBasedPositioning : Bool
  deriving DecidableEq, Repr

/-- An engine and the service connected to it, if there is one. -/
structure System where
  /-- The keys of the map of providers in iteration order, which is the order
  of their addresses and not the order they were added in. -/
  order : List ProviderId
  provider : ProviderId → StateTrackingProvider
  engineState : Status
  satelliteBasedPositioningState : SatelliteBasedPositioningState
  /-- What the settings hold for `Engine::State`. -/
  persistedEngineState : Status
  service : Option Service

namespace System

/-! ## Field updates -/

/-- Replaces one provider. -/
def setProvider (s : System) (i : ProviderId) (p : StateTrackingProvider) :
    System :=
  { s with provider := Function.update s.provider i p }

/-- The counter of one stream of one provider. -/
def counter (s : System) (i : ProviderId) (x : Stream) : Int :=
  (s.provider i).controller.counter x

/-- The counter of the implementation behind a provider. -/
def implCounter (s : System) (i : ProviderId) (x : Stream) : Int :=
  (s.provider i).impl.controller.counter x

/-- The underlying implementation of a provider has been started for a stream
and not stopped since. -/
def Running (s : System) (i : ProviderId) (x : Stream) : Prop :=
  (s.provider i).impl.Running x

instance (s : System) (i : ProviderId) (x : Stream) :
    Decidable (s.Running i x) :=
  inferInstanceAs (Decidable (Implementation.Running _ _))

/-- A provider the satellite switch keeps disabled. -/
def satelliteBlocked (s : System) (i : ProviderId) : Bool :=
  (s.provider i).requiresSatellites &&
    (s.satelliteBasedPositioningState == .off)

def enableProvider (s : System) (i : ProviderId) : System :=
  s.setProvider i
    { s.provider i with controller := (s.provider i).controller.enable }

def markProviderDisabled (s : System) (i : ProviderId) : System :=
  s.setProvider i
    { s.provider i with controller := (s.provider i).controller.markDisabled }

def setController (s : System) (i : ProviderId) (c : Controller) : System :=
  s.setProvider i { s.provider i with controller := c }

def setProviderState (s : System) (i : ProviderId) (v : ProviderState) :
    System :=
  s.setProvider i { s.provider i with state := v }

def startImpl (s : System) (i : ProviderId) (x : Stream) : System :=
  s.setProvider i
    { s.provider i with impl := (s.provider i).impl.startUpdates x }

def stopImpl (s : System) (i : ProviderId) (x : Stream) : System :=
  s.setProvider i
    { s.provider i with impl := (s.provider i).impl.stopUpdates x }

def setServiceState (s : System) (v : ServiceState) : System :=
  { s with service := s.service.map fun svc => { svc with state := v } }

/-- `is_any_active` of the provider state slot. -/
def isAnyActive (s : System) : Bool :=
  s.order.any fun i => (s.provider i).state == .active

/-! ## Properties and their slots -/

/-- The assignments that notify. -/
inductive Assignment where
  | engineState (v : Status)
  | satelliteBasedPositioningState (v : SatelliteBasedPositioningState)
  | isOnline (v : Bool)
  | doesSatelliteBasedPositioning (v : Bool)
  | providerState (i : ProviderId) (v : ProviderState)
  deriving DecidableEq, Repr

/-- The property already has the value.  Without a service there is no
`isOnline` and no `doesSatelliteBasedPositioning` to assign. -/
def holds (a : Assignment) (s : System) : Bool :=
  match a with
  | .engineState v => s.engineState == v
  | .satelliteBasedPositioningState v => s.satelliteBasedPositioningState == v
  | .isOnline v => s.service.all fun svc => svc.isOnline == v
  | .doesSatelliteBasedPositioning v =>
      s.service.all fun svc => svc.doesSatelliteBasedPositioning == v
  | .providerState i v => (s.provider i).state == v

/-- Stores the value. -/
def store (a : Assignment) (s : System) : System :=
  match a with
  | .engineState v => { s with engineState := v }
  | .satelliteBasedPositioningState v =>
      { s with satelliteBasedPositioningState := v }
  | .isOnline v =>
      { s with service := s.service.map fun svc => { svc with isOnline := v } }
  | .doesSatelliteBasedPositioning v =>
      { s with
        service := s.service.map fun svc =>
          { svc with doesSatelliteBasedPositioning := v } }
  | .providerState i v => s.setProviderState i v

section Slots

variable (set : Assigner System Assignment)

/-- `StateTrackingProvider::stop_*_updates`, the stop hook. -/
def stopHook (s : System) (i : ProviderId) (x : Stream) : Option System := do
  let s ← set (.providerState i .enabled) s
  return s.stopImpl i x

/-- `StateTrackingProvider::start_*_updates`, the start hook. -/
def startHook (s : System) (i : ProviderId) (x : Stream) : Option System := do
  let s ← set (.providerState i .active) s
  return s.startImpl i x

/-- One conditional stop of `Controller::disable`. -/
def disableStream (i : ProviderId) (s : System) (x : Stream) : Option System :=
  if 0 < s.counter i x then stopHook set s i x else some s

/-- `Controller::disable` of a state tracking provider.  The counters keep
their values while the stop hooks run. -/
def disable (s : System) (i : ProviderId) : Option System := do
  let s ← Stream.all.foldlM (disableStream set i) s
  return s.markProviderDisabled i

/-- The engine's own slot on its status, for one provider. -/
def applyEngineState (v : Status) (s : System) (i : ProviderId) :
    Option System :=
  match v with
  | .on => if s.satelliteBlocked i then some s else some (s.enableProvider i)
  | .off => disable set s i
  | .active => some s

/-- The engine's own slot on the satellite state, for one provider. -/
def applySatelliteState (v : SatelliteBasedPositioningState) (s : System)
    (i : ProviderId) : Option System :=
  if (s.provider i).requiresSatellites then
    match v with
    | .on =>
        if s.engineState == .on then some (s.enableProvider i) else some s
    | .off => disable set s i
  else some s

/-- The slot of `service::Implementation` on the engine's status. -/
def mirrorEngineState (v : Status) (s : System) : Option System :=
  match s.service with
  | none => some s
  | some _ =>
      match v with
      | .off => do
          let s ← set (.isOnline false) s
          return s.setServiceState .disabled
      | .on => do
          let s ← set (.isOnline true) s
          return s.setServiceState .enabled
      | .active => do
          let s ← set (.isOnline true) s
          return s.setServiceState .active

/-- All slots of a property, in connection order. -/
def slots (a : Assignment) (s : System) : Option System :=
  match a with
  | .engineState v => do
      let s ← s.order.foldlM (applyEngineState set v) s
      let s := { s with persistedEngineState := v }
      mirrorEngineState set v s
  | .satelliteBasedPositioningState v => do
      let s ← s.order.foldlM (applySatelliteState set v) s
      set (.doesSatelliteBasedPositioning (v == .on)) s
  | .isOnline v => set (.engineState (if v then .on else .off)) s
  | .doesSatelliteBasedPositioning v =>
      set (.satelliteBasedPositioningState (if v then .on else .off)) s
  | .providerState _ _ =>
      set (.engineState (if s.isAnyActive then .active else .on)) s

end Slots

section Monotone

variable {f g : Assigner System Assignment} (h : f.Le g)
include h

theorem stopHook_le (i : ProviderId) (x : Stream) (s t : System)
    (ht : stopHook f s i x = some t) : stopHook g s i x = some t :=
  bind_le (h _ s) (fun _ _ hu => hu) ht

private theorem disable_le (s : System) (i : ProviderId) (t : System)
    (ht : disable f s i = some t) : disable g s i = some t := by
  refine bind_le (fun u hu => foldlM_le ?_ Stream.all hu) (fun _ _ hu => hu) ht
  intro s x t hs
  unfold disableStream at hs ⊢
  split
  · rename_i hpos
    rw [if_pos hpos] at hs
    exact stopHook_le h i x s t hs
  · rename_i hpos
    rwa [if_neg hpos] at hs

private theorem applyEngineState_le (v : Status) (s : System) (i : ProviderId)
    (t : System) (ht : applyEngineState f v s i = some t) :
    applyEngineState g v s i = some t := by
  cases v with
  | on => exact ht
  | off => exact disable_le h s i t ht
  | active => exact ht

private theorem applySatelliteState_le (v : SatelliteBasedPositioningState)
    (s : System) (i : ProviderId) (t : System)
    (ht : applySatelliteState f v s i = some t) :
    applySatelliteState g v s i = some t := by
  unfold applySatelliteState at ht ⊢
  split
  · rename_i hreq
    rw [if_pos hreq] at ht
    cases v with
    | on => exact ht
    | off => exact disable_le h s i t ht
  · rename_i hreq
    rwa [if_neg hreq] at ht

private theorem mirrorEngineState_le (v : Status) (s t : System)
    (ht : mirrorEngineState f v s = some t) :
    mirrorEngineState g v s = some t := by
  unfold mirrorEngineState at ht ⊢
  cases hsvc : s.service with
  | none => simpa [hsvc] using ht
  | some svc =>
      simp only [hsvc] at ht ⊢
      cases v <;> exact bind_le (h _ s) (fun _ _ hu => hu) ht

theorem slots_le (a : Assignment) (s t : System) (ht : slots f a s = some t) :
    slots g a s = some t := by
  cases a with
  | engineState v =>
      exact bind_le
        (fun u hu => foldlM_le (applyEngineState_le h v) s.order hu)
        (fun u w hw => mirrorEngineState_le h v _ w hw) ht
  | satelliteBasedPositioningState v =>
      exact bind_le
        (fun u hu => foldlM_le (applySatelliteState_le h v) s.order hu)
        (fun u w hw => h _ u w hw) ht
  | isOnline v => exact h _ s t ht
  | doesSatelliteBasedPositioning v => exact h _ s t ht
  | providerState i v => exact h _ s t ht

end Monotone

/-- The engine and the service as a property network. -/
def network : Network System Assignment where
  holds := holds
  store := store
  slots := slots
  slots_mono := fun _ _ h => slots_le h

/-! ## What clients and the daemon do -/

/-- `state_controller()->start_*_updates()` on a state tracking provider. -/
def startUpdates (set : Assigner System Assignment) (s : System)
    (i : ProviderId) (x : Stream) : Option System :=
  let (c, hook) := (s.provider i).controller.startUpdates x
  let s := s.setController i c
  if hook then startHook set s i x else some s

/-- `state_controller()->stop_*_updates()` on a state tracking provider. -/
def stopUpdates (set : Assigner System Assignment) (s : System)
    (i : ProviderId) (x : Stream) : Option System :=
  let (c, hook) := (s.provider i).controller.stopUpdates x
  let s := s.setController i c
  if hook then stopHook set s i x else some s

/-- `Engine::add_provider`.  The new map entry lands after the first `k`
providers. -/
def addProvider (s : System) (k : Nat) (requiresSatellites : Bool) : System :=
  let i := s.order.length
  let p := StateTrackingProvider.init requiresSatellites
  let p :=
    if requiresSatellites && (s.satelliteBasedPositioningState == .off) then
      { p with controller := p.controller.markDisabled } else p
  let p :=
    if s.engineState == .off then
      { p with controller := p.controller.markDisabled } else p
  { s.setProvider i p with order := s.order.take k ++ i :: s.order.drop k }

/-- `Engine::Engine` with `v` persisted in the settings; satellite based
positioning always starts with its default. -/
def initEngine (v : Status) : System :=
  { order := []
    provider := fun _ => .init false
    engineState := v
    satelliteBasedPositioningState := .on
    persistedEngineState := v
    service := none }

/-- The `switch` in the constructor body of `service::Implementation`. -/
def copyEngineState (set : Assigner System Assignment) (s : System) :
    Option System :=
  match s.engineState with
  | .off => do
      let s ← set (.isOnline false) s
      return s.setServiceState .disabled
  | .on => do
      let s ← set (.isOnline true) s
      return s.setServiceState .enabled
  | .active => do
      let s ← set (.isOnline true) s
      return s.setServiceState .active

/-- The constructor of `service::Implementation`: the slots are connected
first, then the constructor body copies the engine's state. -/
def constructService (set : Assigner System Assignment) (s : System) :
    Option System := do
  let s ← copyEngineState set { s with service := some ⟨false, .disabled, false⟩ }
  set (.doesSatelliteBasedPositioning
    (s.satelliteBasedPositioningState == .on)) s

section Monotone

variable {f g : Assigner System Assignment} (h : f.Le g)
include h

theorem startUpdates_le (i : ProviderId) (x : Stream) (s t : System)
    (ht : startUpdates f s i x = some t) : startUpdates g s i x = some t := by
  unfold startUpdates at ht ⊢
  dsimp only at ht ⊢
  split
  · rename_i hhook
    rw [if_pos hhook] at ht
    exact bind_le (h _ _) (fun _ _ hu => hu) ht
  · rename_i hhook
    rwa [if_neg hhook] at ht

theorem stopUpdates_le (i : ProviderId) (x : Stream) (s t : System)
    (ht : stopUpdates f s i x = some t) : stopUpdates g s i x = some t := by
  unfold stopUpdates at ht ⊢
  dsimp only at ht ⊢
  split
  · rename_i hhook
    rw [if_pos hhook] at ht
    exact stopHook_le h i x _ t ht
  · rename_i hhook
    rwa [if_neg hhook] at ht

theorem constructService_le (s t : System)
    (ht : constructService f s = some t) :
    constructService g s = some t := by
  refine bind_le (fun u hu => ?_) (fun u w hw => h _ u w hw) ht
  unfold copyEngineState at hu ⊢
  cases hes : s.engineState <;> simp only [hes] at hu ⊢ <;>
    exact bind_le (h _ _) (fun _ _ hw => hw) hu

end Monotone

end System

end LocationService
