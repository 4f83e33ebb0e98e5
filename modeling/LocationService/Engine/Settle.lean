import LocationService.Engine.Model

/-!
# What a nested assignment settles to

The slots of the engine and of the service nest, but never deeply: a status
assignment that enables providers ends after it has set `isOnline`, and a
change of a provider's state ends after one status assignment.  This file
gives each of those assignments its result as a plain function of the state
and proves that the network computes it at every sufficient depth.

Disabling is the only operation that runs hooks in the middle of a loop; its
result, `settleDisable`, is again a plain function, folded over the providers
in iteration order.
-/

namespace LocationService.System

open LocationService.Library

/-! ## Simple facts about field updates -/

@[simp] theorem setProvider_self (s : System) (i : ProviderId)
    (p : StateTrackingProvider) : (s.setProvider i p).provider i = p := by
  simp [setProvider]

@[simp] theorem setProvider_ne (s : System) {i j : ProviderId}
    (p : StateTrackingProvider) (h : j ≠ i) :
    (s.setProvider i p).provider j = s.provider j := by
  simp [setProvider, h]

@[simp] theorem setProvider_order (s : System) (i : ProviderId)
    (p : StateTrackingProvider) : (s.setProvider i p).order = s.order := rfl

@[simp] theorem setProvider_engineState (s : System) (i : ProviderId)
    (p : StateTrackingProvider) :
    (s.setProvider i p).engineState = s.engineState := rfl

@[simp] theorem setProvider_satellite (s : System) (i : ProviderId)
    (p : StateTrackingProvider) :
    (s.setProvider i p).satelliteBasedPositioningState =
      s.satelliteBasedPositioningState := rfl

@[simp] theorem setProvider_service (s : System) (i : ProviderId)
    (p : StateTrackingProvider) :
    (s.setProvider i p).service = s.service := rfl

@[simp] theorem setProvider_persisted (s : System) (i : ProviderId)
    (p : StateTrackingProvider) :
    (s.setProvider i p).persistedEngineState = s.persistedEngineState := rfl

/-! ## Enabling -/

/-- Every known provider that the satellite switch does not block is
enabled. -/
def enableAll (s : System) : System :=
  { s with
    provider := fun i =>
      if i ∈ s.order ∧ s.satelliteBlocked i = false then
        { s.provider i with controller := (s.provider i).controller.enable }
      else s.provider i }

private theorem foldlM_applyEngineState_on (set : Assigner System Assignment)
    (is : List ProviderId) (s : System) :
    is.foldlM (applyEngineState set .on) s =
      some { s with
        provider := fun i =>
          if i ∈ is ∧ s.satelliteBlocked i = false then
            { s.provider i with
              controller := (s.provider i).controller.enable }
          else s.provider i } := by
  induction is generalizing s with
  | nil => simp
  | cons j is ih =>
      rw [List.foldlM_cons]
      by_cases hb : s.satelliteBlocked j = true
      · have hstep : applyEngineState set .on s j = some s := by
          simp [applyEngineState, hb]
        rw [hstep]
        show is.foldlM (applyEngineState set .on) s = _
        rw [ih s]
        congr 2
        funext i
        by_cases hij : i = j
        · subst hij
          simp [hb]
        · simp [hij]
      · have hb' : s.satelliteBlocked j = false := by simpa using hb
        have hstep : applyEngineState set .on s j =
            some (s.enableProvider j) := by
          simp [applyEngineState, hb']
        rw [hstep]
        show is.foldlM (applyEngineState set .on) (s.enableProvider j) = _
        rw [ih (s.enableProvider j)]
        unfold enableProvider setProvider
        congr 2
        funext i
        by_cases hij : i = j
        · subst hij
          have hb'' := hb'
          unfold satelliteBlocked at hb''
          simp [satelliteBlocked, hb'', Controller.enable]
        · simp [hij, satelliteBlocked]

/-- The engine's slot on `Status::on` enables every provider it may. -/
theorem foldlM_order_on (set : Assigner System Assignment) (s : System) :
    s.order.foldlM (applyEngineState set .on) s = some s.enableAll :=
  foldlM_applyEngineState_on set s.order s

/-- The engine's slot on `Status::active` does nothing. -/
theorem foldlM_order_active (set : Assigner System Assignment)
    (is : List ProviderId) (s : System) :
    is.foldlM (applyEngineState set .active) s = some s := by
  induction is with
  | nil => rfl
  | cons j is ih =>
      rw [List.foldlM_cons]
      exact ih

/-! ## The status assignments that enable -/

/-- Marks the service online. -/
def goOnline (s : System) : System :=
  { s with service := s.service.map fun svc => { svc with isOnline := true } }

/-- What `engine_state = on` settles to when the status was another one. -/
def settleOn (s : System) : System :=
  { s.enableAll with
    engineState := .on
    persistedEngineState := .on
    service := s.service.map fun svc =>
      { svc with isOnline := true, state := .enabled } }

/-- The service is online, or there is none. -/
def Online (s : System) : Prop := s.service.all Service.isOnline = true

instance (s : System) : Decidable s.Online :=
  inferInstanceAs (Decidable (_ = _))

/-- What `engine_state = active` settles to when the status was another one.
Going online on the way assigns `on` over the `active` just stored. -/
def settleActive (s : System) : System :=
  if s.Online then
    { s with
      engineState := .active
      persistedEngineState := .active
      service := s.service.map fun svc => { svc with state := .active } }
  else s.settleOn.setServiceState .active

private theorem assign_isOnline_true_of_on (n : Nat) {s : System}
    (h : s.engineState = .on) :
    network.assign (n + 1) (.isOnline true) s = some s.goOnline := by
  cases hsvc : s.service with
  | none =>
      rw [network.assign_of_holds (by simp [network, holds, hsvc])]
      simp [goOnline, hsvc]
      cases s
      simp_all
  | some svc =>
      by_cases hon : svc.isOnline = true
      · rw [network.assign_of_holds (by simp [network, holds, hsvc, hon])]
        cases s
        cases svc
        simp_all [goOnline]
      · have hf : svc.isOnline = false := by simpa using hon
        rw [network.assign_of_not_holds (by simp [network, holds, hsvc, hf])]
        show network.assign n (.engineState .on) s.goOnline = _
        exact network.assign_of_holds
          (by simp [network, holds, goOnline, h]) n

/-- `engine_state = on` settles two assignments deep. -/
theorem assign_on (n : Nat) {s : System} (h : s.engineState ≠ .on) :
    network.assign (n + 2) (.engineState .on) s = some s.settleOn := by
  rw [network.assign_of_not_holds (by simp [network, holds, h])]
  show slots (network.assign (n + 1)) (.engineState .on)
    { s with engineState := .on } = _
  have hloop := foldlM_order_on (network.assign (n + 1))
    { s with engineState := .on }
  simp only [slots, hloop, Option.bind_eq_bind, Option.bind_some]
  unfold mirrorEngineState
  cases hsvc : s.service with
  | none => simp [settleOn, enableAll, satelliteBlocked, hsvc]
  | some svc =>
      simp only [enableAll]
      rw [assign_isOnline_true_of_on n rfl]
      simp [settleOn, enableAll, satelliteBlocked, goOnline, setServiceState,
        hsvc]

theorem assign_isOnline_of_online (n : Nat) {s : System} (h : s.Online) :
    network.assign n (.isOnline true) s = some s := by
  refine network.assign_of_holds ?_ n
  simpa [network, holds, Online] using h

private theorem settleOn_goOnline (s : System) :
    s.goOnline.settleOn = s.settleOn := by
  simp [settleOn, goOnline, enableAll, satelliteBlocked]
  cases s.service <;> rfl

/-- Going online from another status than `on` assigns `on`. -/
theorem assign_isOnline_true (n : Nat) {s : System} (h : ¬ s.Online)
    (hne : s.engineState ≠ .on) :
    network.assign (n + 3) (.isOnline true) s = some s.settleOn := by
  rw [network.assign_of_not_holds (by simpa [network, holds, Online] using h)]
  show network.assign (n + 2) (.engineState .on) s.goOnline = _
  rw [assign_on n (s := s.goOnline) hne, settleOn_goOnline]

/-- `engine_state = active` settles four assignments deep. -/
theorem assign_active (n : Nat) {s : System} (h : s.engineState ≠ .active) :
    network.assign (n + 4) (.engineState .active) s = some s.settleActive := by
  let t : System :=
    { s with engineState := .active, persistedEngineState := .active }
  have hmirror : network.assign (n + 4) (.engineState .active) s =
      mirrorEngineState (network.assign (n + 3)) .active t := by
    rw [network.assign_of_not_holds (by simp [network, holds, h])]
    show slots (network.assign (n + 3)) (.engineState .active)
      { s with engineState := .active } = _
    simp only [slots, foldlM_order_active, Option.bind_eq_bind,
      Option.bind_some]
    rfl
  rw [hmirror]
  unfold mirrorEngineState settleActive
  cases hsvc : s.service with
  | none => simp [t, Online, hsvc]
  | some svc =>
      simp only
      by_cases hon : s.Online
      · rw [assign_isOnline_of_online (n + 3) (show t.Online from hon),
          if_pos hon]
        simp [t, setServiceState, hsvc]
      · rw [assign_isOnline_true n (show ¬ t.Online from hon)
          (by simp [t]), if_neg hon]
        rfl

/-! ## The provider state slot -/

/-- What the engine's slot on a provider's state settles to: the status
follows whether some provider is active. -/
def recompute (s : System) : System :=
  if s.isAnyActive then
    if s.engineState = .active then s else s.settleActive
  else
    if s.engineState = .on then s else s.settleOn

/-- What an assignment to a provider's state settles to. -/
def settleProviderState (s : System) (i : ProviderId) (v : ProviderState) :
    System :=
  if (s.provider i).state = v then s else (s.setProviderState i v).recompute

theorem assign_recompute (n : Nat) (s : System) :
    network.assign (n + 4)
      (.engineState (if s.isAnyActive then .active else .on)) s =
      some s.recompute := by
  unfold recompute
  by_cases hany : s.isAnyActive = true
  · simp only [hany, if_true]
    by_cases h : s.engineState = .active
    · rw [if_pos h]
      exact network.assign_of_holds (by simp [network, holds, h]) _
    · rw [if_neg h]
      exact assign_active n h
  · simp only [hany]
    by_cases h : s.engineState = .on
    · rw [if_neg (by simp), if_neg (by simp), if_pos h]
      exact network.assign_of_holds (by simp [network, holds, h]) _
    · rw [if_neg (by simp), if_neg (by simp), if_neg h]
      exact assign_on (n + 2) h

/-- A provider state assignment settles five assignments deep. -/
theorem assign_providerState (n : Nat) (s : System) (i : ProviderId)
    (v : ProviderState) :
    network.assign (n + 5) (.providerState i v) s =
      some (s.settleProviderState i v) := by
  unfold settleProviderState
  by_cases h : (s.provider i).state = v
  · rw [if_pos h]
    exact network.assign_of_holds (by simp [network, holds, h]) _
  · rw [if_neg h, network.assign_of_not_holds (by simp [network, holds, h])]
    exact assign_recompute n (s.setProviderState i v)

/-! ## Disabling -/

/-- What a stop hook settles to. -/
def settleStop (s : System) (i : ProviderId) (x : Stream) : System :=
  (s.settleProviderState i .enabled).stopImpl i x

/-- What a start hook settles to. -/
def settleStart (s : System) (i : ProviderId) (x : Stream) : System :=
  (s.settleProviderState i .active).startImpl i x

/-- What one conditional stop of `disable` settles to. -/
def settleDisableStream (i : ProviderId) (s : System) (x : Stream) : System :=
  if 0 < s.counter i x then s.settleStop i x else s

/-- What `disable` settles to. -/
def settleDisable (s : System) (i : ProviderId) : System :=
  (Stream.all.foldl (settleDisableStream i) s).markProviderDisabled i

theorem stopHook_eq (n : Nat) (s : System) (i : ProviderId) (x : Stream) :
    stopHook (network.assign (n + 5)) s i x = some (s.settleStop i x) := by
  unfold stopHook
  rw [assign_providerState]
  rfl

theorem startHook_eq (n : Nat) (s : System) (i : ProviderId) (x : Stream) :
    startHook (network.assign (n + 5)) s i x = some (s.settleStart i x) := by
  unfold startHook
  rw [assign_providerState]
  rfl

theorem disable_eq (n : Nat) (s : System) (i : ProviderId) :
    disable (network.assign (n + 5)) s i = some (s.settleDisable i) := by
  have hbody : disableStream (network.assign (n + 5)) i =
      fun s x => some (settleDisableStream i s x) := by
    funext s x
    unfold disableStream settleDisableStream
    rw [stopHook_eq]
    split <;> rfl
  unfold disable
  rw [hbody]
  have hfold := List.foldlM_pure (m := Option)
    (f := settleDisableStream i) (b := s) (l := Stream.all)
  simp only [pure] at hfold
  rw [hfold]
  rfl

end LocationService.System
