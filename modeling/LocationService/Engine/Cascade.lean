import LocationService.Engine.Disable

/-!
# Every external assignment settles

`settle` gives each assignment that a client can make its result as a plain
function, and `assign_settle` proves that the network computes it within
seven nested assignments, from every state and for every number of providers.

Switching the engine off is the interesting case.  A stop hook that runs in
the loop over the providers turns the engine on again; only the service's
slot, which finds itself online once more, switches it off a second time, and
by then no provider has a live stream left.
-/

namespace LocationService.System

open LocationService.Library

/-! ## Loops without live streams -/

/-- The providers of a list are disabled without calling any hook. -/
def markAll (s : System) (is : List ProviderId) : System :=
  { s with
    provider := fun i =>
      if i ∈ is then
        { s.provider i with
          controller := (s.provider i).controller.markDisabled }
      else s.provider i }

/-- Without live streams the loop only marks the counters. -/
theorem foldl_settleDisable_quiet (is : List ProviderId) (s : System)
    (h : ∀ i ∈ is, s.liveStreams i = []) :
    is.foldl settleDisable s = s.markAll is := by
  induction is generalizing s with
  | nil => simp [markAll]
  | cons j is ih =>
      rw [List.foldl_cons, settleDisable_nil (h j (List.mem_cons_self ..)),
        ih]
      · unfold markAll markProviderDisabled setProvider
        congr 1
        funext i
        by_cases hij : i = j
        · subst hij
          simp [Controller.markDisabled]
        · simp [hij]
      · intro i hi
        refine List.filter_eq_nil_iff.mpr fun x _ => ?_
        rw [markProviderDisabled_counter]
        by_cases hij : i = j
        · rw [if_pos hij]
          simp
        · rw [if_neg hij]
          have := List.filter_eq_nil_iff.mp
            (h i (List.mem_cons_of_mem _ hi)) x (Stream.mem_all x)
          exact this

theorem markAll_counter (s : System) (is : List ProviderId) (i : ProviderId)
    (x : Stream) :
    (s.markAll is).counter i x = if i ∈ is then -1 else s.counter i x := by
  unfold markAll counter
  dsimp only
  split <;> rfl

theorem foldlM_applyEngineState_off (n : Nat) (s : System)
    (is : List ProviderId) :
    is.foldlM (applyEngineState (network.assign (n + 5)) .off) s =
      some (is.foldl settleDisable s) := by
  have hbody : applyEngineState (network.assign (n + 5)) .off =
      fun s i => some (settleDisable s i) := by
    funext s i
    exact disable_eq n s i
  rw [hbody]
  exact List.foldlM_pure (m := Option)

/-! ## Switching the engine off -/

/-- The state after the engine's own slots on `Status::off`. -/
def afterOffLoop (s : System) : System :=
  { s.order.foldl settleDisable { s with engineState := .off } with
    persistedEngineState := .off }

/-- Marks the service offline and disabled. -/
def goOffline (s : System) : System :=
  { s with
    service := s.service.map fun svc =>
      { svc with isOnline := false, state := .disabled } }

/-- What `engine_state = off` settles to when the status was another one.  A
service that finds itself online switches the engine off once more. -/
def settleOff (s : System) : System :=
  let t := s.afterOffLoop
  match t.service with
  | none => t
  | some svc =>
      if svc.isOnline = true ∧ t.engineState ≠ .off then
        { t.markAll t.order with engineState := .off }.goOffline
      else t.goOffline

theorem afterOffLoop_swept (s : System) :
    Swept (· ∈ s.order) s s.afterOffLoop := by
  have h := swept_foldl s.order { s with engineState := .off }
  exact
    { order := h.order
      service := h.service
      satellite := h.satellite
      requires := h.requires
      impl := h.impl
      impl_ne := h.impl_ne
      counter := h.counter }

private theorem liveStreams_afterOffLoop (s : System) (i : ProviderId)
    (hi : i ∈ s.order) : s.afterOffLoop.liveStreams i = [] := by
  refine List.filter_eq_nil_iff.mpr fun x _ => ?_
  have := s.afterOffLoop_swept.counter_le hi x
  simpa using this

private theorem assign_isOnline_false_of_off (n : Nat) {s : System}
    (h : s.engineState = .off) :
    (network.assign (n + 1) (.isOnline false) s).bind
      (fun s => some (s.setServiceState .disabled)) = some s.goOffline := by
  cases hsvc : s.service with
  | none =>
      rw [network.assign_of_holds (by simp [network, holds, hsvc])]
      simp [setServiceState, goOffline, hsvc]
  | some svc =>
      by_cases hon : svc.isOnline = true
      · rw [network.assign_of_not_holds (by simp [network, holds, hsvc, hon])]
        show (Option.bind (network.assign n (.engineState .off) _) _) = _
        rw [network.assign_of_holds (by simp [network, holds, store, h])]
        simp [network, store, setServiceState, goOffline, hsvc]
      · have hf : svc.isOnline = false := by simpa using hon
        rw [network.assign_of_holds (by simp [network, holds, hsvc, hf])]
        simp [setServiceState, goOffline, hsvc, hf]

/-- Switching off without live streams calls no hook. -/
private theorem assign_off_quiet (n : Nat) {s : System} {svc : Service}
    (h : s.engineState ≠ .off) (hsvc : s.service = some svc)
    (hquiet : ∀ i ∈ s.order, s.liveStreams i = [])
    (hper : s.persistedEngineState = .off) :
    network.assign (n + 6) (.engineState .off) s =
      some { s.markAll s.order with engineState := .off }.goOffline := by
  have hmirror : network.assign (n + 6) (.engineState .off) s =
      mirrorEngineState (network.assign (n + 5)) .off
        { s.markAll s.order with engineState := .off } := by
    rw [network.assign_of_not_holds (by simp [network, holds, h])]
    show slots (network.assign (n + 5)) (.engineState .off)
      { s with engineState := .off } = _
    have hloop := foldlM_applyEngineState_off n
      { s with engineState := .off } s.order
    rw [foldl_settleDisable_quiet s.order { s with engineState := .off }
      hquiet] at hloop
    simp only [slots, hloop, Option.bind_eq_bind, Option.bind_some]
    simp [markAll, hper]
  rw [hmirror]
  unfold mirrorEngineState
  have hsvc' : ({ s.markAll s.order with engineState := .off } :
      System).service = some svc := hsvc
  rw [hsvc']
  exact assign_isOnline_false_of_off (n + 4) rfl

/-- `engine_state = off` settles eight assignments deep. -/
theorem assign_off (n : Nat) {s : System} (h : s.engineState ≠ .off) :
    network.assign (n + 8) (.engineState .off) s = some s.settleOff := by
  have hmirror : network.assign (n + 8) (.engineState .off) s =
      mirrorEngineState (network.assign (n + 7)) .off s.afterOffLoop := by
    rw [network.assign_of_not_holds (by simp [network, holds, h])]
    show slots (network.assign (n + 7)) (.engineState .off)
      { s with engineState := .off } = _
    have hloop := foldlM_applyEngineState_off (n + 2)
      { s with engineState := .off } s.order
    simp only [slots, hloop, Option.bind_eq_bind, Option.bind_some]
    rfl
  rw [hmirror]
  unfold mirrorEngineState settleOff
  cases hsvc : s.afterOffLoop.service with
  | none => simp [hsvc]
  | some svc =>
      simp only [hsvc]
      by_cases hoff : s.afterOffLoop.engineState = .off
      · rw [if_neg (by simp [hoff])]
        exact assign_isOnline_false_of_off (n + 6) hoff
      · by_cases hon : svc.isOnline = true
        · rw [if_pos ⟨hon, hoff⟩]
          let u : System := store (.isOnline false) s.afterOffLoop
          have husvc : u.service = some { svc with isOnline := false } := by
            simp [u, store, hsvc]
          have hu : network.assign (n + 7) (.isOnline false) s.afterOffLoop =
              network.assign (n + 6) (.engineState .off) u := by
            rw [network.assign_of_not_holds
              (by simp [network, holds, hsvc, hon])]
            rfl
          have hquiet := assign_off_quiet n (s := u) hoff husvc
            (fun i hi => liveStreams_afterOffLoop s i
              (s.afterOffLoop_swept.order ▸ hi)) rfl
          rw [hu, hquiet]
          simp [u, store, goOffline, markAll, setServiceState, hsvc]
        · have hf : svc.isOnline = false := by simpa using hon
          rw [if_neg (by simp [hf]), network.assign_of_holds
            (by simp [network, holds, hsvc, hf])]
          simp [setServiceState, goOffline, hsvc, hf]

/-! ## Switching satellites -/

/-- The satellite slot for one provider. -/
def settleSatelliteProvider (v : SatelliteBasedPositioningState) (s : System)
    (i : ProviderId) : System :=
  if (s.provider i).requiresSatellites then
    match v with
    | .on => if s.engineState == .on then s.enableProvider i else s
    | .off => s.settleDisable i
  else s

/-- Mirrors the satellite state in the service. -/
def mirrorSatellite (v : Bool) (s : System) : System :=
  { s with
    service := s.service.map fun svc =>
      { svc with doesSatelliteBasedPositioning := v } }

/-- What `satellite_based_positioning_state = v` settles to when it had the
other value. -/
def settleSatellite (v : SatelliteBasedPositioningState) (s : System) :
    System :=
  (s.order.foldl (settleSatelliteProvider v)
    { s with satelliteBasedPositioningState := v }).mirrorSatellite (v == .on)

private theorem applySatelliteState_eq (n : Nat)
    (v : SatelliteBasedPositioningState) :
    applySatelliteState (network.assign (n + 5)) v =
      fun s i => some (settleSatelliteProvider v s i) := by
  funext s i
  unfold applySatelliteState settleSatelliteProvider
  by_cases hreq : (s.provider i).requiresSatellites = true
  · rw [if_pos hreq, if_pos hreq]
    cases v with
    | on =>
        dsimp only
        split <;> rfl
    | off => exact disable_eq n s i
  · rw [if_neg hreq, if_neg hreq]

/-- The satellite slot neither stores nor forgets the satellite state. -/
theorem settleSatelliteProvider_satellite (v : SatelliteBasedPositioningState)
    (s : System) (i : ProviderId) :
    (settleSatelliteProvider v s i).satelliteBasedPositioningState =
      s.satelliteBasedPositioningState := by
  unfold settleSatelliteProvider
  split
  · cases v with
    | on =>
        dsimp only
        split <;> rfl
    | off => exact (swept_settleDisable s i).satellite
  · rfl

private theorem foldl_settleSatellite_satellite
    (v : SatelliteBasedPositioningState) (is : List ProviderId) (s : System) :
    (is.foldl (settleSatelliteProvider v) s).satelliteBasedPositioningState =
      s.satelliteBasedPositioningState := by
  induction is generalizing s with
  | nil => rfl
  | cons i is ih =>
      rw [List.foldl_cons, ih, settleSatelliteProvider_satellite]

private theorem assign_doesSatellite (n : Nat) {s : System}
    {v : SatelliteBasedPositioningState}
    (h : s.satelliteBasedPositioningState = v) :
    network.assign (n + 1) (.doesSatelliteBasedPositioning (v == .on)) s =
      some (s.mirrorSatellite (v == .on)) := by
  have hv : (if (v == .on) = true then .on else .off :
      SatelliteBasedPositioningState) = v := by
    cases v <;> rfl
  cases hsvc : s.service with
  | none =>
      rw [network.assign_of_holds (by simp [network, holds, hsvc])]
      cases s
      simp_all [mirrorSatellite]
  | some svc =>
      by_cases hd : svc.doesSatelliteBasedPositioning = (v == .on)
      · rw [network.assign_of_holds (by simp [network, holds, hsvc, hd])]
        cases s
        cases svc
        simp_all [mirrorSatellite]
      · rw [network.assign_of_not_holds
          (by simpa [network, holds, hsvc] using hd)]
        show network.assign n (.satelliteBasedPositioningState _) _ = _
        rw [hv]
        exact network.assign_of_holds
          (by simp [network, holds, store, h]) n

/-- A satellite assignment settles six assignments deep. -/
theorem assign_satellite (n : Nat) {s : System}
    {v : SatelliteBasedPositioningState}
    (h : s.satelliteBasedPositioningState ≠ v) :
    network.assign (n + 6) (.satelliteBasedPositioningState v) s =
      some (s.settleSatellite v) := by
  rw [network.assign_of_not_holds (by simp [network, holds, h])]
  show slots (network.assign (n + 5)) (.satelliteBasedPositioningState v)
    { s with satelliteBasedPositioningState := v } = _
  have hloop : s.order.foldlM
      (applySatelliteState (network.assign (n + 5)) v)
      { s with satelliteBasedPositioningState := v } =
      some (s.order.foldl (settleSatelliteProvider v)
        { s with satelliteBasedPositioningState := v }) := by
    rw [applySatelliteState_eq]
    exact List.foldlM_pure (m := Option)
  simp only [slots, hloop, Option.bind_eq_bind, Option.bind_some]
  exact assign_doesSatellite (n + 4)
    (foldl_settleSatellite_satellite v s.order _)

/-! ## All assignments -/

/-- What `engine_state = v` settles to. -/
def settleEngineState (v : Status) (s : System) : System :=
  if s.engineState = v then s
  else
    match v with
    | .on => s.settleOn
    | .active => s.settleActive
    | .off => s.settleOff

/-- What `satellite_based_positioning_state = v` settles to. -/
def settleSatelliteState (v : SatelliteBasedPositioningState) (s : System) :
    System :=
  if s.satelliteBasedPositioningState = v then s else s.settleSatellite v

/-- What an assignment settles to. -/
def settle (a : Assignment) (s : System) : System :=
  if holds a s then s
  else
    match a with
    | .engineState v => s.settleEngineState v
    | .satelliteBasedPositioningState v => s.settleSatelliteState v
    | .isOnline v =>
        (store a s).settleEngineState (if v then .on else .off)
    | .doesSatelliteBasedPositioning v =>
        (store a s).settleSatelliteState (if v then .on else .off)
    | .providerState i v => s.settleProviderState i v

theorem settle_of_holds {a : Assignment} {s : System} (h : holds a s = true) :
    s.settle a = s := if_pos h

theorem settle_engineState (v : Status) (s : System) :
    s.settle (.engineState v) = s.settleEngineState v := by
  unfold settle
  split
  · rename_i h
    have hes : s.engineState = v := by simpa [holds] using h
    exact (if_pos hes).symm
  · rfl

/-- Assigning `isOnline` another value assigns the engine's status. -/
theorem settle_isOnline {v : Bool} {s : System}
    (h : holds (.isOnline v) s = false) :
    s.settle (.isOnline v) =
      (store (.isOnline v) s).settleEngineState (if v then .on else .off) := by
  unfold settle
  rw [if_neg (by simp [h])]

private theorem assign_settleEngineState (n : Nat) (v : Status) (s : System) :
    network.assign (n + 8) (.engineState v) s =
      some (s.settleEngineState v) := by
  unfold settleEngineState
  by_cases h : s.engineState = v
  · rw [if_pos h]
    exact network.assign_of_holds (by simp [network, holds, h]) _
  · rw [if_neg h]
    cases v with
    | on => exact assign_on (n + 6) h
    | active => exact assign_active (n + 4) h
    | off => exact assign_off n h

private theorem assign_settleSatelliteState (n : Nat)
    (v : SatelliteBasedPositioningState) (s : System) :
    network.assign (n + 6) (.satelliteBasedPositioningState v) s =
      some (s.settleSatelliteState v) := by
  unfold settleSatelliteState
  by_cases h : s.satelliteBasedPositioningState = v
  · rw [if_pos h]
    exact network.assign_of_holds (by simp [network, holds, h]) _
  · rw [if_neg h]
    exact assign_satellite n h

/-- Nine nested assignments are enough for every assignment in every state. -/
theorem assign_settle (n : Nat) (a : Assignment) (s : System) :
    network.assign (n + 9) a s = some (s.settle a) := by
  unfold settle
  by_cases h : holds a s = true
  · rw [if_pos h]
    exact network.assign_of_holds h _
  · have hf : network.holds a s = false := Bool.eq_false_iff.mpr h
    rw [if_neg h]
    cases a with
    | engineState v => exact assign_settleEngineState (n + 1) v s
    | satelliteBasedPositioningState v =>
        exact assign_settleSatelliteState (n + 3) v s
    | isOnline v =>
        rw [network.assign_of_not_holds hf]
        exact assign_settleEngineState n _ _
    | doesSatelliteBasedPositioning v =>
        rw [network.assign_of_not_holds hf]
        exact assign_settleSatelliteState (n + 2) _ _
    | providerState i v => exact assign_providerState (n + 4) s i v

/-- An assignment returns, and what it leaves is what it settles to. -/
theorem returns_iff {a : Assignment} {s t : System} :
    network.Returns a s t ↔ t = s.settle a := by
  constructor
  · intro h
    exact h.eq_of_assign (assign_settle 0 a s)
  · rintro rfl
    exact ⟨9, assign_settle 0 a s⟩

end LocationService.System
