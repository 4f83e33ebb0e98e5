import LocationService.Gps.Model
import LocationService.Library.Token

/-!
# Who holds what

Two facts about every reachable state from which the others follow: the mutex
is held by exactly the threads whose program counter says so, and
`positioning_active` is set exactly while one thread, and only one, is on its
way through the reclaim (or is the client about to spawn that thread).
-/

namespace LocationService.Gps

open LocationService.Library

/-! ## What a step is -/

/-- The steps, by what takes them. -/
inductive Moves (s : State) : Action → State → Prop where
  | tick (d : Nat) : Moves s (.tick d) { s with now := s.now + d }
  | call (op : ClientOp) (idle : s.client = .idle) :
      Moves s (.call op) (s.callOp op)
  | enter (t : ThreadId) (k : Callback) (free : s.callback t = none)
      (driver : s.inDriver t = true) :
      Moves s (.enter t k) (s.setCallback t (some (.request k)))
  | callback (t : ThreadId) (ok : Bool) (pc : CallbackPc) (s' : State)
      (here : s.callback t = some pc) (runs : s.runCallback t pc = some s') :
      Moves s (.run t ok) s'
  | reclaim (t : ThreadId) (ok : Bool) (pc : ReclaimPc) (s' : State)
      (calm : s.callback t = none) (here : s.reclaim t = some pc)
      (runs : s.runReclaim t ok pc = some s') : Moves s (.run t ok) s'
  | client (ok : Bool) (s' : State) (calm : s.callback .client = none)
      (runs : s.runClient = some s') : Moves s (.run .client ok) s'
  | watchdog (ok : Bool) (s' : State) (calm : s.callback .watchdog = none)
      (outside : s.reclaim .watchdog = none)
      (runs : s.runWatchdog = some s') : Moves s (.run .watchdog ok) s'

theorem Moves.of_step {a : Action} {s t : State} (h : step a s = some t) :
    Moves s a t := by
  cases a with
  | tick d =>
      obtain rfl := Option.some.inj h
      exact .tick d
  | call op =>
      simp only [step] at h
      split at h
      · rename_i hidle
        obtain rfl := Option.some.inj h
        exact .call op hidle
      · cases h
  | enter u k =>
      simp only [step] at h
      split at h
      · rename_i hmay
        obtain rfl := Option.some.inj h
        exact .enter u k hmay.1 hmay.2
      · cases h
  | run u ok =>
      simp only [step, State.run] at h
      split at h
      · rename_i pc hpc
        exact .callback u ok pc t hpc h
      · rename_i hcalm
        split at h
        · rename_i pc hpc
          exact .reclaim u ok pc t hcalm hpc h
        · rename_i hnone
          cases u with
          | client => exact .client ok t hcalm h
          | watchdog => exact .watchdog ok t hcalm hnone h
          | recovery n => cases h
          | chipset n => cases h

/-- Calls that neither change which handles there are nor start anything. -/
def Event.passive : Event → Bool
  | .stop _ | .setPositionMode _ _ _ | .injectLocation _ | .injectTime _
  | .injectXtraData _ => true
  | _ => false

/-- The events that create or delete handles. -/
def Event.tracks : Event → Bool
  | .new | .returned _ | .delete _ => true
  | _ => false

/-- The step adds at most one entry to the log, and that one is passive. -/
def Quiet (s t : State) : Prop :=
  t.log = s.log ∨ ∃ e, e.passive = true ∧ t.log = ⟨s.now, e⟩ :: s.log

/-! ## What the threads leave alone -/

/-- What only a thread in the reclaim changes. -/
structure SameHandles (s t : State) : Prop where
  gpsHandle : t.gpsHandle = s.gpsHandle
  nextHandle : t.nextHandle = s.nextHandle
  now : t.now = s.now

/-- What a call of the client does before its first step. -/
structure Called (s t : State) (op : ClientOp) : Prop where
  same : SameHandles s t
  log : t.log = ⟨s.now, .call op⟩ :: s.log
  mutex : t.callbackMutex = s.callbackMutex
  active : t.positioningActive = s.positioningActive
  watchdog : t.watchdog = s.watchdog
  reclaim : t.reclaim = s.reclaim
  callback : t.callback = s.callback
  spawned : t.spawned = s.spawned
  last : t.lastGpsMs = if op = .stopPositioning then 0 else s.lastGpsMs
  client : t.client = match op with
    | .startPositioning => .startTry
    | .stopPositioning => .stopTry
    | .setAssistanceMode m =>
        if s.capabilities.isCapableOfAssistance m then .loadMode else s.client
    | .setPositionMode m =>
        if s.capabilities.isCapableOfPosition m then .loadMode else s.client
    | .injectReferencePosition => .loadInject

theorem Called.of_callOp (s : State) (op : ClientOp) :
    Called s (s.callOp op) op := by
  cases op with
  | setAssistanceMode m =>
      by_cases hm : s.capabilities.isCapableOfAssistance m
      all_goals
        simp only [State.callOp, State.record, hm, if_true]
        constructor <;> first | rfl | exact ⟨rfl, rfl, rfl⟩ | simp [hm]
  | setPositionMode m =>
      by_cases hm : s.capabilities.isCapableOfPosition m
      all_goals
        simp only [State.callOp, State.record, hm, if_true]
        constructor <;> first | rfl | exact ⟨rfl, rfl, rfl⟩ | simp [hm]
  | startPositioning => constructor <;> first | rfl | exact ⟨rfl, rfl, rfl⟩
  | stopPositioning => constructor <;> first | rfl | exact ⟨rfl, rfl, rfl⟩
  | injectReferencePosition =>
      constructor <;> first | rfl | exact ⟨rfl, rfl, rfl⟩

/-- How often the client holds the mutex shared. -/
def ClientPc.shares : ClientPc → Nat
  | .startRead | .startMode _ | .startInMode _ | .startUnlock _
  | .startUnlockNull | .stopRead | .stopStop | .stopInStop | .stopUnlock => 1
  | _ => 0

def WatchdogPc.shares : WatchdogPc → Nat
  | .readHandle | .unlockCheck _ => 1
  | _ => 0

def ReclaimPc.shares : ReclaimPc → Nat
  | .read | .unlockRead _ => 1
  | _ => 0

def CallbackPc.shares : CallbackPc → Nat
  | .body _ | .inject _ | .unlock => 1
  | .request _ => 0

/-- Phases 1 and 3 of `register_callbacks`. -/
def ReclaimPc.excludes : ReclaimPc → Bool
  | .delete | .clear | .unlockDelete | .install _ | .unlockInstall => true
  | _ => false

/-- The mutex from one state to the next, when thread `u` goes from holding it
`before` times shared to holding it `after` times. -/
def SharedStep (s t : State) (u : ThreadId) (before after : Nat) : Prop :=
  (t.callbackMutex = s.callbackMutex ∧ after = before) ∨
    (s.callbackMutex.lockShared u = some t.callbackMutex ∧
      after = before + 1) ∨
    (t.callbackMutex = s.callbackMutex.unlockShared u ∧ before = after + 1)

/-- A step of the client. -/
structure ClientStep (s t : State) : Prop where
  same : SameHandles s t
  spawned : s.spawned ≤ t.spawned
  watchdog : t.watchdog = s.watchdog
  callback : t.callback = s.callback
  mutex : SharedStep s t .client s.client.shares t.client.shares
  log : Quiet s t ∨ ∃ h, s.client = .startStart h ∧
    t.client = .startInStart ∧ t.log = ⟨s.now, .start h⟩ :: s.log
  starts : ∀ h, s.client = .startStart h →
    t.log = ⟨s.now, .start h⟩ :: s.log
  last : t.lastGpsMs = s.lastGpsMs ∨ ∃ h, s.client = .startArm h ∧
    t.client = .startStart h ∧ t.lastGpsMs = s.now
  token :
    (t.reclaim = s.reclaim ∧ t.positioningActive = s.positioningActive ∧
      (t.client = .startSpawn ↔ s.client = .startSpawn)) ∨
    (t.reclaim = s.reclaim ∧ s.positioningActive = false ∧
      t.positioningActive = true ∧ t.client = .startSpawn) ∨
    (s.client = .startSpawn ∧ t.client = .idle ∧
      t.positioningActive = s.positioningActive ∧
      s.spawned < t.spawned ∧
      t.reclaim = Function.update s.reclaim (.recovery s.spawned)
        (some .lockDelete))

theorem ClientStep.of_run {s t : State} (h : s.runClient = some t) :
    ClientStep s t := by
  cases hpc : s.client
  all_goals simp only [State.runClient, hpc] at h
  case idle => cases h
  case startTry | stopTry =>
    split at h
    all_goals
      obtain rfl := Option.some.inj h
      constructor <;> first
        | rfl
        | exact ⟨rfl, rfl, rfl⟩
        | simp_all [SharedStep, Quiet, ClientPc.shares]
  case startRead | stopRead | startExchange =>
    split at h
    all_goals
      obtain rfl := Option.some.inj h
      constructor <;> first
        | rfl
        | exact ⟨rfl, rfl, rfl⟩
        | simp_all [SharedStep, Quiet, ClientPc.shares]
  all_goals
    obtain rfl := Option.some.inj h
    constructor <;> first
      | rfl
      | exact ⟨rfl, rfl, rfl⟩
      | simp [SharedStep, Quiet, State.dispatchModes, State.record,
          State.setReclaim, ClientPc.shares, Event.passive, hpc]

/-- A step of the watchdog outside the reclaim. -/
structure WatchdogStep (s t : State) : Prop where
  same : SameHandles s t
  spawned : t.spawned = s.spawned
  client : t.client = s.client
  callback : t.callback = s.callback
  mutex : SharedStep s t .watchdog s.watchdog.shares t.watchdog.shares
  log : t.log = s.log
  last : t.lastGpsMs = s.lastGpsMs
  token :
    (t.reclaim = s.reclaim ∧ t.positioningActive = s.positioningActive) ∨
    (s.positioningActive = false ∧ t.positioningActive = true ∧
      t.watchdog = .sleep ∧
      t.reclaim = Function.update s.reclaim .watchdog (some .lockDelete))

theorem WatchdogStep.of_run {s t : State} (h : s.runWatchdog = some t) :
    WatchdogStep s t := by
  cases hpc : s.watchdog
  all_goals simp only [State.runWatchdog, hpc] at h
  case loadLast | compare last | exchange =>
    split at h
    all_goals
      obtain rfl := Option.some.inj h
      constructor <;> first
        | rfl
        | exact ⟨rfl, rfl, rfl⟩
        | simp_all [SharedStep, WatchdogPc.shares, State.setReclaim]
  case lockCheck =>
    obtain ⟨m, hm, rfl⟩ := Option.map_eq_some_iff.mp h
    constructor <;> first
      | rfl
      | exact ⟨rfl, rfl, rfl⟩
      | simp [SharedStep, WatchdogPc.shares, hpc, hm]
  case unlockCheck handleValid =>
    obtain rfl := Option.some.inj h
    cases handleValid
    all_goals
      constructor <;> first
        | rfl
        | exact ⟨rfl, rfl, rfl⟩
        | simp [SharedStep, WatchdogPc.shares, hpc]
  all_goals
    obtain rfl := Option.some.inj h
    constructor <;> first
      | rfl
      | exact ⟨rfl, rfl, rfl⟩
      | simp [SharedStep, WatchdogPc.shares, hpc]

/-- A step of a callback on thread `u`. -/
structure CallbackStep (s t : State) (u : ThreadId) (pc : CallbackPc) :
    Prop where
  same : SameHandles s t
  spawned : t.spawned = s.spawned
  client : t.client = s.client
  watchdog : t.watchdog = s.watchdog
  reclaim : t.reclaim = s.reclaim
  active : t.positioningActive = s.positioningActive
  callback : ∀ v, v ≠ u → t.callback v = s.callback v
  mutex : SharedStep s t u pc.shares
    ((t.callback u).elim 0 CallbackPc.shares)
  log : Quiet s t ∨ ∃ k, pc = .body k ∧ t.log = ⟨s.now, .callback k⟩ :: s.log
  last : t.lastGpsMs = s.lastGpsMs ∨
    ∃ k, pc = .body k ∧ k.isData = true ∧ t.lastGpsMs = s.now ∧
      t.log = ⟨s.now, .callback k⟩ :: s.log

private theorem callbackBody_eq (s : State) (k : Callback) :
    ∃ c, s.callbackBody k =
      { s with
        log := ⟨s.now, .callback k⟩ :: s.log
        lastGpsMs := if k.isData then s.now else s.lastGpsMs
        capabilities := c } := by
  cases k <;> exact ⟨_, rfl⟩

private theorem callbackInject_eq (s : State) (k : Callback) :
    ∃ l, s.callbackInject k = { s with log := l } ∧
      (l = s.log ∨ ∃ e, e.passive = true ∧ l = ⟨s.now, e⟩ :: s.log) := by
  cases k
  case requestUtcTime b =>
    unfold State.callbackInject
    dsimp only
    split
    · exact ⟨_, rfl, .inr ⟨_, rfl, rfl⟩⟩
    · exact ⟨_, rfl, .inl rfl⟩
  case locationUpdate b => exact ⟨_, rfl, .inr ⟨_, rfl, rfl⟩⟩
  case xtraDownloadRequest b => exact ⟨_, rfl, .inr ⟨_, rfl, rfl⟩⟩
  all_goals exact ⟨_, rfl, .inl rfl⟩

theorem CallbackStep.of_run {s t : State} {u : ThreadId} {pc : CallbackPc}
    (h : s.runCallback u pc = some t) : CallbackStep s t u pc := by
  cases pc with
  | request k =>
      obtain ⟨m, hm, rfl⟩ := Option.map_eq_some_iff.mp h
      exact
        { same := ⟨rfl, rfl, rfl⟩
          spawned := rfl
          client := rfl
          watchdog := rfl
          reclaim := rfl
          active := rfl
          callback := fun v hv => Function.update_of_ne hv _ _
          mutex := .inr (.inl ⟨hm, by simp [State.setCallback, CallbackPc.shares]⟩)
          log := .inl (.inl rfl)
          last := .inl rfl }
  | body k =>
      obtain rfl := Option.some.inj h
      obtain ⟨c, hc⟩ := callbackBody_eq s k
      rw [hc]
      exact
        { same := ⟨rfl, rfl, rfl⟩
          spawned := rfl
          client := rfl
          watchdog := rfl
          reclaim := rfl
          active := rfl
          callback := fun v hv => Function.update_of_ne hv _ _
          mutex := by
            refine .inl ⟨rfl, ?_⟩
            simp only [State.setCallback, Function.update_self, Option.elim]
            split <;> rfl
          log := .inr ⟨k, rfl, rfl⟩
          last := by
            by_cases hk : k.isData = true
            · exact .inr ⟨k, rfl, hk, if_pos hk, rfl⟩
            · exact .inl (if_neg hk) }
  | inject k =>
      obtain rfl := Option.some.inj h
      obtain ⟨l, hl, hlog⟩ := callbackInject_eq s k
      rw [hl]
      exact
        { same := ⟨rfl, rfl, rfl⟩
          spawned := rfl
          client := rfl
          watchdog := rfl
          reclaim := rfl
          active := rfl
          callback := fun v hv => Function.update_of_ne hv _ _
          mutex := .inl ⟨rfl, by simp [State.setCallback, CallbackPc.shares]⟩
          log := .inl hlog
          last := .inl rfl }
  | unlock =>
      obtain rfl := Option.some.inj h
      exact
        { same := ⟨rfl, rfl, rfl⟩
          spawned := rfl
          client := rfl
          watchdog := rfl
          reclaim := rfl
          active := rfl
          callback := fun v hv => Function.update_of_ne hv _ _
          mutex := .inr (.inr ⟨rfl, by simp [State.setCallback, CallbackPc.shares]⟩)
          log := .inl (.inl rfl)
          last := .inl rfl }

/-- The mutex when a thread in the reclaim goes from `pc` to `next`. -/
def ReclaimMutexStep (s t : State) (u : ThreadId) (pc : ReclaimPc)
    (next : Option ReclaimPc) : Prop :=
  (SharedStep s t u pc.shares (next.elim 0 ReclaimPc.shares) ∧
      next.any ReclaimPc.excludes = pc.excludes) ∨
    (s.callbackMutex.lock u = some t.callbackMutex ∧
      next.elim 0 ReclaimPc.shares = pc.shares ∧
      next.any ReclaimPc.excludes = true) ∨
    (t.callbackMutex = s.callbackMutex.unlock ∧ pc.excludes = true ∧
      next.elim 0 ReclaimPc.shares = pc.shares ∧
      next.any ReclaimPc.excludes = false)

/-- What every step of a thread in the reclaim has in common. -/
structure ReclaimStep (s t : State) (u : ThreadId) (pc : ReclaimPc) :
    Prop where
  client : t.client = s.client
  watchdog : t.watchdog = s.watchdog
  callback : t.callback = s.callback
  spawned : t.spawned = s.spawned
  now : t.now = s.now
  others : ∀ v, v ≠ u → t.reclaim v = s.reclaim v
  token :
    (t.reclaim u ≠ none ∧ t.positioningActive = s.positioningActive) ∨
    (pc = .release ∧ t.reclaim u = none ∧ t.positioningActive = false)
  mutex : ReclaimMutexStep s t u pc (t.reclaim u)
  log : Quiet s t ∨
    (∃ e, e.tracks = true ∧ t.log = ⟨s.now, e⟩ :: s.log) ∨
    ∃ h, pc = .start h ∧ t.reclaim u = some .inStart ∧
      t.log = ⟨s.now, .start h⟩ :: s.log
  starts : ∀ h, pc = .start h → t.log = ⟨s.now, .start h⟩ :: s.log
  last : t.lastGpsMs = s.lastGpsMs ∨
    ∃ h, pc = .arm h ∧ t.reclaim u = some (.start h) ∧ t.lastGpsMs = s.now
  gpsHandle : t.gpsHandle = s.gpsHandle ∨
    (pc = .clear ∧ t.reclaim u = some .unlockDelete ∧ t.gpsHandle = none) ∨
    ∃ new, pc = .install new ∧ t.reclaim u = some .unlockInstall ∧
      t.gpsHandle = new

theorem ReclaimStep.of_run {s t : State} {u : ThreadId} {ok : Bool}
    {pc : ReclaimPc} (h : s.runReclaim u ok pc = some t) :
    ReclaimStep s t u pc := by
  cases pc
  all_goals simp only [State.runReclaim] at h
  case lockDelete | lockInstall new | lockRead =>
    obtain ⟨m, hm, rfl⟩ := Option.map_eq_some_iff.mp h
    constructor <;> first
      | rfl
      | exact fun v hv => Function.update_of_ne hv _ _
      | simp [ReclaimMutexStep, SharedStep, Quiet, State.setReclaim,
          ReclaimPc.shares, ReclaimPc.excludes, hm]
  case delete | inNew | readHandle =>
    split at h
    all_goals
      obtain rfl := Option.some.inj h
      constructor <;> first
        | rfl
        | exact fun v hv => Function.update_of_ne hv _ _
        | simp [ReclaimMutexStep, SharedStep, Quiet, State.setReclaim,
            State.record, ReclaimPc.shares, ReclaimPc.excludes, Event.tracks]
  case unlockRead o =>
    obtain rfl := Option.some.inj h
    rcases o with _ | x
    · constructor <;> first
        | rfl
        | exact fun v hv => Function.update_of_ne hv _ _
        | simp [ReclaimMutexStep, SharedStep, Quiet, State.setReclaim,
            ReclaimPc.shares, ReclaimPc.excludes]
    · by_cases hu : u = .watchdog
      all_goals
        constructor <;> first
          | rfl
          | exact fun v hv => Function.update_of_ne hv _ _
          | simp [ReclaimMutexStep, SharedStep, Quiet, State.setReclaim,
              ReclaimPc.shares, ReclaimPc.excludes, hu]
  all_goals
    obtain rfl := Option.some.inj h
    constructor <;> first
      | rfl
      | exact fun v hv => Function.update_of_ne hv _ _
      | simp [ReclaimMutexStep, SharedStep, Quiet, State.setReclaim,
          State.record, State.dispatchModes, ReclaimPc.shares,
          ReclaimPc.excludes, Event.passive, Event.tracks]

/-! ## One thread reclaims -/

/-- Thread `t` is in the reclaim, or about to spawn the thread that is. -/
def State.Owns (s : State) (t : ThreadId) : Prop :=
  s.reclaim t ≠ none ∨ (t = .client ∧ s.client = .startSpawn)

/-- `positioning_active` is the token of the thread that reclaims. -/
def State.Owned (s : State) : Prop :=
  Token s.positioningActive s.Owns

theorem State.Owned.alone {s : State} (h : s.Owned) {t u : ThreadId}
    (ht : s.reclaim t ≠ none) (hu : s.reclaim u ≠ none) : t = u :=
  h.unique t u (.inl ht) (.inl hu)

/-- While the client is about to spawn a thread, nobody reclaims. -/
theorem State.Owned.none_of_spawn {s : State} (h : s.Owned)
    (hc : s.client = .startSpawn) (hclient : s.reclaim .client = none)
    (u : ThreadId) : s.reclaim u = none := by
  by_contra hu
  have he := h.unique u .client (.inl hu) (.inr ⟨rfl, hc⟩)
  exact hu (he ▸ hclient)

theorem State.Owned.none_of_inactive {s : State} (h : s.Owned)
    (ha : s.positioningActive = false) (u : ThreadId) : s.reclaim u = none := by
  by_contra hu
  have hset := h.set u (.inl hu)
  rw [ha] at hset
  cases hset

/-- The threads that can be in the reclaim. -/
def State.reclaimers (s : State) : List ThreadId :=
  .watchdog :: (List.range s.spawned).map .recovery

theorem State.mem_reclaimers {s : State} {t : ThreadId} :
    t ∈ s.reclaimers ↔ t = .watchdog ∨ ∃ n, n < s.spawned ∧ t = .recovery n := by
  simp [State.reclaimers, eq_comm]

/-- Only the watchdog and the threads spawned so far are in the reclaim. -/
def State.Typed (s : State) : Prop :=
  ∀ t, s.reclaim t ≠ none → t ∈ s.reclaimers

theorem State.Typed.client {s : State} (h : s.Typed) :
    s.reclaim .client = none := by
  by_contra hne
  rcases State.mem_reclaimers.mp (h .client hne) with hw | ⟨n, -, hn⟩
  · cases hw
  · cases hn

theorem State.Typed.chipset {s : State} (h : s.Typed) (m : Nat) :
    s.reclaim (.chipset m) = none := by
  by_contra hne
  rcases State.mem_reclaimers.mp (h (.chipset m) hne) with hw | ⟨n, -, hn⟩
  · cases hw
  · cases hn

/-- Nobody reclaims if none of the threads that could does. -/
theorem State.Typed.quiet {s : State} (h : s.Typed)
    (hnone : ∀ u ∈ s.reclaimers, s.reclaim u = none) (u : ThreadId) :
    s.reclaim u = none := by
  by_contra hne
  exact hne (hnone u (h u hne))

private theorem reclaimers_mono {s t : State} (h : s.spawned ≤ t.spawned)
    {u : ThreadId} (hu : u ∈ s.reclaimers) : u ∈ t.reclaimers := by
  rw [State.mem_reclaimers] at hu ⊢
  rcases hu with hu | ⟨n, hn, hu⟩
  · exact .inl hu
  · exact .inr ⟨n, Nat.lt_of_lt_of_le hn h, hu⟩

theorem State.Typed.step {a : Action} {s t : State} (h : s.Typed)
    (hst : Moves s a t) : t.Typed := by
  cases hst with
  | tick d => exact h
  | call op idle =>
      have hcall := Called.of_callOp s op
      intro u hu
      rw [hcall.reclaim] at hu
      exact reclaimers_mono (Nat.le_of_eq hcall.spawned.symm) (h u hu)
  | enter u k free driver => exact h
  | callback u ok pc _ here runs =>
      have hcb := CallbackStep.of_run runs
      intro v hv
      rw [hcb.reclaim] at hv
      exact reclaimers_mono (Nat.le_of_eq hcb.spawned.symm) (h v hv)
  | reclaim u ok pc _ calm here runs =>
      have hrc := ReclaimStep.of_run runs
      intro v hv
      refine reclaimers_mono (Nat.le_of_eq hrc.spawned.symm) (h v ?_)
      by_cases hvu : v = u
      · rw [hvu, here]
        nofun
      · rwa [hrc.others v hvu] at hv
  | client ok _ calm runs =>
      have hcl := ClientStep.of_run runs
      intro v hv
      rcases hcl.token with ht | ht | ht
      · rw [ht.1] at hv
        exact reclaimers_mono hcl.spawned (h v hv)
      · rw [ht.1] at hv
        exact reclaimers_mono hcl.spawned (h v hv)
      · rw [ht.2.2.2.2] at hv
        by_cases hvn : v = .recovery s.spawned
        · exact State.mem_reclaimers.mpr (.inr ⟨_, ht.2.2.2.1, hvn⟩)
        · rw [Function.update_of_ne hvn] at hv
          exact reclaimers_mono hcl.spawned (h v hv)
  | watchdog ok _ calm outside runs =>
      have hwd := WatchdogStep.of_run runs
      intro v hv
      by_cases hvw : v = .watchdog
      · exact State.mem_reclaimers.mpr (.inl hvw)
      · refine reclaimers_mono (Nat.le_of_eq hwd.spawned.symm) (h v ?_)
        rcases hwd.token with ht | ht
        · rwa [ht.1] at hv
        · rwa [ht.2.2.2, Function.update_of_ne hvw] at hv

private theorem owned_congr {s t : State} (h : s.Owned)
    (hr : t.reclaim = s.reclaim)
    (hc : t.client = .startSpawn ↔ s.client = .startSpawn)
    (ha : t.positioningActive = s.positioningActive) : t.Owned := by
  unfold State.Owned
  rw [ha]
  refine h.congr fun u => ?_
  simp only [State.Owns, hr, hc]

theorem State.Owned.step {a : Action} {s t : State} (h : s.Owned)
    (hty : s.Typed) (hst : Moves s a t) : t.Owned := by
  cases hst with
  | tick d => exact h
  | call op idle =>
      have hcall := Called.of_callOp s op
      refine owned_congr h hcall.reclaim ?_ hcall.active
      rw [hcall.client, idle]
      cases op <;> simp only <;> try split
      all_goals simp
  | enter u k free driver => exact h
  | callback u ok pc _ here runs =>
      have hcb := CallbackStep.of_run runs
      exact owned_congr h hcb.reclaim (by rw [hcb.client]) hcb.active
  | reclaim u ok pc _ calm here runs =>
      have hrc := ReclaimStep.of_run runs
      have hown : s.Owns u := .inl (by rw [here]; simp)
      rcases hrc.token with ⟨hne, ha⟩ | ⟨-, hnone, ha⟩
      · unfold State.Owned
        rw [ha]
        refine h.congr fun v => ?_
        unfold State.Owns
        rw [hrc.client]
        by_cases hvu : v = u
        · simp [hvu, hne, here]
        · rw [hrc.others v hvu]
      · unfold State.Owned
        rw [ha]
        refine h.release hown fun v hv => ?_
        unfold State.Owns at hv ⊢
        rw [hrc.client] at hv
        by_cases hvu : v = u
        · have hspawn := hv.resolve_left fun hne => hne (hvu ▸ hnone)
          have huc : u = .client := hvu ▸ hspawn.1
          rw [huc, hty.client] at here
          cases here
        · rw [hrc.others v hvu] at hv
          exact ⟨hvu, hv⟩
  | client ok _ calm runs =>
      have hcl := ClientStep.of_run runs
      rcases hcl.token with ⟨hr, ha, hc⟩ | ⟨hr, hoff, hon, hc⟩ |
          ⟨hc, hidle, ha, -, hr⟩
      · exact owned_congr h hr hc ha
      · unfold State.Owned at h ⊢
        rw [hoff] at h
        rw [hon]
        refine h.take (t := .client) fun v => ?_
        simp only [State.Owns, hr, hc, and_true]
        constructor
        · rintro (hv | hv)
          · exact .inr (.inl hv)
          · exact .inl hv
        · rintro (hv | hv | hv)
          · exact .inr hv
          · exact .inl hv
          · exact .inr hv.1
      · unfold State.Owned
        rw [ha]
        refine h.pass (t := .client) (u := .recovery s.spawned)
          (.inr ⟨rfl, hc⟩) fun v => ?_
        unfold State.Owns
        rw [hr, hidle]
        by_cases hv : v = .recovery s.spawned
        · simp [hv]
        · rw [Function.update_of_ne hv]
          by_cases hvc : v = .client
          · simp [hvc, hty.client]
          · simp [hv, hvc]
  | watchdog ok _ calm outside runs =>
      have hwd := WatchdogStep.of_run runs
      rcases hwd.token with ⟨hr, ha⟩ | ⟨hoff, hon, -, hr⟩
      · exact owned_congr h hr (by rw [hwd.client]) ha
      · unfold State.Owned at h ⊢
        rw [hoff] at h
        rw [hon]
        refine h.take (t := .watchdog) fun v => ?_
        unfold State.Owns
        rw [hwd.client, hr]
        by_cases hv : v = .watchdog
        · simp [hv]
        · simp [hv]

/-! ## The mutex -/

namespace State

/-- How often the code that thread `t` was started with holds the mutex. -/
def ownShares (s : State) : ThreadId → Nat
  | .client => s.client.shares
  | .watchdog => s.watchdog.shares
  | .recovery _ | .chipset _ => 0

/-- How often thread `t` holds the mutex shared. -/
def shares (s : State) (t : ThreadId) : Nat :=
  s.ownShares t + (s.reclaim t).elim 0 ReclaimPc.shares +
    (s.callback t).elim 0 CallbackPc.shares

/-- Thread `t` holds the mutex exclusively. -/
def Excludes (s : State) (t : ThreadId) : Prop :=
  (s.reclaim t).any ReclaimPc.excludes = true

/-- The mutex agrees with the program counters. -/
def Locked (s : State) : Prop :=
  s.callbackMutex.Accounts s.shares s.Excludes

end State

/-- Thread `u` takes or gives back a share and nobody else changes what they
hold. -/
private theorem locked_shared {s t : State} {u : ThreadId}
    {before after : Nat} (h : s.Locked)
    (hst : SharedStep s t u before after)
    (hu : t.shares u + before = s.shares u + after)
    (hothers : ∀ v, v ≠ u → t.shares v = s.shares v)
    (hex : ∀ v, t.Excludes v ↔ s.Excludes v) : t.Locked := by
  unfold State.Locked
  rcases hst with ⟨hm, he⟩ | ⟨hm, he⟩ | ⟨hm, he⟩
  · rw [hm]
    refine h.congr (fun v => ?_) hex
    by_cases hv : v = u
    · subst hv
      omega
    · exact hothers v hv
  · refine h.lockShared hm (fun v => ?_) hex
    by_cases hv : v = u
    · subst hv
      rw [if_pos rfl]
      omega
    · rw [if_neg hv]
      exact hothers v hv
  · rw [hm]
    refine h.unlockShared (fun v => ?_) hex
    by_cases hv : v = u
    · subst hv
      rw [if_pos rfl]
      omega
    · rw [if_neg hv]
      exact hothers v hv

/-- A thread that enters the reclaim holds nothing yet. -/
private theorem reclaim_entered {r r' : ThreadId → Option ReclaimPc}
    {w : ThreadId} (hr : r' = Function.update r w (some .lockDelete))
    (hnone : r w = none) (v : ThreadId) :
    (r' v).elim 0 ReclaimPc.shares = (r v).elim 0 ReclaimPc.shares ∧
      (r' v).any ReclaimPc.excludes = (r v).any ReclaimPc.excludes := by
  by_cases hv : v = w
  · subst hv
    rw [hr, Function.update_self, hnone]
    exact ⟨rfl, rfl⟩
  · rw [hr, Function.update_of_ne hv]
    exact ⟨rfl, rfl⟩

private theorem locked_client {s t : State} (h : s.Locked) (how : s.Owned)
    (hty : s.Typed) (hcl : ClientStep s t) : t.Locked := by
  have hsame : ∀ v, (t.reclaim v).elim 0 ReclaimPc.shares =
        (s.reclaim v).elim 0 ReclaimPc.shares ∧
      (t.reclaim v).any ReclaimPc.excludes =
        (s.reclaim v).any ReclaimPc.excludes := by
    rcases hcl.token with ht | ht | ht
    · simp [ht.1]
    · simp [ht.1]
    · exact reclaim_entered ht.2.2.2.2 (how.none_of_spawn ht.1 hty.client _)
  refine locked_shared h hcl.mutex ?_ (fun v hv => ?_) (fun v => ?_)
  · simp only [State.shares, State.ownShares, (hsame _).1, hcl.callback]
    omega
  · have hown : t.ownShares v = s.ownShares v := by
      cases v with
      | client => exact absurd rfl hv
      | watchdog => exact congrArg WatchdogPc.shares hcl.watchdog
      | recovery n => rfl
      | chipset n => rfl
    simp only [State.shares, hown, (hsame _).1, hcl.callback]
  · simp only [State.Excludes, (hsame _).2]

private theorem locked_watchdog {s t : State} (h : s.Locked)
    (hnone : s.reclaim .watchdog = none) (hwd : WatchdogStep s t) :
    t.Locked := by
  have hsame : ∀ v, (t.reclaim v).elim 0 ReclaimPc.shares =
        (s.reclaim v).elim 0 ReclaimPc.shares ∧
      (t.reclaim v).any ReclaimPc.excludes =
        (s.reclaim v).any ReclaimPc.excludes := by
    rcases hwd.token with ht | ht
    · simp [ht.1]
    · exact reclaim_entered ht.2.2.2 hnone
  refine locked_shared h hwd.mutex ?_ (fun v hv => ?_) (fun v => ?_)
  · simp only [State.shares, State.ownShares, (hsame _).1, hwd.callback]
    omega
  · have hown : t.ownShares v = s.ownShares v := by
      cases v with
      | client => exact congrArg ClientPc.shares hwd.client
      | watchdog => exact absurd rfl hv
      | recovery n => rfl
      | chipset n => rfl
    simp only [State.shares, hown, (hsame _).1, hwd.callback]
  · simp only [State.Excludes, (hsame _).2]

private theorem ownShares_congr {s t : State} (hc : t.client = s.client)
    (hw : t.watchdog = s.watchdog) (v : ThreadId) :
    t.ownShares v = s.ownShares v := by
  cases v <;> simp only [State.ownShares, hc, hw]

private theorem locked_callback {s t : State} {u : ThreadId}
    {pc : CallbackPc} (h : s.Locked) (hpc : s.callback u = some pc)
    (hcb : CallbackStep s t u pc) : t.Locked := by
  refine locked_shared h hcb.mutex ?_ (fun v hv => ?_) (fun v => ?_)
  · simp only [State.shares, ownShares_congr hcb.client hcb.watchdog,
      hcb.reclaim, hpc, Option.elim_some]
    omega
  · simp only [State.shares, ownShares_congr hcb.client hcb.watchdog,
      hcb.reclaim, hcb.callback v hv]
  · simp only [State.Excludes, hcb.reclaim]

private theorem locked_reclaim {s t : State} {u : ThreadId}
    {pc : ReclaimPc} (h : s.Locked) (hpc : s.reclaim u = some pc)
    (hrc : ReclaimStep s t u pc) : t.Locked := by
  have hothers : ∀ v, v ≠ u → t.shares v = s.shares v := by
    intro v hv
    simp only [State.shares, ownShares_congr hrc.client hrc.watchdog,
      hrc.callback, hrc.others v hv]
  have hex : ∀ v, v ≠ u → (t.Excludes v ↔ s.Excludes v) := by
    intro v hv
    simp only [State.Excludes, hrc.others v hv]
  have hu : t.shares u + pc.shares =
      s.shares u + (t.reclaim u).elim 0 ReclaimPc.shares := by
    simp only [State.shares, ownShares_congr hrc.client hrc.watchdog,
      hrc.callback, hpc, Option.elim_some]
    omega
  rcases hrc.mutex with ⟨hsh, he⟩ | ⟨hl, hsh, he⟩ | ⟨hm, hpe, hsh, he⟩
  · refine locked_shared h hsh hu hothers fun v => ?_
    by_cases hv : v = u
    · subst hv
      simp only [State.Excludes, he, hpc, Option.any_some]
    · exact hex v hv
  · refine h.lock hl (fun v => ?_) (fun v => ?_)
    · by_cases hv : v = u
      · subst hv
        omega
      · exact hothers v hv
    · by_cases hv : v = u
      · subst hv
        simp [State.Excludes, he]
      · simp only [hv, false_or]
        exact hex v hv
  · unfold State.Locked
    rw [hm]
    refine h.unlock (fun v => ?_) (fun v => ?_)
    · by_cases hv : v = u
      · subst hv
        omega
      · exact hothers v hv
    · by_cases hv : v = u
      · subst hv
        simp [State.Excludes, he]
      · rw [hex v hv]
        intro hxv
        have hxu : s.Excludes u := by
          simp only [State.Excludes, hpc, Option.any_some, hpe]
        exact hv (h.exclusive_unique hxv hxu)

theorem State.Locked.step {a : Action} {s t : State} (h : s.Locked)
    (how : s.Owned) (hty : s.Typed) (hst : Moves s a t) : t.Locked := by
  cases hst with
  | tick d => exact h
  | call op idle =>
      have hcall := Called.of_callOp s op
      unfold State.Locked
      rw [hcall.mutex]
      refine h.congr (fun v => ?_) (fun v => ?_)
      · have hsh : (s.callOp op).client.shares = s.client.shares := by
          rw [hcall.client, idle]
          cases op <;> simp only <;> try split
          all_goals rfl
        cases v <;> simp only [State.shares, State.ownShares, hsh,
          hcall.watchdog, hcall.reclaim, hcall.callback]
      · simp only [State.Excludes, hcall.reclaim]
  | enter u k free driver =>
      refine h.congr (fun v => ?_) (fun v => .rfl)
      by_cases hv : v = u
      · subst hv
        simp [State.shares, State.ownShares, State.setCallback, free,
          CallbackPc.shares]
      · simp [State.shares, State.ownShares, State.setCallback, hv]
  | callback u ok pc _ here runs =>
      exact locked_callback h here (.of_run runs)
  | reclaim u ok pc _ calm here runs =>
      exact locked_reclaim h here (.of_run runs)
  | client ok _ calm runs => exact locked_client h how hty (.of_run runs)
  | watchdog ok _ calm outside runs => exact locked_watchdog h outside (.of_run runs)

/-! ## Every reachable state -/

/-- The three facts together. -/
structure State.Held (s : State) : Prop where
  typed : s.Typed
  owned : s.Owned
  locked : s.Locked

theorem State.Held.init (b : Boot) : (afterConstructor b).Held where
  typed := fun _ h => absurd rfl h
  owned := Token.unset fun u => by simp [State.Owns, afterConstructor]
  locked :=
    { readers := fun u => by
        cases u <;> rfl
      writer := fun u => by
        simp [State.Excludes, afterConstructor, SharedMutex.free] }

theorem State.Held.step {a : Action} {s t : State} (h : s.Held)
    (hst : Moves s a t) : t.Held where
  typed := h.typed.step hst
  owned := h.owned.step h.typed hst
  locked := h.locked.step h.owned h.typed hst

/-- Guarded runs are runs. -/
theorem Reachable.of_reach {guard : Action → State → Prop} {s : State}
    (h : machine.Reach guard s) : Reachable s :=
  h.mono fun _ _ _ => trivial

/-- What holds after the constructor and survives every guarded step from a
reachable state holds at the end of every guarded run. -/
theorem reach_invariant {guard : Action → State → Prop} {P : State → Prop}
    (hinit : ∀ b, b.Timely → P (afterConstructor b))
    (hstep : ∀ a s t, Reachable s → P s → guard a s → Moves s a t → P t)
    {s : State} (h : machine.Reach guard s) : P s := by
  induction h with
  | initial hs =>
      obtain ⟨b, hb, rfl⟩ := hs
      exact hinit b hb
  | step a hs hg hst ih =>
      exact hstep a _ _ (.of_reach hs) ih hg (.of_step hst)

theorem Reachable.held {s : State} (h : Reachable s) : s.Held := by
  refine reach_invariant (fun b _ => .init b) ?_ h
  intro a s t _ hs _ hst
  exact hs.step hst

/-! ## Computed runs -/

/-- Runs the actions from the end of the constructor, as long as they meet the
guard. -/
def play (guard : Action → State → Prop) [∀ a s, Decidable (guard a s)]
    (b : Boot) (as : List Action) : Option State :=
  Machine.replay step guard as (afterConstructor b)

theorem reach_of_play {guard : Action → State → Prop}
    [∀ a s, Decidable (guard a s)] {b : Boot} {as : List Action} {s : State}
    (hb : b.Timely) (h : play guard b as = some s) :
    machine.Reach guard s := by
  have hinit : machine.Reach guard (afterConstructor b) :=
    .initial ⟨b, hb, rfl⟩
  exact Machine.Reach.replay (fun _ _ _ hst => hst) as hinit h

/-- `n` steps of one thread. -/
def steps (t : ThreadId) (n : Nat) : List Action :=
  List.replicate n (.run t true)

/-- The constructor without a handle from the driver. -/
def bootWithout : Boot :=
  ⟨false, none, ⟨true, true, true, true, true⟩, 1, 1⟩

/-- The constructor with a handle from the driver. -/
def bootWith : Boot :=
  ⟨true, none, ⟨true, true, true, true, true⟩, 1, 1⟩

theorem bootWithout_timely : bootWithout.Timely := by decide

theorem bootWith_timely : bootWith.Timely := by decide

end LocationService.Gps
