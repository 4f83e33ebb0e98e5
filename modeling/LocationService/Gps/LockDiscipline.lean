import LocationService.Gps.Ownership

/-!
# Lock discipline

The driver may call back on a thread that is inside a call of the driver, and
every callback asks for the mutex.  `register_callbacks` and the watchdog make
their calls without the mutex for that reason.  The client does not: it holds
the mutex shared across `u_hardware_gps_set_position_mode` on the fast path of
`start_positioning` and across `u_hardware_gps_stop`.  These two calls are the
only way to break the discipline.
-/

namespace LocationService.Gps

open LocationService.Library

/-! ## Requests for the mutex -/

/-- How a thread asks for the mutex; an attempt does not wait. -/
inductive Request where
  | shared
  | attempt
  | exclusive
  deriving DecidableEq, Repr

def ClientPc.asks : ClientPc → Option Request
  | .startTry | .stopTry => some .attempt
  | _ => none

def WatchdogPc.asks : WatchdogPc → Option Request
  | .lockCheck => some .shared
  | _ => none

def ReclaimPc.asks : ReclaimPc → Option Request
  | .lockDelete | .lockInstall _ => some .exclusive
  | .lockRead => some .shared
  | _ => none

def CallbackPc.asks : CallbackPc → Option Request
  | .request _ => some .shared
  | _ => none

/-- What the next step of thread `t` asks of the mutex. -/
def State.asks (s : State) (t : ThreadId) : Option Request :=
  match s.callback t with
  | some pc => pc.asks
  | none =>
      match s.reclaim t with
      | some pc => pc.asks
      | none =>
          match t with
          | .client => s.client.asks
          | .watchdog => s.watchdog.asks
          | .recovery _ | .chipset _ => none

/-- Thread `t` has the mutex, shared or exclusively. -/
def State.HasMutex (s : State) (t : ThreadId) : Prop :=
  s.callbackMutex.writer = some t ∨ t ∈ s.callbackMutex.readers

instance (s : State) (t : ThreadId) : Decidable (s.HasMutex t) :=
  inferInstanceAs (Decidable (_ ∨ _))

/-- No thread asks for the mutex while it has it. -/
def State.Disciplined (s : State) : Prop :=
  ∀ t, s.asks t ≠ none → ¬ s.HasMutex t

/-- Thread `t` has to wait for a mutex that prefers writers. -/
def State.Waits (s : State) (t : ThreadId) : Prop :=
  (s.asks t = some .exclusive ∧ ∃ u, s.HasMutex u) ∨
    (s.asks t = some .shared ∧ ∃ u, s.callbackMutex.writer = some u ∨
      s.asks u = some .exclusive)

theorem State.Waits.asks {s : State} {t : ThreadId} (h : s.Waits t) :
    s.asks t ≠ none := by
  rcases h with ⟨h, -⟩ | ⟨h, -⟩
  · simp [h]
  · simp [h]

/-! ## Calls of the driver under the mutex -/

/-- The calls of the driver that the client makes under the mutex. -/
def ClientPc.inLockedCall : ClientPc → Bool
  | .startInMode _ | .stopInStop => true
  | _ => false

/-- The driver does not call back on the client during these calls. -/
def NoReentry (a : Action) (s : State) : Prop :=
  match a with
  | .enter .client _ => s.client.inLockedCall = false
  | _ => True

theorem ClientPc.shares_of_inDriver {pc : ClientPc} (h : pc.inDriver = true) :
    pc.shares = if pc.inLockedCall then 1 else 0 := by
  cases pc
  case startInMode | startInStart | stopInStop | inMode => rfl
  all_goals cases h

theorem ReclaimPc.free_of_inDriver {pc : ReclaimPc}
    (h : pc.inDriver = true) : pc.shares = 0 ∧ pc.excludes = false := by
  cases pc
  case inNew | inMode | inAgain | inStart => exact ⟨rfl, rfl⟩
  all_goals cases h

theorem ReclaimPc.free_of_asks {pc : ReclaimPc} (h : pc.asks ≠ none) :
    pc.shares = 0 ∧ pc.excludes = false := by
  cases pc
  case lockDelete | lockInstall | lockRead => exact ⟨rfl, rfl⟩
  all_goals exact absurd rfl h

/-! ## Where callbacks run -/

/-- Callbacks run on threads of the driver and inside calls of it, and the
watchdog's own code sleeps while the watchdog reclaims. -/
structure State.Nested (s : State) : Prop where
  driver : ∀ t, s.callback t ≠ none → s.inDriver t = true
  sleeping : s.reclaim .watchdog ≠ none → s.watchdog = .sleep

private theorem inDriver_congr {s t : State} {u : ThreadId}
    (hc : t.client = s.client) (hr : t.reclaim u = s.reclaim u) :
    t.inDriver u = s.inDriver u := by
  cases u <;> simp only [State.inDriver, hc, hr]

/-- A thread other than the client that is in a call of the driver stays there
outside the reclaim. -/
private theorem Outside.inDriver {s t : State} (h : Outside s t) {u : ThreadId}
    (hu : u ≠ .client) (hdriver : s.inDriver u = true) :
    t.inDriver u = true := by
  cases u with
  | client => exact absurd rfl hu
  | chipset n => rfl
  | watchdog =>
      obtain ⟨pc, hpc, hin⟩ := (Option.any_eq_true _ _).mp hdriver
      exact (Option.any_eq_true _ _).mpr ⟨pc, h.keeps hpc, hin⟩
  | recovery n =>
      obtain ⟨pc, hpc, hin⟩ := (Option.any_eq_true _ _).mp hdriver
      exact (Option.any_eq_true _ _).mpr ⟨pc, h.keeps hpc, hin⟩

private theorem nested_call {s : State} (h : s.Nested) {op : ClientOp}
    (idle : s.client = .idle) : (s.callOp op).Nested := by
  have hcall := Called.of_callOp s op
  constructor
  · intro u hu
    rw [hcall.callback] at hu
    have hdriver := h.driver u hu
    apply hcall.outside.inDriver _ hdriver
    rintro rfl
    simp only [State.inDriver, idle] at hdriver
    cases hdriver
  · rw [hcall.reclaim, hcall.watchdog]
    exact h.sleeping

private theorem nested_callback {s t : State} (h : s.Nested) {u : ThreadId}
    {pc : CallbackPc} (here : s.callback u = some pc)
    (hcb : CallbackStep s t u pc) : t.Nested := by
  constructor
  · intro v hv
    rw [inDriver_congr hcb.client (by rw [hcb.reclaim])]
    by_cases hvu : v = u
    · apply h.driver v
      simp [hvu, here]
    · rw [hcb.callback v hvu] at hv
      exact h.driver v hv
  · rw [hcb.reclaim, hcb.watchdog]
    exact h.sleeping

private theorem nested_reclaim {s t : State} (h : s.Nested) {u : ThreadId}
    {pc : ReclaimPc} (calm : s.callback u = none)
    (here : s.reclaim u = some pc) (hrc : ReclaimStep s t u pc) :
    t.Nested := by
  constructor
  · intro v hv
    rw [hrc.callback] at hv
    have hvu : v ≠ u := by
      rintro rfl
      exact hv calm
    rw [inDriver_congr hrc.client (hrc.others v hvu)]
    exact h.driver v hv
  · intro hw
    rw [hrc.watchdog]
    by_cases hwu : ThreadId.watchdog = u
    · apply h.sleeping
      simp [hwu, here]
    · rw [hrc.others _ hwu] at hw
      exact h.sleeping hw

private theorem nested_client {s t : State} (h : s.Nested) (hs : s.Held)
    (calm : s.callback .client = none) (hcl : ClientStep s t) : t.Nested := by
  constructor
  · intro v hv
    rw [hcl.callback] at hv
    apply (hcl.outside hs).inDriver _ (h.driver v hv)
    rintro rfl
    exact hv calm
  · rw [hcl.watchdog]
    intro hw
    refine h.sleeping fun hnone => hw ?_
    rcases hcl.token with ht | ht | ht
    · rw [ht.1, hnone]
    · rw [ht.1, hnone]
    · have hne : ThreadId.watchdog ≠ .recovery s.spawned := by simp
      rw [ht.2.2.2.2, Function.update_of_ne hne, hnone]

private theorem nested_watchdog {s t : State} (h : s.Nested)
    (calm : s.callback .watchdog = none)
    (outside : s.reclaim .watchdog = none) (hwd : WatchdogStep s t) :
    t.Nested := by
  constructor
  · intro v hv
    rw [hwd.callback] at hv
    have hvw : v ≠ .watchdog := by
      rintro rfl
      exact hv calm
    have hrv : t.reclaim v = s.reclaim v := by
      rcases hwd.token with ht | ht
      · rw [ht.1]
      · rw [ht.2.2.2, Function.update_of_ne hvw]
    rw [inDriver_congr hwd.client hrv]
    exact h.driver v hv
  · intro hw
    rcases hwd.token with ht | ht
    · rw [ht.1] at hw
      exact absurd outside hw
    · exact ht.2.2.1

theorem State.Nested.step {a : Action} {s t : State} (h : s.Nested)
    (hs : s.Held) (hst : Moves s a t) : t.Nested := by
  cases hst with
  | tick d => exact ⟨h.driver, h.sleeping⟩
  | call op idle => exact nested_call h idle
  | enter u k free driver =>
      constructor
      · intro v hv
        by_cases hvu : v = u
        · exact hvu ▸ driver
        · simp only [State.setCallback, Function.update_of_ne hvu] at hv
          exact h.driver v hv
      · exact h.sleeping
  | callback u ok pc _ here runs =>
      exact nested_callback h here (.of_run runs)
  | reclaim u ok pc _ calm here runs =>
      exact nested_reclaim h calm here (.of_run runs)
  | client ok _ calm runs => exact nested_client h hs calm (.of_run runs)
  | watchdog ok _ calm outside runs =>
      exact nested_watchdog h calm outside (.of_run runs)

theorem State.Nested.init (b : Boot) : (afterConstructor b).Nested where
  driver := fun _ h => absurd rfl h
  sleeping := fun _ => rfl

theorem Reachable.nested {s : State} (h : Reachable s) : s.Nested := by
  refine reach_invariant (fun b _ => .init b) ?_ h
  intro a s t hs hn _ hst
  exact hn.step hs.held hst

/-- No callback is in progress inside a call that the client makes under the
mutex. -/
def State.Clear (s : State) : Prop :=
  s.callback .client ≠ none → s.client.inLockedCall = false

theorem State.Clear.step {a : Action} {s t : State} (h : s.Clear)
    (hn : s.Nested) (hg : NoReentry a s) (hst : Moves s a t) : t.Clear := by
  cases hst with
  | tick d => exact h
  | call op idle =>
      intro hcb
      rw [(Called.of_callOp s op).callback] at hcb
      have hdriver := hn.driver _ hcb
      simp only [State.inDriver, idle] at hdriver
      cases hdriver
  | enter u k free driver =>
      intro hcb
      by_cases hu : u = .client
      · subst hu
        exact hg
      · simp only [State.setCallback, Function.update_of_ne (Ne.symm hu)] at hcb
        exact h hcb
  | callback u ok pc _ here runs =>
      have hc := CallbackStep.of_run runs
      intro hcb
      rw [hc.client]
      by_cases hu : u = .client
      · apply h
        simp [← hu, here]
      · rw [hc.callback _ (Ne.symm hu)] at hcb
        exact h hcb
  | reclaim u ok pc _ calm here runs =>
      have hrc := ReclaimStep.of_run runs
      unfold State.Clear
      rw [hrc.callback, hrc.client]
      exact h
  | client ok _ calm runs =>
      intro hcb
      rw [(ClientStep.of_run runs).callback] at hcb
      exact absurd calm hcb
  | watchdog ok _ calm outside runs =>
      have hwd := WatchdogStep.of_run runs
      unfold State.Clear
      rw [hwd.callback, hwd.client]
      exact h

/-! ## The discipline -/

theorem State.Locked.hasMutex_iff {s : State} (h : s.Locked) (t : ThreadId) :
    s.HasMutex t ↔ s.Excludes t ∨ 0 < s.shares t := by
  unfold State.HasMutex
  rw [h.writer t, ← h.readers t, List.count_pos_iff]

/-- A thread in the reclaim holds the mutex only for the reclaim. -/
theorem State.Nested.ownShares {s : State} (h : s.Nested) (hty : s.Typed)
    {t : ThreadId} (ht : s.reclaim t ≠ none) : s.ownShares t = 0 := by
  rcases State.mem_reclaimers.mp (hty t ht) with rfl | ⟨n, -, rfl⟩
  · simp only [State.ownShares, h.sleeping ht]
    rfl
  · rfl

theorem State.not_hasMutex {s : State} (hs : s.Held) {t : ThreadId}
    (hown : s.ownShares t = 0)
    (hrec : ∀ pc, s.reclaim t = some pc → pc.shares = 0 ∧ pc.excludes = false)
    (hcb : ∀ pc, s.callback t = some pc → pc.shares = 0) :
    ¬ s.HasMutex t := by
  rw [hs.locked.hasMutex_iff]
  rintro (hex | hsh)
  · obtain ⟨pc, hpc, hex⟩ := Option.any_eq_true _ _ |>.mp hex
    rw [(hrec pc hpc).2] at hex
    cases hex
  · have hr : (s.reclaim t).elim 0 ReclaimPc.shares = 0 := by
      cases hpc : s.reclaim t with
      | none => rfl
      | some pc => exact (hrec pc hpc).1
    have hc : (s.callback t).elim 0 CallbackPc.shares = 0 := by
      cases hpc : s.callback t with
      | none => rfl
      | some pc => exact hcb pc hpc
    simp only [State.shares] at hsh
    omega

/-- As long as no callback interrupts a call made under the mutex, no thread
asks for the mutex while it has it. -/
theorem State.Clear.disciplined {s : State} (hclear : s.Clear)
    (h : s.Nested) (hs : s.Held) : s.Disciplined := by
  intro t hask
  have hnone : s.reclaim .client = none := hs.typed.client
  cases hcb : s.callback t with
  | some pc =>
      have hcbn : s.callback t ≠ none := by simp [hcb]
      have hpc : pc.shares = 0 := by
        simp only [State.asks, hcb] at hask
        cases pc
        case request k => rfl
        all_goals exact absurd rfl hask
      have hdriver := h.driver t hcbn
      have hcb' : ∀ pc', s.callback t = some pc' → pc'.shares = 0 := by
        intro pc' hpc'
        obtain rfl := Option.some.inj (hcb.symm.trans hpc')
        exact hpc
      have hin : (s.reclaim t).any ReclaimPc.inDriver = true →
          ¬ s.HasMutex t := by
        intro hany
        obtain ⟨pc', hpc', hin⟩ := Option.any_eq_true _ _ |>.mp hany
        refine State.not_hasMutex hs ?_ (fun pc'' hpc'' => ?_) hcb'
        · exact h.ownShares hs.typed (by simp [hpc'])
        · obtain rfl := Option.some.inj (hpc'.symm.trans hpc'')
          exact pc'.free_of_inDriver hin
      cases t with
      | client =>
          refine State.not_hasMutex hs ?_ (by simp [hnone]) hcb'
          have hsh := s.client.shares_of_inDriver hdriver
          rw [hclear hcbn] at hsh
          exact hsh
      | watchdog => exact hin hdriver
      | recovery n => exact hin hdriver
      | chipset n =>
          exact State.not_hasMutex hs rfl
            (by simp [hs.typed.chipset n]) hcb'
  | none =>
      have hcb' : ∀ pc', s.callback t = some pc' → pc'.shares = 0 := by
        simp [hcb]
      cases hr : s.reclaim t with
      | some pc =>
          simp only [State.asks, hcb, hr] at hask
          refine State.not_hasMutex hs ?_ (fun pc' hpc' => ?_) hcb'
          · exact h.ownShares hs.typed (by simp [hr])
          · obtain rfl := Option.some.inj (hr.symm.trans hpc')
            exact pc.free_of_asks hask
      | none =>
          simp only [State.asks, hcb, hr] at hask
          refine State.not_hasMutex hs ?_ (by simp [hr]) hcb'
          cases t with
          | client =>
              simp only [State.ownShares]
              cases hc : s.client
              all_goals rw [hc] at hask
              case startTry | stopTry => rfl
              all_goals exact absurd rfl hask
          | watchdog =>
              simp only [State.ownShares]
              cases hw : s.watchdog
              all_goals rw [hw] at hask
              case lockCheck => rfl
              all_goals exact absurd rfl hask
          | recovery n => rfl
          | chipset n => rfl

/-- A callback that interrupts such a call asks for the mutex that its thread
has. -/
theorem undisciplined_of_reentry {s : State} (hs : s.Held) {k : Callback}
    (hlocked : s.client.inLockedCall = true) :
    ¬ (s.setCallback .client (some (.request k))).Disciplined := by
  intro hdisc
  refine hdisc .client ?_ (.inr ?_)
  · simp [State.asks, State.setCallback, CallbackPc.asks]
  · have hone : s.client.shares = 1 := by
      cases hc : s.client
      all_goals rw [hc] at hlocked
      case startInMode | stopInStop => rfl
      all_goals cases hlocked
    have hsh : 0 < s.shares .client := by
      simp only [State.shares, State.ownShares, hone]
      omega
    rw [← hs.locked.readers] at hsh
    exact List.count_pos_iff.mp hsh

theorem clear_of_reach {s : State} (h : machine.Reach NoReentry s) :
    s.Clear := by
  refine reach_invariant (fun b _ => fun hcb => absurd rfl hcb) ?_ h
  intro a s t hs hc hg hst
  exact hc.step hs.nested hg hst

instance NoReentry.decidable : ∀ a s, Decidable (NoReentry a s)
  | .enter .client _, s =>
      inferInstanceAs (Decidable (s.client.inLockedCall = false))
  | .enter .watchdog _, _ | .enter (.recovery _) _, _
  | .enter (.chipset _) _, _ | .tick _, _ | .call _, _ | .run _ _, _ =>
      isTrue trivial

/-- As long as the driver does not call back on the client inside the two
calls made under the mutex, no thread asks for the mutex while it has it, and
none waits for itself.  The first time it does, one does. -/
theorem lock_discipline {s : State} (h : machine.Reach NoReentry s) :
    s.Disciplined ∧ (∀ t, ¬ (s.Waits t ∧ s.HasMutex t)) ∧
      ∀ a t, step a s = some t → (t.Disciplined ↔ NoReentry a s) := by
  have hs := Reachable.of_reach h
  have hdisc := (clear_of_reach h).disciplined hs.nested hs.held
  refine ⟨hdisc, fun t ht => hdisc t ht.1.asks ht.2, fun a t hst => ?_⟩
  constructor
  · intro ht
    by_contra hg
    cases Moves.of_step hst with
    | enter u k free driver =>
        cases u with
        | client =>
            refine undisciplined_of_reentry hs.held ?_ ht
            simpa [NoReentry] using hg
        | watchdog => exact hg trivial
        | recovery n => exact hg trivial
        | chipset n => exact hg trivial
    | _ => exact hg trivial
  · intro hg
    have hreach : machine.Reach NoReentry t := h.step a hg hst
    have ht := Reachable.of_reach hreach
    exact (clear_of_reach hreach).disciplined ht.nested ht.held

/-- A start on the fast path during which the driver does not call back. -/
theorem lock_discipline_on_start :
    ∃ s, play NoReentry bootWith
        (.call .startPositioning :: steps .client 8) = some s ∧
      s.Disciplined ∧ (∀ t, ¬ (s.Waits t ∧ s.HasMutex t)) ∧
      ∀ a t, step a s = some t → (t.Disciplined ↔ NoReentry a s) := by
  have hrun : (play NoReentry bootWith
      (.call .startPositioning :: steps .client 8)).isSome := by decide
  have hplay := (Option.some_get hrun).symm
  exact ⟨_, hplay, lock_discipline (reach_of_play bootWith_timely hplay)⟩

/-! ## The client waits for itself -/

/-- Runs on a mutex that grants nothing to readers while a writer waits. -/
def WriterPreferring (a : Action) (s : State) : Prop :=
  match a with
  | .run t _ => s.asks t = some .shared ∨ s.asks t = some .attempt →
      ∀ u ∈ s.reclaimers, s.asks u ≠ some .exclusive
  | _ => True

instance WriterPreferring.decidable :
    ∀ a s, Decidable (WriterPreferring a s)
  | .run _ _, _ => inferInstanceAs (Decidable (_ ∨ _ → _))
  | .tick _, _ | .call _, _ | .enter _ _, _ => isTrue trivial

/-- The constructor with a handle that has been silent for long. -/
def bootSilent : Boot :=
  ⟨true, some 1, ⟨true, true, true, true, true⟩, 1, 20000⟩

theorem bootSilent_timely : bootSilent.Timely := by decide

/-- The client is in `u_hardware_gps_set_position_mode` on the fast path, the
watchdog waits for exclusive ownership, and the driver calls back on the
client. -/
theorem client_waits_for_itself :
    ¬ ∀ s, machine.Reach WriterPreferring s →
      s.Disciplined ∧ ∀ t, ¬ (s.Waits t ∧ s.HasMutex t) := by
  intro hall
  have hrun : (play WriterPreferring bootSilent
      (.call .startPositioning :: steps .client 3 ++ steps .watchdog 7 ++
        [.enter .client .statusUpdate])).isSome := by decide
  have hplay := (Option.some_get hrun).symm
  have hr := reach_of_play bootSilent_timely hplay
  refine (hall _ hr).2 .client ⟨.inr ⟨rfl, .watchdog, .inr rfl⟩, ?_⟩
  exact of_decide_eq_true rfl

end LocationService.Gps
