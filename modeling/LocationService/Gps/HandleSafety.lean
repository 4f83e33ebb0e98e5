import LocationService.Gps.Ownership

/-!
# Calls on handles that exist

While a thread holds the mutex shared, the handle that is installed is alive;
the thread in the reclaim always knows what it installed.  What remains are
the places where the handle is read without the mutex or used after giving it
back: the client on its way from the copy of the handle to the call, and the
callbacks that inject while no handle is installed.
-/

namespace LocationService.Gps

open LocationService.Library

/-! ## Safe calls -/

/-- The handle a call of the driver is made on. -/
def Event.target : Event → Option (Option Handle)
  | .start h => some (some h)
  | .stop o | .setPositionMode o _ _ | .injectLocation o | .injectTime o =>
      some o
  | _ => none

/-- A call after `earlier` is made on a handle that was created and not
deleted. -/
def Event.Safe (earlier : List Entry) (e : Event) : Prop :=
  ∀ o, e.target = some o →
    ∃ x, o = some x ∧ 0 < creations x earlier ∧ deletions x earlier = 0

/-- All calls in the log are safe. -/
def SafeLog (l : List Entry) : Prop :=
  ∀ τ e earlier, (⟨τ, e⟩ :: earlier) <:+ l → e.Safe earlier

theorem SafeLog.cons {l : List Entry} (h : SafeLog l) {e : Event}
    (he : e.Safe l) (τ : Nat) : SafeLog (⟨τ, e⟩ :: l) := by
  intro τ' e' earlier hsuf
  rcases List.suffix_cons_iff.mp hsuf with heq | hsuf
  · cases heq
    exact he
  · exact h τ' e' earlier hsuf

theorem Event.Safe.of_target_none {e : Event} (h : e.target = none)
    (l : List Entry) : e.Safe l := by
  intro o ho
  rw [h] at ho
  cases ho

theorem Event.Safe.of_live {e : Event} {l : List Entry} {next : Handle}
    (hc : Counted l next) {x : Handle} (he : e.target = some (some x))
    (hx : x ∈ liveHandles l) : e.Safe l := by
  intro o ho
  have hbal := hc.balance x
  have honce := hc.once x
  have hpos := List.count_pos_iff.mpr hx
  refine ⟨x, Option.some.inj (ho.symm.trans he), ?_, ?_⟩
  · omega
  · omega

/-! ## The installed handle under the mutex -/

/-- While nobody has exclusive ownership, an installed handle is alive. -/
theorem State.Tracked.installed {s : State} (h : s.Tracked)
    (hno : ∀ u, ¬ s.Excludes u) {x : Handle} (hx : s.gpsHandle = some x) :
    x ∈ liveHandles s.log := by
  have htoList : liveHandles s.log = s.gpsHandle.toList →
      x ∈ liveHandles s.log := by
    intro he
    rw [he, hx]
    exact List.mem_singleton.mpr rfl
  by_cases hall : ∀ u, s.reclaim u = none
  · exact htoList (h.rest hall)
  · obtain ⟨u, hu⟩ := not_forall.mp hall
    obtain ⟨pc, hpc⟩ := Option.ne_none_iff_exists'.mp hu
    have hfact := h.fact u pc hpc
    have hex := hno u
    simp only [State.Excludes, hpc, Option.any_some] at hex
    cases pc
    case clear => exact absurd rfl hex
    case unlockDelete => exact absurd rfl hex
    case install new => exact absurd rfl hex
    case callNew | inNew => rw [hfact.2] at hx; cases hx
    case lockInstall new => rw [hfact.2] at hx; cases hx
    case loadMode | callMode o | unlockRead o => exact htoList hfact.1
    case loadAgain y | inAgain y | arm y | start y => exact htoList hfact.1
    case callAgain y o => exact htoList hfact.1
    all_goals exact htoList hfact

/-! ## What the client has in hand -/

/-- The client has a copy of the handle and not the mutex. -/
def ClientPc.hasCopy : ClientPc → Bool
  | .startArm _ | .startStart _ | .callMode _ | .callInject _ => true
  | _ => false

/-- The client is about to read the handle without the mutex. -/
def ClientPc.loads : ClientPc → Bool
  | .loadMode | .loadInject => true
  | _ => false

/-- The handle that the client is about to use is alive. -/
def ClientPc.Grip (live : List Handle) (handle : Option Handle) :
    ClientPc → Prop
  | .startMode x | .startInMode x | .startUnlock x =>
      handle = some x ∧ x ∈ live
  | .startArm x | .startStart x => x ∈ live
  | .stopStop => ∃ x, handle = some x ∧ x ∈ live
  | .callMode o | .callInject o => ∃ x, o = some x ∧ x ∈ live
  | _ => True

theorem ClientPc.Grip.mono {live live' : List Handle} {handle : Option Handle}
    {pc : ClientPc} (h : pc.Grip live handle) (hsub : ∀ x ∈ live, x ∈ live') :
    pc.Grip live' handle := by
  cases pc
  case startMode y | startInMode y | startUnlock y =>
    exact ⟨h.1, hsub y h.2⟩
  case startArm y | startStart y => exact hsub y h
  case stopStop =>
    obtain ⟨x, hx, hl⟩ := h
    exact ⟨x, hx, hsub x hl⟩
  case callMode o | callInject o =>
    obtain ⟨x, hx, hl⟩ := h
    exact ⟨x, hx, hsub x hl⟩
  all_goals trivial

/-- Without the mutex it does not matter what is installed. -/
theorem ClientPc.Grip.reinstalled {live : List Handle}
    {handle : Option Handle} {pc : ClientPc} (h : pc.Grip live handle)
    (hno : pc.shares = 0) (handle' : Option Handle) : pc.Grip live handle' := by
  cases pc
  case startMode | startInMode | startUnlock | stopStop => cases hno
  all_goals exact h

/-- With neither the mutex nor a copy there is nothing in hand. -/
theorem ClientPc.Grip.of_empty {pc : ClientPc} (hno : pc.shares = 0)
    (hcopy : pc.hasCopy = false) (live : List Handle)
    (handle : Option Handle) : pc.Grip live handle := by
  cases pc
  case startMode | startInMode | startUnlock | stopStop => cases hno
  case startArm | startStart | callMode | callInject => cases hcopy
  all_goals trivial

/-! ## Undisturbed steps -/

/-- The callbacks that go on to call the driver with a location or a time. -/
def Callback.callsDriver (c : Capabilities) : Callback → Bool
  | .locationUpdate _ => true
  | .requestUtcTime _ => c.onDemandTime
  | _ => false

/-- A callback injects a location or a time only while a handle is installed,
no handle is deleted while the client has a copy of it, and the client reads
the handle without the mutex only while it is installed and alive. -/
def State.undisturbed (s : State) : Action → Bool
  | .run t _ =>
      match s.callback t with
      | some (.inject k) =>
          !k.callsDriver s.capabilities || s.gpsHandle.isSome
      | some _ => true
      | none =>
          match s.reclaim t with
          | some .delete => !s.client.hasCopy
          | some _ => true
          | none =>
              match t with
              | .client => !s.client.loads ||
                  s.gpsHandle.any fun x => x ∈ liveHandles s.log
              | _ => true
  | _ => true

/-- The guard as a property of a step. -/
def Undisturbed (a : Action) (s : State) : Prop := s.undisturbed a = true

instance (a : Action) (s : State) : Decidable (Undisturbed a s) :=
  inferInstanceAs (Decidable (_ = true))

/-- While the client holds the mutex shared nobody has it exclusively. -/
theorem State.Locked.shares_of_excludes {s : State} (h : s.Locked)
    {u : ThreadId} (hex : s.Excludes u) (t : ThreadId) : s.shares t = 0 := by
  by_contra hne
  exact h.not_exclusive (Nat.pos_of_ne_zero hne) u hex

/-- Only the deletion takes a handle out of the living. -/
theorem reclaim_live {s t : State} {u : ThreadId} {ok : Bool}
    {pc : ReclaimPc} (hrun : s.runReclaim u ok pc = some t)
    (hpc : pc ≠ .delete) : ∀ x ∈ liveHandles s.log, x ∈ liveHandles t.log := by
  intro x hx
  cases pc
  all_goals simp only [State.runReclaim] at hrun
  case delete => exact absurd rfl hpc
  case lockDelete | lockInstall new | lockRead =>
    obtain ⟨m, -, rfl⟩ := Option.map_eq_some_iff.mp hrun
    exact hx
  case inNew =>
    split at hrun
    · obtain rfl := Option.some.inj hrun
      exact List.mem_cons_of_mem _ hx
    · obtain rfl := Option.some.inj hrun
      exact hx
  case readHandle =>
    split at hrun
    all_goals
      obtain rfl := Option.some.inj hrun
      exact hx
  all_goals
    obtain rfl := Option.some.inj hrun
    exact hx

/-! ## Step by step -/

/-- What the client has in hand is alive and every call so far was safe. -/
structure State.Careful (s : State) : Prop where
  grip : s.client.Grip (liveHandles s.log) s.gpsHandle
  safe : SafeLog s.log

/-- The client's steps. -/
theorem careful_client {s t : State} (h : s.Careful) (hr : Reachable s)
    (hload : s.client.loads = true →
      ∃ x, s.gpsHandle = some x ∧ x ∈ liveHandles s.log)
    (hrun : s.runClient = some t) : t.Careful := by
  have hs := hr.held
  have hcount := hr.counted
  have hinstalled : s.client.shares ≠ 0 → ∀ x, s.gpsHandle = some x →
      x ∈ liveHandles s.log := by
    intro hsh x hx
    refine hr.tracked.installed (fun u hex => hsh ?_) hx
    have hzero := hs.locked.shares_of_excludes hex .client
    simp only [State.shares, State.ownShares] at hzero
    omega
  have hgrip := h.grip
  cases hc : s.client
  all_goals
    rw [hc] at hgrip hload hinstalled
    simp only [State.runClient, hc] at hrun
  case idle => cases hrun
  case startTry | stopTry =>
    split at hrun
    all_goals
      obtain rfl := Option.some.inj hrun
      exact ⟨trivial, h.safe⟩
  case startRead =>
    split at hrun
    · rename_i x hx
      obtain rfl := Option.some.inj hrun
      exact ⟨⟨hx, hinstalled (by decide) x hx⟩, h.safe⟩
    · obtain rfl := Option.some.inj hrun
      exact ⟨trivial, h.safe⟩
  case startMode x =>
    obtain rfl := Option.some.inj hrun
    refine ⟨hgrip, h.safe.cons ?_ s.now⟩
    exact .of_live hcount (congrArg some hgrip.1) hgrip.2
  case startInMode x =>
    obtain rfl := Option.some.inj hrun
    exact ⟨hgrip, h.safe⟩
  case startUnlock x =>
    obtain rfl := Option.some.inj hrun
    exact ⟨hgrip.2, h.safe⟩
  case startArm x =>
    obtain rfl := Option.some.inj hrun
    exact ⟨hgrip, h.safe⟩
  case startStart x =>
    obtain rfl := Option.some.inj hrun
    exact ⟨trivial, h.safe.cons (.of_live hcount rfl hgrip) s.now⟩
  case startExchange =>
    split at hrun
    all_goals
      obtain rfl := Option.some.inj hrun
      exact ⟨trivial, h.safe⟩
  case stopRead =>
    split at hrun
    · rename_i x hx
      obtain rfl := Option.some.inj hrun
      exact ⟨⟨x, hx, hinstalled (by decide) x hx⟩, h.safe⟩
    · obtain rfl := Option.some.inj hrun
      exact ⟨trivial, h.safe⟩
  case stopStop =>
    obtain rfl := Option.some.inj hrun
    obtain ⟨x, hx, hlive⟩ := hgrip
    refine ⟨trivial, h.safe.cons ?_ s.now⟩
    exact .of_live hcount (congrArg some hx) hlive
  case loadMode | loadInject =>
    obtain rfl := Option.some.inj hrun
    exact ⟨hload rfl, h.safe⟩
  case callMode o | callInject o =>
    obtain rfl := Option.some.inj hrun
    obtain ⟨x, hx, hlive⟩ := hgrip
    refine ⟨trivial, h.safe.cons ?_ s.now⟩
    exact .of_live hcount (congrArg some hx) hlive
  all_goals
    obtain rfl := Option.some.inj hrun
    exact ⟨trivial, h.safe⟩

/-- The reclaim leaves the client what it has in hand. -/
theorem grip_reclaim {s t : State} {u : ThreadId} {ok : Bool}
    {pc : ReclaimPc} (h : s.client.Grip (liveHandles s.log) s.gpsHandle)
    (hs : s.Held) (hpc : s.reclaim u = some pc)
    (hcopy : pc = .delete → s.client.hasCopy = false)
    (hrun : s.runReclaim u ok pc = some t) :
    t.client.Grip (liveHandles t.log) t.gpsHandle := by
  have hrc := ReclaimStep.of_run hrun
  rw [hrc.client]
  have hno : pc.excludes = true → s.client.shares = 0 := by
    intro hex
    have hexcl : s.Excludes u := by
      simp only [State.Excludes, hpc, Option.any_some, hex]
    have hzero := hs.locked.shares_of_excludes hexcl .client
    simp only [State.shares, State.ownShares] at hzero
    omega
  by_cases hdel : pc = .delete
  · exact .of_empty (hno (hdel ▸ rfl)) (hcopy hdel) _ _
  · have hmono := h.mono (reclaim_live hrun hdel)
    rcases hrc.gpsHandle with hsame | ⟨rfl, -, -⟩ | ⟨new, rfl, -, -⟩
    · rw [hsame]
      exact hmono
    · exact hmono.reinstalled (hno rfl) _
    · exact hmono.reinstalled (hno rfl) _

/-- The thread in the reclaim calls the driver on what it has installed. -/
theorem safe_reclaim {s t : State} {u : ThreadId} {ok : Bool}
    {pc : ReclaimPc} (h : SafeLog s.log) (hr : Reachable s)
    (hpc : s.reclaim u = some pc) (hrun : s.runReclaim u ok pc = some t) :
    SafeLog t.log := by
  have hfact := hr.tracked.fact u pc hpc
  have hcount := hr.counted
  have hlive : ∀ x, liveHandles s.log = s.gpsHandle.toList →
      s.gpsHandle = some x → x ∈ liveHandles s.log := by
    intro x hl hx
    rw [hl, hx]
    exact List.mem_singleton.mpr rfl
  cases pc
  all_goals simp only [State.runReclaim] at hrun
  case lockDelete | lockInstall new | lockRead =>
    obtain ⟨m, -, rfl⟩ := Option.map_eq_some_iff.mp hrun
    exact h
  case delete | inNew | readHandle =>
    split at hrun
    all_goals
      obtain rfl := Option.some.inj hrun
      first
        | exact h
        | exact h.cons (.of_target_none rfl _) s.now
  case callNew =>
    obtain rfl := Option.some.inj hrun
    exact h.cons (.of_target_none rfl _) s.now
  case callMode o =>
    obtain rfl := Option.some.inj hrun
    obtain ⟨hl, hne, ho⟩ := hfact
    obtain ⟨x, hx⟩ := Option.ne_none_iff_exists'.mp hne
    refine h.cons (.of_live hcount ?_ (hlive x hl hx)) s.now
    exact congrArg some (ho.trans hx)
  case callAgain y o =>
    obtain rfl := Option.some.inj hrun
    obtain ⟨hl, hx, ho⟩ := hfact
    refine h.cons (.of_live hcount ?_ (hlive y hl hx)) s.now
    exact congrArg some ho
  case start y =>
    obtain rfl := Option.some.inj hrun
    exact h.cons (.of_live hcount rfl (hlive y hfact.1 hfact.2)) s.now
  all_goals
    obtain rfl := Option.some.inj hrun
    exact h

/-- A callback has the mutex, so what is installed is alive. -/
theorem safe_callback {s t : State} {u : ThreadId} {pc : CallbackPc}
    (h : SafeLog s.log) (hr : Reachable s) (hpc : s.callback u = some pc)
    (hguard : ∀ k, pc = .inject k → k.callsDriver s.capabilities = true →
      s.gpsHandle ≠ none)
    (hrun : s.runCallback u pc = some t) : SafeLog t.log := by
  cases pc with
  | request k =>
      obtain ⟨m, -, rfl⟩ := Option.map_eq_some_iff.mp hrun
      exact h
  | body k =>
      obtain rfl := Option.some.inj hrun
      have hlog : (s.callbackBody k).log = ⟨s.now, .callback k⟩ :: s.log := by
        cases k <;> rfl
      show SafeLog (s.callbackBody k).log
      rw [hlog]
      exact h.cons (.of_target_none rfl _) s.now
  | inject k =>
      obtain rfl := Option.some.inj hrun
      have hinstalled : ∀ x, s.gpsHandle = some x →
          x ∈ liveHandles s.log := by
        intro x hx
        refine hr.tracked.installed (fun v hex => ?_) hx
        have hzero := hr.held.locked.shares_of_excludes hex u
        simp [State.shares, hpc, CallbackPc.shares] at hzero
      show SafeLog (s.callbackInject k).log
      cases k
      case locationUpdate b =>
        obtain ⟨x, hx⟩ := Option.ne_none_iff_exists'.mp (hguard _ rfl rfl)
        refine h.cons (.of_live hr.counted ?_ (hinstalled x hx)) s.now
        exact congrArg some hx
      case requestUtcTime b =>
        by_cases hcap : s.capabilities.onDemandTime = true
        · obtain ⟨x, hx⟩ := Option.ne_none_iff_exists'.mp (hguard _ rfl hcap)
          simp only [State.callbackInject, hcap, if_true]
          refine h.cons (.of_live hr.counted ?_ (hinstalled x hx)) s.now
          exact congrArg some hx
        · simp only [State.callbackInject, hcap]
          exact h
      case xtraDownloadRequest b =>
        exact h.cons (.of_target_none rfl _) s.now
      all_goals exact h
  | unlock =>
      obtain rfl := Option.some.inj hrun
      exact h

theorem State.Careful.step {a : Action} {s t : State} (h : s.Careful)
    (hr : Reachable s) (hg : Undisturbed a s) (hst : Moves s a t) :
    t.Careful := by
  cases hst with
  | tick d => exact ⟨h.grip, h.safe⟩
  | call op idle =>
      have hcall := Called.of_callOp s op
      constructor
      · rw [hcall.client, idle]
        cases op <;> simp only <;> try split
        all_goals trivial
      · rw [hcall.log]
        exact h.safe.cons (.of_target_none rfl _) s.now
  | enter u k free driver => exact ⟨h.grip, h.safe⟩
  | callback u ok pc _ here runs =>
      have hcb := CallbackStep.of_run runs
      constructor
      · have hlive : liveHandles t.log = liveHandles s.log := by
          rcases hcb.log with hq | ⟨k, -, hl⟩
          · rcases hq with hl | ⟨e, he, hl⟩
            · rw [hl]
            · rw [hl, liveHandles_cons_other (e.tracks_of_passive he)]
          · rw [hl]
            rfl
        rw [hcb.client, hcb.same.gpsHandle, hlive]
        exact h.grip
      · refine safe_callback h.safe hr here ?_ runs
        rintro k rfl hcalls
        simp only [Undisturbed, State.undisturbed, here, hcalls] at hg
        intro hnone
        rw [hnone] at hg
        cases hg
  | reclaim u ok pc _ calm here runs =>
      refine ⟨grip_reclaim h.grip hr.held here ?_ runs,
        safe_reclaim h.safe hr here runs⟩
      rintro rfl
      simpa [Undisturbed, State.undisturbed, calm, here] using hg
  | client ok _ calm runs =>
      refine careful_client h hr ?_ runs
      intro hloads
      have hnone := hr.held.typed.client
      simp only [Undisturbed, State.undisturbed, calm, hnone, hloads,
        Bool.not_true, Bool.false_or] at hg
      obtain ⟨x, hx, hlive⟩ := Option.any_eq_true _ _ |>.mp hg
      exact ⟨x, hx, of_decide_eq_true hlive⟩
  | watchdog ok _ calm outside runs =>
      have hwd := WatchdogStep.of_run runs
      constructor
      · rw [hwd.client, hwd.same.gpsHandle, hwd.log]
        exact h.grip
      · rw [hwd.log]
        exact h.safe

theorem State.Careful.init (b : Boot) : (afterConstructor b).Careful := by
  have hnil : SafeLog [] := fun τ e earlier hsuf =>
    nomatch List.eq_nil_of_suffix_nil hsuf
  refine ⟨trivial, ?_⟩
  obtain ⟨ok, stamp, c, created, now⟩ := b
  have hnew := hnil.cons (e := .new) (.of_target_none rfl _) created
  cases ok with
  | false =>
      have hret := hnew.cons (e := .returned none) (.of_target_none rfl _)
        created
      cases stamp with
      | none => exact hret
      | some τ => exact hret.cons (.of_target_none rfl _) τ
  | true =>
      have hret := hnew.cons (e := .returned (some 0)) (.of_target_none rfl _)
        created
      have hmode := hret.cons
        (e := .setPositionMode (some 0) .mobileStationBased .periodic)
        (fun o ho => ⟨0, (Option.some.inj ho).symm, by simp [creations],
          by simp [deletions]⟩)
        created
      cases stamp with
      | none => exact hmode
      | some τ => exact hmode.cons (.of_target_none rfl _) τ

/-! ## Handle safety -/

/-- In every undisturbed run each start, stop, change of modes and injection
of a location or a time was made on a handle that had been created and not
deleted. -/
theorem calls_on_live_handles {s : State}
    (h : machine.Reach Undisturbed s) : SafeLog s.log := by
  have hcareful : s.Careful := by
    refine reach_invariant (fun b _ => .init b) ?_ h
    intro a s t hr hc hg hst
    exact hc.step hr hg hst
  exact hcareful.safe

/-- A start on the handle that the constructor installed. -/
theorem calls_on_live_handles_on_start :
    ∃ s, play Undisturbed bootWith
        (.call .startPositioning :: steps .client 8) = some s ∧
      SafeLog s.log := by
  have hrun : (play Undisturbed bootWith
      (.call .startPositioning :: steps .client 8)).isSome := by decide
  have hplay := (Option.some_get hrun).symm
  exact ⟨_, hplay, calls_on_live_handles (reach_of_play bootWith_timely hplay)⟩

/-- The driver refuses a handle to the constructor, and a reference position
comes in before the GPS is started. -/
theorem injects_without_handle :
    ¬ ∀ s, Reachable s → SafeLog s.log := by
  intro hall
  have hrun : (play (fun _ _ => True) bootWithout
      (.call .injectReferencePosition :: steps .client 2)).isSome := by decide
  have hplay := (Option.some_get hrun).symm
  have hr := Reachable.of_reach (reach_of_play bootWithout_timely hplay)
  have hlog : (Option.get _ hrun).log =
      ⟨1, .injectLocation none⟩ :: ⟨1, .call .injectReferencePosition⟩ ::
        bootWithout.log := rfl
  have hsafe := hall _ hr
  rw [hlog] at hsafe
  obtain ⟨x, hx, -⟩ := hsafe 1 _ _ List.suffix_rfl none rfl
  cases hx

end LocationService.Gps
