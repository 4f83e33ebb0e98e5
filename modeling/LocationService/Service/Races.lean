import LocationService.Service.SessionStore

/-!
# Requests and disappearing clients on two threads

The handler of `CreateSessionForCriteria` runs on a worker thread and the slot
on `owner_changed` on another one.  The handler makes a watcher, connects the
slot, inserts the session under the lock and then, without the lock, copies the
list of applications, appends to the copy and assigns it.  The slot finds the
session, copies the list, removes from the copy, assigns it and erases the
session, all under the lock, which the handler's changes to the list do not
take.  Here each of these statements is a step of its own.
-/

namespace LocationService

open LocationService.Library

/-- Where the worker thread is in `handle_create_session_for_criteria`. -/
inductive Handler where
  | idle
  /-- The watcher is made. -/
  | watching (e : Element)
  /-- The slot is connected. -/
  | connected (e : Element)
  /-- The session is in the store. -/
  | inserted (e : Element)
  /-- `add_client_application` has copied the list. -/
  | adding (e : Element) (apps : List String)
  deriving DecidableEq, Repr

/-- Where the other thread is in `remove_from_session_store_for_path`. -/
inductive Callback where
  | idle
  /-- The slot has been called and waits for the lock. -/
  | called (path : UInt32)
  /-- The session is found. -/
  | found (e : Element)
  /-- `remove_client_application` has removed from its copy of the list. -/
  | removing (e : Element) (apps : List String)
  /-- The list is assigned, and the session still in the store. -/
  | removed (e : Element)
  deriving DecidableEq, Repr

/-- The session that the handler has not inserted yet. -/
def Handler.waiting : Handler → Option Element
  | .watching e | .connected e => some e
  | .idle | .inserted _ | .adding _ _ => none

/-- The session that the handler has inserted and not listed yet. -/
def Handler.pending : Handler → Option Element
  | .inserted e | .adding e _ => some e
  | .idle | .watching _ | .connected _ => none

/-- The session that the slot has found. -/
def Callback.session : Callback → Option Element
  | .found e | .removing e _ | .removed e => some e
  | .idle | .called _ => none

/-- The session that the slot has taken off the list and not erased yet. -/
def Callback.pending : Callback → Option Element
  | .removed e => some e
  | .idle | .called _ | .found _ | .removing _ _ => none

/-- The path that the slot has been called for. -/
def Callback.path : Callback → Option UInt32
  | .called path => some path
  | .found e | .removing e _ | .removed e => some e.path
  | .idle => none

/-- The lock of the session store is taken. -/
def Callback.HoldsGuard : Callback → Prop
  | .found _ | .removing _ _ | .removed _ => True
  | .idle | .called _ => False

instance : DecidablePred Callback.HoldsGuard
  | .found _ | .removing _ _ | .removed _ => isTrue trivial
  | .idle | .called _ => isFalse id

/-- The service under its two threads. -/
structure SessionService where
  store : SessionStore
  handler : Handler
  callback : Callback
  /-- The clients that have disappeared. -/
  gone : List String
  /-- The watchers that have been notified. -/
  notified : List Nat
  /-- All sessions that have ever been inserted. -/
  created : List Element

namespace SessionService

open SessionStore

/-- A service without sessions. -/
def init : SessionService := ⟨.init, .idle, .idle, [], [], []⟩

/-- The steps of the worker thread, of the clients, and of the thread of the
slot. -/
inductive Action where
  | request (sender appId : String)
  | connect
  | insert
  | copyForAdd
  | assignAdded
  | disappear (name : String)
  /-- The watcher of the handler is notified. -/
  | notifyHandler
  /-- The watcher of a session in the store is notified. -/
  | notify (e : Element)
  | find
  | copyForRemove
  | assignRemoved
  | erase
  deriving DecidableEq, Repr

/-- The watcher has a disappearance to report and has not reported it. -/
def MayNotify (e : Element) (s : SessionService) : Prop :=
  e.watcher.name ∈ s.gone ∧ e.watcher.id ∉ s.notified ∧ s.callback = .idle

instance (e : Element) (s : SessionService) : Decidable (MayNotify e s) :=
  inferInstanceAs (Decidable (_ ∧ _ ∧ _))

/-- One step; `none` when it does not apply. -/
def exec : Action → SessionService → Option SessionService
  | .request sender appId, s =>
      match s.handler with
      | .idle =>
          let e : Element :=
            ⟨s.store.index, ⟨s.store.watchers, sender⟩, appId⟩
          some { s with
            store := { s.store with
              index := s.store.index + 1, watchers := s.store.watchers + 1 }
            handler := .watching e }
      | _ => none
  | .connect, s =>
      match s.handler with
      | .watching e => some { s with handler := .connected e }
      | _ => none
  | .insert, s =>
      match s.handler with
      | .connected e =>
          if s.callback.HoldsGuard then none
          else
            let (store, inserted) := s.store.addToSessionStoreForPath e
            if inserted then
              some { s with
                store := store, handler := .inserted e
                created := e :: s.created }
            else some { s with store := store, handler := .idle }
      | _ => none
  | .copyForAdd, s =>
      match s.handler with
      | .inserted e =>
          some { s with handler := .adding e s.store.clientApplications }
      | _ => none
  | .assignAdded, s =>
      match s.handler with
      | .adding e apps =>
          some { s with
            store := { s.store with clientApplications := apps ++ [e.appId] }
            handler := .idle }
      | _ => none
  | .disappear name, s => some { s with gone := name :: s.gone }
  | .notifyHandler, s =>
      match s.handler with
      | .watching e =>
          if MayNotify e s then
            some { s with notified := e.watcher.id :: s.notified }
          else none
      | .connected e =>
          if MayNotify e s then
            some { s with
              notified := e.watcher.id :: s.notified
              callback := .called e.path }
          else none
      | _ => none
  | .notify e, s =>
      if e ∈ s.store.sessions ∧ MayNotify e s then
        some { s with
          notified := e.watcher.id :: s.notified
          callback := .called e.path }
      else none
  | .find, s =>
      match s.callback with
      | .called path =>
          match s.store.sessions.find? fun e => e.path == path with
          | none => some { s with callback := .idle }
          | some e => some { s with callback := .found e }
      | _ => none
  | .copyForRemove, s =>
      match s.callback with
      | .found e =>
          let apps := s.store.clientApplications.filter (· != e.appId)
          some { s with callback := .removing e apps }
      | _ => none
  | .assignRemoved, s =>
      match s.callback with
      | .removing e apps =>
          some { s with
            store := { s.store with clientApplications := apps }
            callback := .removed e }
      | _ => none
  | .erase, s =>
      match s.callback with
      | .removed e =>
          some { s with store := s.store.erase e.path, callback := .idle }
      | _ => none

/-- A service from its construction on. -/
def machine : Machine SessionService Action :=
  { initial := fun s => s = init
    step := fun a s t => exec a s = some t }

/-! ## What is asked of the service -/

/-- The sessions of clients that are still there. -/
def alive (s : SessionService) : List Element :=
  s.created.filter fun e => decide (e.watcher.name ∉ s.gone)

/-- Both threads are done, and every disappearance has been reported to the
sessions of its client. -/
def Quiescent (s : SessionService) : Prop :=
  s.handler = .idle ∧ s.callback = .idle ∧
    ∀ e ∈ s.store.sessions, e.watcher.name ∈ s.gone →
      e.watcher.id ∈ s.notified

/-- The store and the list have an entry for every session whose client is
there, and no other. -/
def Clean (s : SessionService) : Prop :=
  s.store.sessions.Perm s.alive ∧
    s.store.clientApplications.Perm (s.alive.map Element.appId)

instance (s : SessionService) : Decidable s.Quiescent :=
  inferInstanceAs (Decidable (_ ∧ _ ∧ ∀ e ∈ s.store.sessions, _ → _))

instance (s : SessionService) : Decidable s.Clean :=
  inferInstanceAs (Decidable (_ ∧ _))

/-- The steps that stay clear of the windows between the two threads: a watcher
is notified only when its slot is connected and its path not in use by another
session; the slot finds its session; the lists that are assigned have been
copied from the present one; and when the slot assigns, the session is listed
and no other one is listed under its profile. -/
def KeepsClean (a : Action) (s : SessionService) : Prop :=
  match a with
  | .notifyHandler =>
      match s.handler with
      | .watching _ => False
      | .connected e => e.path ∉ s.store.sessions.map Element.path
      | _ => True
  | .assignAdded =>
      match s.handler with
      | .adding _ apps => apps = s.store.clientApplications
      | _ => True
  | .find =>
      match s.callback with
      | .called path => path ∈ s.store.sessions.map Element.path
      | _ => True
  | .assignRemoved =>
      match s.callback with
      | .removing e apps =>
          apps = s.store.clientApplications.filter (· != e.appId) ∧
          s.handler.pending ≠ some e ∧
          ∀ d ∈ s.store.sessions, d ≠ e → s.handler.pending ≠ some d →
            d.appId ≠ e.appId
      | _ => True
  | _ => True

instance KeepsClean.decidable (a : Action) (s : SessionService) :
    Decidable (KeepsClean a s) := by
  unfold KeepsClean
  split
  · split <;> infer_instance
  · split <;> infer_instance
  · split <;> infer_instance
  · split <;> infer_instance
  · infer_instance

/-! ## The invariant of runs clear of the windows -/

/-- Sessions in the store whose profiles the list does not show. -/
def unlisted (s : SessionService) : List Element :=
  s.handler.pending.toList ++ s.callback.pending.toList

/-- What holds in every state of a run clear of the windows. -/
structure Inv (s : SessionService) : Prop where
  unique : s.store.UniquePaths
  idInj : ∀ d ∈ s.store.sessions, ∀ e ∈ s.store.sessions,
    d.watcher.id = e.watcher.id → d = e
  idLt : ∀ e ∈ s.store.sessions, e.watcher.id < s.store.watchers
  notifiedLt : ∀ n ∈ s.notified, n < s.store.watchers
  waitingId : ∀ e, s.handler.waiting = some e →
    e.watcher.id < s.store.watchers ∧
    ∀ d ∈ s.store.sessions, d.watcher.id ≠ e.watcher.id
  waitingFresh : ∀ e, s.handler.waiting = some e → e.watcher.id ∈ s.notified →
    e.path ∉ s.store.sessions.map Element.path
  pendingStored : ∀ e, s.handler.pending = some e → e ∈ s.store.sessions
  callbackStored : ∀ e, s.callback.session = some e →
    e ∈ s.store.sessions ∧ e.watcher.name ∈ s.gone
  apart : ∀ e, s.callback.pending = some e → s.handler.pending ≠ some e
  calledKnown : ∀ p, s.callback = .called p →
    ∃ e, (e ∈ s.store.sessions ∨ s.handler.waiting = some e) ∧ e.path = p ∧
      e.watcher.name ∈ s.gone ∧ e.watcher.id ∈ s.notified
  notifiedCalled : ∀ e, e ∈ s.store.sessions ∨ s.handler.waiting = some e →
    e.watcher.id ∈ s.notified → s.callback.path = some e.path
  listed : (s.store.clientApplications ++
    s.unlisted.map Element.appId).Perm (s.store.sessions.map Element.appId)
  kept : (s.store.sessions.filter fun e =>
    decide (e.watcher.name ∉ s.gone)).Perm s.alive

theorem inv_init : Inv init :=
  { unique := List.nodup_nil
    idInj := by simp [init, SessionStore.init]
    idLt := by simp [init, SessionStore.init]
    notifiedLt := by simp [init]
    waitingId := by simp [init, Handler.waiting]
    waitingFresh := by simp [init, Handler.waiting]
    pendingStored := by simp [init, Handler.pending]
    callbackStored := by simp [init, Callback.session]
    apart := by simp [init, Callback.pending]
    calledKnown := by simp [init]
    notifiedCalled := by simp [init, SessionStore.init, Handler.waiting]
    listed := by simp [init, SessionStore.init, unlisted, Handler.pending,
      Callback.pending]
    kept := by simp [init, SessionStore.init, alive] }

/-! ## Steps of the handler -/

section Steps

variable {store : SessionStore} {handler : Handler} {callback : Callback}
  {gone : List String} {notified : List Nat} {created : List Element}

private theorem Inv.request
    (h : Inv ⟨store, .idle, callback, gone, notified, created⟩)
    (sender appId : String) (index : UInt32) :
    Inv ⟨{ store with index := index, watchers := store.watchers + 1 },
      .watching ⟨store.index, ⟨store.watchers, sender⟩, appId⟩,
      callback, gone, notified, created⟩ := by
  let e : Element := ⟨store.index, ⟨store.watchers, sender⟩, appId⟩
  have hnew : ∀ d, Handler.waiting (.watching e) = some d → d = e := by
    intro d hd
    exact (Option.some.inj hd).symm
  have hnever : ∀ d, Handler.waiting (.watching e) = some d →
      d.watcher.id ∉ notified := by
    intro d hd hmem
    obtain rfl := hnew d hd
    exact Nat.lt_irrefl store.watchers (h.notifiedLt store.watchers hmem)
  exact { h with
    idLt := fun d hd => Nat.lt_succ_of_lt (h.idLt d hd)
    notifiedLt := fun n hn => Nat.lt_succ_of_lt (h.notifiedLt n hn)
    waitingId := by
      intro d hd
      obtain rfl := hnew d hd
      exact ⟨Nat.lt_succ_self store.watchers,
        fun d hd => Nat.ne_of_lt (h.idLt d hd)⟩
    waitingFresh := fun d hd hmem => absurd hmem (hnever d hd)
    calledKnown := by
      intro p hp
      obtain ⟨d, hd, hrest⟩ := h.calledKnown p hp
      rcases hd with hd | hd
      · exact ⟨d, .inl hd, hrest⟩
      · cases hd
    notifiedCalled := by
      intro d hd hmem
      rcases hd with hd | hd
      · exact h.notifiedCalled d (.inl hd) hmem
      · exact absurd hmem (hnever d hd) }

private theorem Inv.connect {e : Element}
    (h : Inv ⟨store, .watching e, callback, gone, notified, created⟩) :
    Inv ⟨store, .connected e, callback, gone, notified, created⟩ :=
  { h with }

private theorem Inv.insert {e : Element}
    (h : Inv ⟨store, .connected e, callback, gone, notified, created⟩)
    (hguard : ¬ callback.HoldsGuard)
    (hfresh : e.path ∉ store.sessions.map Element.path) :
    Inv ⟨{ store with sessions := e :: store.sessions }, .inserted e, callback,
      gone, notified, e :: created⟩ := by
  have hid := h.waitingId e rfl
  have hpending : callback.pending = none := by
    cases callback with
    | idle | called path | found d | removing d apps => rfl
    | removed d => exact absurd trivial hguard
  exact { h with
    unique := List.nodup_cons.mpr ⟨hfresh, h.unique⟩
    idInj := by
      intro c hc d hd heq
      rcases List.mem_cons.mp hc with hce | hc
      · rcases List.mem_cons.mp hd with hde | hd
        · exact hce.trans hde.symm
        · exact absurd (hce ▸ heq.symm) (hid.2 d hd)
      · rcases List.mem_cons.mp hd with hde | hd
        · exact absurd (hde ▸ heq) (hid.2 c hc)
        · exact h.idInj c hc d hd heq
    idLt := by
      intro d hd
      rcases List.mem_cons.mp hd with rfl | hd
      · exact hid.1
      · exact h.idLt d hd
    waitingId := fun d hd => by cases hd
    waitingFresh := fun d hd => by cases hd
    pendingStored := by
      intro d hd
      obtain rfl := Option.some.inj hd
      exact List.mem_cons_self ..
    callbackStored := by
      intro d hd
      have hold := h.callbackStored d hd
      exact ⟨List.mem_cons_of_mem e hold.1, hold.2⟩
    apart := by
      intro d hd
      have hnone : none = some d := hpending.symm.trans hd
      cases hnone
    calledKnown := by
      intro p hp
      obtain ⟨d, hd, hrest⟩ := h.calledKnown p hp
      have hmem : d ∈ e :: store.sessions := by
        rcases hd with hd | hd
        · exact List.mem_cons_of_mem e hd
        · obtain rfl := Option.some.inj hd
          exact List.mem_cons_self ..
      exact ⟨d, .inl hmem, hrest⟩
    notifiedCalled := by
      intro d hd hmem
      rcases hd with hd | hd
      · rcases List.mem_cons.mp hd with rfl | hd
        · exact h.notifiedCalled d (.inr rfl) hmem
        · exact h.notifiedCalled d (.inl hd) hmem
      · cases hd
    listed := by
      have hlisted : (store.clientApplications ++
          (none.toList ++ callback.pending.toList).map Element.appId).Perm
          (store.sessions.map Element.appId) := h.listed
      show (store.clientApplications ++
          ((some e).toList ++ callback.pending.toList).map Element.appId).Perm
          (e.appId :: store.sessions.map Element.appId)
      rw [hpending] at hlisted ⊢
      have happs : store.clientApplications.Perm
          (store.sessions.map Element.appId) := by
        simpa using hlisted
      have hsingle := List.perm_append_singleton e.appId
        store.clientApplications
      exact hsingle.trans (happs.cons e.appId)
    kept := by
      have hkept : (store.sessions.filter fun d =>
          decide (d.watcher.name ∉ gone)).Perm
          (created.filter fun d => decide (d.watcher.name ∉ gone)) := h.kept
      show ((e :: store.sessions).filter fun d =>
          decide (d.watcher.name ∉ gone)).Perm
          ((e :: created).filter fun d => decide (d.watcher.name ∉ gone))
      rw [List.filter_cons, List.filter_cons]
      split
      · exact hkept.cons e
      · exact hkept }

/-- A session whose path is in use is refused, and its watcher destroyed. -/
private theorem Inv.refuse {e : Element}
    (h : Inv ⟨store, .connected e, callback, gone, notified, created⟩)
    (hused : e.path ∈ store.sessions.map Element.path) :
    Inv ⟨store, .idle, callback, gone, notified, created⟩ := by
  exact { h with
    waitingId := fun d hd => by cases hd
    waitingFresh := fun d hd => by cases hd
    calledKnown := by
      intro p hp
      obtain ⟨d, hd, hpath, hgone, hmem⟩ := h.calledKnown p hp
      rcases hd with hd | hd
      · exact ⟨d, .inl hd, hpath, hgone, hmem⟩
      · obtain rfl := Option.some.inj hd
        exact absurd hused (h.waitingFresh e rfl hmem)
    notifiedCalled := by
      intro d hd hmem
      rcases hd with hd | hd
      · exact h.notifiedCalled d (.inl hd) hmem
      · cases hd }

private theorem Inv.copyForAdd {e : Element}
    (h : Inv ⟨store, .inserted e, callback, gone, notified, created⟩)
    (apps : List String) :
    Inv ⟨store, .adding e apps, callback, gone, notified, created⟩ :=
  { h with }

private theorem Inv.assignAdded {e : Element} {apps : List String}
    (h : Inv ⟨store, .adding e apps, callback, gone, notified, created⟩)
    (hcopy : apps = store.clientApplications) :
    Inv ⟨{ store with clientApplications := apps ++ [e.appId] }, .idle,
      callback, gone, notified, created⟩ := by
  exact { h with
    pendingStored := fun d hd => by cases hd
    apart := fun d _ hd => by cases hd
    listed := by
      have hlisted : (store.clientApplications ++
          ([e] ++ callback.pending.toList).map Element.appId).Perm
          (store.sessions.map Element.appId) := h.listed
      show (apps ++ [e.appId] ++
          ([] ++ callback.pending.toList).map Element.appId).Perm
          (store.sessions.map Element.appId)
      rw [hcopy]
      simpa using hlisted }

/-! ## Steps of the clients and of the slot -/

private theorem Inv.disappear
    (h : Inv ⟨store, handler, callback, gone, notified, created⟩)
    (name : String) :
    Inv ⟨store, handler, callback, name :: gone, notified, created⟩ := by
  exact { h with
    callbackStored := by
      intro e he
      have hold := h.callbackStored e he
      exact ⟨hold.1, List.mem_cons_of_mem name hold.2⟩
    calledKnown := by
      intro p hp
      obtain ⟨e, he, hpath, hgone, hmem⟩ := h.calledKnown p hp
      exact ⟨e, he, hpath, List.mem_cons_of_mem name hgone, hmem⟩
    kept := by
      have hsplit : ∀ l : List Element,
          (l.filter fun e => decide (e.watcher.name ∉ name :: gone)) =
            (l.filter fun e => decide (e.watcher.name ∉ gone)).filter
              fun e => decide (e.watcher.name ≠ name) := by
        intro l
        rw [List.filter_filter]
        refine List.filter_congr fun e _ => ?_
        rw [Bool.eq_iff_iff]
        simp
      show (store.sessions.filter _).Perm (created.filter _)
      rw [hsplit, hsplit]
      exact h.kept.filter _ }

/-- A watcher reports the disappearance of its client, and its slot is
called. -/
private theorem Inv.report {e : Element}
    (h : Inv ⟨store, handler, .idle, gone, notified, created⟩)
    (he : e ∈ store.sessions ∨ handler.waiting = some e)
    (hfresh : handler.waiting = some e →
      e.path ∉ store.sessions.map Element.path)
    (hgone : e.watcher.name ∈ gone) :
    Inv ⟨store, handler, .called e.path, gone, e.watcher.id :: notified,
      created⟩ := by
  -- nobody else has the watcher
  have hsame : ∀ d, d ∈ store.sessions ∨ handler.waiting = some d →
      d.watcher.id = e.watcher.id → d = e := by
    intro d hd hid
    rcases hd with hd | hd
    · rcases he with he | he
      · exact h.idInj d hd e he hid
      · exact absurd hid ((h.waitingId e he).2 d hd)
    · rcases he with he | he
      · exact absurd hid.symm ((h.waitingId d hd).2 e he)
      · exact Option.some.inj (hd.symm.trans he)
  exact { h with
    notifiedLt := by
      intro n hn
      rcases List.mem_cons.mp hn with rfl | hn
      · rcases he with he | he
        · exact h.idLt e he
        · exact (h.waitingId e he).1
      · exact h.notifiedLt n hn
    waitingFresh := by
      intro d hd hmem
      rcases List.mem_cons.mp hmem with hid | hmem
      · obtain rfl := hsame d (.inr hd) hid
        exact hfresh hd
      · exact h.waitingFresh d hd hmem
    calledKnown := by
      intro p hp
      have hpath : e.path = p := Callback.called.inj hp
      exact ⟨e, he, hpath, hgone, List.mem_cons_self ..⟩
    notifiedCalled := by
      intro d hd hmem
      rcases List.mem_cons.mp hmem with hid | hmem
      · obtain rfl := hsame d hd hid
        rfl
      · cases h.notifiedCalled d hd hmem }

private theorem Inv.find {e : Element} {path : UInt32}
    (h : Inv ⟨store, handler, .called path, gone, notified, created⟩)
    (he : e ∈ store.sessions) (hpath : e.path = path) :
    Inv ⟨store, handler, .found e, gone, notified, created⟩ := by
  have hgone : e.watcher.name ∈ gone := by
    obtain ⟨d, hd, hdpath, hgone, hmem⟩ := h.calledKnown path rfl
    rcases hd with hd | hd
    · obtain rfl := h.unique.eq_of_path hd he (hdpath.trans hpath.symm)
      exact hgone
    · have hused : d.path ∈ store.sessions.map Element.path :=
        List.mem_map.mpr ⟨e, he, hpath.trans hdpath.symm⟩
      exact absurd hused (h.waitingFresh d hd hmem)
  exact { h with
    callbackStored := by
      intro d hd
      obtain rfl := Option.some.inj hd
      exact ⟨he, hgone⟩
    calledKnown := fun p hp => by cases hp
    notifiedCalled := by
      intro d hd hmem
      have hcalled : some path = some d.path := h.notifiedCalled d hd hmem
      exact (congrArg some hpath).trans hcalled }

private theorem Inv.copyForRemove {e : Element}
    (h : Inv ⟨store, handler, .found e, gone, notified, created⟩)
    (apps : List String) :
    Inv ⟨store, handler, .removing e apps, gone, notified, created⟩ :=
  { h with calledKnown := fun p hp => by cases hp }

/-- The sessions behind the list, the one that the slot removes taken out. -/
private theorem exists_rest {l : List Element} (hl : l.Nodup) {e : Element}
    (he : e ∈ l) {p : Option Element} (hp : ∀ d, p = some d → d ∈ l)
    (hne : p ≠ some e) :
    ∃ rest, l.Perm (e :: (p.toList ++ rest)) ∧
      ∀ d ∈ rest, d ∈ l ∧ d ≠ e ∧ p ≠ some d := by
  have hnodup : (e :: p.toList).Nodup := by
    cases p with
    | none => simp
    | some d =>
        have hd : e ≠ d := fun heq => hne (congrArg some heq.symm)
        simpa using hd
  have hsub : (e :: p.toList) ⊆ l := by
    intro d hd
    rcases List.mem_cons.mp hd with rfl | hd
    · exact he
    · exact hp d (Option.mem_toList.mp hd)
  obtain ⟨first, hfirst, hsublist⟩ := List.subperm_of_subset hnodup hsub
  obtain ⟨rest, hsplit⟩ := hsublist.exists_perm_append
  have hrest : l.Perm (e :: (p.toList ++ rest)) :=
    hsplit.trans (hfirst.append_right rest)
  have hall : (e :: (p.toList ++ rest)).Nodup := hrest.nodup_iff.mp hl
  refine ⟨rest, hrest, fun d hd => ⟨?_, ?_, ?_⟩⟩
  · exact hrest.mem_iff.mpr
      (List.mem_cons_of_mem e (List.mem_append_right _ hd))
  · rintro rfl
    exact (List.nodup_cons.mp hall).1 (List.mem_append_right _ hd)
  · rintro rfl
    have hdisjoint := List.disjoint_of_nodup_append (List.nodup_cons.mp hall).2
    exact hdisjoint (List.mem_singleton_self d) hd

private theorem Inv.assignRemoved {e : Element} {apps : List String}
    (h : Inv ⟨store, handler, .removing e apps, gone, notified, created⟩)
    (hcopy : apps = store.clientApplications.filter (· != e.appId))
    (hlist : handler.pending ≠ some e)
    (hshare : ∀ d ∈ store.sessions, d ≠ e → handler.pending ≠ some d →
      d.appId ≠ e.appId) :
    Inv ⟨{ store with clientApplications := apps }, handler, .removed e, gone,
      notified, created⟩ := by
  exact { h with
    apart := by
      intro d hd
      obtain rfl := Option.some.inj hd
      exact hlist
    calledKnown := fun p hp => by cases hp
    listed := by
      obtain ⟨rest, hrest, hothers⟩ := exists_rest h.unique.of_map
        (h.callbackStored e rfl).1 h.pendingStored hlist
      let pending := handler.pending.toList.map Element.appId
      have hsessions : (store.sessions.map Element.appId).Perm
          (e.appId :: (pending ++ rest.map Element.appId)) := by
        have hmap := hrest.map Element.appId
        rwa [List.map_cons, List.map_append] at hmap
      have hlisted : (store.clientApplications ++ pending).Perm
          (store.sessions.map Element.appId) := by
        have hold : (store.clientApplications ++
            (handler.pending.toList ++ []).map Element.appId).Perm
            (store.sessions.map Element.appId) := h.listed
        rwa [List.append_nil] at hold
      -- the list shows the session and the others
      have hshown : store.clientApplications.Perm
          (e.appId :: rest.map Element.appId) := by
        have hboth := hlisted.trans hsessions
        have hswap : (e.appId :: (pending ++ rest.map Element.appId)).Perm
            (e.appId :: rest.map Element.appId ++ pending) :=
          List.perm_append_comm.cons e.appId
        exact (List.perm_append_right_iff pending).mp (hboth.trans hswap)
      have hleft : apps.Perm (rest.map Element.appId) := by
        rw [hcopy]
        refine (hshown.filter _).trans (List.Perm.of_eq ?_)
        rw [List.filter_cons_of_neg (by simp)]
        refine List.filter_eq_self.mpr fun app happ => ?_
        obtain ⟨d, hd, rfl⟩ := List.mem_map.mp happ
        obtain ⟨hmem, hne, hpending⟩ := hothers d hd
        exact bne_iff_ne.mpr (hshare d hmem hne hpending)
      show (apps ++ (handler.pending.toList ++ [e]).map Element.appId).Perm
        (store.sessions.map Element.appId)
      rw [List.map_append]
      have hback : (apps ++ (pending ++ [e.appId])).Perm
          (e.appId :: (pending ++ rest.map Element.appId)) := by
        rw [← List.append_assoc]
        apply (List.perm_append_singleton e.appId _).trans
        refine (List.perm_append_comm.trans ?_).cons e.appId
        exact hleft.append_left pending
      exact hback.trans hsessions.symm }

private theorem Inv.erase {e : Element}
    (h : Inv ⟨store, handler, .removed e, gone, notified, created⟩) :
    Inv ⟨store.erase e.path, handler, .idle, gone, notified, created⟩ := by
  have hunique : store.UniquePaths := h.unique
  obtain ⟨he, hgone⟩ : e ∈ store.sessions ∧ e.watcher.name ∈ gone :=
    h.callbackStored e rfl
  have hsub : ∀ d ∈ (store.erase e.path).sessions, d ∈ store.sessions :=
    fun d hd => ((hunique.mem_erase he).mp hd).1
  exact { h with
    unique := hunique.erase e.path
    idInj := fun c hc d hd => h.idInj c (hsub c hc) d (hsub d hd)
    idLt := fun d hd => h.idLt d (hsub d hd)
    waitingId := by
      intro d hd
      have hold := h.waitingId d hd
      exact ⟨hold.1, fun c hc => hold.2 c (hsub c hc)⟩
    waitingFresh := by
      intro d hd hnotified hused
      obtain ⟨c, hc, hpath⟩ := List.mem_map.mp hused
      exact h.waitingFresh d hd hnotified
        (List.mem_map.mpr ⟨c, hsub c hc, hpath⟩)
    pendingStored := by
      intro d hd
      have hne : d ≠ e := fun heq => h.apart e rfl (heq ▸ hd)
      exact (hunique.mem_erase he).mpr ⟨h.pendingStored d hd, hne⟩
    callbackStored := fun d hd => by cases hd
    apart := fun d hd => by cases hd
    calledKnown := fun p hp => by cases hp
    notifiedCalled := by
      intro d hd hnotified
      rcases hd with hd | hd
      · obtain ⟨hd, hne⟩ := (hunique.mem_erase he).mp hd
        have hpath : some e.path = some d.path :=
          h.notifiedCalled d (.inl hd) hnotified
        have heq := hunique.eq_of_path hd he (Option.some.inj hpath).symm
        exact absurd heq hne
      · have hpath : some e.path = some d.path :=
          h.notifiedCalled d (.inr hd) hnotified
        have hused : d.path ∈ store.sessions.map Element.path :=
          List.mem_map.mpr ⟨e, he, Option.some.inj hpath⟩
        exact absurd hused (h.waitingFresh d hd hnotified)
    listed := by
      have hold : (store.clientApplications ++
          (handler.pending.toList ++ [e]).map Element.appId).Perm
          (store.sessions.map Element.appId) := h.listed
      show (store.clientApplications ++
        (handler.pending.toList ++ []).map Element.appId).Perm
        ((store.erase e.path).sessions.map Element.appId)
      rw [List.append_nil]
      rw [List.map_append, ← List.append_assoc] at hold
      have hsingle := (List.perm_append_singleton e.appId
        (store.clientApplications ++
          handler.pending.toList.map Element.appId)).symm
      have hrest := (hunique.perm_erase he).map Element.appId
      have hcons := (hsingle.trans hold).trans hrest
      exact List.Perm.cons_inv hcons
    kept := by
      have hkept : (store.sessions.filter fun d =>
          decide (d.watcher.name ∉ gone)).Perm
          (created.filter fun d => decide (d.watcher.name ∉ gone)) := h.kept
      show ((store.sessions.filter fun d => d.path != e.path).filter fun d =>
          decide (d.watcher.name ∉ gone)).Perm
          (created.filter fun d => decide (d.watcher.name ∉ gone))
      rw [List.filter_filter]
      refine (List.Perm.of_eq (List.filter_congr fun d hd => ?_)).trans hkept
      rw [Bool.eq_iff_iff, Bool.and_eq_true]
      refine and_iff_left_of_imp fun halive => bne_iff_ne.mpr fun hpath => ?_
      obtain rfl := hunique.eq_of_path hd he hpath
      exact of_decide_eq_true halive hgone }

end Steps

/-- Every step clear of the windows keeps the invariant. -/
theorem Inv.step {a : Action} {s t : SessionService} (h : Inv s)
    (hg : KeepsClean a s) (hst : machine.step a s t) : Inv t := by
  obtain ⟨store, handler, callback, gone, notified, created⟩ := s
  cases a with
  | request sender appId =>
      cases handler with
      | idle =>
          obtain rfl := Option.some.inj hst
          exact h.request sender appId (store.index + 1)
      | watching e | connected e | inserted e | adding e apps =>
          exact absurd hst (Option.some_ne_none t).symm
  | connect =>
      cases handler with
      | watching e =>
          obtain rfl := Option.some.inj hst
          exact h.connect
      | idle | connected e | inserted e | adding e apps =>
          exact absurd hst (Option.some_ne_none t).symm
  | insert =>
      cases handler with
      | connected e =>
          have hexec : exec .insert
              ⟨store, .connected e, callback, gone, notified, created⟩ =
              some t := hst
          simp only [exec, addToSessionStoreForPath] at hexec
          split at hexec
          · cases hexec
          · rename_i hguard
            split at hexec
            · rename_i hused
              obtain rfl := Option.some.inj hexec
              exact h.refuse hused
            · rename_i hfresh
              obtain rfl := Option.some.inj hexec
              exact h.insert hguard hfresh
      | idle | watching e | inserted e | adding e apps =>
          exact absurd hst (Option.some_ne_none t).symm
  | copyForAdd =>
      cases handler with
      | inserted e =>
          obtain rfl := Option.some.inj hst
          exact h.copyForAdd store.clientApplications
      | idle | watching e | connected e | adding e apps =>
          exact absurd hst (Option.some_ne_none t).symm
  | assignAdded =>
      cases handler with
      | adding e apps =>
          obtain rfl := Option.some.inj hst
          exact h.assignAdded hg
      | idle | watching e | connected e | inserted e =>
          exact absurd hst (Option.some_ne_none t).symm
  | disappear name =>
      obtain rfl := Option.some.inj hst
      exact h.disappear name
  | notifyHandler =>
      cases handler with
      | watching e => exact absurd hg id
      | connected e =>
          have hexec : exec .notifyHandler
              ⟨store, .connected e, callback, gone, notified, created⟩ =
              some t := hst
          simp only [exec] at hexec
          split at hexec
          · rename_i hmay
            obtain rfl : callback = .idle := hmay.2.2
            obtain rfl := Option.some.inj hexec
            exact h.report (.inr rfl) (fun _ => hg) hmay.1
          · cases hexec
      | idle | inserted e | adding e apps =>
          exact absurd hst (Option.some_ne_none t).symm
  | notify e =>
      have hexec : exec (.notify e)
          ⟨store, handler, callback, gone, notified, created⟩ = some t := hst
      simp only [exec] at hexec
      split at hexec
      · rename_i hmay
        obtain ⟨he, hmay⟩ := hmay
        obtain rfl : callback = .idle := hmay.2.2
        obtain rfl := Option.some.inj hexec
        have hfresh : handler.waiting = some e →
            e.path ∉ store.sessions.map Element.path :=
          fun hwaiting => absurd rfl ((h.waitingId e hwaiting).2 e he)
        exact h.report (.inl he) hfresh hmay.1
      · cases hexec
  | find =>
      cases callback with
      | called path =>
          have hexec : exec .find
              ⟨store, handler, .called path, gone, notified, created⟩ =
              some t := hst
          simp only [exec] at hexec
          split at hexec
          · rename_i hnone
            obtain ⟨e, he, hpath⟩ := List.mem_map.mp hg
            have hne := List.find?_eq_none.mp hnone e he
            exact absurd (beq_iff_eq.mpr hpath) hne
          · rename_i e hfind
            obtain rfl := Option.some.inj hexec
            have hfound := List.find?_some hfind
            have hpath : e.path = path := beq_iff_eq.mp hfound
            exact h.find (List.mem_of_find?_eq_some hfind) hpath
      | idle | found e | removing e apps | removed e =>
          exact absurd hst (Option.some_ne_none t).symm
  | copyForRemove =>
      cases callback with
      | found e =>
          obtain rfl := Option.some.inj hst
          exact h.copyForRemove _
      | idle | called path | removing e apps | removed e =>
          exact absurd hst (Option.some_ne_none t).symm
  | assignRemoved =>
      cases callback with
      | removing e apps =>
          obtain rfl := Option.some.inj hst
          exact h.assignRemoved hg.1 hg.2.1 hg.2.2
      | idle | called path | found e | removed e =>
          exact absurd hst (Option.some_ne_none t).symm
  | erase =>
      cases callback with
      | removed e =>
          obtain rfl := Option.some.inj hst
          exact h.erase
      | idle | called path | found e | removing e apps =>
          exact absurd hst (Option.some_ne_none t).symm

/-! ## Runs -/

/-- When nothing is left to do, the invariant says that all is clean. -/
theorem Inv.clean {s : SessionService} (h : Inv s) (hq : s.Quiescent) :
    s.Clean := by
  obtain ⟨hhandler, hcallback, hreported⟩ := hq
  have halive : ∀ e ∈ s.store.sessions, e.watcher.name ∉ s.gone := by
    intro e he hgone
    have hpath := h.notifiedCalled e (.inl he) (hreported e he hgone)
    rw [hcallback] at hpath
    cases hpath
  have hkept := h.kept
  rw [List.filter_eq_self.mpr fun e he => decide_eq_true (halive e he)] at hkept
  have hlisted := h.listed
  unfold unlisted at hlisted
  rw [hhandler, hcallback] at hlisted
  have hempty : s.store.clientApplications ++
      List.map Element.appId (Handler.pending .idle).toList ++
        List.map Element.appId (Callback.pending .idle).toList =
      s.store.clientApplications := by
    simp [Handler.pending, Callback.pending]
  refine ⟨hkept, ?_⟩
  rw [List.map_append, ← List.append_assoc, hempty] at hlisted
  exact hlisted.trans (hkept.map Element.appId)

/-- No session outlives its client, and no application is forgotten, in every
run whose steps stay clear of the windows between the two threads. -/
theorem no_session_outlives_client {s : SessionService}
    (h : machine.Reach KeepsClean s) (hq : s.Quiescent) : s.Clean := by
  have hinv : Inv s := by
    refine Machine.Reach.invariant (fun s hs => ?_)
      (fun a s t hs hg hst => hs.step hg hst) h
    obtain rfl : s = init := hs
    exact inv_init
  exact hinv.clean hq

/-- The statements of the handler, one after the other. -/
def creation (sender appId : String) : List Action :=
  [.request sender appId, .connect, .insert, .copyForAdd, .assignAdded]

/-- The statements of the slot, one after the other. -/
def removal : List Action :=
  [.find, .copyForRemove, .assignRemoved, .erase]

/-- The session of the first client in the runs below. -/
def firstSession : Element := ⟨0, ⟨0, ":1.1"⟩, "maps"⟩

/-- A second client gets its session while the slot waits to remove the session
of the first one. -/
theorem no_session_outlives_client_two_clients :
    ∃ s, Machine.replay exec KeepsClean
        (creation ":1.1" "maps" ++ [.disappear ":1.1", .notify firstSession] ++
          creation ":1.2" "camera" ++ removal) init = some s ∧
      s.gone = [":1.1"] ∧ s.store.clientApplications = ["camera"] ∧
      s.Clean := by
  let run : List Action :=
    creation ":1.1" "maps" ++ [.disappear ":1.1", .notify firstSession] ++
      creation ":1.2" "camera" ++ removal
  have hrun : ((Machine.replay exec KeepsClean run init).any fun s =>
      decide (s.gone = [":1.1"] ∧ s.store.clientApplications = ["camera"] ∧
        s.Quiescent)) = true := by decide
  have hinit : machine.Reach KeepsClean init := .initial rfl
  obtain ⟨s, hs, hreach, hgone, happs, hquiet⟩ :=
    hinit.exists_of_replay (fun _ _ _ h => h) hrun
  exact ⟨s, hs, hgone, happs, no_session_outlives_client hreach hquiet⟩

/-- A client that disappears while its session is being made leaves the session
behind; and a removal that copies the list before a request has assigned it
forgets the application of a client that is there. -/
theorem sessions_leak_and_applications_are_lost :
    (∃ s, machine.Reach (fun _ _ => True) s ∧ s.Quiescent ∧
      s.gone = [":1.1"] ∧ s.store.sessions = [firstSession] ∧
      s.store.clientApplications = ["maps"] ∧ ¬ s.Clean) ∧
    ∃ s, machine.Reach (fun _ _ => True) s ∧ s.Quiescent ∧
      s.gone = [":1.1"] ∧
      s.store.sessions.map (fun e => e.watcher.name) = [":1.2"] ∧
      s.store.clientApplications = [] ∧ ¬ s.Clean := by
  let leak : List Action :=
    [.request ":1.1" "maps", .connect, .disappear ":1.1", .notifyHandler,
      .find, .insert, .copyForAdd, .assignAdded]
  let lost : List Action :=
    creation ":1.1" "maps" ++
      [.request ":1.2" "camera", .connect, .insert, .disappear ":1.1",
        .notify firstSession, .find, .copyForRemove, .copyForAdd, .assignAdded,
        .assignRemoved, .erase]
  have hinit : machine.Reach (fun _ _ => True) init := .initial rfl
  have hleak : ((Machine.replay exec (fun _ _ => True) leak init).any fun s =>
      decide (s.Quiescent ∧ s.gone = [":1.1"] ∧
        s.store.sessions = [firstSession] ∧
        s.store.clientApplications = ["maps"] ∧ ¬ s.Clean)) = true := by
    decide
  have hlost : ((Machine.replay exec (fun _ _ => True) lost init).any fun s =>
      decide (s.Quiescent ∧ s.gone = [":1.1"] ∧
        s.store.sessions.map (fun e => e.watcher.name) = [":1.2"] ∧
        s.store.clientApplications = [] ∧ ¬ s.Clean)) = true := by
    decide
  obtain ⟨s, -, hsreach, hscheck⟩ :=
    hinit.exists_of_replay (fun _ _ _ h => h) hleak
  obtain ⟨t, -, htreach, htcheck⟩ :=
    hinit.exists_of_replay (fun _ _ _ h => h) hlost
  exact ⟨⟨s, hsreach, hscheck⟩, ⟨t, htreach, htcheck⟩⟩

end SessionService

end LocationService
