import LocationService.Library.Machine
import Mathlib.Data.List.Nodup
import Mathlib.Data.List.Perm.Basic

/-!
# The session store of the service

`service::Skeleton` keeps the sessions of its clients in a map by object path
and publishes the profiles of their clients in `client_applications`.  The map
and the list are changed by separate helpers, the list by profile: removing an
application removes every entry that is equal to it.  The two stay in step,
request by request and client by client, exactly as long as no client
disappears while another one has a session under one of its profiles.
-/

namespace LocationService

open LocationService.Library

/-- A `core::dbus::ServiceWatcher` for a name on the bus. -/
structure Watcher where
  /-- Which of the watchers made so far this is. -/
  id : Nat
  name : String
  deriving DecidableEq, Repr

/-- An entry of the session store, with its key and the profile that its
session was created with. -/
structure Element where
  /-- The number in the object path. -/
  path : UInt32
  watcher : Watcher
  appId : String
  deriving DecidableEq, Repr

/-- What `service::Skeleton` knows of its sessions. -/
structure SessionStore where
  /-- The counter of `ObjectPathGenerator`. -/
  index : UInt32
  /-- The number of watchers made so far. -/
  watchers : Nat
  /-- `session_store`. -/
  sessions : List Element
  clientApplications : List String

namespace SessionStore

/-- A service without sessions. -/
def init : SessionStore := ⟨0, 0, [], []⟩

/-! ## Requests and callbacks -/

/-- The insertion of `add_to_session_store_for_path`, and whether it took
place. -/
def addToSessionStoreForPath (e : Element) (s : SessionStore) :
    SessionStore × Bool :=
  if e.path ∈ s.sessions.map Element.path then (s, false)
  else ({ s with sessions := e :: s.sessions }, true)

def addClientApplication (app : String) (s : SessionStore) : SessionStore :=
  { s with clientApplications := s.clientApplications ++ [app] }

/-- `remove_client_application`; `std::remove` moves all equal entries behind
the new end. -/
def removeClientApplication (app : String) (s : SessionStore) : SessionStore :=
  { s with clientApplications := s.clientApplications.filter (· != app) }

/-- `session_store.erase`. -/
def erase (path : UInt32) (s : SessionStore) : SessionStore :=
  { s with sessions := s.sessions.filter fun e => e.path != path }

/-- `remove_from_session_store_for_path`, the slot on `owner_changed`. -/
def removeFromSessionStoreForPath (s : SessionStore) (path : UInt32) :
    SessionStore :=
  match s.sessions.find? fun e => e.path == path with
  | none => s
  | some e => (s.removeClientApplication e.appId).erase path

/-- `handle_create_session_for_criteria` for a client with credentials and
permissions, and whether it gets its session. -/
def handleCreateSessionForCriteria (sender appId : String) (s : SessionStore) :
    SessionStore × Bool :=
  let e : Element := ⟨s.index, ⟨s.watchers, sender⟩, appId⟩
  let s := { s with index := s.index + 1, watchers := s.watchers + 1 }
  let (s, inserted) := s.addToSessionStoreForPath e
  if inserted then (s.addClientApplication appId, true) else (s, false)

/-- The paths whose watchers watch a name. -/
def pathsOf (name : String) (s : SessionStore) : List UInt32 :=
  (s.sessions.filter fun e => e.watcher.name == name).map Element.path

/-- External steps: a request, and the callbacks for the sessions of a client
that disappears, in any order. -/
inductive Action where
  | createSession (sender appId : String)
  | disappear (name : String) (paths : List UInt32)

/-- The code of an external step; `none` when it does not apply. -/
def exec : Action → SessionStore → Option SessionStore
  | .createSession sender appId, s =>
      some (s.handleCreateSessionForCriteria sender appId).1
  | .disappear name paths, s =>
      if paths.Perm (s.pathsOf name) then
        some (paths.foldl removeFromSessionStoreForPath s)
      else none

/-- A service from its construction on. -/
def machine : Machine SessionStore Action :=
  { initial := fun s => s = init
    step := fun a s t => exec a s = some t }

/-! ## Object paths are unique -/

/-- The sessions are keyed by their paths. -/
def UniquePaths (s : SessionStore) : Prop :=
  (s.sessions.map Element.path).Nodup

theorem UniquePaths.eq_of_path {s : SessionStore} (h : s.UniquePaths)
    {d e : Element} (hd : d ∈ s.sessions) (he : e ∈ s.sessions)
    (hpath : d.path = e.path) : d = e :=
  List.inj_on_of_nodup_map h hd he hpath

theorem UniquePaths.erase {s : SessionStore} (h : s.UniquePaths)
    (path : UInt32) : (s.erase path).UniquePaths :=
  (List.filter_sublist.map Element.path).nodup h

/-- Erasing a session leaves the others. -/
theorem UniquePaths.mem_erase {s : SessionStore} (h : s.UniquePaths)
    {d e : Element} (he : e ∈ s.sessions) :
    d ∈ (s.erase e.path).sessions ↔ d ∈ s.sessions ∧ d ≠ e := by
  have herased : d ∈ (s.erase e.path).sessions ↔
      d ∈ s.sessions ∧ d.path ≠ e.path := by
    simp [SessionStore.erase]
  rw [herased]
  refine and_congr_right fun hd => not_congr ?_
  exact ⟨h.eq_of_path hd he, congrArg Element.path⟩

theorem UniquePaths.perm_erase {s : SessionStore} (h : s.UniquePaths)
    {e : Element} (he : e ∈ s.sessions) :
    s.sessions.Perm (e :: (s.erase e.path).sessions) := by
  have hnodup : (e :: (s.erase e.path).sessions).Nodup := by
    have hgone : e ∉ (s.erase e.path).sessions :=
      fun hself => ((h.mem_erase he).mp hself).2 rfl
    exact List.nodup_cons.mpr ⟨hgone, (h.erase e.path).of_map⟩
  refine (List.perm_ext_iff_of_nodup h.of_map hnodup).mpr fun d => ?_
  rw [List.mem_cons, h.mem_erase he]
  by_cases hde : d = e
  · subst hde
    exact iff_of_true he (.inl rfl)
  · simp [hde]

theorem UniquePaths.add {s : SessionStore} (h : s.UniquePaths) (e : Element) :
    (s.addToSessionStoreForPath e).1.UniquePaths := by
  unfold addToSessionStoreForPath
  split
  · exact h
  · rename_i hfresh
    exact List.nodup_cons.mpr ⟨hfresh, h⟩

/-- What the callback for a path does to the two collections. -/
theorem removeFromSessionStoreForPath_eq {s : SessionStore}
    (h : s.UniquePaths) {e : Element} (he : e ∈ s.sessions) :
    s.removeFromSessionStoreForPath e.path =
      (s.removeClientApplication e.appId).erase e.path := by
  have hsome : (s.sessions.find? fun d => d.path == e.path).isSome :=
    List.find?_isSome.mpr ⟨e, he, beq_self_eq_true e.path⟩
  obtain ⟨d, hd⟩ := Option.isSome_iff_exists.mp hsome
  have hpath : d.path = e.path := by
    simpa using List.find?_some hd
  obtain rfl := h.eq_of_path (List.mem_of_find?_eq_some hd) he hpath
  unfold removeFromSessionStoreForPath
  rw [hd]

/-- The callbacks of a client that disappears. -/
theorem foldl_removeFromSessionStore {paths : List UInt32} {s : SessionStore}
    (h : s.UniquePaths) (hnodup : paths.Nodup)
    (hknown : ∀ p ∈ paths, p ∈ s.sessions.map Element.path) :
    let t := paths.foldl removeFromSessionStoreForPath s
    t.sessions = s.sessions.filter (fun e => decide (e.path ∉ paths)) ∧
      t.clientApplications = s.clientApplications.filter fun app =>
        decide (∀ e ∈ s.sessions, e.path ∈ paths → e.appId ≠ app) := by
  induction paths generalizing s with
  | nil => simp
  | cons p paths ih =>
      obtain ⟨hfresh, hrest⟩ := List.nodup_cons.mp hnodup
      obtain ⟨e, he, rfl⟩ := List.mem_map.mp (hknown p (List.mem_cons_self ..))
      have hstep := removeFromSessionStoreForPath_eq h he
      let u := (s.removeClientApplication e.appId).erase e.path
      have hu : u.UniquePaths := UniquePaths.erase h e.path
      have hmem : ∀ d, d ∈ u.sessions ↔ d ∈ s.sessions ∧ d.path ≠ e.path := by
        intro d
        simp [u, SessionStore.erase, removeClientApplication]
      have hknown' : ∀ q ∈ paths, q ∈ u.sessions.map Element.path := by
        intro q hq
        obtain ⟨d, hd, rfl⟩ :=
          List.mem_map.mp (hknown q (List.mem_cons_of_mem _ hq))
        have hne : d.path ≠ e.path := fun heq => hfresh (heq ▸ hq)
        exact List.mem_map.mpr ⟨d, (hmem d).mpr ⟨hd, hne⟩, rfl⟩
      obtain ⟨hsessions, happs⟩ := ih hu hrest hknown'
      rw [List.foldl_cons, hstep]
      refine ⟨hsessions.trans ?_, happs.trans ?_⟩
      · show (s.sessions.filter _).filter _ = _
        rw [List.filter_filter]
        refine List.filter_congr fun d _ => ?_
        by_cases hd : d.path = e.path
        · simp [hd]
        · simp [hd]
      · show (s.clientApplications.filter _).filter _ = _
        rw [List.filter_filter]
        refine List.filter_congr fun app _ => ?_
        rw [Bool.eq_iff_iff]
        simp only [Bool.and_eq_true, decide_eq_true_eq, bne_iff_ne]
        constructor
        · rintro ⟨hall, hne⟩ d hd hp
          rcases List.mem_cons.mp hp with hp | hp
          · obtain rfl := h.eq_of_path hd he hp
            exact Ne.symm hne
          · have hdp : d.path ≠ e.path := fun heq => hfresh (heq ▸ hp)
            exact hall d ((hmem d).mpr ⟨hd, hdp⟩) hp
        · intro hall
          refine ⟨fun d hd hp => ?_, ?_⟩
          · exact hall d ((hmem d).mp hd).1 (List.mem_cons_of_mem _ hp)
          · exact Ne.symm (hall e he (List.mem_cons_self ..))

/-! ## Applications match sessions -/

/-- The applications are the profiles of the sessions, each as often as it has
sessions. -/
def Matches (s : SessionStore) : Prop :=
  s.clientApplications.Perm (s.sessions.map Element.appId)

instance (s : SessionStore) : Decidable s.Matches :=
  inferInstanceAs (Decidable (List.Perm _ _))

/-- No session of another client has a profile of the client's sessions. -/
def SharesNoProfile (name : String) (s : SessionStore) : Prop :=
  ∀ d ∈ s.sessions, d.watcher.name = name →
    ∀ e ∈ s.sessions, e.watcher.name ≠ name → e.appId ≠ d.appId

instance (name : String) (s : SessionStore) :
    Decidable (SharesNoProfile name s) :=
  inferInstanceAs (Decidable (∀ d ∈ s.sessions, _ → ∀ e ∈ s.sessions, _ → _))

theorem Matches.createSession {s : SessionStore} (h : s.Matches)
    (sender appId : String) :
    (s.handleCreateSessionForCriteria sender appId).1.Matches := by
  unfold handleCreateSessionForCriteria addToSessionStoreForPath
  dsimp only
  split
  · exact h
  · show (s.clientApplications ++ [appId]).Perm
      (appId :: s.sessions.map Element.appId)
    exact (List.perm_append_singleton appId _).trans (h.cons appId)

/-- Of a client's sessions, the callbacks remove exactly the sessions. -/
private theorem mem_pathsOf_iff {s : SessionStore} (h : s.UniquePaths)
    {name : String} {e : Element} (he : e ∈ s.sessions) :
    e.path ∈ s.pathsOf name ↔ e.watcher.name = name := by
  unfold pathsOf
  constructor
  · intro hmem
    obtain ⟨d, hd, hpath⟩ := List.mem_map.mp hmem
    obtain ⟨hd, hname⟩ := List.mem_filter.mp hd
    obtain rfl := h.eq_of_path hd he hpath
    exact beq_iff_eq.mp hname
  · intro hname
    exact List.mem_map.mpr
      ⟨e, List.mem_filter.mpr ⟨he, beq_iff_eq.mpr hname⟩, rfl⟩

theorem disappear_eq {s : SessionStore} (h : s.UniquePaths) {name : String}
    {paths : List UInt32} (hperm : paths.Perm (s.pathsOf name)) :
    let t := paths.foldl removeFromSessionStoreForPath s
    t.sessions = s.sessions.filter (fun e => e.watcher.name != name) ∧
      t.clientApplications = s.clientApplications.filter fun app =>
        decide (∀ e ∈ s.sessions, e.watcher.name = name → e.appId ≠ app) := by
  have hsub : (s.pathsOf name).Sublist (s.sessions.map Element.path) :=
    List.filter_sublist.map Element.path
  have hmem : ∀ e ∈ s.sessions, e.path ∈ paths ↔ e.watcher.name = name := by
    intro e he
    rw [hperm.mem_iff, mem_pathsOf_iff h he]
  obtain ⟨hsessions, happs⟩ := foldl_removeFromSessionStore h
    (hperm.nodup_iff.mpr (hsub.nodup h))
    (fun p hp => hsub.subset (hperm.mem_iff.mp hp))
  refine ⟨hsessions.trans ?_, happs.trans ?_⟩
  · refine List.filter_congr fun e he => ?_
    rw [Bool.eq_iff_iff, decide_eq_true_eq, hmem e he]
    simp
  · refine List.filter_congr fun app _ => ?_
    rw [decide_eq_decide]
    constructor
    · intro hall e he hname
      exact hall e he ((hmem e he).mpr hname)
    · intro hall e he hp
      exact hall e he ((hmem e he).mp hp)

private theorem filter_perm_self_iff {α : Type} (p : α → Bool) (l : List α) :
    (l.filter p).Perm l ↔ ∀ a ∈ l, p a = true := by
  constructor
  · intro hperm a ha
    exact (List.mem_filter.mp (hperm.mem_iff.mpr ha)).2
  · intro hall
    rw [List.filter_eq_self.mpr hall]

/-- A client that disappears leaves the rest matching when no other client
shares one of its profiles, and only then. -/
theorem matches_disappear_iff {s : SessionStore} (hu : s.UniquePaths)
    (h : s.Matches) {name : String} {paths : List UInt32}
    (hperm : paths.Perm (s.pathsOf name)) :
    (paths.foldl removeFromSessionStoreForPath s).Matches ↔
      SharesNoProfile name s := by
  obtain ⟨hsessions, happs⟩ := disappear_eq hu hperm
  let keep : String → Bool := fun app =>
    decide (∀ e ∈ s.sessions, e.watcher.name = name → e.appId ≠ app)
  let others := s.sessions.filter fun e => e.watcher.name != name
  -- the profiles of the client itself are all filtered out
  have hfilter : (s.clientApplications.filter keep).Perm
      ((others.map Element.appId).filter keep) := by
    refine (h.filter keep).trans (List.Perm.of_eq ?_)
    rw [List.filter_map, List.filter_map, List.filter_filter]
    refine congrArg _ (List.filter_congr fun e he => ?_)
    rw [Bool.eq_iff_iff, Bool.and_eq_true]
    refine (and_iff_left_of_imp fun hkeep => ?_).symm
    have hne : e.watcher.name ≠ name :=
      fun hname => of_decide_eq_true hkeep e he hname rfl
    exact bne_iff_ne.mpr hne
  unfold Matches
  rw [hsessions, happs]
  have hself := filter_perm_self_iff keep (others.map Element.appId)
  constructor
  · intro hmatch d hd hdname e he hename
    have hall := hself.mp (hfilter.symm.trans hmatch)
    have hmem : e.appId ∈ others.map Element.appId :=
      List.mem_map.mpr ⟨e, List.mem_filter.mpr ⟨he, bne_iff_ne.mpr hename⟩, rfl⟩
    exact Ne.symm (of_decide_eq_true (hall e.appId hmem) d hd hdname)
  · intro hshares
    refine hfilter.trans (hself.mpr fun app happ => ?_)
    obtain ⟨e, he, rfl⟩ := List.mem_map.mp happ
    obtain ⟨he, hename⟩ := List.mem_filter.mp he
    refine decide_eq_true fun d hd hdname => ?_
    exact Ne.symm (hshares d hd hdname e he (bne_iff_ne.mp hename))

/-! ## Runs -/

/-- Clients disappear only while nobody else has a session under one of their
profiles. -/
def KeepsMatching : Action → SessionStore → Prop
  | .createSession _ _, _ => True
  | .disappear name _, s => SharesNoProfile name s

instance KeepsMatching.decidable : ∀ a s, Decidable (KeepsMatching a s)
  | .createSession _ _, _ => isTrue trivial
  | .disappear name _, s => inferInstanceAs (Decidable (SharesNoProfile name s))

/-- A client disappears with all of its paths. -/
theorem step_disappear {name : String} {paths : List UInt32}
    {s t : SessionStore}
    (h : machine.step (.disappear name paths) s t) :
    paths.Perm (s.pathsOf name) ∧
      paths.foldl removeFromSessionStoreForPath s = t := by
  have hexec : (if paths.Perm (s.pathsOf name) then
      some (paths.foldl removeFromSessionStoreForPath s) else none) =
      some t := h
  split at hexec
  · rename_i hperm
    exact ⟨hperm, Option.some.inj hexec⟩
  · cases hexec

theorem UniquePaths.step {a : Action} {s t : SessionStore}
    (h : s.UniquePaths) (hst : machine.step a s t) : t.UniquePaths := by
  cases a with
  | createSession sender appId =>
      obtain rfl := Option.some.inj hst
      unfold handleCreateSessionForCriteria
      dsimp only
      have hadd := UniquePaths.add (s := { s with
        index := s.index + 1, watchers := s.watchers + 1 }) h
        ⟨s.index, ⟨s.watchers, sender⟩, appId⟩
      split
      · exact hadd
      · exact hadd
  | disappear name paths =>
      obtain ⟨hperm, rfl⟩ := step_disappear hst
      unfold UniquePaths
      rw [(disappear_eq h hperm).1]
      exact (List.filter_sublist.map Element.path).nodup h

theorem matches_step_iff {a : Action} {s t : SessionStore}
    (hu : s.UniquePaths) (h : s.Matches) (hst : machine.step a s t) :
    t.Matches ↔ KeepsMatching a s := by
  cases a with
  | createSession sender appId =>
      obtain rfl := Option.some.inj hst
      exact iff_of_true (h.createSession sender appId) trivial
  | disappear name paths =>
      obtain ⟨hperm, rfl⟩ := step_disappear hst
      exact matches_disappear_iff hu h hperm

/-- The applications match the sessions in every run in which no client
disappears that shares a profile with another one, and the first client that
does breaks this. -/
theorem applications_match_sessions {s : SessionStore}
    (h : machine.Reach KeepsMatching s) :
    s.Matches ∧
      ∀ a t, machine.step a s t → (t.Matches ↔ KeepsMatching a s) := by
  have hinit : ∀ s, s = init → s.UniquePaths ∧ s.Matches := by
    rintro s rfl
    exact ⟨List.nodup_nil, .refl []⟩
  have hrun := h.keeps_exactly hinit (fun _ _ _ => UniquePaths.step)
    (fun _ _ _ => matches_step_iff)
  exact hrun.2

/-- Two clients with profiles of their own, the first of which disappears. -/
theorem applications_match_sessions_two_profiles :
    ∃ s, Machine.replay exec KeepsMatching
        [.createSession ":1.1" "maps", .createSession ":1.2" "camera",
          .createSession ":1.1" "maps", .disappear ":1.1" [0, 2]] init =
        some s ∧
      s.clientApplications = ["camera"] ∧ s.Matches ∧
      ∀ a t, machine.step a s t → (t.Matches ↔ KeepsMatching a s) := by
  let run : List Action :=
    [.createSession ":1.1" "maps", .createSession ":1.2" "camera",
      .createSession ":1.1" "maps", .disappear ":1.1" [0, 2]]
  have hrun : ((Machine.replay exec KeepsMatching run init).any
      fun s => decide (s.clientApplications = ["camera"])) = true := by decide
  have hinit : machine.Reach KeepsMatching init := .initial rfl
  obtain ⟨s, hs, hreach, happs⟩ :=
    hinit.exists_of_replay (fun _ _ _ h => h) hrun
  exact ⟨s, hs, happs, applications_match_sessions hreach⟩

/-- Two instances of one application: when the first one disappears, the list
forgets the second one as well. -/
theorem shared_profile_forgotten :
    ∃ s, machine.Reach (fun _ _ => True) s ∧
      s.sessions.map (fun e => (e.watcher.name, e.appId)) = [(":1.2", "maps")] ∧
      s.clientApplications = [] ∧ ¬ s.Matches := by
  let run : List Action :=
    [.createSession ":1.1" "maps", .createSession ":1.2" "maps",
      .disappear ":1.1" [0]]
  have hrun : ((Machine.replay exec (fun _ _ => True) run init).any
      fun s => decide (s.sessions.map (fun e => (e.watcher.name, e.appId)) =
        [(":1.2", "maps")] ∧ s.clientApplications = [] ∧
          ¬ s.Matches)) = true := by decide
  have hinit : machine.Reach (fun _ _ => True) init := .initial rfl
  obtain ⟨s, -, hreach, hcheck⟩ :=
    hinit.exists_of_replay (fun _ _ _ h => h) hrun
  exact ⟨s, hreach, hcheck⟩

end SessionStore

end LocationService
