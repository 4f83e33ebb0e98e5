import LocationService.Session.Projection

/-!
# What reaches the clients

The updates of a provider pass the state tracking provider and every proxy that
selected it, and end in the update properties of the sessions, whose changes
the skeletons send to the clients.  None of these connections looks at the
status of a session: a session gets what its provider delivers as long as
anybody keeps the provider running.
-/

namespace LocationService

open LocationService.Library

/-- A method call `UpdatePosition`, `UpdateHeading` or `UpdateVelocity` that
the skeleton of a session has sent, with the status of the session at that
time. -/
structure Sent (U : Stream → Type) where
  session : Nat
  stream : Stream
  update : U stream
  status : UpdatesStatus

/-- The engine with its sessions, what their update properties hold, and what
their skeletons have sent. -/
structure Post (U : Stream → Type) where
  world : World
  values : List (∀ x, U x)
  sent : List (Sent U)

namespace Post

variable {U : Stream → Type} [∀ x, BEq (U x)]

/-- External steps: those of the engine and its sessions, and updates that a
provider delivers. -/
inductive Action (U : Stream → Type) where
  | world (a : World.Action)
  | update (i : ProviderId) (x : Stream) (u : U x)

/-- The proxy of the session has connected to the provider, and the session's
property holds another value, so that its slots run. -/
def receives (i : ProviderId) (x : Stream) (u : U x) (c : Session)
    (v : ∀ x, U x) : Bool :=
  c.selection x == some i && !(v x == u)

/-- An update of provider `i` runs through the sessions. -/
def deliver (i : ProviderId) (x : Stream) (u : U x) (p : Post U) : Post U :=
  { p with
    values := List.zipWith
      (fun c v => if receives i x u c v then Function.update v x u else v)
      p.world.sessions p.values
    sent := p.sent ++ (p.world.sessions.zip p.values).zipIdx.filterMap fun r =>
      if receives i x u r.1.1 r.1.2 then some ⟨r.2, x, u, r.1.1.status x⟩
      else none }

/-- The update properties come and go with their sessions. -/
def adaptValues (fresh : ∀ x, U x) : World.Action → List (∀ x, U x) →
    List (∀ x, U x)
  | .createSession _, vs => vs ++ [fresh]
  | .destroySession k, vs => vs.eraseIdx k
  | .setStatus _ _ _, vs | .engine _, vs => vs

/-- The code of an external step, over default-constructed updates
`fresh`. -/
def exec (set : Assigner System System.Assignment) (fresh : ∀ x, U x) :
    Action U → Post U → Option (Post U)
  | .world a, p => do
      let w ← World.exec set a p.world
      return { p with world := w, values := adaptValues fresh a p.values }
  | .update i x u, p =>
      if i ∈ p.world.system.order then some (p.deliver i x u) else none

/-- The step `a` from `p` returns and leaves `q`. -/
def Step (fresh : ∀ x, U x) (a : Action U) (p q : Post U) : Prop :=
  ∃ n, exec (System.network.assign n) fresh a p = some q

/-- An engine without sessions, from its construction on. -/
def machine (fresh : ∀ x, U x) : Machine (Post U) (Action U) :=
  { initial := fun p => ∃ v, p = ⟨⟨System.initEngine v, []⟩, [], []⟩
    step := Step fresh }

/-- What a step settles to; `none` when it does not apply. -/
def settleExec (fresh : ∀ x, U x) : Action U → Post U → Option (Post U)
  | .world a, p => do
      let w ← World.settleExec a p.world
      return { p with world := w, values := adaptValues fresh a p.values }
  | .update i x u, p =>
      if i ∈ p.world.system.order then some (p.deliver i x u) else none

theorem step_iff {fresh : ∀ x, U x} {a : Action U} {p q : Post U} :
    Step fresh a p q ↔ settleExec fresh a p = some q := by
  cases a with
  | update i x u =>
      constructor
      · rintro ⟨n, hn⟩
        exact hn
      · intro h
        exact ⟨0, h⟩
  | world a =>
      constructor
      · rintro ⟨n, hn⟩
        obtain ⟨w, hw, hq⟩ := Option.bind_eq_some_iff.mp hn
        have hset := World.step_iff.mp ⟨n, hw⟩
        exact Option.bind_eq_some_iff.mpr ⟨w, hset, hq⟩
      · intro h
        obtain ⟨w, hw, hq⟩ := Option.bind_eq_some_iff.mp h
        obtain ⟨n, hn⟩ := World.step_iff.mpr hw
        exact ⟨n, Option.bind_eq_some_iff.mpr ⟨w, hn, hq⟩⟩

/-! ## Sessions and their update properties -/

/-- Every session has its update properties. -/
theorem values_length {fresh : ∀ x, U x} {guard : Action U → Post U → Prop}
    {p : Post U} (h : (machine fresh).Reach guard p) :
    p.values.length = p.world.sessions.length := by
  refine @Machine.Reach.invariant _ _ _ _
    (fun p => p.values.length = p.world.sessions.length)
    (fun p hp => ?_) (fun a p q hp _ hst => ?_) p h
  · obtain ⟨v, rfl⟩ := hp
    rfl
  · have hexec := step_iff.mp hst
    cases a with
    | update i x u =>
        simp only [settleExec] at hexec
        split at hexec
        · obtain rfl := Option.some.inj hexec
          simp [deliver, hp]
        · cases hexec
    | world a =>
        obtain ⟨w, hw, hq⟩ := Option.bind_eq_some_iff.mp hexec
        obtain rfl := Option.some.inj hq
        have hcases := World.step_cases (World.step_iff.mpr hw)
        cases a with
        | createSession selection =>
            obtain ⟨-, rfl⟩ := hcases
            simp [adaptValues, hp]
        | setStatus k x v =>
            obtain ⟨c, -, rfl⟩ := hcases
            simp [adaptValues, hp]
        | destroySession k =>
            obtain ⟨c, -, rfl⟩ := hcases
            simp [adaptValues, hp, List.length_eraseIdx]
        | engine b =>
            obtain ⟨s, -, rfl⟩ := hcases
            exact hp

/-! ## Messages to sessions that are not enabled -/

/-- All messages went to sessions that had the stream enabled. -/
def AllEnabled (p : Post U) : Prop := ∀ e ∈ p.sent, e.status = .enabled

instance (p : Post U) : Decidable p.AllEnabled :=
  inferInstanceAs (Decidable (∀ e ∈ p.sent, _))

/-- A provider delivers an update only while every session that is connected to
it, and does not hold the update yet, has the stream enabled. -/
def OnlyEnabled : Action U → Post U → Prop
  | .world _, _ => True
  | .update i x u, p => ∀ r ∈ p.world.sessions.zip p.values,
      receives i x u r.1 r.2 = true → r.1.status x = .enabled

instance OnlyEnabled.decidable :
    ∀ (a : Action U) (p : Post U), Decidable (OnlyEnabled a p)
  | .world _, _ => isTrue trivial
  | .update _ _ _, _ => inferInstanceAs (Decidable (∀ _ ∈ _, _))

private theorem forall_deliveries_iff (i : ProviderId) (x : Stream) (u : U x)
    (rs : List (Session × ∀ x, U x)) :
    (∀ e ∈ rs.zipIdx.filterMap (fun r =>
        if receives i x u r.1.1 r.1.2 then
          some (⟨r.2, x, u, r.1.1.status x⟩ : Sent U) else none),
      e.status = .enabled) ↔
    ∀ r ∈ rs, receives i x u r.1 r.2 = true → r.1.status x = .enabled := by
  constructor
  · intro h r hr hreceives
    obtain ⟨k, hk, rfl⟩ := List.getElem_of_mem hr
    refine h ⟨k, x, u, rs[k].1.status x⟩ (List.mem_filterMap.mpr ?_)
    refine ⟨(rs[k], k), ?_, if_pos hreceives⟩
    exact List.mk_mem_zipIdx_iff_getElem?.mpr (List.getElem?_eq_getElem hk)
  · intro h e he
    obtain ⟨⟨r, k⟩, hr, hif⟩ := List.mem_filterMap.mp he
    dsimp only at hif
    split at hif
    · rename_i hreceives
      obtain rfl := Option.some.inj hif
      exact h r (List.fst_mem_of_mem_zipIdx hr) hreceives
    · cases hif

theorem allEnabled_deliver_iff {p : Post U} (h : p.AllEnabled)
    (i : ProviderId) (x : Stream) (u : U x) :
    (p.deliver i x u).AllEnabled ↔ OnlyEnabled (.update i x u) p := by
  refine Iff.trans ?_
    (forall_deliveries_iff i x u (p.world.sessions.zip p.values))
  constructor
  · intro hall e he
    exact hall e (List.mem_append_right _ he)
  · intro hnew e he
    rcases List.mem_append.mp he with he | he
    · exact h e he
    · exact hnew e he

theorem allEnabled_step_iff {fresh : ∀ x, U x} {a : Action U} {p q : Post U}
    (h : p.AllEnabled) (hst : Step fresh a p q) :
    q.AllEnabled ↔ OnlyEnabled a p := by
  have hexec := step_iff.mp hst
  cases a with
  | world a =>
      obtain ⟨w, -, hq⟩ := Option.bind_eq_some_iff.mp hexec
      obtain rfl := Option.some.inj hq
      exact iff_of_true h trivial
  | update i x u =>
      simp only [settleExec] at hexec
      split at hexec
      · obtain rfl := Option.some.inj hexec
        exact allEnabled_deliver_iff h i x u
      · cases hexec

/-- Clients get only updates of streams they have enabled in every run in which
providers deliver only to such sessions, and the first update that finds
another one breaks this. -/
theorem delivers_to_enabled {fresh : ∀ x, U x} {p : Post U}
    (h : (machine fresh).Reach OnlyEnabled p) :
    p.AllEnabled ∧
      ∀ a q, Step fresh a p q → (q.AllEnabled ↔ OnlyEnabled a p) := by
  have hinit : ∀ p, (machine fresh).initial p → True ∧ p.AllEnabled := by
    rintro p ⟨v, rfl⟩
    refine ⟨trivial, ?_⟩
    intro e he
    cases he
  have hrun := h.keeps_exactly hinit (fun _ _ _ _ _ => trivial)
    (fun _ _ _ _ => allEnabled_step_iff)
  exact hrun.2

/-- A session that is enabled gets an update. -/
theorem delivers_to_enabled_once :
    ∃ p, Machine.replay (settleExec (U := fun _ => Nat) fun _ => 0) OnlyEnabled
        [.world (.engine (.addProvider 0 false)),
          .world (.createSession fun _ => some 0),
          .world (.setStatus 0 .position .enabled), .update 0 .position 1]
        ⟨⟨System.initEngine .on, []⟩, [], []⟩ = some p ∧
      p.sent.length = 1 ∧ p.AllEnabled ∧
      ∀ a q, Step (fun _ => 0) a p q → (q.AllEnabled ↔ OnlyEnabled a p) := by
  let run : List (Action fun _ => Nat) :=
    [.world (.engine (.addProvider 0 false)),
      .world (.createSession fun _ => some 0),
      .world (.setStatus 0 .position .enabled), .update 0 .position 1]
  have hrun : ((Machine.replay (settleExec (U := fun _ => Nat) fun _ => 0)
      OnlyEnabled run ⟨⟨System.initEngine .on, []⟩, [], []⟩).any
        fun p => decide (p.sent.length = 1)) = true := by decide
  have hinit : (machine (U := fun _ => Nat) fun _ => 0).Reach OnlyEnabled
      ⟨⟨System.initEngine .on, []⟩, [], []⟩ := .initial ⟨.on, rfl⟩
  obtain ⟨p, hp, hreach, hlength⟩ :=
    hinit.exists_of_replay (fun _ _ _ h => step_iff.mpr h) hrun
  exact ⟨p, hp, hlength, delivers_to_enabled hreach⟩

/-- Two sessions share a provider, and only the first one has enabled
positions: both get the position. -/
theorem delivers_to_disabled :
    ∃ p, (machine (U := fun _ => Nat) fun _ => 0).Reach (fun _ _ => True) p ∧
      p.world.system.Running 0 .position ∧
      p.sent.map (fun e => (e.session, e.status)) =
        [(0, .enabled), (1, .disabled)] ∧
      ¬ p.AllEnabled := by
  let run : List (Action fun _ => Nat) :=
    [.world (.engine (.addProvider 0 false)),
      .world (.createSession fun _ => some 0),
      .world (.createSession fun _ => some 0),
      .world (.setStatus 0 .position .enabled), .update 0 .position 1]
  have hrun : ((Machine.replay (settleExec (U := fun _ => Nat) fun _ => 0)
      (fun _ _ => True) run ⟨⟨System.initEngine .on, []⟩, [], []⟩).any
        fun p => decide (p.world.system.Running 0 .position ∧
          p.sent.map (fun e => (e.session, e.status)) =
            [(0, .enabled), (1, .disabled)] ∧
          ¬ p.AllEnabled)) = true := by decide
  have hinit : (machine (U := fun _ => Nat) fun _ => 0).Reach (fun _ _ => True)
      ⟨⟨System.initEngine .on, []⟩, [], []⟩ := .initial ⟨.on, rfl⟩
  obtain ⟨p, -, hreach, hcheck⟩ :=
    hinit.exists_of_replay (fun _ _ _ h => step_iff.mpr h) hrun
  exact ⟨p, hreach, hcheck⟩

end Post

end LocationService
