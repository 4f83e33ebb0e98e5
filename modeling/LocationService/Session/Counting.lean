import LocationService.Engine.Counting
import LocationService.Session.Model

/-!
# Counting the users of a stream

`users w i x` is the number of live sessions that have stream `x` enabled and
routed to provider `i`.  This file says how the session steps change it, and
what they change in the engine below.  The destructor of a session is the same
as disabling its three streams first (`settleDestroy_eq`).
-/

namespace LocationService

open LocationService.Library

namespace Session

/-- The session has the stream enabled and routed to the provider. -/
def Uses (c : Session) (i : ProviderId) (x : Stream) : Prop :=
  c.selection x = some i ∧ c.status x = .enabled

instance (c : Session) (i : ProviderId) (x : Stream) :
    Decidable (c.Uses i x) :=
  inferInstanceAs (Decidable (_ ∧ _))

/-- The counter of the selected provider has room for one more start. -/
def Fits (c : Session) (x : Stream) (s : System) : Prop :=
  ∀ i ∈ c.selection x, s.counter i x ≠ maxCounter

instance (c : Session) (x : Stream) (s : System) : Decidable (c.Fits x s) :=
  inferInstanceAs (Decidable (∀ i ∈ c.selection x, _))

/-- The proxy of a session counts what the session has enabled. -/
def InStep (c : Session) : Prop :=
  ∀ x, c.controller.counter x = if c.status x = .enabled then 1 else 0

theorem inStep_init (selection : Stream → Option ProviderId) :
    (init selection).InStep := by
  intro x
  rfl

/-- The session after its status property and its proxy have changed. -/
def switched (c : Session) (x : Stream) (v : UpdatesStatus) : Session :=
  { c with
    status := Function.update c.status x v
    controller := c.controller.setCounter x (if v = .enabled then 1 else 0) }

@[simp] theorem switched_selection (c : Session) (x : Stream)
    (v : UpdatesStatus) : (c.switched x v).selection = c.selection := rfl

@[simp] theorem switched_status_self (c : Session) (x : Stream)
    (v : UpdatesStatus) : (c.switched x v).status x = v := by
  simp [switched]

@[simp] theorem switched_status_ne (c : Session) {x y : Stream}
    (v : UpdatesStatus) (h : y ≠ x) :
    (c.switched x v).status y = c.status y := by
  simp [switched, h]

theorem InStep.switched {c : Session} (h : c.InStep) (x : Stream)
    (v : UpdatesStatus) : (c.switched x v).InStep := by
  intro y
  by_cases hyx : y = x
  · subst hyx
    simp [Session.switched]
  · simpa [Session.switched, hyx] using h y

/-- Enabling a stream starts it on the selected provider. -/
theorem InStep.enable {c : Session} (h : c.InStep) {x : Stream}
    (hx : c.status x = .disabled) (s : System) :
    c.settleSetStatus x .enabled s = (c.switched x .enabled,
      match c.selection x with
      | none => s
      | some i => s.settleStartUpdates i x) := by
  have hzero : c.controller.counter x = 0 := by
    rw [h x, hx]
    rfl
  unfold settleSetStatus settleStart
  rw [if_neg (by simp [hx])]
  rcases c.controller.startUpdates_cases x with
    ⟨hc, -⟩ | ⟨-, hs⟩ | ⟨hc, -, -⟩ | ⟨hc, -⟩
  · omega
  · simp only [hs, if_true]
    rfl
  · omega
  · rw [hzero] at hc
    exact absurd hc (by decide)

/-- Disabling a stream stops it on the selected provider. -/
theorem InStep.disable {c : Session} (h : c.InStep) {x : Stream}
    (hx : c.status x = .enabled) (s : System) :
    c.settleSetStatus x .disabled s = (c.switched x .disabled,
      match c.selection x with
      | none => s
      | some i => s.settleStopUpdates i x) := by
  have hone : c.controller.counter x = 1 := by
    rw [h x, hx]
    rfl
  unfold settleSetStatus settleStop
  rw [if_neg (by simp [hx])]
  rcases c.controller.stopUpdates_cases x with
    ⟨hc, -⟩ | ⟨-, hs⟩ | ⟨-, hc, -⟩
  · omega
  · simp only [hs, if_true]
    rfl
  · omega

theorem settleSetStatus_same {c : Session} {x : Stream} {v : UpdatesStatus}
    (hx : c.status x = v) (s : System) : c.settleSetStatus x v s = (c, s) :=
  if_pos hx

/-- Disables the streams of a list, one after the other. -/
def settleDisableAll (c : Session) (xs : List Stream) (s : System) :
    Session × System :=
  xs.foldl (fun cs x => cs.1.settleSetStatus x .disabled cs.2) (c, s)

private theorem settleStops_disableAll {xs : List Stream} (hnd : xs.Nodup)
    {c d : Session} (hsel : c.selection = d.selection) (hd : d.InStep)
    (hcount : ∀ x ∈ xs, c.controller.counter x = d.controller.counter x)
    (s : System) : (c.settleStops xs s).2 = (d.settleDisableAll xs s).2 := by
  induction xs generalizing c d s with
  | nil => rfl
  | cons x xs ih =>
      obtain ⟨hx, hnd'⟩ := List.nodup_cons.mp hnd
      have hhere := hcount x (List.mem_cons_self ..)
      have hlater : ∀ y ∈ xs, y ≠ x := fun y hy e => hx (e ▸ hy)
      show ((c.settleStop x s).1.settleStops xs (c.settleStop x s).2).2 =
        ((d.settleSetStatus x .disabled s).1.settleDisableAll xs
          (d.settleSetStatus x .disabled s).2).2
      by_cases hst : d.status x = .enabled
      · have hone : c.controller.counter x = 1 := by
          rw [hhere, hd x, hst]
          rfl
        have hstop : c.settleStop x s =
            ({ c with controller := c.controller.setCounter x 0 },
              match c.selection x with
              | none => s
              | some i => s.settleStopUpdates i x) := by
          unfold settleStop
          rcases c.controller.stopUpdates_cases x with
            ⟨hc, -⟩ | ⟨-, hs⟩ | ⟨-, hc, -⟩
          · omega
          · rw [hs]
            rfl
          · omega
        rw [hstop, hd.disable hst, ← hsel]
        refine ih hnd'
          (c := { c with controller := c.controller.setCounter x 0 })
          (d := d.switched x .disabled) hsel (hd.switched x .disabled)
          (fun y hy => ?_) _
        simp only [switched]
        rw [Controller.setCounter_ne _ _ (hlater y hy),
          Controller.setCounter_ne _ _ (hlater y hy)]
        exact hcount y (List.mem_cons_of_mem _ hy)
      · have hst' : d.status x = .disabled := by
          cases hv : d.status x with
          | enabled => exact absurd hv hst
          | disabled => rfl
        have hzero : c.controller.counter x = 0 := by
          rw [hhere, hd x, hst']
          rfl
        have hstop : c.settleStop x s =
            ({ c with controller := c.controller.setCounter x (-1) }, s) := by
          unfold settleStop
          rcases c.controller.stopUpdates_cases x with
            ⟨hc, -⟩ | ⟨hc, -⟩ | ⟨-, -, hs⟩
          · omega
          · omega
          · simp only [hs, hzero]
            rfl
        rw [hstop, settleSetStatus_same hst']
        refine ih hnd'
          (c := { c with controller := c.controller.setCounter x (-1) })
          (d := d) hsel hd (fun y hy => ?_) _
        rw [Controller.setCounter_ne _ _ (hlater y hy)]
        exact hcount y (List.mem_cons_of_mem _ hy)

/-- Destroying a session does to the engine what disabling its streams
does. -/
theorem InStep.settleDestroy_eq {c : Session} (h : c.InStep) (s : System) :
    c.settleDestroy s = (c.settleDisableAll Stream.all s).2 :=
  settleStops_disableAll Stream.nodup_all rfl h (fun _ _ => rfl) s

end Session

namespace World

/-! ## The number of users -/

/-- The live sessions that have the stream enabled and routed to the
provider. -/
def users (w : World) (i : ProviderId) (x : Stream) : Nat :=
  w.sessions.countP fun c => decide (c.Uses i x)

theorem users_pos {w : World} {i : ProviderId} {x : Stream} :
    0 < w.users i x ↔ ∃ c ∈ w.sessions, c.Uses i x := by
  unfold users
  rw [List.countP_pos_iff]
  simp

private theorem split_of_getElem? {α : Type} {l : List α} {k : Nat} {a : α}
    (h : l[k]? = some a) :
    ∃ pre post, l = pre ++ a :: post ∧ l.eraseIdx k = pre ++ post ∧
      ∀ b, l.set k b = pre ++ b :: post := by
  obtain ⟨hk, hget⟩ := List.getElem?_eq_some_iff.mp h
  refine ⟨l.take k, l.drop (k + 1), ?_, List.eraseIdx_eq_take_drop_succ .., ?_⟩
  · rw [← hget, List.getElem_cons_drop, List.take_append_drop]
  · intro b
    rw [List.set_eq_take_append_cons_drop, if_pos hk]

theorem users_create (w : World) (selection : Stream → Option ProviderId)
    (i : ProviderId) (x : Stream) :
    users { w with sessions := w.sessions ++ [.init selection] } i x =
      w.users i x := by
  unfold users
  rw [List.countP_append]
  simp [Session.Uses, Session.init]

/-- A session that uses nothing is not counted. -/
theorem users_eraseIdx {w : World} {k : Nat} {c : Session}
    (hc : w.sessions[k]? = some c) (hidle : ∀ x, c.status x = .disabled)
    (s : System) (i : ProviderId) (x : Stream) :
    users ⟨s, w.sessions.eraseIdx k⟩ i x = w.users i x := by
  obtain ⟨pre, post, hl, herase, -⟩ := split_of_getElem? hc
  have hno : ¬ c.Uses i x := by
    rintro ⟨-, he⟩
    rw [hidle x] at he
    cases he
  unfold users
  rw [herase, hl]
  simp [hno]

/-- Replacing a session counts the new one in place of the old one. -/
theorem users_set {w : World} {k : Nat} {c : Session}
    (hc : w.sessions[k]? = some c) (d : Session) (s : System)
    (i : ProviderId) (x : Stream) :
    users ⟨s, w.sessions.set k d⟩ i x + (if c.Uses i x then 1 else 0) =
      w.users i x + if d.Uses i x then 1 else 0 := by
  obtain ⟨pre, post, hl, -, hset⟩ := split_of_getElem? hc
  unfold users
  rw [hset, hl]
  simp only [List.countP_append, List.countP_cons, decide_eq_true_eq]
  omega

theorem users_enable {w : World} {k : Nat} {c : Session} {x : Stream}
    (hc : w.sessions[k]? = some c) (hx : c.status x = .disabled) (s : System)
    (i : ProviderId) (y : Stream) :
    users ⟨s, w.sessions.set k (c.switched x .enabled)⟩ i y =
      w.users i y + if c.selection x = some i ∧ y = x then 1 else 0 := by
  have hset := users_set hc (c.switched x .enabled) s i y
  by_cases hyx : y = x
  · subst hyx
    have hold : ¬ c.Uses i y := fun h => by
      have := h.2
      rw [hx] at this
      cases this
    have hnew : (c.switched y .enabled).Uses i y ↔ c.selection y = some i := by
      simp [Session.Uses]
    rw [if_neg hold] at hset
    simp only [hnew] at hset
    simpa using hset
  · have hnew : (c.switched x .enabled).Uses i y ↔ c.Uses i y := by
      simp [Session.Uses, hyx]
    simp only [hnew] at hset
    rw [if_neg fun h => hyx h.2]
    omega

theorem users_disable {w : World} {k : Nat} {c : Session} {x : Stream}
    (hc : w.sessions[k]? = some c) (hx : c.status x = .enabled) (s : System)
    (i : ProviderId) (y : Stream) :
    users ⟨s, w.sessions.set k (c.switched x .disabled)⟩ i y +
      (if c.selection x = some i ∧ y = x then 1 else 0) = w.users i y := by
  have hset := users_set hc (c.switched x .disabled) s i y
  by_cases hyx : y = x
  · subst hyx
    have hold : c.Uses i y ↔ c.selection y = some i := by
      simp [Session.Uses, hx]
    have hnew : ¬ (c.switched y .disabled).Uses i y := fun h => by
      have := h.2
      rw [Session.switched_status_self] at this
      cases this
    rw [if_neg hnew] at hset
    simp only [hold] at hset
    simpa using hset
  · have hnew : (c.switched x .disabled).Uses i y ↔ c.Uses i y := by
      simp [Session.Uses, hyx]
    simp only [hnew] at hset
    rw [if_neg fun h => hyx h.2]
    omega

/-! ## The links between sessions and engine -/

/-- What holds whatever the sessions do: the proxies count what is enabled,
they forward to known providers, and satellites stay switched on. -/
structure Linked (w : World) : Prop where
  inv : w.system.Inv
  inStep : ∀ c ∈ w.sessions, c.InStep
  known : ∀ c ∈ w.sessions, SelectsKnown w.system c.selection
  satellite : w.system.satelliteBasedPositioningState = .on

theorem linked_initEngine (v : Status) :
    Linked ⟨System.initEngine v, []⟩ :=
  { inv := System.inv_initEngine v
    inStep := fun _ hc => nomatch hc
    known := fun _ hc => nomatch hc
    satellite := rfl }

theorem Linked.set {w : World} (h : Linked w) {k : Nat} {c d : Session}
    (hc : w.sessions[k]? = some c) (hd : d.InStep)
    (hsel : d.selection = c.selection) {s : System} (hs : s.Inv)
    (horder : s.order = w.system.order)
    (hsat : s.satelliteBasedPositioningState =
      w.system.satelliteBasedPositioningState) :
    Linked ⟨s, w.sessions.set k d⟩ := by
  have hmem : c ∈ w.sessions := List.mem_of_getElem? hc
  refine
    { inv := hs
      inStep := fun e he => ?_
      known := fun e he x i hi => ?_
      satellite := hsat.trans h.satellite }
  · rcases List.mem_or_eq_of_mem_set he with he | rfl
    · exact h.inStep e he
    · exact hd
  · show i ∈ s.order
    rw [horder]
    rcases List.mem_or_eq_of_mem_set he with he | rfl
    · exact h.known e he x i hi
    · rw [hsel] at hi
      exact h.known c hmem x i hi

theorem Linked.eraseIdx {w : World} (h : Linked w) (k : Nat) :
    Linked { w with sessions := w.sessions.eraseIdx k } :=
  { inv := h.inv
    inStep := fun c hc => h.inStep c (List.mem_of_mem_eraseIdx hc)
    known := fun c hc => h.known c (List.mem_of_mem_eraseIdx hc)
    satellite := h.satellite }

theorem Linked.create {w : World} (h : Linked w)
    {selection : Stream → Option ProviderId}
    (hsel : SelectsKnown w.system selection) :
    Linked { w with sessions := w.sessions ++ [.init selection] } := by
  refine
    { inv := h.inv
      inStep := fun c hc => ?_
      known := fun c hc => ?_
      satellite := h.satellite }
  · rcases List.mem_append.mp hc with hc | hc
    · exact h.inStep c hc
    · rw [List.mem_singleton.mp hc]
      exact Session.inStep_init selection
  · rcases List.mem_append.mp hc with hc | hc
    · exact h.known c hc
    · rw [List.mem_singleton.mp hc]
      exact hsel

theorem Linked.addProvider {w : World} (h : Linked w) (k : Nat) (req : Bool) :
    Linked { w with system := w.system.addProvider k req } := by
  refine
    { inv := System.inv_addProvider h.inv k req
      inStep := h.inStep
      known := fun c hc x i hi => ?_
      satellite := h.satellite }
  have hperm := System.order_addProvider_perm w.system k req
  exact hperm.mem_iff.mpr (List.mem_cons_of_mem _ (h.known c hc x i hi))

/-- A session does not use a provider that the engine does not know. -/
theorem Linked.users_of_fresh {w : World} (h : Linked w) {i : ProviderId}
    (hi : i ∉ w.system.order) (x : Stream) : w.users i x = 0 := by
  have hnone : ¬ 0 < w.users i x := by
    intro hpos
    obtain ⟨c, hc, hsel, -⟩ := users_pos.mp hpos
    exact hi (h.known c hc x i hsel)
  omega

theorem Linked.constructService {w : World} (h : Linked w) :
    Linked { w with system := w.system.settleConstructService } := by
  have hatt := System.attached_settleConstructService h.satellite
  refine
    { inv := System.inv_settleConstructService h.inv
      inStep := h.inStep
      known := fun c hc x i hi => ?_
      satellite := hatt.satellite.trans h.satellite }
  show i ∈ w.system.settleConstructService.order
  rw [hatt.order]
  exact h.known c hc x i hi

/-! ## Counters that equal the numbers of users -/

/-- While the engine is not off, its counters are the numbers of users. -/
structure Counted (w : World) : Prop where
  linked : Linked w
  counter : w.system.engineState ≠ .off → ∀ i ∈ w.system.order, ∀ x,
    w.system.counter i x = w.users i x

theorem counted_initEngine (v : Status) :
    Counted ⟨System.initEngine v, []⟩ :=
  { linked := linked_initEngine v
    counter := fun _ _ hi => nomatch hi }

theorem set_same {w : World} {k : Nat} {c : Session}
    (hc : w.sessions[k]? = some c) :
    (⟨w.system, w.sessions.set k c⟩ : World) = w := by
  obtain ⟨hk, hget⟩ := List.getElem?_eq_some_iff.mp hc
  have hset : w.sessions.set k c = w.sessions := by
    rw [← hget]
    exact List.set_getElem_self hk
  rw [hset]

theorem enabled_of_ne {v : UpdatesStatus} (h : v ≠ .disabled) :
    v = .enabled := by
  cases v with
  | enabled => rfl
  | disabled => exact absurd rfl h

/-- Enabling a stream either leaves the engine alone or is an accepted
start. -/
theorem Counted.enable_cases {w : World} (h : Counted w) {k : Nat}
    {c : Session} (hc : w.sessions[k]? = some c) {x : Stream}
    (hx : c.status x = .disabled) :
    let r := c.settleSetStatus x .enabled w.system
    r.1 = c.switched x .enabled ∧
      ((c.selection x = none ∨ w.system.engineState = .off) ∧
          r.2 = w.system ∨
        ∃ i ∈ w.system.order, c.selection x = some i ∧
          w.system.engineState ≠ .off ∧ r.2.Inv ∧
          System.Started w.system r.2 i x) := by
  have hmem : c ∈ w.sessions := List.mem_of_getElem? hc
  dsimp only
  rw [(h.linked.inStep c hmem).enable hx]
  refine ⟨rfl, ?_⟩
  cases hsel : c.selection x with
  | none => exact .inl ⟨.inl rfl, rfl⟩
  | some i =>
      have hi : i ∈ w.system.order := h.linked.known c hmem x i hsel
      by_cases hoff : w.system.engineState = .off
      · have hneg : w.system.counter i x < 0 := by
          rw [h.linked.inv.switches.off_disabled hoff i hi x]
          decide
        exact .inl ⟨.inr hoff, System.settleStartUpdates_of_neg hneg⟩
      · have hnonneg : 0 ≤ w.system.counter i x := by
          rw [h.counter hoff i hi x]
          exact Int.natCast_nonneg _
        exact .inr ⟨i, hi, rfl, hoff,
          System.inv_settleStartUpdates h.linked.inv hi x,
          System.started_settleStartUpdates h.linked.inv hi hnonneg⟩

/-- Disabling a stream either leaves the engine alone or is an accepted
stop. -/
theorem Counted.disable_cases {w : World} (h : Counted w) {k : Nat}
    {c : Session} (hc : w.sessions[k]? = some c) {x : Stream}
    (hx : c.status x = .enabled)
    (halone : ∀ i, c.selection x = some i → w.system.engineState ≠ .off →
      w.system.StopsAlone i x) :
    let r := c.settleSetStatus x .disabled w.system
    r.1 = c.switched x .disabled ∧
      ((c.selection x = none ∨ w.system.engineState = .off) ∧
          r.2 = w.system ∨
        ∃ i ∈ w.system.order, c.selection x = some i ∧
          w.system.engineState ≠ .off ∧ r.2.Inv ∧
          System.Stopped w.system r.2 i x) := by
  have hmem : c ∈ w.sessions := List.mem_of_getElem? hc
  dsimp only
  rw [(h.linked.inStep c hmem).disable hx]
  refine ⟨rfl, ?_⟩
  cases hsel : c.selection x with
  | none => exact .inl ⟨.inl rfl, rfl⟩
  | some i =>
      have hi : i ∈ w.system.order := h.linked.known c hmem x i hsel
      by_cases hoff : w.system.engineState = .off
      · have hneg : w.system.counter i x < 0 := by
          rw [h.linked.inv.switches.off_disabled hoff i hi x]
          decide
        exact .inl ⟨.inr hoff, System.settleStopUpdates_of_neg hneg⟩
      · have hpos : 0 < w.system.counter i x := by
          have huses : 0 < w.users i x := users_pos.mpr ⟨c, hmem, hsel, hx⟩
          rw [h.counter hoff i hi x]
          omega
        exact .inr ⟨i, hi, rfl, hoff,
          System.inv_settleStopUpdates h.linked.inv hi x,
          System.stopped_settleStopUpdates h.linked.inv hi hpos
            (halone i hsel hoff)⟩

/-- The users after a stream of a session has been enabled on `i`. -/
theorem users_enable_on {w : World} {k : Nat} {c : Session} {x : Stream}
    (hc : w.sessions[k]? = some c) (hx : c.status x = .disabled) (s : System)
    {i : ProviderId} (hsel : c.selection x = some i) (j : ProviderId)
    (y : Stream) :
    users ⟨s, w.sessions.set k (c.switched x .enabled)⟩ j y =
      if j = i ∧ y = x then w.users j y + 1 else w.users j y := by
  have hset := users_enable hc hx s j y
  have hsame : (c.selection x = some j ∧ y = x) ↔ (j = i ∧ y = x) := by
    rw [hsel]
    simp [eq_comm]
  simp only [hsame] at hset
  rw [hset]
  split <;> rfl

/-- The users after a stream of a session has been disabled on `i`. -/
theorem users_disable_on {w : World} {k : Nat} {c : Session} {x : Stream}
    (hc : w.sessions[k]? = some c) (hx : c.status x = .enabled) (s : System)
    {i : ProviderId} (hsel : c.selection x = some i) (j : ProviderId)
    (y : Stream) :
    w.users j y =
      if j = i ∧ y = x then
        users ⟨s, w.sessions.set k (c.switched x .disabled)⟩ j y + 1
      else users ⟨s, w.sessions.set k (c.switched x .disabled)⟩ j y := by
  have hset := users_disable hc hx s j y
  have hsame : (c.selection x = some j ∧ y = x) ↔ (j = i ∧ y = x) := by
    rw [hsel]
    simp [eq_comm]
  simp only [hsame] at hset
  rw [← hset]
  split <;> rfl

theorem users_enable_null {w : World} {k : Nat} {c : Session} {x : Stream}
    (hc : w.sessions[k]? = some c) (hx : c.status x = .disabled) (s : System)
    (hsel : c.selection x = none) (j : ProviderId) (y : Stream) :
    users ⟨s, w.sessions.set k (c.switched x .enabled)⟩ j y = w.users j y := by
  rw [users_enable hc hx, hsel]
  simp

theorem users_disable_null {w : World} {k : Nat} {c : Session} {x : Stream}
    (hc : w.sessions[k]? = some c) (hx : c.status x = .enabled) (s : System)
    (hsel : c.selection x = none) (j : ProviderId) (y : Stream) :
    users ⟨s, w.sessions.set k (c.switched x .disabled)⟩ j y = w.users j y := by
  have hset := users_disable hc hx s j y
  rw [hsel] at hset
  simpa using hset

theorem Counted.enable {w : World} (h : Counted w) {k : Nat} {c : Session}
    (hc : w.sessions[k]? = some c) {x : Stream} (hx : c.status x = .disabled)
    (hfits : c.Fits x w.system) :
    let r := c.settleSetStatus x .enabled w.system
    Counted ⟨r.2, w.sessions.set k r.1⟩ := by
  have hin := h.linked.inStep c (List.mem_of_getElem? hc)
  obtain ⟨hr₁, hcases⟩ := h.enable_cases hc hx
  dsimp only
  rw [hr₁]
  rcases hcases with ⟨hidle, hr₂⟩ | ⟨i, -, hsel, hne, hinv, hst⟩
  · rw [hr₂]
    refine
      { linked := h.linked.set hc (hin.switched x .enabled) rfl h.linked.inv
          rfl rfl
        counter := fun hon j hj y => ?_ }
    rcases hidle with hsel | hoff
    · rw [users_enable_null hc hx _ hsel]
      exact h.counter hon j hj y
    · exact absurd hoff hon
  · refine
      { linked := h.linked.set hc (hin.switched x .enabled) rfl hinv hst.order
          hst.satellite
        counter := fun _ j hj y => ?_ }
    have hj' : j ∈ w.system.order := hst.order ▸ hj
    have hold := h.counter hne j hj' y
    rw [hst.counter j hj' y, users_enable_on hc hx _ hsel]
    split
    · rename_i hjy
      have hmax : w.system.counter j y ≠ maxCounter := by
        rw [hjy.1, hjy.2]
        exact hfits i hsel
      rw [raised_of_nonneg (by omega) hmax, hold]
      rfl
    · exact hold

theorem Counted.disable {w : World} (h : Counted w) {k : Nat} {c : Session}
    (hc : w.sessions[k]? = some c) {x : Stream} (hx : c.status x = .enabled)
    (halone : ∀ i, c.selection x = some i → w.system.engineState ≠ .off →
      w.system.StopsAlone i x) :
    let r := c.settleSetStatus x .disabled w.system
    Counted ⟨r.2, w.sessions.set k r.1⟩ := by
  have hin := h.linked.inStep c (List.mem_of_getElem? hc)
  obtain ⟨hr₁, hcases⟩ := h.disable_cases hc hx halone
  dsimp only
  rw [hr₁]
  rcases hcases with ⟨hidle, hr₂⟩ | ⟨i, -, hsel, hne, hinv, hst⟩
  · rw [hr₂]
    refine
      { linked := h.linked.set hc (hin.switched x .disabled) rfl h.linked.inv
          rfl rfl
        counter := fun hon j hj y => ?_ }
    rcases hidle with hsel | hoff
    · rw [users_disable_null hc hx _ hsel]
      exact h.counter hon j hj y
    · exact absurd hoff hon
  · refine
      { linked := h.linked.set hc (hin.switched x .disabled) rfl hinv hst.order
          hst.satellite
        counter := fun _ j hj y => ?_ }
    have hj' : j ∈ w.system.order := hst.order ▸ hj
    have hold := h.counter hne j hj' y
    have husers := users_disable_on hc hx
      (c.settleSetStatus x .disabled w.system).2 hsel j y
    rw [hst.counter j hj' y]
    split at husers
    · rename_i hjy
      rw [if_pos hjy, lowered_of_nonneg (by omega)]
      omega
    · rename_i hjy
      rw [if_neg hjy, ← husers]
      exact hold

theorem Counted.create {w : World} (h : Counted w)
    {selection : Stream → Option ProviderId}
    (hsel : SelectsKnown w.system selection) :
    Counted { w with sessions := w.sessions ++ [.init selection] } := by
  refine { linked := h.linked.create hsel, counter := fun hne i hi x => ?_ }
  rw [users_create]
  exact h.counter hne i hi x

/-- A session that uses nothing can be removed. -/
theorem Counted.eraseIdx {w : World} (h : Counted w) {k : Nat} {c : Session}
    (hc : w.sessions[k]? = some c) (hidle : ∀ x, c.status x = .disabled) :
    Counted { w with sessions := w.sessions.eraseIdx k } := by
  refine { linked := h.linked.eraseIdx k, counter := fun hne i hi x => ?_ }
  rw [users_eraseIdx hc hidle]
  exact h.counter hne i hi x

/-- The providers of an engine with a new one. -/
theorem mem_addProvider {w : World} (h : Linked w) (k : Nat) (req : Bool)
    {i : ProviderId} (hi : i ∈ (w.system.addProvider k req).order) :
    (i = w.system.order.length ∧ i ∉ w.system.order) ∨
      (i ≠ w.system.order.length ∧ i ∈ w.system.order) := by
  have hfresh : w.system.order.length ∉ w.system.order := fun hmem =>
    Nat.lt_irrefl _ (h.inv.sound.bound _ hmem)
  have hperm := System.order_addProvider_perm w.system k req
  rcases List.mem_cons.mp (hperm.mem_iff.mp hi) with rfl | hi
  · exact .inl ⟨rfl, hfresh⟩
  · exact .inr ⟨fun e => hfresh (e ▸ hi), hi⟩

theorem Counted.addProvider {w : World} (h : Counted w) (k : Nat)
    (req : Bool) :
    Counted { w with system := w.system.addProvider k req } := by
  obtain ⟨hsame, -, hcount⟩ :=
    System.addProvider_counter k req h.linked.satellite
  refine
    { linked := h.linked.addProvider k req
      counter := fun hne i hi x => ?_ }
  rcases mem_addProvider h.linked k req hi with ⟨rfl, hfresh⟩ | ⟨hi', hio⟩
  · have hu : users { w with system := w.system.addProvider k req }
        w.system.order.length x = 0 := h.linked.users_of_fresh hfresh x
    rw [hu, hcount hne x]
    rfl
  · have hold := h.counter hne i hio x
    unfold System.counter at hold ⊢
    rw [hsame i hi']
    exact hold

private theorem users_of_empty {w : World} (hempty : w.sessions = [])
    (i : ProviderId) (x : Stream) : w.users i x = 0 := by
  unfold users
  rw [hempty]
  rfl

theorem Counted.constructService {w : World} (h : Counted w)
    (hempty : w.sessions = []) :
    Counted { w with system := w.system.settleConstructService } := by
  have hatt := System.attached_settleConstructService h.linked.satellite
  refine
    { linked := h.linked.constructService
      counter := fun hne i hi x => ?_ }
  have hne' : w.system.engineState ≠ .off :=
    fun hoff => hne (hatt.engineState.mpr hoff)
  have hold := h.counter hne' i (hatt.order ▸ hi) x
  rw [users_of_empty hempty] at hold
  have hu : users { w with system := w.system.settleConstructService } i x =
      0 := users_of_empty hempty i x
  rw [hu]
  rcases hatt.counter i x with hc | hc
  · exact hc.trans hold
  · exact hc

end World

end LocationService
