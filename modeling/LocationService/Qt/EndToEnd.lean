import LocationService.Codec.RoundTrip
import LocationService.Gps.LocationUpdate
import LocationService.Library.Cells
import LocationService.Qt.LastKnownPosition

/-!
# From the driver to the application

The session of an application is fed by a `FusionProvider`.  What that emits is
assigned to a property of `session::Implementation`.  A property that changes
has `session::Skeleton` call a method of the client, with the update as the
argument; `session::Stub` decodes it and assigns it to its own property; and a
property that changes there ends in a slot of `core::GeoPositionInfoSource`.
The calls of one session arrive in the order they were made.

That the application creates its session and that its slots are connected is one
event here, before which nothing is fused, delivered or processed: an update
that would come between the two is not looked at.

No station alters an update.  But a property that is assigned an equal value
does not change, and this happens on either side.

## Main results

* `app_processes` — what of the fused updates the application gets.
* `app_shows_fix` — what it shows of the locations of the driver.
-/

namespace LocationService

open Library Library.Wire

/-! ## The two ends of a session -/

/-- What a fusion provider emits is assigned to the property of its stream. -/
def SessionUpdate.ofProvider : ProviderUpdate → SessionUpdate
  | .position u => .position u
  | .heading u => .heading u
  | .velocity u => .velocity u

/-- `operator==` of two updates of a stream. -/
def SessionUpdate.operatorEq : SessionUpdate → SessionUpdate → Bool
  | .position u, .position v => Update.operatorEq Position.operatorEq u v
  | .heading u, .heading v => Update.operatorEq Quantity.operatorEq u v
  | .velocity u, .velocity v => Update.operatorEq Quantity.operatorEq u v
  | _, _ => false

/-- The update properties of a session, on one of its ends. -/
abbrev UpdateProperties := Cells SessionUpdate.stream

/-- `UpdatePosition`, `UpdateHeading` and `UpdateVelocity`, with the content of
the message. -/
inductive UpdateMethod where
  | updatePosition (content : List Item)
  | updateHeading (content : List Item)
  | updateVelocity (content : List Item)

/-- `Skeleton::on_position_changed`, `on_heading_changed` and
`on_velocity_changed` -/
def UpdateMethod.onChanged : SessionUpdate → UpdateMethod
  | .position u => .updatePosition (encoded u)
  | .heading u => .updateHeading (encoded u)
  | .velocity u => .updateVelocity (encoded u)

/-- `Stub::Private::update_position`, `update_heading` and `update_velocity`, as
far as the update that they decode; `none` leads to an error reply.  `now` is a
reading of the clock, for the object that is decoded into. -/
def UpdateMethod.update (now : Int64) : UpdateMethod → Option SessionUpdate
  | .updatePosition content =>
      ((decodeArgument (Update.ofValue ({} : Position) now)).run content).map
        fun (u, _) => .position u
  | .updateHeading content =>
      ((decodeArgument (Update.ofValue (default : Heading) now)).run
        content).map fun (u, _) => .heading u
  | .updateVelocity content =>
      ((decodeArgument (Update.ofValue (default : Velocity) now)).run
        content).map fun (u, _) => .velocity u

/-- The client gets the update that was sent. -/
theorem UpdateMethod.update_onChanged (now : Int64) (u : SessionUpdate) :
    (UpdateMethod.onChanged u).update now = some u := by
  have hdecode : ∀ {α : Type} [Codec α] [LawfulCodec α] (value old : α),
      (decodeArgument old).run (encoded value) = some (value, []) := by
    intro α _ _ value old
    simpa using LawfulCodec.decode value old []
  cases u with
  | position u => simp [onChanged, update, hdecode]
  | heading u => simp [onChanged, update, hdecode]
  | velocity u => simp [onChanged, update, hdecode]

/-! ## The path -/

/-- A session from the fusion provider to the application, with the locations
that the driver reported while it existed, the oldest first. -/
structure UpdatePath (Q : QtPositioning) where
  fusion : FusionRun
  session : UpdateProperties
  bus : List UpdateMethod
  stub : UpdateProperties
  app : PositionInfoRun Q
  located : List (UHardwareGpsLocation × (Stream → Int64))
  terminated : Bool

/-- A provider emits an update; the driver reports a location; the next call
reaches the client; or something else happens to the application. -/
inductive PathEvent where
  | emitted (w : WithSource ProviderUpdate)
  | located (location : UHardwareGpsLocation) (now : Stream → Int64)
  | called (now : Int64)
  | app (e : PositionInfoEvent)

namespace UpdatePath

variable {Q : QtPositioning}

/-- The application has not created its session yet.  `session` and `stub` are
what the properties of the two ends are made with. -/
def init (providers : List ProviderId) (session stub : UpdateProperties) :
    UpdatePath Q :=
  ⟨.init providers, session, [], stub, .init, [], false⟩

/-- The fusion provider emits an update. -/
def assignSession (s : UpdatePath Q) (u : ProviderUpdate) : UpdatePath Q :=
  let v := SessionUpdate.ofProvider u
  if SessionUpdate.operatorEq (s.session.value v.stream) v then s
  else
    { s with
      session := s.session.set v
      bus := s.bus ++ [UpdateMethod.onChanged v] }

/-- A provider emits an update. -/
def emit (s : UpdatePath Q) (w : WithSource ProviderUpdate) : UpdatePath Q :=
  let emitted := (s.fusion.fusion.onUpdate
    NewerOrMoreAccurateUpdateSelector.select w.source w.value).2
  emitted.foldl assignSession { s with fusion := s.fusion.next w }

/-- The stub has decoded an update. -/
def assignStub (s : UpdatePath Q) (v : SessionUpdate) : UpdatePath Q :=
  if SessionUpdate.operatorEq (s.stub.value v.stream) v then s
  else
    { s with
      stub := s.stub.set v
      app := PositionInfoRun.next (.updated v) s.app }

/-- There is a session, and the service runs. -/
def Listens (s : UpdatePath Q) : Prop :=
  s.app.run.source.session.isSome = true ∧ s.terminated = false

instance (s : UpdatePath Q) : Decidable s.Listens :=
  inferInstanceAs (Decidable (_ ∧ _))

/-- What an event does, where `gps` is the `gps::Provider`.  An exception that
leaves a callback of the driver ends the service. -/
def next (gps : ProviderId) : PathEvent → UpdatePath Q → UpdatePath Q
  | .emitted w, s => if s.Listens then s.emit w else s
  | .located location now, s =>
      if s.Listens then
        match location.onLocationUpdate with
        | .error _ => { s with terminated := true }
        | .ok signals =>
            (signals.map fun signal => ⟨gps, signal.update now⟩).foldl emit
              { s with located := s.located ++ [(location, now)] }
      else s
  | .called now, s =>
      match s.bus with
      | [] => s
      | call :: bus =>
          match call.update now with
          | none => { s with bus := bus }
          | some v => { s with bus := bus }.assignStub v
  -- updates come from the stub alone
  | .app (.updated _), s => s
  | .app e, s => { s with app := PositionInfoRun.next e s.app }

/-- The updates that the fusion provider has emitted, the oldest first. -/
def fused (s : UpdatePath Q) : List SessionUpdate :=
  (s.fusion.emitted.map SessionUpdate.ofProvider).reverse

end UpdatePath

/-! ## A session stays -/

namespace GeoPositionInfoSource

variable {s : GeoPositionInfoSource} (h : s.Inv)
  (hsession : s.session.isSome = true)
include h hsession

theorem Inv.isSome_requestUpdate (timeout : Int) :
    (s.requestUpdate timeout).session.isSome = true := by
  unfold GeoPositionInfoSource.requestUpdate
  rw [if_neg (not_not_intro h.error)]
  split
  · exact hsession
  · rw [startUpdates_eq h.error h.state]
    rfl

theorem Inv.isSome_stopUpdates : s.stopUpdates.session.isSome = true := by
  rw [h.stopUpdates_eq]
  simpa using hsession

theorem Inv.isSome_applicationStateChanged (v : ApplicationState) :
    (s.applicationStateChanged v).session.isSome = true := by
  cases v with
  | suspended => exact hsession
  | hidden => exact hsession
  | inactive =>
      rw [h.deactivate_eq]
      split
      · exact h.isSome_stopUpdates hsession
      · exact hsession
  | active =>
      rw [h.activate_eq]
      split
      · rfl
      · exact hsession

end GeoPositionInfoSource

namespace PositionSourceRun

/-- No event takes the session away. -/
theorem isSome_session_next (e : PositionSourceEvent) {r : PositionSourceRun}
    (h : r.source.Inv) (hsession : r.source.session.isSome = true) :
    (next e r).source.session.isSome = true := by
  cases e with
  | startUpdates =>
      show r.source.startUpdates.session.isSome = true
      rw [GeoPositionInfoSource.startUpdates_eq h.error h.state]
      rfl
  | stopUpdates => exact h.isSome_stopUpdates hsession
  | requestUpdate timeout => exact h.isSome_requestUpdate hsession timeout
  | timerExpired =>
      show r.expire.source.session.isSome = true
      unfold expire
      split
      · exact h.stopTimer.isSome_stopUpdates hsession
      · exact hsession
  | updated x =>
      show (r.receive x).source.session.isSome = true
      unfold receive
      split
      · exact hsession
      · cases x with
        | position =>
            show r.source.handlePositionUpdate.session.isSome = true
            rw [h.handlePositionUpdate_eq]
            exact hsession
        | heading => exact hsession
        | velocity => exact hsession
  | positionUpdated =>
      show r.deliver.source.session.isSome = true
      unfold deliver
      split
      · exact hsession
      · exact hsession
  | applicationStateChanged v =>
      exact h.isSome_applicationStateChanged hsession v

end PositionSourceRun

/-! ## What is under way -/

/-- The fusion provider emits one update for each that it gets. -/
theorem FusionProvider.onUpdate_emits (f : FusionProvider)
    (w : WithSource ProviderUpdate) :
    ∃ u, (f.onUpdate NewerOrMoreAccurateUpdateSelector.select w.source
      w.value).2 = [u] := by
  cases hvalue : w.value with
  | heading v => exact ⟨.heading v, rfl⟩
  | velocity v => exact ⟨.velocity v, rfl⟩
  | position u =>
      unfold onUpdate onPosition
      cases f.lastPosition with
      | none => exact ⟨.position u, rfl⟩
      | some last =>
          obtain ⟨choice, hselect, -⟩ :=
            NewerOrMoreAccurateUpdateSelector.select_spec last ⟨w.source, u⟩
          simp only [hselect]
          exact ⟨.position choice.value, rfl⟩

namespace UpdatePath

variable {Q : QtPositioning}

/-- The announced updates of the session have reached the client or are under
way, in order; and the application has processed those that the stub announced
in turn. -/
structure Inv (session stub : UpdateProperties) (s : UpdatePath Q) : Prop where
  app : s.app.Inv
  property : s.session = session.after SessionUpdate.operatorEq s.fused
  trace : ∃ delivered underway,
    session.announced SessionUpdate.operatorEq s.fused = delivered ++ underway ∧
      s.bus = underway.map UpdateMethod.onChanged ∧
      s.stub = stub.after SessionUpdate.operatorEq delivered ∧
      s.app.processed = stub.announced SessionUpdate.operatorEq delivered
  idle : s.app.run.source.session.isSome = false → s.fused = []

variable {session stub : UpdateProperties} {s : UpdatePath Q}

theorem Inv.init (providers : List ProviderId) :
    Inv session stub (init providers session stub : UpdatePath Q) where
  app := .init
  property := rfl
  trace := ⟨[], [], rfl, rfl, rfl, rfl⟩
  idle := fun _ => rfl

/-- What happens when the fusion provider emits an update. -/
structure Emits (s t : UpdatePath Q) (v : SessionUpdate) : Prop where
  fused : t.fused = s.fused ++ [v]
  property : t.session = s.session.assign SessionUpdate.operatorEq v
  bus : t.bus = s.bus ++
    (s.session.announced SessionUpdate.operatorEq [v]).map
      UpdateMethod.onChanged
  stub : t.stub = s.stub
  app : t.app = s.app
  located : t.located = s.located
  terminated : t.terminated = s.terminated

theorem emits_of_onUpdate {w : WithSource ProviderUpdate} {u : ProviderUpdate}
    (hu : (s.fusion.fusion.onUpdate NewerOrMoreAccurateUpdateSelector.select
      w.source w.value).2 = [u]) :
    Emits s (s.emit w) (SessionUpdate.ofProvider u) := by
  have hfusion : (s.fusion.next w).emitted = u :: s.fusion.emitted := by
    show (s.fusion.fusion.onUpdate _ w.source w.value).2 ++ s.fusion.emitted = _
    rw [hu]
    rfl
  have hemit : s.emit w =
      assignSession { s with fusion := s.fusion.next w } u := by
    unfold emit
    simp only [hu, List.foldl_cons, List.foldl_nil]
  rw [hemit]
  unfold assignSession
  dsimp only
  split <;> rename_i hsame
  · exact {
      fused := by simp [fused, hfusion]
      property := by simp [Cells.assign, hsame]
      bus := by simp [Cells.announced, hsame]
      stub := rfl
      app := rfl
      located := rfl
      terminated := rfl }
  · exact {
      fused := by simp [fused, hfusion]
      property := by simp [Cells.assign, hsame]
      bus := by simp [Cells.announced, hsame]
      stub := rfl
      app := rfl
      located := rfl
      terminated := rfl }

theorem exists_emits (s : UpdatePath Q) (w : WithSource ProviderUpdate) :
    ∃ v, Emits s (s.emit w) v := by
  obtain ⟨u, hu⟩ := s.fusion.fusion.onUpdate_emits w
  exact ⟨_, emits_of_onUpdate hu⟩

theorem Inv.emits {t : UpdatePath Q} {v : SessionUpdate}
    (h : s.Inv session stub) (hlistens : s.Listens) (he : Emits s t v) :
    t.Inv session stub where
  app := he.app ▸ h.app
  property := by
    rw [he.property, he.fused, Cells.after_append, h.property]
    rfl
  trace := by
    obtain ⟨delivered, underway, hannounced, hunderway, hheld, hprocessed⟩ :=
      h.trace
    refine ⟨delivered,
      underway ++ (session.after SessionUpdate.operatorEq s.fused).announced
        SessionUpdate.operatorEq [v],
      ?_, ?_, he.stub.trans hheld, ?_⟩
    · rw [he.fused, Cells.announced_append, hannounced, List.append_assoc]
    · rw [he.bus, hunderway, h.property, List.map_append]
    · rw [he.app, hprocessed]
  idle := by
    intro hnone
    rw [he.app, hlistens.1] at hnone
    cases hnone

theorem Listens.emits {t : UpdatePath Q} {v : SessionUpdate} (h : s.Listens)
    (he : Emits s t v) : t.Listens := by
  unfold Listens
  rw [he.app, he.terminated]
  exact h

theorem Inv.foldl_emit (h : s.Inv session stub) (hlistens : s.Listens)
    (ws : List (WithSource ProviderUpdate)) :
    (ws.foldl emit s).Inv session stub := by
  induction ws generalizing s with
  | nil => exact h
  | cons w ws ih =>
      obtain ⟨v, he⟩ := s.exists_emits w
      exact ih (h.emits hlistens he) (hlistens.emits he)

theorem assignStub_frame (s : UpdatePath Q) (v : SessionUpdate) :
    (s.assignStub v).fused = s.fused ∧ (s.assignStub v).session = s.session ∧
      (s.assignStub v).bus = s.bus := by
  unfold assignStub
  split
  · exact ⟨rfl, rfl, rfl⟩
  · exact ⟨rfl, rfl, rfl⟩

/-- With a session an update of the stub is processed if it is announced. -/
theorem assignStub_app (h : s.app.Inv)
    (hsome : s.app.run.source.session.isSome = true) (v : SessionUpdate) :
    (s.assignStub v).app.Inv ∧
      (s.assignStub v).app.run.source.session.isSome = true ∧
      (s.assignStub v).stub = s.stub.assign SessionUpdate.operatorEq v ∧
      (s.assignStub v).app.processed = s.app.processed ++
        s.stub.announced SessionUpdate.operatorEq [v] := by
  unfold UpdatePath.assignStub Cells.assign
  split <;> rename_i hsame
  · refine ⟨h, hsome, rfl, ?_⟩
    simp [Cells.announced, hsame]
  · have hupdated := PositionInfoRun.next_updated h hsome v
    refine ⟨h.next _, ?_, rfl, ?_⟩
    · show (PositionInfoRun.next (.updated v) s.app).run.source.session.isSome =
        true
      rw [hupdated.2, hsome]
    · rw [hupdated.1]
      simp [Cells.announced, hsame]

theorem Inv.called (h : s.Inv session stub) (gps : ProviderId) (now : Int64) :
    (next gps (.called now) s).Inv session stub := by
  obtain ⟨delivered, underway, hannounced, hunderway, hheld, hprocessed⟩ :=
    h.trace
  cases underway with
  | nil =>
      have hbus : s.bus = [] := hunderway
      simp only [next, hbus]
      exact h
  | cons v underway =>
      have hbus : s.bus =
          UpdateMethod.onChanged v :: underway.map UpdateMethod.onChanged :=
        hunderway
      simp only [next, hbus, UpdateMethod.update_onChanged]
      have hsome : s.app.run.source.session.isSome = true := by
        by_contra hnone
        have hfused := h.idle (by simpa using hnone)
        rw [hfused] at hannounced
        simp [Cells.announced] at hannounced
      -- the update moves from those under way to those delivered
      have hframe := assignStub_frame
        { s with bus := underway.map UpdateMethod.onChanged } v
      obtain ⟨happ, hsession, hassign, hprocess⟩ := @assignStub_app Q
        { s with bus := underway.map UpdateMethod.onChanged } h.app hsome v
      refine {
        app := happ
        property := ?_
        trace := ⟨delivered ++ [v], underway, ?_, hframe.2.2, ?_, ?_⟩
        idle := ?_ }
      · rw [hframe.2.1, hframe.1]
        exact h.property
      · rw [hframe.1, List.append_assoc]
        exact hannounced
      · rw [hassign, Cells.after_append]
        show s.stub.assign SessionUpdate.operatorEq v = _
        rw [hheld]
        rfl
      · rw [hprocess, Cells.announced_append]
        show s.app.processed ++ s.stub.announced SessionUpdate.operatorEq [v] = _
        rw [hprocessed, hheld]
      · intro hnone
        rw [hsession] at hnone
        cases hnone

/-- Whatever else happens to the application, it processes no update. -/
theorem processed_next {r : PositionInfoRun Q} {e : PositionInfoEvent}
    (he : ∀ u, e ≠ .updated u) :
    (PositionInfoRun.next e r).processed = r.processed := by
  cases e with
  | updated u => exact absurd rfl (he u)
  | _ => rfl

theorem Inv.app_next (h : s.Inv session stub) {e : PositionInfoEvent}
    (he : ∀ u, e ≠ .updated u) :
    Inv session stub { s with app := PositionInfoRun.next e s.app } where
  app := h.app.next e
  property := h.property
  trace := by
    obtain ⟨delivered, underway, hannounced, hunderway, hheld, hprocessed⟩ :=
      h.trace
    exact ⟨delivered, underway, hannounced, hunderway, hheld,
      (processed_next he).trans hprocessed⟩
  idle := by
    intro hnone
    apply h.idle
    by_contra hsome
    rw [Bool.not_eq_false] at hsome
    have hstays : (PositionInfoRun.next e s.app).run.source.session.isSome =
        true :=
      PositionSourceRun.isSome_session_next e.erase h.app.source hsome
    rw [hstays] at hnone
    cases hnone

theorem Inv.next (h : s.Inv session stub) (gps : ProviderId) (e : PathEvent) :
    (next gps e s).Inv session stub := by
  cases e with
  | emitted w =>
      unfold UpdatePath.next
      dsimp only
      split
      · rename_i hlistens
        obtain ⟨v, he⟩ := s.exists_emits w
        exact h.emits hlistens he
      · exact h
  | located location now =>
      unfold UpdatePath.next
      dsimp only
      split
      · rename_i hlistens
        split
        · exact ⟨h.app, h.property, h.trace, h.idle⟩
        · rename_i signals _
          have hlocated : Inv session stub
              { s with located := s.located ++ [(location, now)] } :=
            ⟨h.app, h.property, h.trace, h.idle⟩
          exact hlocated.foldl_emit hlistens _
      · exact h
  | called now => exact h.called gps now
  | app e =>
      cases e with
      | updated u => exact h
      | startUpdates => exact h.app_next (by simp)
      | stopUpdates => exact h.app_next (by simp)
      | requestUpdate timeout => exact h.app_next (by simp)
      | timerExpired => exact h.app_next (by simp)
      | positionUpdated => exact h.app_next (by simp)
      | applicationStateChanged v => exact h.app_next (by simp)

/-- The state after some events. -/
abbrev run (gps : ProviderId) (providers : List ProviderId)
    (session stub : UpdateProperties) (es : List PathEvent) : UpdatePath Q :=
  Machine.run (init providers session stub) (UpdatePath.next gps) es

theorem inv_run (gps : ProviderId) (providers : List ProviderId)
    (session stub : UpdateProperties) (es : List PathEvent) :
    (run gps providers session stub es : UpdatePath Q).Inv session stub := by
  apply Machine.run_invariant (Inv session stub)
  · exact .init providers
  · intro e s h
    exact h.next gps e

/-- The update at a place among those processed has led to the position at that
place, which is the last known position by then. -/
theorem Inv.emitted_eq (h : s.Inv session stub) {before rest : List SessionUpdate}
    (u : SessionUpdate) (hprocessed : s.app.processed = before ++ u :: rest) :
    s.app.emitted[before.length]? = some (Q.lastKnown (before ++ [u])) := by
  have hemitted := h.app.emitted before.length u (by rw [hprocessed]; simp)
  rw [hemitted, hprocessed, List.take_left, QtPositioning.lastKnown,
    QtPositioning.lastKnown, List.foldl_append]
  rfl

theorem Inv.emitted_take (h : s.Inv session stub) {us rest : List SessionUpdate}
    (hne : us ≠ []) (hprocessed : s.app.processed = us ++ rest) :
    s.app.emitted[us.length - 1]? = some (Q.lastKnown us) := by
  obtain ⟨before, u, rfl⟩ := (List.eq_nil_or_concat' us).resolve_left hne
  rw [List.append_assoc] at hprocessed
  rw [List.length_append, List.length_singleton, Nat.add_sub_cancel]
  exact h.emitted_eq u hprocessed

/-- With nothing under way everything was processed, exactly if neither side
drops an update. -/
theorem Inv.processed_eq_iff (h : s.Inv session stub) (hbus : s.bus = []) :
    s.app.processed = s.fused ↔
      session.Fresh SessionUpdate.operatorEq s.fused ∧
        stub.Fresh SessionUpdate.operatorEq s.fused := by
  obtain ⟨delivered, underway, hannounced, hunderway, -, hprocessed⟩ := h.trace
  have hnone : underway = [] := by
    rw [hbus] at hunderway
    exact List.map_eq_nil_iff.mp hunderway.symm
  rw [hnone, List.append_nil] at hannounced
  rw [hprocessed, ← hannounced, ← Cells.announced_eq_iff,
    ← Cells.announced_eq_iff]
  constructor
  · intro heq
    -- what was dropped on one side cannot be made up for on the other
    have hstub := @Cells.announced_sublist _ _ _ _ SessionUpdate.operatorEq stub
      (session.announced SessionUpdate.operatorEq s.fused)
    have hsession := @Cells.announced_sublist _ _ _ _ SessionUpdate.operatorEq
      session s.fused
    rw [heq] at hstub
    have hall := hsession.antisymm hstub
    rw [hall] at heq
    exact ⟨hall, heq⟩
  · rintro ⟨hsession, hstub⟩
    rw [hsession, hstub]

/-- No update is lost, doubled, altered or overtaken between the fusion provider
and the application, but one that is equal to the one before it, with its
timestamp, is dropped on either side.  Each of those that are processed leads to
one position. -/
theorem app_processes (gps : ProviderId) (providers : List ProviderId)
    (session stub : UpdateProperties) (es : List PathEvent) :
    let s : UpdatePath Q := run gps providers session stub es
    (∃ delivered underway,
      session.announced SessionUpdate.operatorEq s.fused = delivered ++ underway ∧
        s.bus = underway.map UpdateMethod.onChanged ∧
        s.app.processed = stub.announced SessionUpdate.operatorEq delivered) ∧
      (s.bus = [] → (s.app.processed = s.fused ↔
        session.Fresh SessionUpdate.operatorEq s.fused ∧
          stub.Fresh SessionUpdate.operatorEq s.fused)) ∧
      s.app.emitted.length = s.app.processed.length ∧
      ∀ before u rest, s.app.processed = before ++ u :: rest →
        s.app.emitted[before.length]? = some (Q.lastKnown (before ++ [u])) := by
  intro s
  have hinv : s.Inv session stub := inv_run gps providers session stub es
  obtain ⟨delivered, underway, hannounced, hunderway, -, hprocessed⟩ :=
    hinv.trace
  exact ⟨⟨delivered, underway, hannounced, hunderway, hprocessed⟩,
    hinv.processed_eq_iff, hinv.app.length,
    fun before u rest => hinv.emitted_eq u⟩

end UpdatePath

/-! ## The chip alone -/

/-- A location of the driver, with the readings of the clock that stamp it. -/
abbrev Fix := UHardwareGpsLocation × (Stream → Int64)

namespace Fix

/-- What `gps::Provider` emits for a location. -/
def updates (fix : Fix) : List SessionUpdate :=
  fix.1.signals.map fun signal => .ofProvider (signal.update fix.2)

def accuracy (fix : Fix) : Option Float :=
  if fix.1.flags .latLong && fix.1.flags .accuracy then
    knownAccuracy (some ⟨FloatFormat.widen fix.1.accuracy⟩)
  else none

def bearing (fix : Fix) : Option Float :=
  if fix.1.flags .bearing then some (FloatFormat.widen fix.1.bearing) else none

def speed (fix : Fix) : Option Float :=
  if fix.1.flags .speed then some (FloatFormat.widen fix.1.speed) else none

/-- The value of the last of some locations that has one. -/
def last (part : Fix → Option Float) (fixes : List Fix) : Option Float :=
  (fixes.filterMap part).getLast?

/-- The position of a location, unless its coordinates are missing. -/
def position (fix : Fix) : Option (Update Position) :=
  if fix.1.flags .latLong then
    some (.ofValue fix.1.toPosition (fix.2 .position))
  else none

/-- There is one update of each kind at most, and the position comes first. -/
theorem updates_eq (fix : Fix) :
    fix.updates =
      (fix.position.map SessionUpdate.position).toList ++
        ((fix.speed.map fun x =>
          SessionUpdate.velocity (.ofValue ⟨x⟩ (fix.2 .velocity))).toList ++
        (fix.bearing.map fun x =>
          SessionUpdate.heading (.ofValue ⟨x⟩ (fix.2 .heading))).toList) := by
  unfold updates UHardwareGpsLocation.signals position speed bearing
  cases fix.1.flags .latLong <;> cases fix.1.flags .speed <;>
    cases fix.1.flags .bearing <;> rfl

theorem knownAccuracy_position (fix : Fix) :
    (fix.position.bind fun u => knownAccuracy u.value.accuracy.horizontal) =
      fix.accuracy := by
  unfold position accuracy
  cases fix.1.flags .latLong with
  | false => rfl
  | true =>
      cases haccuracy : fix.1.flags .accuracy with
      | false => simp [UHardwareGpsLocation.toPosition, haccuracy,
          Update.ofValue, knownAccuracy]
      | true => simp [UHardwareGpsLocation.toPosition, haccuracy,
          Update.ofValue]

/-- Each attribute is carried by one update at most. -/
theorem filterMap_attributes (fix : Fix) :
    fix.updates.filterMap (SessionUpdate.attributes · .horizontalAccuracy) =
        fix.accuracy.toList ∧
      fix.updates.filterMap (SessionUpdate.attributes · .verticalAccuracy) =
        [] ∧
      fix.updates.filterMap (SessionUpdate.attributes · .direction) =
        fix.bearing.toList ∧
      fix.updates.filterMap (SessionUpdate.attributes · .groundSpeed) =
        fix.speed.toList := by
  have hvertical : ∀ u, fix.position = some u →
      knownAccuracy u.value.accuracy.vertical = none := by
    intro u hu
    unfold position at hu
    split at hu
    · cases hu
      rfl
    · cases hu
  rw [updates_eq, ← knownAccuracy_position]
  cases hposition : fix.position with
  | none =>
      cases fix.speed <;> cases fix.bearing <;>
        simp [SessionUpdate.attributes, Update.ofValue]
  | some u =>
      have hnone := hvertical u hposition
      cases hknown : knownAccuracy u.value.accuracy.horizontal <;>
        cases fix.speed <;> cases fix.bearing <;>
          simp [SessionUpdate.attributes, Update.ofValue, hnone, hknown]

/-- What a position shows of some locations, the oldest first: the place of the
last one; and of each measurement the last one that there is, of accuracies in
some of the locations, and of movements in some of them. -/
structure Shown (Q : QtPositioning) (fix : Fix) (accuracies movements : List Fix)
    (info : Q.QGeoPositionInfo) : Prop where
  coordinate : Q.coordinate info =
    Q.ofDegrees fix.1.latitude fix.1.longitude
      (if fix.1.flags .altitude then fix.1.altitude else 0)
  horizontalAccuracy : Q.attributes info .horizontalAccuracy =
    last accuracy accuracies
  verticalAccuracy : Q.attributes info .verticalAccuracy = none
  direction : Q.attributes info .direction = last bearing movements
  groundSpeed : Q.attributes info .groundSpeed = last speed movements

end Fix

namespace QtPositioning

variable {Q : QtPositioning} (hQ : Q.Documented)
include hQ

theorem coordinate_handleAttributeUpdate (a : PositionAttribute) (x : Float)
    (milliseconds : Int64) (i : Q.QGeoPositionInfo) :
    Q.coordinate (Q.handleAttributeUpdate a x milliseconds i) =
      Q.coordinate i := by
  unfold handleAttributeUpdate
  rw [hQ.coordinate_setTimestamp, hQ.coordinate_setAttribute]

/-- Behind a position, headings and velocities keep the coordinate. -/
theorem coordinate_lastKnown_append (before : List SessionUpdate)
    (u : Update Position) {rest : List SessionUpdate}
    (hrest : ∀ v, .position v ∉ rest) :
    Q.coordinate (Q.lastKnown (before ++ .position u :: rest)) =
      Q.ofDegrees u.value.latitude.value.value u.value.longitude.value.value
        (match u.value.altitude with
          | some altitude => altitude.value.value
          | none => 0) := by
  induction rest using List.reverseRecOn with
  | nil =>
      rw [lastKnown, List.foldl_append]
      exact coordinate_handlePositionUpdate hQ u _
  | append_singleton rest v ih =>
      have hkeeps : Q.lastKnown (before ++ .position u :: (rest ++ [v])) =
          Q.handleUpdate (Q.lastKnown (before ++ .position u :: rest)) v := by
        simp [lastKnown]
      have hih := ih fun w hw => hrest w (List.mem_append_left _ hw)
      rw [hkeeps, ← hih]
      cases v with
      | position v => exact absurd (by simp) (hrest v)
      | heading v => exact coordinate_handleAttributeUpdate hQ _ _ _ _
      | velocity v => exact coordinate_handleAttributeUpdate hQ _ _ _ _

end QtPositioning

namespace Fix

theorem last_concat (part : Fix → Option Float) (fixes : List Fix) (fix : Fix) :
    last part (fixes ++ [fix]) = (part fix).or (last part fixes) := by
  unfold last
  cases hpart : part fix with
  | none => simp [hpart]
  | some x => simp [hpart]

/-- Behind the position of a location there are no positions. -/
theorem updates_of_latLong {fix : Fix} (h : fix.1.flags .latLong = true) :
    ∃ rest, fix.updates =
        .position (.ofValue fix.1.toPosition (fix.2 .position)) :: rest ∧
      ∀ v, .position v ∉ rest := by
  have hposition : fix.position =
      some (.ofValue fix.1.toPosition (fix.2 .position)) := if_pos h
  rw [updates_eq, hposition]
  refine ⟨_, rfl, ?_⟩
  intro v hv
  cases hspeed : fix.speed <;> cases hbearing : fix.bearing <;>
    simp [hspeed, hbearing] at hv

section Shown

variable {Q : QtPositioning} (hQ : Q.Documented) (before : List Fix) {fix : Fix}
include hQ

/-- The attributes of all locations. -/
theorem attributes_lastKnown (fixes : List Fix) :
    let info := Q.lastKnown (fixes.flatMap updates)
    Q.attributes info .horizontalAccuracy = last accuracy fixes ∧
      Q.attributes info .verticalAccuracy = none ∧
      Q.attributes info .direction = last bearing fixes ∧
      Q.attributes info .groundSpeed = last speed fixes := by
  intro info
  rw [QtPositioning.attributes_lastKnown hQ]
  refine ⟨?_, ?_, ?_, ?_⟩
  · exact Fields.latest_flatMap (fun fix => fix.filterMap_attributes.1) fixes
  · have hnone : ∀ fix : Fix, fix.updates.filterMap
        (SessionUpdate.attributes · .verticalAccuracy) =
          (none : Option Float).toList :=
      fun fix => fix.filterMap_attributes.2.1
    rw [Fields.latest_flatMap hnone fixes]
    simp
  · exact Fields.latest_flatMap (fun fix => fix.filterMap_attributes.2.2.1) fixes
  · exact Fields.latest_flatMap (fun fix => fix.filterMap_attributes.2.2.2) fixes

theorem coordinate_shown {rest : List SessionUpdate}
    (hrest : ∀ v, .position v ∉ rest) (us : List SessionUpdate) :
    Q.coordinate (Q.lastKnown (us ++
        .position (.ofValue fix.1.toPosition (fix.2 .position)) :: rest)) =
      Q.ofDegrees fix.1.latitude fix.1.longitude
        (if fix.1.flags .altitude then fix.1.altitude else 0) := by
  rw [Q.coordinate_lastKnown_append hQ us _ hrest]
  cases haltitude : fix.1.flags .altitude with
  | true => simp [Update.ofValue, UHardwareGpsLocation.toPosition, haltitude]
  | false => simp [Update.ofValue, UHardwareGpsLocation.toPosition, haltitude]

variable (hlatLong : fix.1.flags .latLong = true)
include hlatLong

/-- The position that a location leads to first has the movements of the
locations before it. -/
theorem shown_first :
    Shown Q fix (before ++ [fix]) before
      (Q.lastKnown (before.flatMap updates ++
        [.position (.ofValue fix.1.toPosition (fix.2 .position))])) := by
  have hposition : fix.position =
      some (.ofValue fix.1.toPosition (fix.2 .position)) := if_pos hlatLong
  have hbefore := attributes_lastKnown hQ before
  simp only [QtPositioning.attributes_lastKnown hQ] at hbefore
  obtain ⟨haccuracy, hvertical, hdirection, hspeed⟩ := hbefore
  have hknown := fix.knownAccuracy_position
  rw [hposition] at hknown
  refine {
    coordinate := coordinate_shown hQ (by simp) _
    horizontalAccuracy := ?_
    verticalAccuracy := ?_
    direction := ?_
    groundSpeed := ?_ } <;>
  rw [QtPositioning.attributes_lastKnown hQ, Fields.latest_concat,
    Fields.write_apply]
  · rw [haccuracy, last_concat, ← hknown]
    rfl
  · rw [hvertical]
    rfl
  · rw [hdirection]
    rfl
  · rw [hspeed]
    rfl

/-- All of a location is shown together at last. -/
theorem shown_last :
    Shown Q fix (before ++ [fix]) (before ++ [fix])
      (Q.lastKnown ((before ++ [fix]).flatMap updates)) := by
  obtain ⟨haccuracy, hvertical, hdirection, hspeed⟩ :=
    attributes_lastKnown hQ (before ++ [fix])
  obtain ⟨rest, hupdates, hrest⟩ := updates_of_latLong hlatLong
  refine ⟨?_, haccuracy, hvertical, hdirection, hspeed⟩
  rw [List.flatMap_append, List.flatMap_singleton, hupdates]
  exact coordinate_shown hQ hrest _

end Shown

end Fix

/-- With one source, the fusion provider passes everything on. -/
theorem FusionProvider.onUpdate_sole {f : FusionProvider} {source : ProviderId}
    (h : ∀ last, f.lastPosition = some last → last.source = source)
    (u : ProviderUpdate) :
    (f.onUpdate NewerOrMoreAccurateUpdateSelector.select source u).2 = [u] ∧
      ∀ last, (f.onUpdate NewerOrMoreAccurateUpdateSelector.select source
        u).1.lastPosition = some last → last.source = source := by
  cases u with
  | heading v => exact ⟨rfl, h⟩
  | velocity v => exact ⟨rfl, h⟩
  | position u =>
      have hremembers : f.onUpdate NewerOrMoreAccurateUpdateSelector.select
          source (.position u) =
            ({ f with lastPosition := some ⟨source, u⟩ }, [.position u]) := by
        show f.onPosition _ source u = _
        unfold onPosition
        cases hlast : f.lastPosition with
        | none => rfl
        | some older =>
            have hselect : NewerOrMoreAccurateUpdateSelector.select older
                ⟨source, u⟩ = .ok ⟨source, u⟩ :=
              if_pos (h older hlast).symm
            simp only [hselect]
      rw [hremembers]
      refine ⟨rfl, ?_⟩
      intro last hsome
      cases hsome
      rfl

namespace UpdatePath

variable {Q : QtPositioning} {session stub : UpdateProperties}

/-- Only the chip has been heard, and its callbacks have returned. -/
structure ChipAlone (gps : ProviderId) (s : UpdatePath Q) : Prop where
  sole : ∀ last, s.fusion.fusion.lastPosition = some last → last.source = gps
  fused : s.fused = s.located.flatMap Fix.updates
  returned : ∀ fix ∈ s.located, fix.1.flags .latLong = true →
    fix.1.NotOutOfRange

theorem ChipAlone.init (gps : ProviderId) (providers : List ProviderId) :
    ChipAlone gps (init providers session stub : UpdatePath Q) where
  sole := by
    intro last hlast
    cases hlast
  fused := rfl
  returned := by
    intro fix hfix
    cases hfix

/-- The chip's updates are fused as they are. -/
theorem foldl_emit_sole {gps : ProviderId} {s : UpdatePath Q}
    (h : ∀ last, s.fusion.fusion.lastPosition = some last → last.source = gps)
    (us : List ProviderUpdate) :
    let t := (us.map (WithSource.mk gps)).foldl emit s
    (∀ last, t.fusion.fusion.lastPosition = some last → last.source = gps) ∧
      t.fused = s.fused ++ us.map SessionUpdate.ofProvider ∧
      t.located = s.located := by
  induction us generalizing s with
  | nil => exact ⟨h, by simp, rfl⟩
  | cons u us ih =>
      obtain ⟨hu, hsole⟩ := FusionProvider.onUpdate_sole h u
      have he := @emits_of_onUpdate Q s ⟨gps, u⟩ u hu
      have hfusion : (s.emit ⟨gps, u⟩).fusion = s.fusion.next ⟨gps, u⟩ := by
        unfold emit assignSession
        simp only [hu, List.foldl_cons, List.foldl_nil]
        split <;> rfl
      have hrest := ih (s := s.emit ⟨gps, u⟩) (by rw [hfusion]; exact hsole)
      obtain ⟨hlast, hfused, hlocated⟩ := hrest
      refine ⟨hlast, ?_, hlocated.trans he.located⟩
      rw [List.map_cons, List.foldl_cons, hfused, he.fused, List.map_cons,
        List.append_assoc]
      rfl

theorem ChipAlone.reported {gps : ProviderId} {s : UpdatePath Q}
    (h : s.ChipAlone gps) {location : UHardwareGpsLocation}
    (hrange : location.flags .latLong = true → location.NotOutOfRange)
    (now : Stream → Int64) :
    ChipAlone gps
      ((location.signals.map fun signal => ⟨gps, signal.update now⟩).foldl emit
        { s with located := s.located ++ [(location, now)] }) := by
  have hall := @foldl_emit_sole Q gps
    { s with located := s.located ++ [(location, now)] } h.sole
    (location.signals.map (LocationSignal.update now))
  rw [List.map_map, List.map_map] at hall
  obtain ⟨hsole, hfused, hlocated⟩ := hall
  have hlocated : _ = s.located ++ [(location, now)] := hlocated
  refine { sole := hsole, fused := ?_, returned := ?_ }
  · refine hfused.trans ?_
    show s.fused ++ Fix.updates (location, now) = List.flatMap Fix.updates _
    rw [h.fused, ← List.flatMap_singleton Fix.updates (location, now),
      ← List.flatMap_append]
    exact congrArg (List.flatMap Fix.updates) hlocated.symm
  · intro fix hfix
    have hmem : fix ∈ s.located ++ [(location, now)] := hlocated ▸ hfix
    rcases List.mem_append.mp hmem with hold | hnew
    · exact h.returned fix hold
    · rw [List.mem_singleton.mp hnew]
      exact hrange

theorem ChipAlone.next {gps : ProviderId} {s : UpdatePath Q}
    (h : s.ChipAlone gps) {e : PathEvent} (he : ∀ w, e ≠ .emitted w) :
    (next gps e s).ChipAlone gps := by
  cases e with
  | emitted w => exact absurd rfl (he w)
  | located location now =>
      unfold UpdatePath.next
      dsimp only
      split
      · rcases location.onLocationUpdate_cases with ⟨hrange, hok⟩ |
          ⟨-, what, herror⟩
        · rw [hok]
          exact h.reported hrange now
        · rw [herror]
          exact ⟨h.sole, h.fused, h.returned⟩
      · exact h
  | called now =>
      unfold UpdatePath.next
      dsimp only
      split
      · exact h
      · split
        · exact ⟨h.sole, h.fused, h.returned⟩
        · unfold assignStub
          split <;> exact ⟨h.sole, h.fused, h.returned⟩
  | app e =>
      cases e <;> exact ⟨h.sole, h.fused, h.returned⟩

theorem chipAlone_run (gps : ProviderId) (providers : List ProviderId)
    {es : List PathEvent} (h : ∀ w, .emitted w ∉ es) :
    ChipAlone gps (run gps providers session stub es : UpdatePath Q) := by
  induction es using List.reverseRecOn with
  | nil => exact .init gps providers
  | append_singleton es e ih =>
      have hes : ∀ w, .emitted w ∉ es :=
        fun w hw => h w (List.mem_append_left _ hw)
      rw [run, Machine.run_concat]
      apply (ih hes).next
      rintro w rfl
      exact h w (List.mem_append_right _ List.mem_cons_self)

/-- The application gets each location of the driver, as long as the chip is the
only source, and no update is equal to the one before it on its stream.  The
position that a location leads to has the place of the location, but the
movements of the locations before it; and the last of the up to three positions
that it leads to shows all of it.  What the location does not have is left from
the locations before it, but its altitude, which becomes 0. -/
theorem app_shows_fix (hQ : Q.Documented) (gps : ProviderId)
    (providers : List ProviderId) {es : List PathEvent}
    (hchip : ∀ w, .emitted w ∉ es) :
    let s : UpdatePath Q := run gps providers session stub es
    s.bus = [] → session.Fresh SessionUpdate.operatorEq s.fused →
      stub.Fresh SessionUpdate.operatorEq s.fused →
        s.app.processed = s.located.flatMap Fix.updates ∧
        ∀ before fix after, s.located = before ++ fix :: after →
          fix.1.flags .latLong = true →
            fix.1.NotOutOfRange ∧ ∃ first last,
              s.app.emitted[(before.flatMap Fix.updates).length]? =
                some first ∧
              s.app.emitted[((before ++ [fix]).flatMap
                Fix.updates).length - 1]? = some last ∧
              Fix.Shown Q fix (before ++ [fix]) before first ∧
              Fix.Shown Q fix (before ++ [fix]) (before ++ [fix]) last := by
  intro s hbus hsession hstub
  have hinv : s.Inv session stub := inv_run gps providers session stub es
  have halone : s.ChipAlone gps := chipAlone_run gps providers hchip
  have hprocessed : s.app.processed = s.located.flatMap Fix.updates :=
    ((hinv.processed_eq_iff hbus).mpr ⟨hsession, hstub⟩).trans halone.fused
  refine ⟨hprocessed, ?_⟩
  intro before fix after hlocated hlatLong
  have hfix : fix ∈ s.located := by
    rw [hlocated]
    exact List.mem_append_right _ List.mem_cons_self
  refine ⟨halone.returned fix hfix hlatLong, ?_⟩
  obtain ⟨rest, hupdates, -⟩ := Fix.updates_of_latLong hlatLong
  have hfirst : s.app.processed = before.flatMap Fix.updates ++
      .position (.ofValue fix.1.toPosition (fix.2 .position)) ::
        (rest ++ after.flatMap Fix.updates) := by
    rw [hprocessed, hlocated, List.flatMap_append, List.flatMap_cons, hupdates]
    rfl
  have hlast : s.app.processed = (before ++ [fix]).flatMap Fix.updates ++
      after.flatMap Fix.updates := by
    rw [hprocessed, hlocated, ← List.flatMap_append, List.append_assoc]
    rfl
  have hne : (before ++ [fix]).flatMap Fix.updates ≠ [] := by
    rw [List.flatMap_append, List.flatMap_singleton, hupdates]
    simp
  exact ⟨_, _, hinv.emitted_eq _ hfirst, hinv.emitted_take hne hlast,
    Fix.shown_first hQ before hlatLong, Fix.shown_last hQ before hlatLong⟩

/-- What the update properties are made with. -/
def madeAt (now : Int64) : UpdateProperties where
  value
    | .position => .position (.ofValue {} now)
    | .heading => .heading (.ofValue default now)
    | .velocity => .velocity (.ofValue default now)
  kind_value k := by cases k <;> rfl

/-- A location with a place and a bearing. -/
def locationBound (bearing : Float32) : UHardwareGpsLocation where
  flags flag := flag = .latLong || flag = .bearing
  latitude := 52
  longitude := 13
  altitude := 0
  speed := 0
  bearing := bearing
  accuracy := 0

/-- The driver reports a bearing of 90° and then one of 180°. -/
def turn : List PathEvent :=
  [.app .startUpdates, .located (locationBound 90) (fun _ => 3),
    .located (locationBound 180) (fun _ => 5), .called 6, .called 7, .called 8,
    .called 9]

/-- The position that the second location leads to first points where the first
location did. -/
theorem app_shows_fix_turned :
    let s : UpdatePath .plain := run 0 [0] (madeAt 1) (madeAt 2) turn
    ∃ first last, s.app.emitted[2]? = some first ∧
      s.app.emitted[3]? = some last ∧
      QtPositioning.plain.attributes first .direction = some 90 ∧
      QtPositioning.plain.attributes last .direction = some 180 := by
  have hchip : ∀ w, .emitted w ∉ turn := by simp [turn]
  have hshows := @app_shows_fix .plain (madeAt 1) (madeAt 2)
    QtPositioning.plain_documented 0 [0] turn hchip (by decide +kernel)
    (by decide +kernel) (by decide +kernel)
  have hlocated : ∃ a b, (run 0 [0] (madeAt 1) (madeAt 2) turn :
      UpdatePath .plain).located = [a, b] :=
    List.length_eq_two.mp (by decide +kernel)
  have hlatLong : ∀ fix ∈ (run 0 [0] (madeAt 1) (madeAt 2) turn :
      UpdatePath .plain).located, fix.1.flags .latLong = true := by
    decide +kernel
  have hlengths : (run 0 [0] (madeAt 1) (madeAt 2) turn :
      UpdatePath .plain).located.map (fun fix => (Fix.updates fix).length) =
        [2, 2] := by
    decide +kernel
  have hbearings : (run 0 [0] (madeAt 1) (madeAt 2) turn :
      UpdatePath .plain).located.map Fix.bearing = [some 90, some 180] := by
    decide +kernel
  generalize (run 0 [0] (madeAt 1) (madeAt 2) turn : UpdatePath .plain) = s
    at hshows hlocated hlatLong hlengths hbearings ⊢
  obtain ⟨a, b, hab⟩ := hlocated
  rw [hab] at hlatLong hlengths hbearings
  simp only [List.map_cons, List.map_nil, List.cons.injEq, and_true]
    at hlengths hbearings
  obtain ⟨-, first, last, hfirst, hlast, hbefore, hall⟩ :=
    hshows.2 [a] b [] hab (hlatLong b (by simp))
  refine ⟨first, last, ?_, ?_, ?_, ?_⟩
  · simpa [hlengths] using hfirst
  · simpa [hlengths] using hlast
  · simpa [Fix.last, hbearings] using hbefore.direction
  · simpa [Fix.last, hbearings] using hall.direction

end UpdatePath

end LocationService
