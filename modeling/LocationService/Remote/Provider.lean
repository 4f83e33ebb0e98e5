import LocationService.Codec.RoundTrip
import LocationService.Library.Machine

/-!
# Remote providers

`remote::Provider::Skeleton` publishes the updates of a provider as D-Bus
signals, and `remote::Provider::Stub` stands for that provider in another
process.  A received signal is posted as a task, and the task emits the update.

The signals carry values alone.  The stub makes a new update of each, with the
time at which the task runs, and there is no signal for space vehicles.
`Forwards` says which steps nevertheless keep the sequence of updates the same.
-/

namespace LocationService.Remote

open Library Library.Wire

/-! ## Skeleton, bus and stub -/

/-- An update that a provider emits, by the signal of `Provider::Updates` that
it is emitted on. -/
inductive ProviderUpdate where
  | position (update : Update Position)
  | heading (update : Update Heading)
  | velocity (update : Update Velocity)
  | svs (update : Update SpaceVehicleSet)

/-- The kinds of updates. -/
inductive Kind where
  | position
  | heading
  | velocity
  | svs
  deriving DecidableEq

/-- The signals of `remote::Interface`, with the content of their message. -/
inductive Signal where
  | positionChanged (content : List Item)
  | headingChanged (content : List Item)
  | velocityChanged (content : List Item)

/-- What a task of the stub captures of a signal. -/
inductive Argument where
  | position (arg : Position)
  | heading (arg : Heading)
  | velocity (arg : Velocity)

namespace ProviderUpdate

def kind : ProviderUpdate → Kind
  | .position _ => .position
  | .heading _ => .heading
  | .velocity _ => .velocity
  | .svs _ => .svs

def timestamp : ProviderUpdate → Int64
  | .position update => update.when
  | .heading update => update.when
  | .velocity update => update.when
  | .svs update => update.when

/-- The value of an update for which there is a signal. -/
def argument : ProviderUpdate → Option Argument
  | .position update => some (.position update.value)
  | .heading update => some (.heading update.value)
  | .velocity update => some (.velocity update.value)
  | .svs _ => none

end ProviderUpdate

/-- The handlers that `Skeleton::Private` connects to the implementation. -/
def Skeleton.onUpdate : ProviderUpdate → Option Signal
  | .position update => some (.positionChanged (encoded update.value))
  | .heading update => some (.headingChanged (encoded update.value))
  | .velocity update => some (.velocityChanged (encoded update.value))
  | .svs _ => none

/-- The handlers of `Stub::setup_event_connections`, up to the task that they
post; `none` if the message cannot be decoded. -/
def Stub.onSignal : Signal → Option Argument
  | .positionChanged content =>
      ((decodeArgument ({} : Position)).run content).map fun (arg, _) =>
        .position arg
  | .headingChanged content =>
      ((decodeArgument (default : Heading)).run content).map fun (arg, _) =>
        .heading arg
  | .velocityChanged content =>
      ((decodeArgument (default : Velocity)).run content).map fun (arg, _) =>
        .velocity arg

/-- The posted task: the argument becomes an update and is emitted. -/
def Stub.emit (now : Int64) : Argument → ProviderUpdate
  | .position arg => .position (Update.ofValue arg now)
  | .heading arg => .heading (Update.ofValue arg now)
  | .velocity arg => .velocity (Update.ofValue arg now)

/-- Both ends of a remote provider.  `emitted` and `reemitted` are what the
implementation and the stub have emitted, and `underway` lists the updates that
are on the bus or in a task. -/
structure RemoteProvider where
  bus : List Signal := []
  tasks : List Argument := []
  emitted : List ProviderUpdate := []
  reemitted : List ProviderUpdate := []
  underway : List ProviderUpdate := []

/-- The implementation emits an update, the bus delivers the next signal, or the
next task runs at a reading of the clock. -/
inductive RemoteEvent where
  | emit (update : ProviderUpdate)
  | deliver
  | runTask (now : Int64)

namespace RemoteProvider

def emit (update : ProviderUpdate) (s : RemoteProvider) : RemoteProvider :=
  match Skeleton.onUpdate update with
  | none => { s with emitted := s.emitted ++ [update] }
  | some signal =>
      { s with
        emitted := s.emitted ++ [update]
        bus := s.bus ++ [signal]
        underway := s.underway ++ [update] }

def deliver (s : RemoteProvider) : RemoteProvider :=
  match s.bus with
  | [] => s
  | signal :: bus =>
      { s with bus := bus, tasks := s.tasks ++ (Stub.onSignal signal).toList }

def runTask (now : Int64) (s : RemoteProvider) : RemoteProvider :=
  match s.tasks with
  | [] => s
  | arg :: tasks =>
      { s with
        tasks := tasks
        reemitted := s.reemitted ++ [Stub.emit now arg]
        underway := s.underway.tail }

def next : RemoteEvent → RemoteProvider → RemoteProvider
  | .emit update, s => s.emit update
  | .deliver, s => s.deliver
  | .runTask now, s => s.runTask now

/-- The updates of a kind. -/
def ofKind (kind : Kind) (updates : List ProviderUpdate) :
    List ProviderUpdate :=
  updates.filter fun update => update.kind = kind

/-- The stub has emitted, of each kind, what the implementation has, except for
what is underway. -/
def Transparent (s : RemoteProvider) : Prop :=
  ∀ kind, ofKind kind s.emitted =
    ofKind kind s.reemitted ++ ofKind kind s.underway

/-- No space vehicles are emitted, and a task runs at the very time its update
was made. -/
def Forwards (e : RemoteEvent) (s : RemoteProvider) : Prop :=
  match e with
  | .emit update => update.kind ≠ .svs
  | .deliver => True
  | .runTask now =>
      s.tasks ≠ [] → ∀ update ∈ s.underway.head?, update.timestamp = now

instance (s : RemoteProvider) : ∀ e, Decidable (Forwards e s)
  | .emit _ => inferInstanceAs (Decidable (_ ≠ _))
  | .deliver => .isTrue trivial
  | .runTask _ => inferInstanceAs (Decidable (¬ _ → _))

/-! ## What is underway -/

/-- Everything underway is a signal on the bus or an argument of a task, in
order, and has a value to forward. -/
structure Inv (s : RemoteProvider) : Prop where
  arguments : s.underway.filterMap ProviderUpdate.argument =
    s.tasks ++ s.bus.filterMap Stub.onSignal
  forwarded : ∀ update ∈ s.underway, update.kind ≠ .svs

/-- What is published of an update is received again, by the round trip of the
codecs. -/
theorem onSignal_of_onUpdate {update : ProviderUpdate} {signal : Signal}
    (h : Skeleton.onUpdate update = some signal) :
    Stub.onSignal signal = update.argument := by
  cases update with
  | position update =>
      have hdecode := LawfulCodec.decode update.value {} []
      rw [List.append_nil] at hdecode
      rw [← Option.some.inj h]
      simp [Stub.onSignal, ProviderUpdate.argument, hdecode]
  | heading update =>
      have hdecode := LawfulCodec.decode update.value default []
      rw [List.append_nil] at hdecode
      rw [← Option.some.inj h]
      simp [Stub.onSignal, ProviderUpdate.argument, hdecode]
  | velocity update =>
      have hdecode := LawfulCodec.decode update.value default []
      rw [List.append_nil] at hdecode
      rw [← Option.some.inj h]
      simp [Stub.onSignal, ProviderUpdate.argument, hdecode]
  | svs update => cases h

theorem onUpdate_eq_none_iff {update : ProviderUpdate} :
    Skeleton.onUpdate update = none ↔ update.kind = .svs := by
  cases update with
  | position update => simp [Skeleton.onUpdate, ProviderUpdate.kind]
  | heading update => simp [Skeleton.onUpdate, ProviderUpdate.kind]
  | velocity update => simp [Skeleton.onUpdate, ProviderUpdate.kind]
  | svs update => simp [Skeleton.onUpdate, ProviderUpdate.kind]

theorem argument_eq_none_iff {update : ProviderUpdate} :
    update.argument = none ↔ update.kind = .svs := by
  cases update with
  | position update => simp [ProviderUpdate.argument, ProviderUpdate.kind]
  | heading update => simp [ProviderUpdate.argument, ProviderUpdate.kind]
  | velocity update => simp [ProviderUpdate.argument, ProviderUpdate.kind]
  | svs update => simp [ProviderUpdate.argument, ProviderUpdate.kind]

/-- A task emits an update of the same kind, and the same update exactly if it
runs at the time of that. -/
theorem stub_emit {update : ProviderUpdate} {arg : Argument}
    (h : update.argument = some arg) (now : Int64) :
    (Stub.emit now arg).kind = update.kind ∧
      (Stub.emit now arg = update ↔ update.timestamp = now) := by
  cases update with
  | position update =>
      rcases update with ⟨value, when⟩
      rw [← Option.some.inj h]
      simp [Stub.emit, Update.ofValue, ProviderUpdate.kind,
        ProviderUpdate.timestamp, eq_comm]
  | heading update =>
      rcases update with ⟨value, when⟩
      rw [← Option.some.inj h]
      simp [Stub.emit, Update.ofValue, ProviderUpdate.kind,
        ProviderUpdate.timestamp, eq_comm]
  | velocity update =>
      rcases update with ⟨value, when⟩
      rw [← Option.some.inj h]
      simp [Stub.emit, Update.ofValue, ProviderUpdate.kind,
        ProviderUpdate.timestamp, eq_comm]
  | svs update => cases h

/-- The next task belongs to the oldest update underway. -/
theorem Inv.head {s : RemoteProvider} (h : s.Inv) {arg : Argument}
    {tasks : List Argument} (htasks : s.tasks = arg :: tasks) :
    ∃ update rest, s.underway = update :: rest ∧
      update.argument = some arg := by
  have harguments := h.arguments
  have hforwarded := h.forwarded
  rw [htasks] at harguments
  cases hunderway : s.underway with
  | nil =>
      rw [hunderway] at harguments
      cases harguments
  | cons update rest =>
      rw [hunderway] at harguments hforwarded
      cases harg : update.argument with
      | none =>
          have hsvs := argument_eq_none_iff.mp harg
          exact absurd hsvs (hforwarded update (List.mem_cons_self ..))
      | some arg' =>
          rw [List.filterMap_cons_some harg, List.cons_append,
            List.cons.injEq] at harguments
          rw [harguments.1] at harg
          exact ⟨update, rest, rfl, harg⟩

/-- Nothing is underway when the bus and the tasks are empty. -/
theorem Inv.underway_eq_nil {s : RemoteProvider} (h : s.Inv)
    (hbus : s.bus = []) (htasks : s.tasks = []) : s.underway = [] := by
  have harguments := h.arguments
  rw [hbus, htasks, List.filterMap_nil, List.append_nil,
    List.filterMap_eq_nil_iff] at harguments
  rw [List.eq_nil_iff_forall_not_mem]
  intro update hmem
  have hsvs := argument_eq_none_iff.mp (harguments update hmem)
  exact h.forwarded update hmem hsvs

theorem Inv.next {s : RemoteProvider} (h : s.Inv) (e : RemoteEvent) :
    (next e s).Inv := by
  cases e with
  | emit update =>
      show (s.emit update).Inv
      unfold RemoteProvider.emit
      cases hsignal : Skeleton.onUpdate update with
      | none => exact ⟨h.arguments, h.forwarded⟩
      | some signal =>
          have hargument := onSignal_of_onUpdate hsignal
          have hkind : update.kind ≠ .svs := by
            intro hsvs
            rw [onUpdate_eq_none_iff.mpr hsvs] at hsignal
            cases hsignal
          constructor
          · simp only [List.filterMap_append, h.arguments, List.append_assoc]
            rw [List.filterMap_cons, List.filterMap_cons, hargument]
            rfl
          · simpa [or_imp, forall_and] using ⟨h.forwarded, hkind⟩
  | deliver =>
      show s.deliver.Inv
      have harguments := h.arguments
      unfold RemoteProvider.deliver
      cases hbus : s.bus with
      | nil => exact h
      | cons signal bus =>
          rw [hbus] at harguments
          refine ⟨?_, h.forwarded⟩
          cases harg : Stub.onSignal signal with
          | none => simp [harguments, harg]
          | some arg => simp [harguments, harg]
  | runTask now =>
      show (s.runTask now).Inv
      unfold RemoteProvider.runTask
      cases htasks : s.tasks with
      | nil => exact h
      | cons arg tasks =>
          obtain ⟨update, rest, hunderway, harg⟩ := h.head htasks
          have harguments := h.arguments
          have hforwarded := h.forwarded
          rw [htasks, hunderway, List.filterMap_cons_some harg,
            List.cons_append, List.cons.injEq] at harguments
          rw [hunderway] at hforwarded
          refine ⟨?_, ?_⟩
          · simpa [hunderway] using harguments.2
          · intro u hu
            simp only [hunderway, List.tail_cons] at hu
            exact hforwarded u (List.mem_cons_of_mem _ hu)

/-! ## One step -/

theorem ofKind_append (kind : Kind) (updates updates' : List ProviderUpdate) :
    ofKind kind (updates ++ updates') =
      ofKind kind updates ++ ofKind kind updates' :=
  List.filter_append ..

theorem ofKind_self (update : ProviderUpdate) (rest : List ProviderUpdate) :
    ofKind update.kind (update :: rest) =
      update :: ofKind update.kind rest := by
  simp [ofKind]

theorem Transparent.emit_iff {s : RemoteProvider} (h : s.Transparent)
    (update : ProviderUpdate) :
    (s.emit update).Transparent ↔ update.kind ≠ .svs := by
  unfold emit
  cases hsignal : Skeleton.onUpdate update with
  | none =>
      have hsvs := onUpdate_eq_none_iff.mp hsignal
      constructor
      · intro hafter
        have hkind := hafter update.kind
        rw [ofKind_append, ofKind_self] at hkind
        have hbefore := h update.kind
        simp [← hbefore] at hkind
      · intro hne
        exact absurd hsvs hne
  | some signal =>
      have hkind : update.kind ≠ .svs := by
        intro hsvs
        rw [onUpdate_eq_none_iff.mpr hsvs] at hsignal
        cases hsignal
      constructor
      · intro _
        exact hkind
      · intro _ kind
        simp only [ofKind_append, h kind, List.append_assoc]

/-- A task keeps the sequences the same exactly if it emits the very update it
belongs to. -/
theorem Transparent.runTask_iff {s : RemoteProvider} (h : s.Transparent)
    (hinv : s.Inv) (now : Int64) :
    (s.runTask now).Transparent ↔ Forwards (.runTask now) s := by
  unfold RemoteProvider.runTask
  cases htasks : s.tasks with
  | nil => simp [h, Forwards, htasks]
  | cons arg tasks =>
      obtain ⟨update, rest, hunderway, harg⟩ := hinv.head htasks
      obtain ⟨hkind, hsame⟩ := stub_emit harg now
      have hforwards : Forwards (.runTask now) s ↔
          Stub.emit now arg = update := by
        simp [Forwards, htasks, hunderway, hsame]
      rw [hforwards]
      constructor
      · intro hafter
        have hbefore := h update.kind
        have hstep := hafter update.kind
        simp only [hunderway, List.tail_cons, ofKind_append,
          List.append_assoc] at hbefore hstep
        rw [hbefore, ofKind_self, ← hkind, ofKind_self] at hstep
        have hcons := List.append_cancel_left hstep
        exact (List.cons.inj hcons).1.symm
      · intro heq kind
        have hcons : ofKind kind [update] ++ ofKind kind rest =
            ofKind kind (update :: rest) := (ofKind_append ..).symm
        simp only [h kind, heq, hunderway, List.tail_cons, ofKind_append,
          List.append_assoc, hcons]

/-- A step keeps the sequences the same exactly if `Forwards` says so. -/
theorem Transparent.next_iff {s : RemoteProvider} (h : s.Transparent)
    (hinv : s.Inv) (e : RemoteEvent) :
    (RemoteProvider.next e s).Transparent ↔ Forwards e s := by
  cases e with
  | emit update => exact h.emit_iff update
  | deliver =>
      have hsame : s.deliver.Transparent := by
        unfold deliver
        split
        · exact h
        · exact h
      exact ⟨fun _ => trivial, fun _ => hsame⟩
  | runTask now => exact h.runTask_iff hinv now

/-! ## Whole runs -/

/-- In every run whose steps forward, the stub emits the updates of the
implementation, with their timestamps: those of each kind that are not underway,
and all of them once the bus and the tasks are empty.  The first other step
changes or loses an update. -/
theorem remote_provider_transparent {s : RemoteProvider}
    (h : (Machine.ofStep {} next).Reach Forwards s) :
    s.Transparent ∧
      (s.bus = [] → s.tasks = [] →
        ∀ kind, ofKind kind s.reemitted = ofKind kind s.emitted) ∧
      ∀ e, (next e s).Transparent ↔ Forwards e s := by
  have hinit : Inv {} ∧ Transparent {} := by
    refine ⟨⟨rfl, ?_⟩, fun _ => rfl⟩
    intro update hmem
    cases hmem
  have hrun := h.ofStep_keeps_exactly Inv Transparent hinit
    (fun e _ hinv => hinv.next e)
    (fun e _ hinv htransparent => htransparent.next_iff hinv e)
  have hdrained : s.bus = [] → s.tasks = [] →
      ∀ kind, ofKind kind s.reemitted = ofKind kind s.emitted := by
    intro hbus htasks kind
    have hkind := hrun.2.1 kind
    rw [hrun.1.underway_eq_nil hbus htasks] at hkind
    simpa [ofKind] using hkind.symm
  exact ⟨hrun.2.1, hdrained, hrun.2.2⟩

/-- A position that the implementation emits at a given time. -/
def positionAt (time : Int64) : ProviderUpdate :=
  .position ⟨{ latitude := ⟨⟨48⟩⟩, longitude := ⟨⟨11⟩⟩ }, time⟩

/-- A position and a heading, whose tasks run without delay. -/
theorem remote_provider_transparent_two_updates :
    ∃ s : RemoteProvider, s.emitted.length = 2 ∧
      ∀ kind, ofKind kind s.reemitted = ofKind kind s.emitted := by
  have hrun : ∃ s : RemoteProvider,
      (Machine.ofStep {} next).Reach Forwards s ∧
        s.bus.length = 0 ∧ s.tasks.length = 0 ∧ s.emitted.length = 2 :=
    Machine.Reach.ofStep_exists_of_replay
      [.emit (positionAt 1000), .emit (.heading ⟨⟨90⟩, 1500⟩), .deliver,
        .runTask 1000, .deliver, .runTask 1500] (by decide)
  obtain ⟨s, hreach, hbus, htasks, hemitted⟩ := hrun
  have htransparent := remote_provider_transparent hreach
  exact ⟨s, hemitted, htransparent.2.1 (List.length_eq_zero_iff.mp hbus)
    (List.length_eq_zero_iff.mp htasks)⟩

/-- A position of time 1000 is emitted again with time 2000, when its task runs,
and space vehicles are not emitted again at all. -/
theorem remote_provider_changes_updates :
    (∃ s : RemoteProvider,
      (Machine.ofStep {} next).Reach (fun _ _ => True) s ∧
        s.bus = [] ∧ s.tasks = [] ∧
          ofKind .position s.reemitted ≠ ofKind .position s.emitted) ∧
      ∃ s : RemoteProvider,
        (Machine.ofStep {} next).Reach (fun _ _ => True) s ∧
          s.bus = [] ∧ s.tasks = [] ∧
            ofKind .svs s.reemitted ≠ ofKind .svs s.emitted := by
  have hposition : ∃ s : RemoteProvider,
      (Machine.ofStep {} next).Reach (fun _ _ => True) s ∧
        s.bus.length = 0 ∧ s.tasks.length = 0 ∧
        (ofKind .position s.reemitted).map ProviderUpdate.timestamp ≠
          (ofKind .position s.emitted).map ProviderUpdate.timestamp :=
    Machine.Reach.ofStep_exists_of_replay
      [.emit (positionAt 1000), .deliver, .runTask 2000] (by decide)
  have hsvs : ∃ s : RemoteProvider,
      (Machine.ofStep {} next).Reach (fun _ _ => True) s ∧
        s.bus.length = 0 ∧ s.tasks.length = 0 ∧
        (ofKind .svs s.reemitted).map ProviderUpdate.timestamp ≠
          (ofKind .svs s.emitted).map ProviderUpdate.timestamp :=
    Machine.Reach.ofStep_exists_of_replay
      [.emit (.svs ⟨⟨[{}], List.pairwise_singleton _ _⟩, 1000⟩)] (by decide)
  obtain ⟨s, hreach, hbus, htasks, hne⟩ := hposition
  obtain ⟨t, htreach, htbus, httasks, htne⟩ := hsvs
  constructor
  · refine ⟨s, hreach, List.length_eq_zero_iff.mp hbus,
      List.length_eq_zero_iff.mp htasks, ?_⟩
    intro heq
    exact hne (congrArg (List.map ProviderUpdate.timestamp) heq)
  · refine ⟨t, htreach, List.length_eq_zero_iff.mp htbus,
      List.length_eq_zero_iff.mp httasks, ?_⟩
    intro heq
    exact htne (congrArg (List.map ProviderUpdate.timestamp) heq)

end RemoteProvider

end LocationService.Remote
