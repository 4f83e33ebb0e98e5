import LocationService.Codec.RoundTrip
import LocationService.Provider.Counted

/-!
# Controlling a remote provider

The hooks of `remote::Provider::Stub` post tasks.  A task sends the request as a
message, and `remote::Provider::Skeleton` hands it to the controller of the
provider that it exports.  So a stream is counted twice: each stub counts the
observers in its process, and the controller behind the skeleton counts the
stubs.  Any number of stubs may refer to one skeleton.

A task whose transaction fails throws.  The worker of `Runtime` catches that and
runs the next task: the request is not repeated.  The tasks refer to their stub
weakly, so that they do nothing once it is gone, and its destructor sends no stop
for the streams it uses.  `remote_after_losses` says what becomes of the remote
provider then.
-/

namespace LocationService.Remote

open Library Library.Wire

/-! ## Requests -/

/-- What `on_reference_*_updated` hands on. -/
inductive Reference where
  | location (update : Update Position)
  | velocity (update : Update Velocity)
  | heading (update : Update Heading)

/-- A task of the stub, by the method that posted it. -/
inductive Task where
  | call (call : Call)
  | reference (reference : Reference)

/-- The methods of `remote::Interface` that tasks call, with the content of
their message. -/
inductive Request where
  | startPositionUpdates
  | stopPositionUpdates
  | startHeadingUpdates
  | stopHeadingUpdates
  | startVelocityUpdates
  | stopVelocityUpdates
  | onReferenceLocationChanged (content : List Item)
  | onReferenceVelocityChanged (content : List Item)
  | onReferenceHeadingChanged (content : List Item)

/-- The message of a task. -/
def Stub.request : Task → Request
  | .call (.start .position) => .startPositionUpdates
  | .call (.stop .position) => .stopPositionUpdates
  | .call (.start .heading) => .startHeadingUpdates
  | .call (.stop .heading) => .stopHeadingUpdates
  | .call (.start .velocity) => .startVelocityUpdates
  | .call (.stop .velocity) => .stopVelocityUpdates
  | .reference (.location update) =>
      .onReferenceLocationChanged (encoded update)
  | .reference (.velocity update) =>
      .onReferenceVelocityChanged (encoded update)
  | .reference (.heading update) =>
      .onReferenceHeadingChanged (encoded update)

/-- The provider behind a skeleton, with the reference values it was told. -/
structure Exported where
  provider : Implementation
  references : List Reference

/-- The object that a handler decodes a reference value into; both of its members
are written over. -/
def fresh {α : Type} (value : α) : Update α := ⟨value, 0⟩

/-- The method handlers of the skeleton; `none` if the message cannot be
decoded. -/
def Skeleton.handle (p : Exported) : Request → Option Exported
  | .startPositionUpdates =>
      some { p with provider := p.provider.startUpdates .position }
  | .stopPositionUpdates =>
      some { p with provider := p.provider.stopUpdates .position }
  | .startHeadingUpdates =>
      some { p with provider := p.provider.startUpdates .heading }
  | .stopHeadingUpdates =>
      some { p with provider := p.provider.stopUpdates .heading }
  | .startVelocityUpdates =>
      some { p with provider := p.provider.startUpdates .velocity }
  | .stopVelocityUpdates =>
      some { p with provider := p.provider.stopUpdates .velocity }
  | .onReferenceLocationChanged content =>
      ((decodeArgument (fresh ({} : Position))).run content).map
        fun (update, _) =>
          { p with references := p.references ++ [.location update] }
  | .onReferenceVelocityChanged content =>
      ((decodeArgument (fresh (default : Velocity))).run content).map
        fun (update, _) =>
          { p with references := p.references ++ [.velocity update] }
  | .onReferenceHeadingChanged content =>
      ((decodeArgument (fresh (default : Heading))).run content).map
        fun (update, _) =>
          { p with references := p.references ++ [.heading update] }

/-- What a task asks of the provider, without a bus in between. -/
def Exported.perform (p : Exported) : Task → Exported
  | .call (.start x) => { p with provider := p.provider.startUpdates x }
  | .call (.stop x) => { p with provider := p.provider.stopUpdates x }
  | .reference reference =>
      { p with references := p.references ++ [reference] }

/-- The skeleton does what the task asks for. -/
theorem handle_request (p : Exported) (task : Task) :
    Skeleton.handle p (Stub.request task) = some (p.perform task) := by
  cases task with
  | call call =>
      cases call with
      | start x => cases x <;> rfl
      | stop x => cases x <;> rfl
  | reference reference =>
      cases reference with
      | location update =>
          have hdecode := LawfulCodec.decode update (fresh {}) []
          rw [List.append_nil] at hdecode
          simp [Stub.request, Skeleton.handle, Exported.perform, hdecode]
      | velocity update =>
          have hdecode := LawfulCodec.decode update (fresh default) []
          rw [List.append_nil] at hdecode
          simp [Stub.request, Skeleton.handle, Exported.perform, hdecode]
      | heading update =>
          have hdecode := LawfulCodec.decode update (fresh default) []
          rw [List.append_nil] at hdecode
          simp [Stub.request, Skeleton.handle, Exported.perform, hdecode]

theorem streamsCounted_perform {p : Exported}
    (h : p.provider.StreamsCounted) (task : Task) :
    (p.perform task).provider.StreamsCounted := by
  cases task with
  | call call =>
      cases call with
      | start x => exact h.startUpdates x
      | stop x => exact h.stopUpdates x
  | reference _ => exact h

/-! ## Stubs and their tasks -/

/-- A stub: the controller that its process uses, and the tasks that wait on the
task service of its process. -/
structure ControllingStub where
  controller : Controller
  tasks : List Task
  /-- The tasks refer to the stub weakly, and it may be gone. -/
  alive : Bool

namespace ControllingStub

def init : ControllingStub := ⟨.init, [], true⟩

def post (task : Task) (c : ControllingStub) : ControllingStub :=
  { c with tasks := c.tasks ++ [task] }

/-- The next task is taken from the service. -/
def take (c : ControllingStub) : ControllingStub :=
  { c with tasks := c.tasks.tail }

/-- `state_controller()->start_*_updates()`, with the hook of the stub. -/
def startUpdates (x : Stream) (c : ControllingStub) : ControllingStub :=
  let (controller, hook) := c.controller.startUpdates x
  let c := { c with controller := controller }
  if hook then c.post (.call (.start x)) else c

/-- `state_controller()->stop_*_updates()`, with the hook of the stub. -/
def stopUpdates (x : Stream) (c : ControllingStub) : ControllingStub :=
  let (controller, hook) := c.controller.stopUpdates x
  let c := { c with controller := controller }
  if hook then c.post (.call (.stop x)) else c

/-- What the remote side does not hear of when the stub goes: the tasks that wait
and the stops of the streams in use. -/
def abandoned (c : ControllingStub) : List Task :=
  (Stream.all.filter c.controller.inUse).map (fun x => .call (.stop x)) ++
    c.tasks

end ControllingStub

/-- How a transaction ends.  Unless there is a reply the task throws; without an
answer the handler has run nevertheless. -/
inductive Transaction where
  | replied
  | unanswered
  | unreachable
  deriving DecidableEq

/-- Some stubs and the provider they control. -/
structure RemoteControl (ι : Type) where
  stub : ι → ControllingStub
  remote : Exported
  /-- The tasks that the remote side never heard of, with the stops that stubs
  left out when they went. -/
  lost : List Task

/-- What happens to a stub, or the next task of its process with the outcome of
its transaction. -/
inductive ControlEvent (ι : Type) where
  | start (i : ι) (x : Stream)
  | stop (i : ι) (x : Stream)
  | reference (i : ι) (reference : Reference)
  | destroy (i : ι)
  | runTask (i : ι) (transaction : Transaction)

namespace RemoteControl

variable {ι : Type}

def init : RemoteControl ι := ⟨fun _ => .init, ⟨.init, []⟩, []⟩

/-- Executes a task: nothing happens without the stub, and otherwise the request
is sent. -/
def execute (task : Task) (alive : Bool) (transaction : Transaction)
    (s : RemoteControl ι) : RemoteControl ι :=
  if alive then
    match transaction with
    | .replied | .unanswered =>
        match Skeleton.handle s.remote (Stub.request task) with
        | none => { s with lost := task :: s.lost }
        | some remote => { s with remote := remote }
    | .unreachable => { s with lost := task :: s.lost }
  else s

variable [DecidableEq ι]

/-- Replaces a stub. -/
def setStub (i : ι) (c : ControllingStub) (s : RemoteControl ι) :
    RemoteControl ι :=
  { s with stub := Function.update s.stub i c }

/-- A call on a stub that still exists. -/
def onStub (i : ι) (f : ControllingStub → ControllingStub)
    (s : RemoteControl ι) : RemoteControl ι :=
  if (s.stub i).alive then s.setStub i (f (s.stub i)) else s

/-- The worker takes the next task.  Should it throw, `Runtime::run` goes on
with the task after it. -/
def runTask (i : ι) (transaction : Transaction) (s : RemoteControl ι) :
    RemoteControl ι :=
  match (s.stub i).tasks with
  | [] => s
  | task :: _ =>
      (s.setStub i (s.stub i).take).execute task (s.stub i).alive transaction

/-- `~Stub`: no stop is sent, and the tasks that wait find the stub gone. -/
def destroy (i : ι) (s : RemoteControl ι) : RemoteControl ι :=
  let c := s.stub i
  if c.alive then
    { s.setStub i { c with alive := false } with
      lost := c.abandoned ++ s.lost }
  else s

def next : ControlEvent ι → RemoteControl ι → RemoteControl ι
  | .start i x, s => s.onStub i (.startUpdates x)
  | .stop i x, s => s.onStub i (.stopUpdates x)
  | .reference i reference, s => s.onStub i (.post (.reference reference))
  | .destroy i, s => s.destroy i
  | .runTask i transaction, s => s.runTask i transaction

/-- The state after some events, the oldest first. -/
abbrev run (es : List (ControlEvent ι)) : RemoteControl ι :=
  Machine.run init next es

/-- Nothing waits to be sent. -/
def Idle (s : RemoteControl ι) : Prop :=
  ∀ i, (s.stub i).alive = true → (s.stub i).tasks = []

/-- The controller behind the skeleton refuses a stream. -/
def Refuses (s : RemoteControl ι) (x : Stream) : Prop :=
  s.remote.provider.controller.counter x < 0

end RemoteControl

/-! ## Each stream is a use count -/

/-- The command of a task for a stream; `true` for a start. -/
def Task.command (x : Stream) : Task → Option Bool
  | .call (.start y) => if y = x then some true else none
  | .call (.stop y) => if y = x then some false else none
  | .reference _ => none

namespace ControllingStub

/-- The stub exists and uses a stream of the remote provider. -/
def uses (x : Stream) (c : ControllingStub) : Bool :=
  c.alive && c.controller.inUse x

/-- What the stub has yet to tell the remote provider about a stream. -/
def commands (x : Stream) (c : ControllingStub) : List Bool :=
  if c.alive then c.tasks.filterMap (Task.command x) else []

/-- A stub either goes on as before with a stream, or switches it and posts the
command. -/
def Follows (x : Stream) (c c' : ControllingStub) : Prop :=
  (c'.uses x = c.uses x ∧ c'.commands x = c.commands x) ∨
    (c'.uses x = (!c.uses x) ∧ c'.commands x = c.commands x ++ [!c.uses x])

/-- A stub that counts, and posts the command of the hook if there is one. -/
private theorem follows_of_hook {c : ControllingStub} (halive : c.alive = true)
    {p : Controller} {y : Stream} {hook b : Bool} {call : Call}
    (hcommand : ∀ x, call.command x = if y = x then some b else none)
    (hself : p.inUse y = if hook then b else c.controller.inUse y)
    (hswitch : hook = true → c.controller.inUse y = !b)
    (hne : ∀ x, x ≠ y → p.inUse x = c.controller.inUse x) (x : Stream) :
    c.Follows x
      (if hook then post (.call call) { c with controller := p }
        else { c with controller := p }) := by
  have htask : Task.command x (.call call) = call.command x := by
    cases call <;> rfl
  cases hook with
  | true =>
      have hbefore := hswitch rfl
      by_cases hxy : x = y
      · subst hxy
        right
        simp_all [uses, commands, post]
      · left
        simp_all [uses, commands, post, Ne.symm hxy]
  | false =>
      left
      by_cases hxy : x = y
      · subst hxy
        simp_all [uses, commands]
      · simp_all [uses, commands]

theorem follows_startUpdates {c : ControllingStub} (halive : c.alive = true)
    (x y : Stream) : c.Follows x (c.startUpdates y) :=
  follows_of_hook halive (fun _ => rfl) (c.controller.inUse_startUpdates y)
    Controller.inUse_of_startUpdates_hook
    (fun _ hne => Controller.inUse_congr
      (c.controller.startUpdates_counter_ne hne)) x

theorem follows_stopUpdates {c : ControllingStub} (halive : c.alive = true)
    (x y : Stream) : c.Follows x (c.stopUpdates y) :=
  follows_of_hook halive (fun _ => rfl) (c.controller.inUse_stopUpdates y)
    Controller.inUse_of_stopUpdates_hook
    (fun _ hne => Controller.inUse_congr
      (c.controller.stopUpdates_counter_ne hne)) x

/-- A task that says nothing about a stream is posted. -/
theorem follows_post (c : ControllingStub) (x : Stream)
    (reference : Reference) : c.Follows x (c.post (.reference reference)) := by
  left
  simp [post, uses, commands, List.filterMap_append, List.filterMap_cons,
    Task.command]

/-- What a stub that goes owes a stream: the commands that wait, and a stop if it
uses the stream. -/
theorem abandoned_commands {c : ControllingStub} (halive : c.alive = true)
    (x : Stream) :
    c.abandoned.filterMap (Task.command x) =
      (if c.uses x then [false] else []) ++ c.commands x := by
  have hstops : ((Stream.all.filter c.controller.inUse).map
      fun y => Task.call (.stop y)).filterMap (Task.command x) =
        if c.controller.inUse x then [false] else [] := by
    cases hp : c.controller.inUse .position <;>
      cases hh : c.controller.inUse .heading <;>
      cases hv : c.controller.inUse .velocity <;>
      cases x <;> simp [Stream.all, Task.command, hp, hh, hv]
  unfold abandoned uses commands
  rw [List.filterMap_append, hstops, halive]
  rfl

end ControllingStub

namespace RemoteControl

variable {ι : Type}

/-- What the state says about the use of a stream: the users are the stubs. -/
def view (x : Stream) (s : RemoteControl ι) : UseCount ι where
  wanted i := (s.stub i).uses x
  queue i := (s.stub i).commands x
  count := s.remote.provider.controller.counter x
  lost := s.lost.filterMap (Task.command x)

/-- What a task does to the counter of a stream. -/
theorem counter_perform (p : Exported) (task : Task) (x : Stream) :
    (p.perform task).provider.controller.counter x =
      match task.command x with
      | some command =>
          UseCount.operate maxCounter command (p.provider.controller.counter x)
      | none => p.provider.controller.counter x := by
  cases task with
  | call call =>
      have hcall := p.provider.counter_perform call x
      cases call with
      | start y => exact hcall
      | stop y => exact hcall
  | reference reference => rfl

/-- The task of a stub that exists is performed or lost. -/
theorem execute_cases (task : Task) (transaction : Transaction)
    (s : RemoteControl ι) :
    s.execute task true transaction =
        { s with remote := s.remote.perform task } ∨
      s.execute task true transaction = { s with lost := task :: s.lost } := by
  unfold execute
  rw [handle_request]
  cases transaction <;> simp

/-- A performed task operates the counter of its stream, and a lost one is
remembered. -/
theorem view_execute (x : Stream) (task : Task) (transaction : Transaction)
    (s : RemoteControl ι) :
    (view x (s.execute task true transaction) =
        { view x s with
          count := match task.command x with
            | some command =>
                UseCount.operate maxCounter command (view x s).count
            | none => (view x s).count }) ∨
      view x (s.execute task true transaction) =
        { view x s with
          lost := (task.command x).toList ++ (view x s).lost } := by
  rcases execute_cases task transaction s with hexecute | hexecute
  · left
    rw [hexecute]
    simp only [view, counter_perform]
  · right
    rw [hexecute]
    simp only [view]
    cases hcommand : task.command x with
    | none => simp [hcommand]
    | some command => simp [hcommand]

variable [DecidableEq ι]

theorem view_setStub (x : Stream) (i : ι) (c : ControllingStub)
    (s : RemoteControl ι) :
    view x (s.setStub i c) =
      { view x s with
        wanted := Function.update (view x s).wanted i (c.uses x)
        queue := Function.update (view x s).queue i (c.commands x) } := by
  unfold view setStub
  congr 1
  · funext j
    by_cases hj : j = i
    · subst hj
      simp
    · simp [hj]
  · funext j
    by_cases hj : j = i
    · subst hj
      simp
    · simp [hj]

/-- A call on a stub is a switch of the stream or concerns something else. -/
theorem view_onStub (x : Stream) (i : ι)
    {f : ControllingStub → ControllingStub} (s : RemoteControl ι)
    (hf : (s.stub i).alive = true →
      (s.stub i).Follows x (f (s.stub i))) :
    ∃ step, view x (s.onStub i f) =
      UseCount.next maxCounter step (view x s) := by
  unfold onStub
  split
  · rename_i halive
    rw [view_setStub]
    rcases hf halive with ⟨huses, hcommands⟩ | ⟨huses, hcommands⟩
    · refine ⟨.idle, ?_⟩
      rw [huses, hcommands]
      simp [UseCount.next, view]
    · refine ⟨.switch i, ?_⟩
      rw [huses, hcommands]
      rfl
  · exact ⟨.idle, rfl⟩

/-- A stub that goes leaves without a stop. -/
theorem view_destroy (x : Stream) (i : ι) (s : RemoteControl ι) :
    ∃ step, view x (s.destroy i) =
      UseCount.next maxCounter step (view x s) := by
  unfold destroy
  dsimp only
  split
  · rename_i halive
    refine ⟨.leave i, ?_⟩
    have hset := view_setStub x i { s.stub i with alive := false } s
    have hlost := ControllingStub.abandoned_commands halive x
    unfold view at hset ⊢
    simp only [UseCount.mk.injEq] at hset
    obtain ⟨hwanted, hqueue, hcount, -⟩ := hset
    simp only [UseCount.next, UseCount.leave, UseCount.mk.injEq]
    refine ⟨hwanted, hqueue, hcount, ?_⟩
    rw [List.filterMap_append, hlost]
  · exact ⟨.idle, rfl⟩

/-- Taking a task from the service takes its command from the queue. -/
theorem view_take (x : Stream) (i : ι) (s : RemoteControl ι) :
    view x (s.setStub i (s.stub i).take) =
      { view x s with
        queue := Function.update (view x s).queue i
          ((s.stub i).take.commands x) } := by
  have hwanted : Function.update (view x s).wanted i
      ((s.stub i).take.uses x) = (view x s).wanted :=
    Function.update_eq_self i _
  rw [view_setStub, hwanted]

/-- A task executes the command of its stream or loses it. -/
theorem view_runTask (x : Stream) (i : ι) (transaction : Transaction)
    (s : RemoteControl ι) :
    ∃ step, view x (s.runTask i transaction) =
      UseCount.next maxCounter step (view x s) := by
  unfold runTask
  split
  · exact ⟨.idle, rfl⟩
  · rename_i task tasks htasks
    have htake := view_take x i s
    cases halive : (s.stub i).alive with
    | false =>
        -- the stub is gone, and with it what it had to tell
        have hqueue : (s.stub i).take.commands x = (view x s).queue i := by
          simp [view, ControllingStub.commands, ControllingStub.take, halive]
        rw [hqueue, Function.update_eq_self] at htake
        exact ⟨.idle, htake⟩
    | true =>
        have hqueue : (view x s).queue i =
            (task :: tasks).filterMap (Task.command x) := by
          simp [view, ControllingStub.commands, halive, htasks]
        have htail : (s.stub i).take.commands x =
            tasks.filterMap (Task.command x) := by
          simp [ControllingStub.commands, ControllingStub.take, halive, htasks]
        rw [htail] at htake
        have hexecute := view_execute x task transaction
          (s.setStub i (s.stub i).take)
        rw [htake] at hexecute
        cases hcommand : task.command x with
        | none =>
            -- the task is about something else
            rw [List.filterMap_cons_none hcommand] at hqueue
            rw [← hqueue, Function.update_eq_self] at hexecute
            rw [hcommand] at hexecute
            exact ⟨.idle, hexecute.elim id id⟩
        | some command =>
            rw [List.filterMap_cons_some hcommand] at hqueue
            rw [hcommand] at hexecute
            rcases hexecute with hexecute | hexecute
            · refine ⟨.execute i, hexecute.trans ?_⟩
              simp only [UseCount.next, UseCount.execute, hqueue]
            · refine ⟨.lose i, hexecute.trans ?_⟩
              simp only [UseCount.next, UseCount.lose, hqueue]
              rfl

/-- Every event is a step of the use count of each stream. -/
theorem shows_view (x : Stream) :
    UseCount.Shows maxCounter (view x) (init : RemoteControl ι) next where
  start := rfl
  step e s := by
    cases e with
    | start i y =>
        exact view_onStub x i s fun halive =>
          ControllingStub.follows_startUpdates halive x y
    | stop i y =>
        exact view_onStub x i s fun halive =>
          ControllingStub.follows_stopUpdates halive x y
    | reference i reference =>
        exact view_onStub x i s fun _ => (s.stub i).follows_post x reference
    | destroy i => exact view_destroy x i s
    | runTask i transaction => exact view_runTask x i transaction s

/-! ## The streams of the remote provider -/

/-- An event leaves the remote provider alone or has it perform a task. -/
theorem next_remote (e : ControlEvent ι) (s : RemoteControl ι) :
    (next e s).remote = s.remote ∨
      ∃ task, (next e s).remote = s.remote.perform task := by
  have hstub : ∀ i f, (s.onStub i f).remote = s.remote := by
    intro i f
    unfold onStub
    split <;> rfl
  cases e with
  | start i x => exact .inl (hstub i _)
  | stop i x => exact .inl (hstub i _)
  | reference i reference => exact .inl (hstub i _)
  | destroy i =>
      simp only [next, destroy]
      split <;> exact .inl rfl
  | runTask i transaction =>
      simp only [next, runTask]
      split
      · exact .inl rfl
      · rename_i task tasks htasks
        cases halive : (s.stub i).alive with
        | false => exact .inl rfl
        | true =>
            rcases execute_cases task transaction
              (s.setStub i (s.stub i).take) with hexecute | hexecute
            · exact .inr ⟨task, by rw [hexecute]; rfl⟩
            · exact .inl (by rw [hexecute]; rfl)

theorem serves (x : Stream) :
    ServesUsers (fun s : RemoteControl ι => s.remote.provider) x (view x) init
      next := by
  refine
    { shows := shows_view x
      count := fun _ => rfl
      counted := fun es => ?_ }
  apply Machine.run_invariant fun s : RemoteControl ι =>
    s.remote.provider.StreamsCounted
  · exact Implementation.streamsCounted_init
  · intro e s hcounted
    rcases next_remote e s with hsame | ⟨task, hperform⟩
    · rwa [hsame]
    · rw [hperform]
      exact streamsCounted_perform hcounted task

omit [DecidableEq ι] in
/-- Without waiting tasks the skeleton was told what the stubs want. -/
theorem told_of_idle {s : RemoteControl ι} (h : s.Idle) (x : Stream) :
    (view x s).told = fun i => (s.stub i).uses x := by
  funext i
  have hqueue : (view x s).queue i = [] := by
    simp only [view, ControllingStub.commands]
    split
    · rename_i halive
      rw [h i halive]
      rfl
    · rfl
  rw [UseCount.told, hqueue]
  rfl

variable [Fintype ι]

/-- The stubs that use a stream, as far as the skeleton was told. -/
def toldUsers (s : RemoteControl ι) (x : Stream) : Int :=
  UseCount.users (view x s).told

/-- The starts or stops of a stream that got lost. -/
def lostCommands (s : RemoteControl ι) (x : Stream) (command : Bool) : Nat :=
  (s.lost.filterMap (Task.command x)).count command

/-- The stubs that the skeleton was told of, with the lost stops and without the
lost starts. -/
def balance (s : RemoteControl ι) (x : Stream) : Int :=
  s.toldUsers x + s.lostCommands x false - s.lostCommands x true

/-- A start that does not get through, and the stop after it: the stream stays
off although it is started again. -/
example : ¬ (run [.start () .position, .runTask () .unreachable,
    .stop () .position, .runTask () .replied, .start () .position,
    .runTask () .replied]).remote.provider.Running .position := by
  decide

/-- A stub that goes while it uses a stream leaves it running. -/
example : (run [.start () .position, .runTask () .replied,
    .destroy ()]).remote.provider.Running .position := by
  decide

end RemoteControl

end LocationService.Remote
