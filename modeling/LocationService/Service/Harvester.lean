import LocationService.Values.Position

/-!
# The harvester and its reporters

A `Harvester` hands positions, with the networks and cells around, to a
reporter while it is running.  The reporter may be an `ichnaea::Reporter`, which
runs a worker thread between `start` and `stop`, or a `DemultiplexingReporter`,
which hands every call to several others.

A harvester calls its reporter in turns (`Harvester.InTurns`).  That is what the
worker needs: a second `start` would assign to a thread that is joinable, and
end the process (`IchnaeaReporter.of_inTurns`).
-/

namespace LocationService

/-- The calls of a `Harvester::Reporter`. -/
inductive ReporterCall (W C : Type) where
  | start
  | stop
  | report (update : Update Position) (wifis : List W) (cells : List C)

namespace ReporterCall

variable {W C : Type}

/-- What a call does to a reporter that is to be started and stopped in turns,
and to report in between: whether it is started then, if it was called in
turn. -/
def follow : ReporterCall W C → Option Bool → Option Bool
  | .start, some false => some true
  | .stop, some true => some false
  | .report _ _ _, some true => some true
  | _, _ => none

/-- Whether a reporter is started after some calls in turns, the newest
first. -/
def started (calls : List (ReporterCall W C)) : Option Bool :=
  calls.foldr follow (some false)

end ReporterCall

/-- A harvester, with the calls of its reporter, the newest first. -/
structure Harvester (W C : Type) where
  isRunning : Bool := false
  calls : List (ReporterCall W C) := []

namespace Harvester

variable {W C : Type}

/-- `Harvester::start` -/
def start (h : Harvester W C) : Harvester W C :=
  if h.isRunning then h else ⟨true, .start :: h.calls⟩

/-- `Harvester::stop` -/
def stop (h : Harvester W C) : Harvester W C :=
  if h.isRunning then ⟨false, .stop :: h.calls⟩ else h

/-- `Harvester::report_position_update`, with what the connectivity manager
enumerates. -/
def reportPositionUpdate (update : Update Position) (wifis : List W)
    (cells : List C) (h : Harvester W C) : Harvester W C :=
  if h.isRunning then { h with calls := .report update wifis cells :: h.calls }
  else h

@[simp] theorem isRunning_start (h : Harvester W C) :
    h.start.isRunning = true := by
  unfold start
  split
  · assumption
  · rfl

@[simp] theorem isRunning_stop (h : Harvester W C) :
    h.stop.isRunning = false := by
  unfold stop
  split
  · rfl
  · simpa using ‹¬ h.isRunning = true›

@[simp] theorem isRunning_reportPositionUpdate (update : Update Position)
    (wifis : List W) (cells : List C) (h : Harvester W C) :
    (h.reportPositionUpdate update wifis cells).isRunning = h.isRunning := by
  unfold reportPositionUpdate
  split <;> rfl

/-- The harvester has made its reporter report, and done nothing else. -/
def Reported (before after : Harvester W C) (update : Update Position)
    (wifis : List W) (cells : List C) : Prop :=
  after.calls = .report update wifis cells :: before.calls

section Reported

variable {h : Harvester W C} {update : Update Position} {wifis : List W}
  {cells : List C}

theorem not_reported_self : ¬ Reported h h update wifis cells := by
  intro heq
  have hlength := congrArg List.length heq
  simp at hlength

theorem not_reported_start : ¬ Reported h h.start update wifis cells := by
  unfold start
  split
  · exact not_reported_self
  · simp [Reported]

theorem not_reported_stop : ¬ Reported h h.stop update wifis cells := by
  unfold stop
  split
  · simp [Reported]
  · exact not_reported_self

/-- A harvester reports what it is told, while it is running. -/
theorem reported_reportPositionUpdate_iff {update' : Update Position}
    {wifis' : List W} {cells' : List C} :
    Reported h (h.reportPositionUpdate update' wifis' cells') update wifis
        cells ↔
      h.isRunning = true ∧ update' = update ∧ wifis' = wifis ∧
        cells' = cells := by
  unfold reportPositionUpdate
  split
  · rename_i hrunning
    simp [Reported, hrunning]
  · rename_i hrunning
    simp [not_reported_self, hrunning]

end Reported

/-! ## Calls in turns -/

/-- The reporter was called in turns, and is started exactly while the harvester
is running. -/
def InTurns (h : Harvester W C) : Prop :=
  ReporterCall.started h.calls = some h.isRunning

theorem inTurns_new : ({} : Harvester W C).InTurns := rfl

theorem InTurns.start {h : Harvester W C} (hturns : h.InTurns) :
    h.start.InTurns := by
  unfold Harvester.start
  split
  · exact hturns
  · rename_i hon
    have hoff : h.isRunning = false := by simpa using hon
    have hstarted : ReporterCall.started h.calls = some false := by
      rw [hturns, hoff]
    show ReporterCall.follow .start (ReporterCall.started h.calls) = some true
    rw [hstarted]
    rfl

theorem InTurns.stop {h : Harvester W C} (hturns : h.InTurns) :
    h.stop.InTurns := by
  unfold Harvester.stop
  split
  · rename_i hon
    have hstarted : ReporterCall.started h.calls = some true := by
      rw [hturns, hon]
    show ReporterCall.follow .stop (ReporterCall.started h.calls) = some false
    rw [hstarted]
    rfl
  · exact hturns

theorem InTurns.reportPositionUpdate {h : Harvester W C} (hturns : h.InTurns)
    (update : Update Position) (wifis : List W) (cells : List C) :
    (h.reportPositionUpdate update wifis cells).InTurns := by
  unfold Harvester.reportPositionUpdate
  split
  · rename_i hon
    have hstarted : ReporterCall.started h.calls = some true := by
      rw [hturns, hon]
    show ReporterCall.follow (.report update wifis cells)
      (ReporterCall.started h.calls) = some h.isRunning
    rw [hstarted, hon]
    rfl
  · exact hturns

end Harvester

/-! ## The worker of `ichnaea::Reporter` -/

/-- `ichnaea::Reporter`, with what it submitted, the newest first. -/
structure IchnaeaReporter (W C : Type) where
  /-- `http_client_worker.joinable()` -/
  workerJoinable : Bool := false
  /-- A joinable thread was assigned to, which calls `std::terminate`. -/
  terminated : Bool := false
  submitted : List (Update Position × List W × List C) := []

namespace IchnaeaReporter

variable {W C : Type}

/-- The methods of the reporter; none of them runs once the process ended. -/
def call (c : ReporterCall W C) (r : IchnaeaReporter W C) :
    IchnaeaReporter W C :=
  if r.terminated then r
  else
    match c with
    | .start =>
        if r.workerJoinable then { r with terminated := true }
        else { r with workerJoinable := true }
    | .stop => { r with workerJoinable := false }
    | .report update wifis cells =>
        { r with submitted := (update, wifis, cells) :: r.submitted }

/-- What the reports among some calls are about. -/
def reported : List (ReporterCall W C) →
    List (Update Position × List W × List C)
  | [] => []
  | .report update wifis cells :: rest =>
      (update, wifis, cells) :: reported rest
  | _ :: rest => reported rest

/-- A reporter that is called in turns does not end the process, has a worker
while it is started, and submits every report. -/
theorem of_inTurns {calls : List (ReporterCall W C)} {isStarted : Bool}
    (h : ReporterCall.started calls = some isStarted) :
    calls.foldr call {} = ⟨isStarted, false, reported calls⟩ := by
  induction calls generalizing isStarted with
  | nil =>
      obtain rfl : false = isStarted := Option.some.inj h
      rfl
  | cons c rest ih =>
      have hfollow : ReporterCall.follow c (ReporterCall.started rest) =
          some isStarted := h
      rw [List.foldr_cons]
      cases hrest : ReporterCall.started rest with
      | none =>
          rw [hrest] at hfollow
          cases c <;> cases hfollow
      | some before =>
          rw [hrest] at hfollow
          rw [ih hrest]
          cases c <;> cases before <;> cases hfollow <;> rfl

end IchnaeaReporter

/-! ## Several reporters -/

namespace DemultiplexingReporter

variable {κ ρ γ : Type} [DecidableEq κ]

/-- The methods of `DemultiplexingReporter`: the reporters of the set get the
call one after the other. -/
def call (reporters : List κ) (one : κ → γ → ρ → ρ) (c : γ) (r : κ → ρ) :
    κ → ρ :=
  reporters.foldl (fun r k => Function.update r k (one k c (r k))) r

theorem call_apply {reporters : List κ} (hnodup : reporters.Nodup)
    (one : κ → γ → ρ → ρ) (c : γ) (r : κ → ρ) (k : κ) :
    call reporters one c r k = if k ∈ reporters then one k c (r k) else r k := by
  unfold call
  induction reporters generalizing r with
  | nil => simp
  | cons first rest ih =>
      have hfirst : first ∉ rest := (List.nodup_cons.mp hnodup).1
      rw [List.foldl_cons, ih (List.nodup_cons.mp hnodup).2]
      by_cases hk : k = first
      · subst hk
        simp [hfirst]
      · simp [hk]

/-- Each reporter is left as if it had got the calls alone. -/
theorem foldr_call {reporters : List κ} (hnodup : reporters.Nodup)
    (one : κ → γ → ρ → ρ) (calls : List γ) (r : κ → ρ) {k : κ}
    (hk : k ∈ reporters) :
    calls.foldr (call reporters one) r k = calls.foldr (one k) (r k) := by
  induction calls with
  | nil => rfl
  | cons c rest ih =>
      rw [List.foldr_cons, call_apply hnodup, if_pos hk, ih, List.foldr_cons]

end DemultiplexingReporter

end LocationService
