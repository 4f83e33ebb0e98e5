import LocationService.Engine.UpdatePolicy
import LocationService.Library.Interruption
import LocationService.Service.Harvester
import LocationService.Settings.Enumerations

/-!
# Reporting cells and wireless networks

The user allows the daemon to report the cells and wireless networks around by
setting a property of the service.  A slot of the service passes the value on to
the engine, which stores it in the settings and tells its providers, and then
starts or stops the harvester.

A provider may throw, a stub does when its peer is gone.  Then the harvester is
neither started nor stopped, and setting the property again does nothing, since
it has the value already.

## Main results

* `follows_user` — in every run with restarts and crashes the property, the
  engine and the settings have the last value that the user set.
* `harvests_exactly` — the harvester runs exactly while the user allows it,
  until a provider throws.
* `harvests_on` — after that it goes on although the user does not allow it.
* `reporter_in_turns` — whatever providers throw, the reporter is called in
  turns.
-/

namespace LocationService

open Library Library.Interruptible

namespace ReferenceLocation

/-- What the observers of `last_known_location` are told when an update is
submitted. -/
def announced (update : Update Position) (s : ReferenceLocation) :
    Option (Update Position) :=
  let verified := (s.policy.verifyUpdate update).2
  if optionalEq (Update.operatorEq Position.operatorEq) s.lastKnownLocation
      (some verified) then none
  else some verified

theorem submit_published (update : Update Position) (s : ReferenceLocation) :
    (s.submit update).published =
      (s.announced update).toList ++ s.published := by
  unfold submit announced setLastKnownLocation lastKnownLocation
  dsimp only
  split <;> rfl

end ReferenceLocation

namespace WifiAndCellIdReportingState

/-- `value ? on : off` -/
def ofBool (value : Bool) : WifiAndCellIdReportingState :=
  if value then .on else .off

theorem ofBool_injective : Function.Injective ofBool := by
  intro x y h
  cases x <;> cases y <;> first | rfl | cases h

end WifiAndCellIdReportingState

/-- The daemon, as far as it has to do with reporting.  While it is not up, only
the settings matter. -/
structure ReportingDaemon (ι W C : Type) where
  settings : BoostPtreeSettings
  isUp : Bool
  engineState : Status
  wifiAndCellIdReportingState : WifiAndCellIdReportingState
  /-- The providers of the engine, in the order in which they were added. -/
  providers : List ι
  /-- The last call of `on_wifi_and_cell_reporting_state_changed`. -/
  told : ι → Option WifiAndCellIdReportingState
  doesReportCellAndWifiIds : Bool
  harvester : Harvester W C
  reference : ReferenceLocation

/-- What happens to the daemon.  `throws` are the providers that throw when they
are told; `persisted` is what a change of the engine's status, with the changes
it causes, leaves in the settings. -/
inductive ReportingEvent (ι W C : Type) where
  | boot (now : Int64)
  | addProvider (i : ι)
  | setDoesReportCellAndWifiIds (value : Bool) (throws : ι → Bool)
  | engineState (v persisted : Status)
  | position (update : Update Position) (wifis : List W) (cells : List C)
  | shutdown
  | crash

namespace ReportingDaemon

/-- `Configuration::Keys::engine_state` -/
def engineStateKey : Text := "Engine::State".toList

/-- `Configuration::Keys::wifi_and_cell_id_reporting_state` -/
def reportingStateKey : Text :=
  "Engine::WifiAndCellIdReportingState".toList

theorem isChildKey_engineStateKey :
    BoostPtreeSettings.IsChildKey engineStateKey := by decide

theorem isChildKey_reportingStateKey :
    BoostPtreeSettings.IsChildKey reportingStateKey := by decide

variable {ι W C : Type} [DecidableEq ι]

/-- The daemon before it is started. -/
def down (settings : BoostPtreeSettings) : ReportingDaemon ι W C where
  settings := settings
  isUp := false
  engineState := .on
  wifiAndCellIdReportingState := .off
  providers := []
  told := fun _ => none
  doesReportCellAndWifiIds := false
  harvester := {}
  reference := .init TimeBasedUpdatePolicy.defaultTimeout 0

/-! ## The properties and their slots -/

/-- The slot of `Engine::add_provider` on the state. -/
def tell (throws : ι → Bool) (v : WifiAndCellIdReportingState) (i : ι)
    (s : ReportingDaemon ι W C) : Interruptible (ReportingDaemon ι W C) :=
  ⟨{ s with told := Function.update s.told i (some v) }, throws i⟩

/-- The slot of the constructor of `Engine` on the state. -/
def persistReportingState (v : WifiAndCellIdReportingState)
    (s : ReportingDaemon ι W C) : ReportingDaemon ι W C :=
  { s with
    settings := (s.settings.setEnumForKey WifiAndCellIdReportingState.text
      reportingStateKey v).1 }

/-- The slot of the constructor of `Engine` on its status. -/
def persistEngineState (v : Status) (s : ReportingDaemon ι W C) :
    ReportingDaemon ι W C :=
  { s with
    settings := (s.settings.setEnumForKey Status.text engineStateKey v).1 }

/-- `engine->configuration.wifi_and_cell_id_reporting_state = v` -/
def setReportingState (throws : ι → Bool) (v : WifiAndCellIdReportingState)
    (s : ReportingDaemon ι W C) : Interruptible (ReportingDaemon ι W C) :=
  if s.wifiAndCellIdReportingState = v then ⟨s, false⟩
  else
    let s := { s with wifiAndCellIdReportingState := v }
    forEach (tell throws v) s.providers (s.persistReportingState v)

/-- `does_report_cell_and_wifi_ids() = value`, with the slot of
`service::Implementation`. -/
def setDoesReport (throws : ι → Bool) (value : Bool)
    (s : ReportingDaemon ι W C) : Interruptible (ReportingDaemon ι W C) :=
  if s.doesReportCellAndWifiIds = value then ⟨s, false⟩
  else
    let r := setReportingState throws (.ofBool value)
      { s with doesReportCellAndWifiIds := value }
    if r.thrown then r
    else
      let h := r.state.harvester
      ⟨{ r.state with harvester := if value then h.start else h.stop }, false⟩

/-- The constructors of `Engine` and `service::Implementation`.  The former
throws if a setting cannot be read, and then there is no daemon. -/
def boot (now : Int64) (s : ReportingDaemon ι W C) : ReportingDaemon ι W C :=
  match s.settings.getEnumForKey Status.text engineStateKey .on,
    s.settings.getEnumForKey WifiAndCellIdReportingState.text
      reportingStateKey .off with
  | .ok status, .ok state =>
      let s : ReportingDaemon ι W C :=
        { down s.settings with
          isUp := true
          engineState := status
          wifiAndCellIdReportingState := state
          reference := .init TimeBasedUpdatePolicy.defaultTimeout now }
      (setDoesReport (fun _ => false)
        (s.wifiAndCellIdReportingState == .on) s).state
  | _, _ => s

/-- The destructors of `service::Implementation` and `Engine`. -/
def shutdown (s : ReportingDaemon ι W C) : ReportingDaemon ι W C :=
  let s := { s with harvester := s.harvester.stop }
  let s := s.persistEngineState s.engineState
  let s := s.persistReportingState s.wifiAndCellIdReportingState
  { s with isUp := false }

/-- A position of a provider: the slot of the engine, and that of the service on
the reference location. -/
def position (update : Update Position) (wifis : List W) (cells : List C)
    (s : ReportingDaemon ι W C) : ReportingDaemon ι W C :=
  let announced := s.reference.announced update
  let s := { s with reference := s.reference.submit update }
  match announced with
  | some value =>
      { s with
        harvester := s.harvester.reportPositionUpdate value wifis cells }
  | none => s

/-- One event of a daemon that is up. -/
def handle (e : ReportingEvent ι W C) (s : ReportingDaemon ι W C) :
    ReportingDaemon ι W C :=
  match e with
  | .boot _ => s
  | .addProvider i => { s with providers := s.providers ++ [i] }
  | .setDoesReportCellAndWifiIds value throws =>
      (setDoesReport throws value s).state
  | .engineState v persisted =>
      { s with engineState := v }.persistEngineState persisted
  | .position update wifis cells => s.position update wifis cells
  | .shutdown => s.shutdown
  | .crash => { s with isUp := false }

def next (e : ReportingEvent ι W C) (s : ReportingDaemon ι W C) :
    ReportingDaemon ι W C :=
  if s.isUp then handle e s
  else
    match e with
    | .boot now => boot now s
    | _ => s

/-- The daemon after some events, the oldest first. -/
abbrev run (settings : BoostPtreeSettings) (es : List (ReportingEvent ι W C)) :
    ReportingDaemon ι W C :=
  Machine.run (down settings) next es

/-! ## What one event does -/

/-- The providers up to the one that throws are told, and nothing else
changes. -/
theorem forEach_tell (throws : ι → Bool) (v : WifiAndCellIdReportingState)
    (is : List ι) (s : ReportingDaemon ι W C) :
    forEach (tell throws v) is s =
      ⟨{ s with
          told := fun i =>
            if i ∈ reached throws is then some v else s.told i },
        is.any throws⟩ := by
  induction is generalizing s with
  | nil => simp [forEach, reached]
  | cons first rest ih =>
      unfold forEach reached
      cases hthrows : throws first with
      | true =>
          have htold : Function.update s.told first (some v) =
              fun i => if i ∈ [first] then some v else s.told i := by
            funext i
            by_cases hi : i = first <;> simp [hi]
          simp [tell, hthrows, htold]
      | false =>
          have htold : (fun i => if i ∈ reached throws rest then some v
                else Function.update s.told first (some v) i) =
              fun i => if i ∈ first :: reached throws rest then some v
                else s.told i := by
            funext i
            by_cases hi : i = first <;> simp [hi]
          simp only [tell, hthrows, Bool.false_eq_true, if_false, ih,
            List.any_cons, Bool.false_or, htold]

/-- What the assignment of another value does: unless a provider throws, the
harvester follows. -/
theorem setDoesReport_of_ne {throws : ι → Bool} {value : Bool}
    {s : ReportingDaemon ι W C} (hne : s.doesReportCellAndWifiIds ≠ value)
    (hstate : s.wifiAndCellIdReportingState ≠ .ofBool value) :
    (setDoesReport throws value s).state =
      { s with
        doesReportCellAndWifiIds := value
        wifiAndCellIdReportingState := .ofBool value
        settings := (s.settings.setEnumForKey WifiAndCellIdReportingState.text
          reportingStateKey (.ofBool value)).1
        told := fun i =>
          if i ∈ reached throws s.providers then some (.ofBool value)
          else s.told i
        harvester :=
          if s.providers.any throws then s.harvester
          else if value then s.harvester.start else s.harvester.stop } := by
  unfold setDoesReport setReportingState
  rw [if_neg hne, if_neg hstate, forEach_tell]
  cases s.providers.any throws <;> simp [persistReportingState]

/-- A daemon that starts. -/
theorem boot_of_ok {s : ReportingDaemon ι W C} {status : Status}
    {granted : Bool} (now : Int64)
    (hstatus : s.settings.getEnumForKey Status.text engineStateKey .on =
      .ok status)
    (hstate : s.settings.getEnumForKey WifiAndCellIdReportingState.text
      reportingStateKey .off = .ok (.ofBool granted)) :
    boot now s =
      { (down s.settings : ReportingDaemon ι W C) with
        isUp := true
        engineState := status
        wifiAndCellIdReportingState := .ofBool granted
        doesReportCellAndWifiIds := granted
        harvester := if granted then Harvester.start {} else {}
        reference := .init TimeBasedUpdatePolicy.defaultTimeout now } := by
  unfold boot
  rw [hstatus, hstate]
  cases granted <;> rfl

/-! ## What the user set -/

end ReportingDaemon

/-- Whether the daemon is up, and whether the user allows it to report. -/
structure Consent where
  isUp : Bool
  granted : Bool

/-- What an event means for the consent: the user can only change it while the
daemon is up, and it outlives the daemon. -/
def Consent.next {ι W C : Type} (e : ReportingEvent ι W C) (c : Consent) :
    Consent :=
  match e with
  | .boot _ => { c with isUp := true }
  | .setDoesReportCellAndWifiIds value _ =>
      { c with granted := if c.isUp then value else c.granted }
  | .shutdown => { c with isUp := false }
  | .crash => { c with isUp := false }
  | _ => c

namespace ReportingDaemon

variable {ι W C : Type} [DecidableEq ι]

/-- The settings can be read, and they hold the given consent. -/
structure Holds (settings : BoostPtreeSettings) (granted : Bool) : Prop where
  status : ∃ status, settings.getEnumForKey Status.text engineStateKey .on =
    .ok status
  state : settings.getEnumForKey WifiAndCellIdReportingState.text
    reportingStateKey .off = .ok (.ofBool granted)

theorem Holds.persistReportingState {settings : BoostPtreeSettings}
    {granted : Bool} (h : Holds settings granted) (value : Bool) :
    Holds (settings.setEnumForKey WifiAndCellIdReportingState.text
      reportingStateKey (.ofBool value)).1 value := by
  obtain ⟨status, hstatus⟩ := h.status
  have hread := BoostPtreeSettings.getEnumForKey_setEnumForKey
    WifiAndCellIdReportingState.text Status.text settings
    isChildKey_reportingStateKey isChildKey_engineStateKey (by decide)
    (.ofBool value) .off .on
  constructor
  · exact ⟨status, by rw [hread.2, hstatus]⟩
  · exact hread.1

theorem Holds.persistEngineState {settings : BoostPtreeSettings}
    {granted : Bool} (h : Holds settings granted) (v : Status) :
    Holds (settings.setEnumForKey Status.text engineStateKey v).1 granted := by
  have hread := BoostPtreeSettings.getEnumForKey_setEnumForKey Status.text
    WifiAndCellIdReportingState.text settings isChildKey_engineStateKey
    isChildKey_reportingStateKey (by decide) v .on .off
  constructor
  · exact ⟨v, hread.1⟩
  · rw [hread.2, h.state]

/-- New settings hold no consent. -/
theorem holds_new : Holds {} false := by
  constructor
  · exact ⟨.on, by decide⟩
  · decide

/-- The settings, the engine and the property agree on the consent. -/
structure Reflects (s : ReportingDaemon ι W C) (granted : Bool) : Prop where
  settings : Holds s.settings granted
  property : s.isUp = true → s.doesReportCellAndWifiIds = granted
  engine : s.isUp = true → s.wifiAndCellIdReportingState = .ofBool granted

section Events

variable {s : ReportingDaemon ι W C} {granted : Bool}

theorem Reflects.setDoesReport (h : s.Reflects granted) (hup : s.isUp = true)
    (throws : ι → Bool) (value : Bool) :
    (setDoesReport throws value s).state.isUp = true ∧
      (ReportingDaemon.setDoesReport throws value s).state.Reflects value := by
  by_cases hsame : s.doesReportCellAndWifiIds = value
  · have hvalue : granted = value := (h.property hup).symm.trans hsame
    unfold ReportingDaemon.setDoesReport
    rw [if_pos hsame]
    exact ⟨hup, hvalue ▸ h⟩
  · have hstate : s.wifiAndCellIdReportingState ≠ .ofBool value := by
      intro heq
      have hgranted : granted = value :=
        WifiAndCellIdReportingState.ofBool_injective
          ((h.engine hup).symm.trans heq)
      exact hsame ((h.property hup).trans hgranted)
    rw [setDoesReport_of_ne hsame hstate]
    exact ⟨hup, h.settings.persistReportingState value, fun _ => rfl,
      fun _ => rfl⟩

theorem Reflects.boot (h : s.Reflects granted) (now : Int64) :
    (boot now s).isUp = true ∧
      (ReportingDaemon.boot now s).Reflects granted := by
  obtain ⟨status, hstatus⟩ := h.settings.status
  rw [boot_of_ok now hstatus h.settings.state]
  exact ⟨rfl, h.settings, fun _ => rfl, fun _ => rfl⟩

omit [DecidableEq ι] in
theorem Reflects.shutdown (h : s.Reflects granted) (hup : s.isUp = true) :
    s.shutdown.isUp = false ∧ s.shutdown.Reflects granted := by
  have hsettings : Holds s.shutdown.settings granted := by
    have hlater := (h.settings.persistEngineState s.engineState)
    have hlast := hlater.persistReportingState granted
    rw [← h.engine hup] at hlast
    exact hlast
  refine ⟨rfl, hsettings, ?_, ?_⟩
  · intro hdown
    cases hdown
  · intro hdown
    cases hdown

/-- Every event changes what is reflected as the consent says. -/
theorem Reflects.next (h : s.Reflects granted) (e : ReportingEvent ι W C) :
    (next e s).isUp = (Consent.next e ⟨s.isUp, granted⟩).isUp ∧
      (ReportingDaemon.next e s).Reflects
        (Consent.next e ⟨s.isUp, granted⟩).granted := by
  unfold ReportingDaemon.next
  cases hup : s.isUp with
  | false =>
      cases e with
      | boot now => exact h.boot now
      | _ => exact ⟨hup, h⟩
  | true =>
      cases e with
      | boot now => exact ⟨hup, h⟩
      | addProvider i => exact ⟨hup, h.settings, h.property, h.engine⟩
      | setDoesReportCellAndWifiIds value throws =>
          exact h.setDoesReport hup throws value
      | engineState v persisted =>
          exact ⟨hup, h.settings.persistEngineState persisted, h.property,
            h.engine⟩
      | position update wifis cells =>
          show (s.position update wifis cells).isUp = true ∧
            (s.position update wifis cells).Reflects granted
          unfold position
          cases s.reference.announced update with
          | none => exact ⟨hup, h.settings, h.property, h.engine⟩
          | some value => exact ⟨hup, h.settings, h.property, h.engine⟩
      | shutdown => exact h.shutdown hup
      | crash =>
          refine ⟨rfl, h.settings, ?_, ?_⟩
          · intro hdown
            cases hdown
          · intro hdown
            cases hdown

end Events

/-- In every run, whatever throws, and however often the daemon is stopped or
crashes: what the property, the engine and the settings hold is what the user
set last. -/
theorem follows_user {settings : BoostPtreeSettings} {granted : Bool}
    (h : Holds settings granted) (es : List (ReportingEvent ι W C)) :
    let c := Machine.run ⟨false, granted⟩ Consent.next es
    (run settings es).isUp = c.isUp ∧ (run settings es).Reflects c.granted := by
  intro c
  induction es using List.reverseRecOn with
  | nil =>
      refine ⟨rfl, h, ?_, ?_⟩
      · intro hdown
        cases hdown
      · intro hdown
        cases hdown
  | append_singleton es e ih =>
      simp only [run, c, Machine.run_concat] at ih ⊢
      have hnext := Reflects.next ih.2 e
      rw [ih.1] at hnext
      exact hnext

/-- Reporting is allowed, a provider throws, the daemon crashes and starts
again. -/
theorem follows_user_after_crash :
    (run {} [.boot 0, .addProvider (),
      .setDoesReportCellAndWifiIds true fun _ => true, .crash,
      .boot 0] : ReportingDaemon Unit Unit Unit).Reflects true :=
  (follows_user holds_new _).2

/-! ## When the harvester runs -/

/-- The harvester runs exactly while the property is set. -/
def Obeys (s : ReportingDaemon ι W C) : Prop :=
  s.isUp = true → s.harvester.isRunning = s.doesReportCellAndWifiIds

/-- No provider throws when it is told. -/
def Undisturbed (e : ReportingEvent ι W C) (s : ReportingDaemon ι W C) : Prop :=
  match e with
  | .setDoesReportCellAndWifiIds value throws =>
      s.isUp = true → s.doesReportCellAndWifiIds ≠ value →
        ∀ i ∈ s.providers, throws i = false
  | _ => True

/-- The event makes the harvester report. -/
def Reports (e : ReportingEvent ι W C) (s : ReportingDaemon ι W C)
    (value : Update Position) (wifis : List W) (cells : List C) : Prop :=
  Harvester.Reported s.harvester (next e s).harvester value wifis cells

section Events

variable {s : ReportingDaemon ι W C} {granted : Bool}

theorem setDoesReport_obeys_iff (h : s.Reflects granted) (hup : s.isUp = true)
    (hobeys : s.Obeys) (throws : ι → Bool) {value : Bool}
    (hne : s.doesReportCellAndWifiIds ≠ value) :
    (setDoesReport throws value s).state.Obeys ↔
      ∀ i ∈ s.providers, throws i = false := by
  have hstate : s.wifiAndCellIdReportingState ≠ .ofBool value := by
    rw [h.engine hup]
    intro heq
    exact hne ((h.property hup).trans
      (WifiAndCellIdReportingState.ofBool_injective heq))
  have hrunning := hobeys hup
  have hnone : (∀ i ∈ s.providers, throws i = false) ↔
      s.providers.any throws = false := by
    simp [List.any_eq_false]
  rw [setDoesReport_of_ne hne hstate, hnone]
  unfold Obeys
  cases s.providers.any throws with
  | true => simp [hup, hrunning, hne]
  | false => cases value <;> simp

/-- The harvester goes on obeying exactly if no provider throws. -/
theorem Obeys.next_iff (hobeys : s.Obeys) (h : s.Reflects granted)
    (e : ReportingEvent ι W C) : (next e s).Obeys ↔ Undisturbed e s := by
  unfold next
  cases hup : s.isUp with
  | false =>
      cases e with
      | boot now =>
          obtain ⟨status, hstatus⟩ := h.settings.status
          simp only [Bool.false_eq_true, if_false, Undisturbed, iff_true]
          rw [boot_of_ok now hstatus h.settings.state]
          intro _
          cases granted <;> rfl
      | setDoesReportCellAndWifiIds value throws =>
          simp [hobeys, Undisturbed, hup]
      | _ => simp [hobeys, Undisturbed]
  | true =>
      have hrunning := hobeys hup
      cases e with
      | setDoesReportCellAndWifiIds value throws =>
          by_cases hsame : s.doesReportCellAndWifiIds = value
          · simp [handle, setDoesReport, hsame, hobeys, Undisturbed]
          · simp only [if_true, handle, Undisturbed, hup, forall_const]
            rw [setDoesReport_obeys_iff h hup hobeys throws hsame]
            simp [hsame]
      | position update wifis cells =>
          simp only [if_true, handle, Undisturbed, iff_true]
          unfold position
          cases s.reference.announced update <;> intro _ <;> simpa using hrunning
      | shutdown => simp [handle, shutdown, Undisturbed, Obeys]
      | crash => simp [handle, Undisturbed, Obeys]
      | _ =>
          simp only [if_true, handle, Undisturbed, iff_true]
          intro _
          exact hrunning

theorem setReportingState_harvester (throws : ι → Bool)
    (v : WifiAndCellIdReportingState) (s : ReportingDaemon ι W C) :
    (setReportingState throws v s).state.harvester = s.harvester := by
  unfold setReportingState
  split
  · rfl
  · rw [forEach_tell]
    rfl

/-- Setting the property may start or stop the harvester, but does not make it
report. -/
theorem setDoesReport_harvester (throws : ι → Bool) (value : Bool)
    (s : ReportingDaemon ι W C) :
    let h := (setDoesReport throws value s).state.harvester
    h = s.harvester ∨ h = s.harvester.start ∨ h = s.harvester.stop := by
  unfold setDoesReport
  dsimp only
  split
  · exact .inl rfl
  · split
    · rw [setReportingState_harvester]
      exact .inl rfl
    · cases value <;> simp [setReportingState_harvester]

/-- Only a position is reported, only to observers of the reference location,
and only while the harvester runs. -/
theorem reports_iff (e : ReportingEvent ι W C) (s : ReportingDaemon ι W C)
    (value : Update Position) (wifis : List W) (cells : List C) :
    Reports e s value wifis cells ↔
      s.isUp = true ∧ s.harvester.isRunning = true ∧
        ∃ update, e = .position update wifis cells ∧
          s.reference.announced update = some value := by
  unfold Reports next
  cases hup : s.isUp with
  | false =>
      cases e with
      | boot now =>
          simp only [Bool.false_eq_true, if_false, false_and, iff_false]
          unfold boot
          split
          · dsimp only
            rcases setDoesReport_harvester (fun _ : ι => false) _ _
              with h | h | h <;>
              rw [h] <;>
              simp [Harvester.Reported, down, Harvester.start, Harvester.stop]
          · exact Harvester.not_reported_self
      | _ => simp [Harvester.not_reported_self]
  | true =>
      cases e with
      | position update wifis' cells' =>
          simp only [if_true, handle, true_and, position,
            ReportingEvent.position.injEq]
          cases hannounced : s.reference.announced update with
          | none =>
              simp only [Harvester.not_reported_self, false_iff]
              rintro ⟨_, _, ⟨rfl, _, _⟩, hvalue⟩
              rw [hannounced] at hvalue
              cases hvalue
          | some value' =>
              rw [Harvester.reported_reportPositionUpdate_iff]
              constructor
              · rintro ⟨hrunning, rfl, rfl, rfl⟩
                exact ⟨hrunning, update, ⟨rfl, rfl, rfl⟩, hannounced⟩
              · rintro ⟨hrunning, _, ⟨rfl, rfl, rfl⟩, hvalue⟩
                rw [hannounced] at hvalue
                exact ⟨hrunning, Option.some.inj hvalue, rfl, rfl⟩
      | setDoesReportCellAndWifiIds value' throws =>
          simp only [if_true, handle]
          rcases setDoesReport_harvester throws value' s with h | h | h <;>
            rw [h] <;> simp [Harvester.not_reported_self,
              Harvester.not_reported_start, Harvester.not_reported_stop]
      | shutdown =>
          simp [handle, shutdown, persistEngineState, persistReportingState,
            Harvester.not_reported_stop]
      | _ => simp [handle, persistEngineState, Harvester.not_reported_self]

end Events

/-- While no provider has thrown: the harvester runs exactly while the property
is set, which the first provider that throws ends, and it only reports while
the property is set. -/
theorem harvests_exactly {settings : BoostPtreeSettings} {granted : Bool}
    (h : Holds settings granted) {s : ReportingDaemon ι W C}
    (hrun : (Machine.ofStep (down settings) next).Reach Undisturbed s) :
    s.Obeys ∧ (∀ e, (next e s).Obeys ↔ Undisturbed e s) ∧
      ∀ e value wifis cells, Reports e s value wifis cells ↔
        s.isUp = true ∧ s.doesReportCellAndWifiIds = true ∧
          ∃ update, e = .position update wifis cells ∧
            s.reference.announced update = some value := by
  have hdown : (down settings : ReportingDaemon ι W C).Reflects granted := by
    refine ⟨h, ?_, ?_⟩
    · intro hup
      cases hup
    · intro hup
      cases hup
  have hobeys : (down settings : ReportingDaemon ι W C).Obeys := by
    intro hup
    cases hup
  have hexactly := hrun.ofStep_keeps_exactly
    (fun s => ∃ granted, s.Reflects granted) Obeys ⟨⟨granted, hdown⟩, hobeys⟩
    (fun e s hs => hs.elim fun _ hreflects => ⟨_, (hreflects.next e).2⟩)
    (fun e s hs ho => hs.elim fun _ hreflects => ho.next_iff hreflects e)
  refine ⟨hexactly.2.1, hexactly.2.2, ?_⟩
  intro e value wifis cells
  rw [reports_iff]
  constructor
  · intro ⟨hup, hrunning, hposition⟩
    exact ⟨hup, (hexactly.2.1 hup).symm.trans hrunning, hposition⟩
  · intro ⟨hup, hproperty, hposition⟩
    exact ⟨hup, (hexactly.2.1 hup).trans hproperty, hposition⟩

/-- The daemon starts without settings, and the user allows reporting: a provider
that throws then would keep the harvester running against the user's will. -/
theorem harvests_exactly_until_throw :
    ∃ s : ReportingDaemon Unit Unit Unit,
      s.harvester.isRunning = true ∧ s.Obeys ∧
        ¬ (next (.setDoesReportCellAndWifiIds false fun _ => true) s).Obeys := by
  let events : List (ReportingEvent Unit Unit Unit) :=
    [.boot 0, .addProvider (),
      .setDoesReportCellAndWifiIds true fun _ => false]
  have hboot : (Machine.ofStep (down {}) next).Reach Undisturbed
      (run {} [.boot 0] : ReportingDaemon Unit Unit Unit) :=
    .step (.boot 0) (.initial rfl) trivial rfl
  have hprovider : (Machine.ofStep (down {}) next).Reach Undisturbed
      (run {} (events.take 2)) :=
    hboot.step (.addProvider ()) trivial rfl
  have hallowed : (Machine.ofStep (down {}) next).Reach Undisturbed
      (run {} events) :=
    hprovider.step (.setDoesReportCellAndWifiIds true fun _ => false)
      (fun _ _ _ _ => rfl) rfl
  have hexactly := harvests_exactly holds_new hallowed
  refine ⟨run {} events, by decide, hexactly.1, ?_⟩
  rw [hexactly.2.1]
  intro hundisturbed
  exact absurd (hundisturbed (by decide) (by decide) () (by decide))
    (by decide)

/-! ## After a provider has thrown -/

/-- Neither ends the daemon nor allows to report. -/
def ForbidsReporting : ReportingEvent ι W C → Prop
  | .shutdown => False
  | .crash => False
  | .setDoesReportCellAndWifiIds value _ => value = false
  | _ => True

/-- The harvester runs, though the user does not allow it to. -/
structure Ignores (s : ReportingDaemon ι W C) : Prop where
  isUp : s.isUp = true
  reflects : s.Reflects false
  isRunning : s.harvester.isRunning = true

/-- Setting the property again does not help. -/
theorem Ignores.next {s : ReportingDaemon ι W C} (h : s.Ignores)
    {e : ReportingEvent ι W C} (he : ForbidsReporting e) :
    (next e s).Ignores := by
  have hproperty := h.reflects.property h.isUp
  have hreflects := h.reflects.next e
  unfold ReportingDaemon.next at hreflects ⊢
  rw [if_pos h.isUp] at hreflects ⊢
  cases e with
  | boot now => exact h
  | addProvider i => exact ⟨h.isUp, hreflects.2, h.isRunning⟩
  | setDoesReportCellAndWifiIds value throws =>
      obtain rfl : value = false := he
      simpa [handle, setDoesReport, hproperty] using h
  | engineState v persisted => exact ⟨h.isUp, hreflects.2, h.isRunning⟩
  | position update wifis cells =>
      have hisUp : (s.position update wifis cells).isUp = s.isUp := by
        unfold position
        cases s.reference.announced update <;> rfl
      have hisRunning : (s.position update wifis cells).harvester.isRunning =
          s.harvester.isRunning := by
        unfold position
        cases s.reference.announced update <;> simp
      exact ⟨hisUp.trans h.isUp, hreflects.2, hisRunning.trans h.isRunning⟩
  | shutdown => cases he
  | crash => cases he

/-- The user forbids reporting, and a provider throws.  From then on, whatever
happens short of allowing it again or ending the daemon: every new reference
location is reported, though the property, the engine and the settings all say
that nothing is. -/
theorem harvests_on {settings : BoostPtreeSettings} {granted : Bool}
    (h : Holds settings granted) {es : List (ReportingEvent ι W C)}
    (hup : (run settings es).isUp = true)
    (hrunning : (run settings es).harvester.isRunning = true)
    (hallowed : (run settings es).doesReportCellAndWifiIds = true)
    {throws : ι → Bool} (hthrows : ∃ i ∈ (run settings es).providers, throws i)
    {later : List (ReportingEvent ι W C)}
    (hlater : ∀ e ∈ later, ForbidsReporting e) :
    let s := run settings
      (es ++ .setDoesReportCellAndWifiIds false throws :: later)
    s.Reflects false ∧ ∀ update wifis cells value,
      s.reference.announced update = some value →
        Reports (.position update wifis cells) s value wifis cells := by
  intro s
  have hignores : s.Ignores := by
    have hsplit : s = Machine.run (next
        (.setDoesReportCellAndWifiIds false throws) (run settings es))
        next later := by
      simp [s, run, Machine.run]
    rw [hsplit]
    have hreflects := (follows_user h es).2
    have hfirst : (next (.setDoesReportCellAndWifiIds false throws)
        (run settings es)).Ignores := by
      have hgranted := (hreflects.property hup).symm.trans hallowed
      rw [hgranted] at hreflects
      have hset := hreflects.setDoesReport hup throws false
      have hne : (run settings es).doesReportCellAndWifiIds ≠ false := by
        simp [hallowed]
      have hstate : (run settings es).wifiAndCellIdReportingState ≠
          .ofBool false := by
        rw [hreflects.engine hup]
        decide
      have hany : (run settings es).providers.any throws = true := by
        simpa using hthrows
      unfold ReportingDaemon.next
      rw [if_pos hup]
      refine ⟨hset.1, hset.2, ?_⟩
      show (setDoesReport throws false (run settings es)).state.harvester.isRunning
        = true
      rw [setDoesReport_of_ne hne hstate]
      simp [hany, hrunning]
    clear hsplit
    induction later using List.reverseRecOn with
    | nil => exact hfirst
    | append_singleton later e ih =>
        rw [Machine.run_concat]
        have hbefore := ih fun e' he' => hlater e' (by simp [he'])
        exact hbefore.next (hlater e (by simp))
  refine ⟨hignores.reflects, ?_⟩
  intro update wifis cells value hannounced
  rw [reports_iff]
  exact ⟨hignores.isUp, hignores.isRunning, update, rfl, hannounced⟩

/-- Forbidding it again does not help, and the first position is reported. -/
theorem harvests_on_after_throw :
    (run {} ([.boot 0, .addProvider (),
      .setDoesReportCellAndWifiIds true fun _ => false] ++
      .setDoesReportCellAndWifiIds false (fun _ => true) ::
        [.setDoesReportCellAndWifiIds false fun _ => false]) :
      ReportingDaemon Unit Unit Unit).Reflects false := by
  let allowed : List (ReportingEvent Unit Unit Unit) :=
    [.boot 0, .addProvider (),
      .setDoesReportCellAndWifiIds true fun _ => false]
  have hthrows : ∃ i ∈ (run {} allowed).providers,
      (fun _ : Unit => true) i = true := ⟨(), by decide, rfl⟩
  have hlater : ∀ e ∈ ([.setDoesReportCellAndWifiIds false fun _ => false] :
      List (ReportingEvent Unit Unit Unit)), ForbidsReporting e := by
    intro e he
    rw [List.mem_singleton.mp he]
    rfl
  have hon := harvests_on holds_new (by decide) (by decide) (by decide)
    hthrows hlater
  exact hon.1

/-! ## The reporter -/

theorem inTurns_setDoesReport {s : ReportingDaemon ι W C}
    (h : s.harvester.InTurns) (throws : ι → Bool) (value : Bool) :
    (setDoesReport throws value s).state.harvester.InTurns := by
  rcases setDoesReport_harvester throws value s with heq | heq | heq
  · rw [heq]
    exact h
  · rw [heq]
    exact h.start
  · rw [heq]
    exact h.stop

theorem inTurns_next {s : ReportingDaemon ι W C} (h : s.harvester.InTurns)
    (e : ReportingEvent ι W C) : (next e s).harvester.InTurns := by
  unfold next
  split
  · cases e with
    | setDoesReportCellAndWifiIds value throws =>
        exact inTurns_setDoesReport h throws value
    | position update wifis cells =>
        show (s.position update wifis cells).harvester.InTurns
        unfold position
        cases s.reference.announced update with
        | none => exact h
        | some value => exact h.reportPositionUpdate value wifis cells
    | shutdown => exact h.stop
    | _ => exact h
  · cases e with
    | boot now =>
        show (boot now s).harvester.InTurns
        unfold boot
        split
        · exact inTurns_setDoesReport Harvester.inTurns_new _ _
        · exact h
    | _ => exact h

/-- In every run, whatever providers throw: each of the ichnaea reporters that the
harvester reaches through a demultiplexing reporter submits every report, has a
worker exactly while the harvester runs, and never ends the process. -/
theorem reporter_in_turns {κ : Type} [DecidableEq κ] {reporters : List κ}
    (hnodup : reporters.Nodup) (settings : BoostPtreeSettings)
    (es : List (ReportingEvent ι W C)) {k : κ} (hk : k ∈ reporters) :
    let h := (run settings es).harvester
    h.calls.foldr
        (DemultiplexingReporter.call reporters fun _ => IchnaeaReporter.call)
        (fun _ => {}) k =
      ⟨h.isRunning, false, IchnaeaReporter.reported h.calls⟩ := by
  intro h
  have hturns : h.InTurns :=
    Machine.run_invariant
      (fun s : ReportingDaemon ι W C => s.harvester.InTurns)
      Harvester.inTurns_new (fun e _ hs => inTurns_next hs e) es
  rw [DemultiplexingReporter.foldr_call hnodup _ _ _ hk]
  exact IchnaeaReporter.of_inTurns hturns

/-- Reporting is allowed, a position is reported, and reporting is forbidden. -/
def oneReport : List (ReportingEvent Unit Unit Unit) :=
  [.boot 0, .setDoesReportCellAndWifiIds true fun _ => false,
    .position ⟨{}, 1⟩ [()] [], .setDoesReportCellAndWifiIds false fun _ => false]

theorem reporter_in_turns_of_two :
    (run {} oneReport).harvester.calls =
        [.stop, .report ⟨{}, 1⟩ [()] [], .start] ∧
      (run {} oneReport).harvester.calls.foldr
          (DemultiplexingReporter.call [false, true]
            fun _ => IchnaeaReporter.call) (fun _ => {}) true =
        ⟨false, false, [(⟨{}, 1⟩, [()], [])]⟩ := by
  have hcalls : (run {} oneReport).harvester.calls =
      [.stop, .report ⟨{}, 1⟩ [()] [], .start] := by rfl
  have hstopped : (run {} oneReport).harvester.isRunning = false := by rfl
  have hturns := reporter_in_turns (by decide : [false, true].Nodup) {}
    oneReport (by decide : true ∈ [false, true])
  refine ⟨hcalls, hturns.trans ?_⟩
  rw [hstopped, hcalls]
  rfl

end ReportingDaemon

end LocationService
