import LocationService.Engine.Gate
import LocationService.Session.Model

/-!
# What sessions do to the engine

A session reaches the engine through the controllers of the providers it is
routed to, so every step of the whole is, for the engine, a run of controller
calls or the step of the engine that it is.  What is known of all runs of the
engine thus holds with sessions on top of it.
-/

namespace LocationService

open LocationService.Library

/-- Starts and stops on the controllers of providers. -/
def System.Action.IsController : System.Action → Prop
  | .start _ _ | .stop _ _ => True
  | _ => False

namespace Session

variable {guard : System.Action → System → Prop}

private theorem reach_start {c : Session} {s : System}
    (hsel : World.SelectsKnown s c.selection)
    (hg : ∀ i x s, guard (.start i x) s) (x : Stream) :
    (System.machine.startingAt s).Reach guard (c.settleStart x s).2 := by
  have hinit : (System.machine.startingAt s).Reach guard s := .initial rfl
  unfold settleStart
  dsimp only
  split
  · split
    · exact hinit
    · rename_i i hi
      refine hinit.step (.start i x) (hg i x s) (System.step_iff.mpr ?_)
      exact if_pos (hsel x i hi)
  · exact hinit

private theorem reach_stop {c : Session} {s : System}
    (hsel : World.SelectsKnown s c.selection)
    (hg : ∀ i x s, guard (.stop i x) s) (x : Stream) :
    (System.machine.startingAt s).Reach guard (c.settleStop x s).2 := by
  have hinit : (System.machine.startingAt s).Reach guard s := .initial rfl
  unfold settleStop
  dsimp only
  split
  · split
    · exact hinit
    · rename_i i hi
      refine hinit.step (.stop i x) (hg i x s) (System.step_iff.mpr ?_)
      exact if_pos (hsel x i hi)
  · exact hinit

/-- Controller calls leave the providers known. -/
theorem settleStop_order (c : Session) (x : Stream) (s : System) :
    (c.settleStop x s).2.order = s.order := by
  unfold settleStop
  dsimp only
  split
  · split
    · rfl
    · exact (System.stops_settleStopUpdates s _ x).order
  · rfl

private theorem reach_stops {c : Session} {s : System}
    (hsel : World.SelectsKnown s c.selection)
    (hg : ∀ i x s, guard (.stop i x) s) (xs : List Stream) :
    (System.machine.startingAt s).Reach guard (c.settleStops xs s).2 := by
  induction xs generalizing c s with
  | nil => exact .initial rfl
  | cons x xs ih =>
      have hfirst := reach_stop hsel hg x
      have hsel' : World.SelectsKnown (c.settleStop x s).2
          (c.settleStop x s).1.selection := by
        intro y i hi
        rw [settleStop_order]
        exact hsel y i hi
      exact hfirst.append (ih hsel')

private theorem reach_setStatus {c : Session} {s : System}
    (hsel : World.SelectsKnown s c.selection)
    (hstart : ∀ i x s, guard (.start i x) s)
    (hstop : ∀ i x s, guard (.stop i x) s) (x : Stream) (v : UpdatesStatus) :
    (System.machine.startingAt s).Reach guard (c.settleSetStatus x v s).2 := by
  unfold settleSetStatus
  split
  · exact .initial rfl
  · cases v with
    | enabled =>
        exact reach_start (c := { c with
          status := Function.update c.status x .enabled }) hsel hstart x
    | disabled =>
        exact reach_stop (c := { c with
          status := Function.update c.status x .disabled }) hsel hstop x

end Session

namespace World

/-- Sessions are routed to providers that the engine knows. -/
def Routed (w : World) : Prop :=
  ∀ c ∈ w.sessions, SelectsKnown w.system c.selection

/-- For the engine, a step of the whole is a run of controller calls or the
step that it is. -/
theorem system_reach {a : Action} {w w' : World} (hr : w.Routed)
    (hst : Step a w w') {guard : System.Action → System → Prop}
    (hcontroller : ∀ b s, b.IsController → guard b s)
    (hengine : ∀ b s, a = .engine b → guard b s) :
    (System.machine.startingAt w.system).Reach guard w'.system := by
  have hstart : ∀ i x s, guard (.start i x) s :=
    fun i x s => hcontroller _ s trivial
  have hstop : ∀ i x s, guard (.stop i x) s :=
    fun i x s => hcontroller _ s trivial
  have hcases := step_cases hst
  cases a with
  | createSession selection =>
      obtain ⟨-, rfl⟩ := hcases
      exact .initial rfl
  | setStatus k x v =>
      obtain ⟨c, hc, rfl⟩ := hcases
      have hsel := hr c (List.mem_of_getElem? hc)
      exact Session.reach_setStatus hsel hstart hstop x v
  | destroySession k =>
      obtain ⟨c, hc, rfl⟩ := hcases
      have hsel := hr c (List.mem_of_getElem? hc)
      exact Session.reach_stops hsel hstop Stream.all
  | engine b =>
      obtain ⟨s, hs, rfl⟩ := hcases
      have hinit : (System.machine.startingAt w.system).Reach guard w.system :=
        .initial rfl
      exact hinit.step b (hengine b _ rfl) (System.step_iff.mpr hs)

/-- The providers of an engine stay known. -/
theorem order_subset {a : Action} {w w' : World} (hr : w.Routed)
    (hst : Step a w w') : ∀ i ∈ w.system.order, i ∈ w'.system.order := by
  have hreach : (System.machine.startingAt w.system).Reach (fun _ _ => True)
      w'.system :=
    system_reach hr hst (fun _ _ _ => trivial) (fun _ _ _ => trivial)
  generalize w'.system = s at hreach ⊢
  induction hreach with
  | initial h =>
      intro i hi
      exact h ▸ hi
  | step b _ _ hb ih =>
      intro i hi
      exact System.order_subset hb i (ih i hi)

theorem Routed.step {a : Action} {w w' : World} (hr : w.Routed)
    (hst : Step a w w') : w'.Routed := by
  have hgrows := order_subset hr hst
  have hkeep : ∀ c ∈ w.sessions, SelectsKnown w'.system c.selection := by
    intro c hc x i hi
    exact hgrows i (hr c hc x i hi)
  have hcases := step_cases hst
  cases a with
  | createSession selection =>
      obtain ⟨hsel, rfl⟩ := hcases
      intro c hc
      rcases List.mem_append.mp hc with hc | hc
      · exact hr c hc
      · rw [List.mem_singleton.mp hc]
        exact hsel
  | setStatus k x v =>
      obtain ⟨c, hc, rfl⟩ := hcases
      intro d hd
      rcases List.mem_or_eq_of_mem_set hd with hd | rfl
      · exact hkeep d hd
      · have hsel : (c.settleSetStatus x v w.system).1.selection =
            c.selection := by
          unfold Session.settleSetStatus
          split
          · rfl
          · cases v <;> rfl
        rw [hsel]
        exact hkeep c (List.mem_of_getElem? hc)
  | destroySession k =>
      obtain ⟨c, hc, rfl⟩ := hcases
      intro d hd
      exact hkeep d (List.mem_of_mem_eraseIdx hd)
  | engine b =>
      obtain ⟨s, hs, rfl⟩ := hcases
      exact hkeep

/-- The states between the external steps of some run. -/
def Reachable (w : World) : Prop := machine.Reach (fun _ _ => True) w

/-- Under sessions there is a reachable engine. -/
theorem Reachable.system {w : World} (h : Reachable w) :
    w.Routed ∧ System.Reachable w.system := by
  induction h with
  | initial h =>
      obtain ⟨v, rfl⟩ := h
      exact ⟨by simp [Routed], .initial ⟨v, rfl⟩⟩
  | step a _ _ hst ih =>
      obtain ⟨hr, hs⟩ := ih
      refine ⟨hr.step hst, hs.append ?_⟩
      exact system_reach hr hst (fun _ _ _ => trivial) (fun _ _ _ => trivial)

/-! ## The satellite gate with sessions -/

/-- Steps that do not switch satellites on. -/
def KeepsSatellitesOff : Action → World → Prop
  | .engine b, w => System.KeepsSatellitesOff b w.system
  | _, _ => True

instance KeepsSatellitesOff.decidable :
    ∀ a w, Decidable (KeepsSatellitesOff a w)
  | .engine b, w => inferInstanceAs
      (Decidable (System.KeepsSatellitesOff b w.system))
  | .createSession _, _ | .setStatus _ _ _, _ | .destroySession _, _ =>
      isTrue trivial

theorem gated_run {w w' : World} (hw : Reachable w)
    (hoff : w.system.satelliteBasedPositioningState = .off)
    (hrun : (machine.startingAt w).Reach KeepsSatellitesOff w') :
    Reachable w' ∧ w'.system.satelliteBasedPositioningState = .off ∧
      w.system.Gated w'.system := by
  induction hrun with
  | initial heq =>
      obtain rfl := heq
      exact ⟨hw, hoff, .refl _⟩
  | step a _ hg hst ih =>
      obtain ⟨hw', hoff', hgated⟩ := ih
      obtain ⟨hr, hs⟩ := hw'.system
      have hstep := System.gated_run hs hoff' (system_reach hr hst
        (fun b s hb => by
          cases b
          case start | stop => exact ⟨by simp, by simp⟩
          all_goals cases hb)
        (fun b s hb => by
          subst hb
          exact hg))
      exact ⟨hw'.step a trivial hst, hstep.2.1, hgated.trans hstep.2.2⟩

/-- The gate is closed in `w`, and since `v` it has let through only stops. -/
structure GateClosed (v w : World) : Prop where
  refuses : ∀ i ∈ w.system.order,
    (w.system.provider i).requiresSatellites = true → ∀ x,
      (w.system.provider i).controller.startUpdates x =
        ((w.system.provider i).controller, false)
  known : ∀ i ∈ w.system.order, i ∈ v.system.order →
    (w.system.provider i).requiresSatellites = true →
      (v.system.provider i).impl.OnlyStopped (w.system.provider i).impl
  added : ∀ i ∈ w.system.order, i ∉ v.system.order →
    (w.system.provider i).requiresSatellites = true →
      Implementation.init.OnlyStopped (w.system.provider i).impl

private theorem satellite_off_of_step {u v : World}
    (hst : Step (.engine (.setSatellite .off)) u v) :
    v.system.satelliteBasedPositioningState = .off := by
  have hexec : some (World.mk (u.system.settle
      (.satelliteBasedPositioningState .off)) u.sessions) = some v :=
    step_iff.mp hst
  obtain rfl := Option.some.inj hexec
  show (u.system.settle (.satelliteBasedPositioningState .off)
    ).satelliteBasedPositioningState = .off
  unfold System.settle
  split
  · rename_i h
    simpa [System.holds] using h
  · exact System.settleSatelliteState_off _

/-- From the return of `satellite_based_positioning_state = off` on, or of
another step that leaves it off, and until satellites are switched on again,
nothing is started on a provider that needs them. -/
theorem satellite_gate {a : Action} {u v w : World} (hu : Reachable u)
    (hst : Step a u v)
    (hoff : a = .engine (.setSatellite .off) ∨
      v.system.satelliteBasedPositioningState = .off)
    (hrun : (machine.startingAt v).Reach KeepsSatellitesOff w) :
    GateClosed v w := by
  have hv : Reachable v := hu.step _ trivial hst
  have hsat : v.system.satelliteBasedPositioningState = .off := by
    rcases hoff with rfl | hoff
    · exact satellite_off_of_step hst
    · exact hoff
  obtain ⟨hw, hsat', hgated⟩ := gated_run hv hsat hrun
  have hinv := System.inv_of_reachable hw.system.2
  refine ⟨fun i hi hreq x => ?_, fun i _ hiv hreq => ?_, hgated.added⟩
  · have hb : w.system.satelliteBlocked i = true := by
      simp [System.satelliteBlocked, hreq, hsat']
    have hcount := hinv.switches.blocked_disabled i hi hb x
    apply if_pos
    show w.system.counter i x < 0
    omega
  · exact hgated.known i hiv ((hgated.requires i hiv).symm.trans hreq)

/-- A session asks a provider that needs satellites for positions after they
were switched off, and the engine is switched off and on. -/
theorem satellite_gate_with_session :
    ∃ u v w, Step (.engine (.setSatellite .off)) u v ∧
      (machine.startingAt v).Reach KeepsSatellitesOff w ∧
      0 ∈ w.system.order ∧ GateClosed v w := by
  let boot : List Action := [.engine (.addProvider 0 true),
    .createSession fun _ => some 0]
  let after : List Action := [.setStatus 0 .position .enabled,
    .engine (.setEngineState .off), .engine (.setEngineState .on)]
  have hplay : ((Machine.replay settleExec (fun _ _ => True) boot
      ⟨System.initEngine .on, []⟩).any fun u =>
        (settleExec (.engine (.setSatellite .off)) u).any fun v =>
          (Machine.replay settleExec KeepsSatellitesOff after v).any fun w =>
            decide (0 ∈ w.system.order)) = true := by decide
  obtain ⟨u, hu, hplay⟩ := (Option.any_eq_true _ _).mp hplay
  obtain ⟨v, hv, hplay⟩ := (Option.any_eq_true _ _).mp hplay
  obtain ⟨w, hw, hplay⟩ := (Option.any_eq_true _ _).mp hplay
  have hoff : Step (.engine (.setSatellite .off)) u v := step_iff.mpr hv
  have hinit : (machine.startingAt v).Reach KeepsSatellitesOff v :=
    .initial rfl
  have hrun := hinit.replay (fun _ _ _ h => step_iff.mpr h) after hw
  exact ⟨u, v, w, hoff, hrun, of_decide_eq_true hplay,
    satellite_gate (reach_of_replay hu) hoff (.inl rfl) hrun⟩

end World

end LocationService
