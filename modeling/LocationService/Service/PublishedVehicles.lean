import LocationService.Engine.VisibleVehicles

/-!
# The space vehicles that the service publishes

`service::Implementation` posts a snapshot of every changed engine map to the
strand of the runtime and assigns it to its own property there.  The strand
runs its tasks one at a time, in the order they were posted.  The assignment is
a no-op when `operator==` calls the two maps equal, and that comparison does
not look at every field.

A task keeps the published map faithful exactly if its snapshot is either told
apart from the property or identical to it.
-/

namespace LocationService

open Library SpaceVehicle

/-- The engine's map, the snapshots waiting on the strand, oldest first, and
the service's property.  `executed` records the snapshots whose tasks ran, the
newest first, and whether the property announced a change for each. -/
structure PublishedVehicles where
  engine : SpaceVehicleMap := ∅
  strand : List SpaceVehicleMap := []
  visibleSpaceVehicles : SpaceVehicleMap := ∅
  executed : List (SpaceVehicleMap × Bool) := []

/-- An svs update reaches the engine, or the strand runs its next task. -/
inductive PublishEvent where
  | svs (u : SvsUpdate)
  | runTask

namespace PublishedVehicles

/-- The engine's slot merges the report and always announces the map; the
service's slot posts what it is given. -/
def onSvs (u : SvsUpdate) (s : PublishedVehicles) : PublishedVehicles :=
  let svs := mergeReport s.engine u.value
  { s with engine := svs, strand := s.strand ++ [svs] }

/-- `core::Property::set` on the service's property, in a posted task. -/
def assign (svs : SpaceVehicleMap) (s : PublishedVehicles) :
    PublishedVehicles :=
  if s.visibleSpaceVehicles.operatorEq svs then
    { s with executed := (svs, false) :: s.executed }
  else
    { s with
      visibleSpaceVehicles := svs
      executed := (svs, true) :: s.executed }

def runTask (s : PublishedVehicles) : PublishedVehicles :=
  match s.strand with
  | [] => s
  | svs :: rest => assign svs { s with strand := rest }

def next : PublishEvent → PublishedVehicles → PublishedVehicles
  | .svs u, s => s.onSvs u
  | .runTask, s => s.runTask

/-! ## Faithful publication -/

/-- The snapshot before the next one; both properties start out empty. -/
def lastExecuted : List (SpaceVehicleMap × Bool) → SpaceVehicleMap
  | [] => ∅
  | (svs, _) :: _ => svs

/-- A change has been announced for every snapshot that differs from its
predecessor in any field. -/
def EveryChangeAnnounced : List (SpaceVehicleMap × Bool) → Prop
  | [] => True
  | (svs, announced) :: older =>
      (svs ≠ lastExecuted older → announced = true) ∧
        EveryChangeAnnounced older

/-- With no task waiting the published map is the engine's, and no change has
been kept back. -/
def Faithful (s : PublishedVehicles) : Prop :=
  (s.strand = [] → s.visibleSpaceVehicles = s.engine) ∧
    EveryChangeAnnounced s.executed

/-- The snapshot that was announced last. -/
def lastAnnounced : List (SpaceVehicleMap × Bool) → SpaceVehicleMap
  | [] => ∅
  | (svs, announced) :: older =>
      if announced then svs else lastAnnounced older

/-- The property holds the snapshot announced last, and the engine's map is
the snapshot posted last. -/
structure Inv (s : PublishedVehicles) : Prop where
  property : s.visibleSpaceVehicles = lastAnnounced s.executed
  posted : s.strand.getLastD (lastExecuted s.executed) = s.engine

/-- Where no change was kept back, the snapshot announced last is the one
executed last. -/
theorem EveryChangeAnnounced.lastAnnounced_eq
    {executed : List (SpaceVehicleMap × Bool)}
    (h : EveryChangeAnnounced executed) :
    lastAnnounced executed = lastExecuted executed := by
  induction executed with
  | nil => rfl
  | cons e older ih =>
      have htail := ih h.2
      rcases e with ⟨svs, _ | _⟩
      · have heq : svs = lastExecuted older := by
          by_contra hne
          cases h.1 hne
        simp [lastAnnounced, lastExecuted, htail, heq]
      · rfl

/-- Under the invariant the announcements alone decide. -/
theorem Inv.faithful_iff {s : PublishedVehicles} (h : s.Inv) :
    s.Faithful ↔ EveryChangeAnnounced s.executed := by
  constructor
  · intro hfaithful
    exact hfaithful.2
  · intro hannounced
    have hproperty := h.property.trans hannounced.lastAnnounced_eq
    constructor
    · intro hempty
      have hposted := h.posted
      rw [hempty, List.getLastD_nil] at hposted
      exact hproperty.trans hposted
    · exact hannounced

/-! ## One event -/

theorem Inv.onSvs {s : PublishedVehicles} (h : s.Inv) (u : SvsUpdate) :
    (s.onSvs u).Inv where
  property := h.property
  posted := by simp [PublishedVehicles.onSvs]

theorem Inv.runTask {s : PublishedVehicles} (h : s.Inv) : s.runTask.Inv := by
  unfold PublishedVehicles.runTask
  cases hstrand : s.strand with
  | nil => exact h
  | cons svs rest =>
      have hposted := h.posted
      rw [hstrand, List.getLastD_cons] at hposted
      by_cases heq : s.visibleSpaceVehicles.operatorEq svs = true
      · constructor
        · simpa [assign, heq, lastAnnounced] using h.property
        · simpa [assign, heq, lastExecuted] using hposted
      · constructor
        · simp [assign, heq, lastAnnounced]
        · simpa [assign, heq, lastExecuted] using hposted

theorem Inv.next {s : PublishedVehicles} (h : s.Inv) (e : PublishEvent) :
    (next e s).Inv := by
  cases e with
  | svs u => exact h.onSvs u
  | runTask => exact h.runTask

/-- The snapshot assigned by the next task is not mistaken for the property:
what `operator==` calls equal to it is identical to it. -/
def ToldApart : PublishEvent → PublishedVehicles → Prop
  | .svs _, _ => True
  | .runTask, s => ∀ svs ∈ s.strand.head?,
      s.visibleSpaceVehicles.operatorEq svs = true →
        s.visibleSpaceVehicles = svs

instance : ∀ e s, Decidable (ToldApart e s)
  | .svs _, _ => .isTrue trivial
  | .runTask, s => inferInstanceAs (Decidable (∀ _ ∈ s.strand.head?, _ → _))

/-- An assignment keeps back a change exactly if it mistakes the snapshot for
the property. -/
theorem everyChangeAnnounced_assign_iff {s : PublishedVehicles}
    (hproperty : s.visibleSpaceVehicles = lastExecuted s.executed)
    (h : EveryChangeAnnounced s.executed) (svs : SpaceVehicleMap) :
    EveryChangeAnnounced (s.assign svs).executed ↔
      (s.visibleSpaceVehicles.operatorEq svs = true →
        s.visibleSpaceVehicles = svs) := by
  by_cases heq : s.visibleSpaceVehicles.operatorEq svs = true
  · simp [assign, heq, EveryChangeAnnounced, h, ← hproperty, eq_comm]
  · simp [assign, heq, EveryChangeAnnounced, h]

/-- An event keeps the published map faithful exactly if no snapshot is
mistaken for the property. -/
theorem Inv.faithful_next_iff {s : PublishedVehicles} (h : s.Inv)
    (hfaithful : s.Faithful) (e : PublishEvent) :
    (PublishedVehicles.next e s).Faithful ↔ ToldApart e s := by
  rw [(h.next e).faithful_iff]
  have hannounced := hfaithful.2
  have hproperty := h.property.trans hannounced.lastAnnounced_eq
  cases e with
  | svs u =>
      constructor
      · intro _
        trivial
      · intro _
        exact hannounced
  | runTask =>
      show EveryChangeAnnounced s.runTask.executed ↔ _
      unfold PublishedVehicles.runTask ToldApart
      cases hstrand : s.strand with
      | nil => simpa [hstrand] using hannounced
      | cons svs rest =>
          have hassign := everyChangeAnnounced_assign_iff
            (s := { s with strand := rest }) hproperty hannounced svs
          simpa [hstrand] using hassign

/-! ## Every schedule -/

/-- The engine and the service, under svs updates and posted tasks in any
order. -/
def machine : Machine PublishedVehicles PublishEvent := .ofStep {} next

/-- While no task mistakes its snapshot for the property, the published map is
faithful, and the first task that does loses a change. -/
theorem published_vehicles_faithful {s : PublishedVehicles}
    (h : machine.Reach ToldApart s) :
    s.Faithful ∧ ∀ e, (next e s).Faithful ↔ ToldApart e s := by
  have hinit : Inv {} ∧ Faithful {} := by
    constructor
    · exact ⟨rfl, rfl⟩
    · exact ⟨fun _ => rfl, trivial⟩
  have hkept := h.ofStep_keeps_exactly Inv Faithful hinit
    (fun e _ hinv => hinv.next e)
    (fun e _ hinv hfaithful => hinv.faithful_next_iff hfaithful e)
  exact hkept.2

private def seenAt (snr : Float32) (azimuth : Float) : SvsUpdate where
  provider := 0
  value := ⟨[{ key := ⟨.gps, 7⟩, snr := snr, azimuth := ⟨azimuth⟩ }],
    List.pairwise_singleton _ _⟩

/-- A vehicle moves while its first report still waits on the strand. -/
theorem published_vehicles_faithful_moving :
    ∃ s, machine.Reach ToldApart s ∧
      s.strand = [] ∧ s.executed.length = 2 ∧
      s.Faithful ∧ ∀ e, (next e s).Faithful ↔ ToldApart e s := by
  have hrun : (Machine.replay (fun e s => some (next e s)) ToldApart
      [.svs (seenAt 30 10), .svs (seenAt 31 11), .runTask, .runTask] {}).any
      (fun s => decide (s.strand = [] ∧ s.executed.length = 2)) = true := by
    decide
  obtain ⟨s, hreach, hempty, hlength⟩ :=
    Machine.Reach.ofStep_exists_of_replay _ hrun
  exact ⟨s, hreach, hempty, hlength, published_vehicles_faithful hreach⟩

/-- A vehicle whose signal to noise ratio alone changes: the second snapshot
is not published. -/
theorem snr_change_not_published :
    ¬ ∀ s, machine.Reach (fun _ _ => True) s → s.Faithful := by
  intro hall
  have hrun : (Machine.replay (fun e s => some (next e s)) (fun _ _ => True)
      [.svs (seenAt 30 10), .runTask, .svs (seenAt 12 10), .runTask] {}).any
      (fun s => decide (s.strand = [] ∧
        s.visibleSpaceVehicles ≠ s.engine)) = true := by decide
  obtain ⟨s, hreach, hempty, hne⟩ := Machine.Reach.ofStep_exists_of_replay _ hrun
  have hfaithful := hall s hreach
  exact hne (hfaithful.1 hempty)

end PublishedVehicles

end LocationService
