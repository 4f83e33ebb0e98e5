import Mathlib.Data.List.Basic
import LocationService.Session.Counting

/-!
# Hardware use follows the sessions

As long as nobody touches the switches, an implementation should run a stream
exactly while some live session has it enabled.  That fails in one situation:
the engine keeps a single state for each provider and falls back from active
to on when a stop takes the last provider out of the active state, and falling
back zeroes the counters of everything that is still in use.  `SparesUse` rules
this situation out for a list of stops, and `runs_what_is_enabled` is the
property for all runs that keep to it.
-/

namespace LocationService

open LocationService.Library

/-! ## Stops that spare what is in use -/

namespace System

/-- The stops `rs`, each of which releases its stream after the stops in
`gone` have released theirs, take the last provider out of the active state
only when nothing else is in use. -/
def SparesUse (s : System) :
    List (ProviderId × Stream) → List (ProviderId × Stream) → Prop
  | _, [] => True
  | gone, r :: rs =>
      ((s.provider r.1).state = .active → r.1 ∉ gone.map Prod.fst →
        (∀ j ∈ s.order, (s.provider j).state = .active →
          j ∈ (r :: gone).map Prod.fst) →
        ∀ j ∈ s.order, ∀ y, 0 < s.counter j y → (j, y) ∈ r :: gone) ∧
      SparesUse s (r :: gone) rs

instance SparesUse.decidable (s : System) :
    ∀ gone rs, Decidable (s.SparesUse gone rs)
  | _, [] => inferInstanceAs (Decidable True)
  | gone, r :: rs =>
      have := SparesUse.decidable s (r :: gone) rs
      inferInstanceAs (Decidable (_ ∧ _))

/-- After a stop that releases its stream, the remaining stops are judged
without it. -/
theorem SparesUse.released {s t : System} {i : ProviderId} {x : Stream}
    (hst : Stopped s t i x) (hone : s.counter i x = 1)
    {rs gone gone' : List (ProviderId × Stream)}
    (hgone : ∀ q, q ∈ gone ↔ q = (i, x) ∨ q ∈ gone')
    (h : s.SparesUse gone rs) : t.SparesUse gone' rs := by
  induction rs generalizing gone gone' with
  | nil => trivial
  | cons r rs ih =>
      obtain ⟨hhead, htail⟩ := h
      have hgone' : ∀ q, q ∈ r :: gone ↔ q = (i, x) ∨ q ∈ r :: gone' := by
        intro q
        simp only [List.mem_cons, hgone]
        constructor
        · rintro (h | h | h)
          · exact .inr (.inl h)
          · exact .inl h
          · exact .inr (.inr h)
        · rintro (h | h | h)
          · exact .inr (.inl h)
          · exact .inl h
          · exact .inr (.inr h)
      have hstate : ∀ k, (t.provider k).state = .active ↔
          k ≠ i ∧ (s.provider k).state = .active := by
        intro k
        rw [hst.state k]
        by_cases hki : k = i
        · rw [if_pos ⟨hki, hone⟩]
          simp [hki]
        · rw [if_neg fun h => hki h.1]
          simp [hki]
      refine ⟨fun hact hnew hall j hj y hy => ?_, ih hgone' htail⟩
      obtain ⟨hri, hsact⟩ := (hstate r.1).mp hact
      have hnew' : r.1 ∉ gone.map Prod.fst := by
        intro hmem
        obtain ⟨q, hq, hqr⟩ := List.mem_map.mp hmem
        rcases (hgone q).mp hq with rfl | hq
        · exact hri hqr.symm
        · exact hnew (List.mem_map.mpr ⟨q, hq, hqr⟩)
      have hall' : ∀ k ∈ s.order, (s.provider k).state = .active →
          k ∈ (r :: gone).map Prod.fst := by
        intro k hk hkact
        by_cases hki : k = i
        · exact List.mem_map.mpr ⟨(i, x), (hgone' _).mpr (.inl rfl), hki.symm⟩
        · have hmem := hall k (hst.order ▸ hk) ((hstate k).mpr ⟨hki, hkact⟩)
          obtain ⟨q, hq, hqk⟩ := List.mem_map.mp hmem
          exact List.mem_map.mpr ⟨q, (hgone' q).mpr (.inr hq), hqk⟩
      rw [hst.order] at hj
      have hcount := hst.counter j hj y
      by_cases hjy : j = i ∧ y = x
      · rw [if_pos hjy, hjy.1, hjy.2, hone, lowered_one] at hcount
        rw [hjy.1, hjy.2] at hy
        omega
      · rw [if_neg hjy] at hcount
        have hmem := hhead hsact hnew' hall' j hj y (hcount ▸ hy)
        rcases (hgone' _).mp hmem with he | hmem
        · exact absurd ⟨congrArg Prod.fst he, congrArg Prod.snd he⟩ hjy
        · exact hmem

/-- A stop that leaves its stream in use changes no judgement. -/
theorem SparesUse.kept {s t : System} {i : ProviderId} {x : Stream}
    (hst : Stopped s t i x) (hmany : s.counter i x ≠ 1)
    {rs gone : List (ProviderId × Stream)} (h : s.SparesUse gone rs) :
    t.SparesUse gone rs := by
  induction rs generalizing gone with
  | nil => trivial
  | cons r rs ih =>
      obtain ⟨hhead, htail⟩ := h
      have hstate : ∀ k, (t.provider k).state = (s.provider k).state := by
        intro k
        rw [hst.state k, if_neg fun h => hmany h.2]
      refine ⟨fun hact hnew hall j hj y hy => ?_, ih htail⟩
      rw [hstate] at hact
      have hall' : ∀ k ∈ s.order, (s.provider k).state = .active →
          k ∈ (r :: gone).map Prod.fst :=
        fun k hk hkact => hall k (hst.order ▸ hk) ((hstate k).trans hkact)
      rw [hst.order] at hj
      apply hhead hact hnew hall' j hj y
      have hcount := hst.counter j hj y
      by_cases hjy : j = i ∧ y = x
      · rw [if_pos hjy] at hcount
        have := lowered_le (s.counter j y)
        omega
      · rw [if_neg hjy] at hcount
        omega

end System

/-- The stops that disabling the streams of a list releases: those of enabled
streams that no other session uses. -/
def Session.releases (c : Session) (s : System) (xs : List Stream) :
    List (ProviderId × Stream) :=
  xs.filterMap fun x =>
    if c.status x = .enabled then
      match c.selection x with
      | some i => if s.counter i x = 1 then some (i, x) else none
      | none => none
    else none

theorem Session.releases_cons_idle {c : Session} {s : System} {x : Stream}
    (xs : List Stream) (h : ∀ i, c.selection x = some i →
      c.status x = .enabled → s.counter i x ≠ 1) :
    c.releases s (x :: xs) = c.releases s xs := by
  unfold releases
  rw [List.filterMap_cons_none]
  split
  · rename_i hen
    cases hsel : c.selection x with
    | none => rfl
    | some i => exact if_neg (h i hsel hen)
  · rfl

theorem Session.releases_cons_last {c : Session} {s : System} {x : Stream}
    {i : ProviderId} (xs : List Stream) (hen : c.status x = .enabled)
    (hsel : c.selection x = some i) (hone : s.counter i x = 1) :
    c.releases s (x :: xs) = (i, x) :: c.releases s xs := by
  unfold releases
  rw [List.filterMap_cons_some]
  rw [if_pos hen, hsel]
  exact if_pos hone

theorem Session.releases_congr {c d : Session} {s t : System}
    (hsel : d.selection = c.selection) (xs : List Stream)
    (hst : ∀ y ∈ xs, d.status y = c.status y)
    (hcount : ∀ y ∈ xs, ∀ i, c.selection y = some i →
      t.counter i y = s.counter i y) :
    d.releases t xs = c.releases s xs := by
  refine List.filterMap_congr fun y hy => ?_
  rw [hst y hy, hsel]
  cases hs : c.selection y with
  | none => rfl
  | some i =>
      dsimp only
      rw [hcount y hy i hs]

namespace World

/-- The steps of sessions, new providers, and the service's constructor, which
runs before there are sessions. -/
def SessionStep : Action → World → Prop
  | .createSession _, _ => True
  | .setStatus .., _ => True
  | .destroySession _, _ => True
  | .engine (.addProvider ..), _ => True
  | .engine .constructService, w => w.sessions = []
  | .engine _, _ => False

instance SessionStep.decidable :
    ∀ a w, Decidable (SessionStep a w)
  | .createSession _, _ => isTrue trivial
  | .setStatus .., _ => isTrue trivial
  | .destroySession _, _ => isTrue trivial
  | .engine (.addProvider ..), _ => isTrue trivial
  | .engine .constructService, w =>
      inferInstanceAs (Decidable (w.sessions = []))
  | .engine (.setEngineState _), _ => isFalse id
  | .engine (.setSatellite _), _ => isFalse id
  | .engine (.setOnline _), _ => isFalse id
  | .engine (.setDoesSatellite _), _ => isFalse id
  | .engine (.start ..), _ => isFalse id
  | .engine (.stop ..), _ => isFalse id

/-- Nothing is enabled on an engine that is off, no start makes a counter wrap
around, and stops spare what is in use. -/
def KeepsUse : Action → World → Prop
  | .setStatus k x .enabled, w =>
      ∀ c ∈ w.sessions[k]?, c.status x = .disabled →
        ((c.selection x).isSome → w.system.engineState ≠ .off) ∧
          c.Fits x w.system
  | .setStatus k x .disabled, w =>
      ∀ c ∈ w.sessions[k]?, w.system.SparesUse [] (c.releases w.system [x])
  | .destroySession k, w =>
      ∀ c ∈ w.sessions[k]?,
        w.system.SparesUse [] (c.releases w.system Stream.all)
  | _, _ => True

instance KeepsUse.decidable : ∀ a w, Decidable (KeepsUse a w)
  | .setStatus k x .enabled, w =>
      inferInstanceAs (Decidable (∀ c ∈ w.sessions[k]?,
        c.status x = .disabled →
          ((c.selection x).isSome → w.system.engineState ≠ .off) ∧
            c.Fits x w.system))
  | .setStatus k x .disabled, w =>
      inferInstanceAs (Decidable (∀ c ∈ w.sessions[k]?,
        w.system.SparesUse [] (c.releases w.system [x])))
  | .destroySession k, w =>
      inferInstanceAs (Decidable (∀ c ∈ w.sessions[k]?,
        w.system.SparesUse [] (c.releases w.system Stream.all)))
  | .createSession _, _ => isTrue trivial
  | .engine _, _ => isTrue trivial

/-- Every stream of every provider runs exactly while a live session has it
enabled. -/
def RunsWhatIsEnabled (w : World) : Prop :=
  ∀ i ∈ w.system.order, ∀ x,
    w.system.Running i x ↔ ∃ c ∈ w.sessions, c.Uses i x

/-- The counters of the engine are the numbers of users, and every
implementation is counted once while its stream has users. -/
structure Accounted (w : World) : Prop where
  counted : Counted w
  implCounter : ∀ i ∈ w.system.order, ∀ x,
    w.system.implCounter i x = if 0 < w.users i x then 1 else 0
  unused : w.system.engineState = .off → ∀ i ∈ w.system.order, ∀ x,
    w.users i x = 0

theorem Accounted.runsWhatIsEnabled {w : World} (h : Accounted w) :
    RunsWhatIsEnabled w := by
  intro i hi x
  rw [← users_pos, h.counted.linked.inv.sound.running_iff, h.implCounter i hi x]
  split <;> simp_all

/-! ## The steps -/

theorem Accounted.enable {w : World} (h : Accounted w) {k : Nat} {c : Session}
    (hc : w.sessions[k]? = some c) {x : Stream} (hx : c.status x = .disabled)
    (hon : (c.selection x).isSome → w.system.engineState ≠ .off)
    (hfits : c.Fits x w.system) :
    let r := c.settleSetStatus x .enabled w.system
    Accounted ⟨r.2, w.sessions.set k r.1⟩ := by
  have hcounted := h.counted.enable hc hx hfits
  obtain ⟨hr₁, hcases⟩ := h.counted.enable_cases hc hx
  dsimp only at hcounted ⊢
  rw [hr₁] at hcounted ⊢
  rcases hcases with ⟨hidle, hr₂⟩ | ⟨i, hi, hsel, hne, -, hst⟩
  · have hsel : c.selection x = none := by
      rcases hidle with hsel | hoff
      · exact hsel
      · cases hs : c.selection x with
        | none => rfl
        | some i => exact absurd hoff (hon (by rw [hs]; rfl))
    rw [hr₂] at hcounted ⊢
    refine
      { counted := hcounted
        implCounter := fun j hj y => ?_
        unused := fun hoff j hj y => ?_ }
    · rw [users_enable_null hc hx _ hsel]
      exact h.implCounter j hj y
    · rw [users_enable_null hc hx _ hsel]
      exact h.unused hoff j hj y
  · refine
      { counted := hcounted
        implCounter := fun j hj y => ?_
        unused := fun hoff => absurd hoff hst.running }
    have hj' : j ∈ w.system.order := hst.order ▸ hj
    have hold := h.implCounter j hj' y
    have hcount := h.counted.counter hne i hi x
    rw [users_enable_on hc hx _ hsel, hst.implCounter j y, hold]
    by_cases hjy : j = i ∧ y = x
    · obtain ⟨rfl, rfl⟩ := hjy
      by_cases hu : w.users j y = 0
      · simp [hcount, hu]
      · have hpos : 0 < w.users j y := Nat.pos_of_ne_zero hu
        simp [hcount, hu, hpos]
    · simp [hjy]

theorem Accounted.disable {w : World} (h : Accounted w) {k : Nat} {c : Session}
    (hc : w.sessions[k]? = some c) {x : Stream} (hx : c.status x = .enabled)
    (halone : ∀ i, c.selection x = some i → w.system.engineState ≠ .off →
      w.system.StopsAlone i x) :
    let r := c.settleSetStatus x .disabled w.system
    Accounted ⟨r.2, w.sessions.set k r.1⟩ := by
  have hcounted := h.counted.disable hc hx halone
  obtain ⟨hr₁, hcases⟩ := h.counted.disable_cases hc hx halone
  dsimp only at hcounted ⊢
  rw [hr₁] at hcounted ⊢
  have hmem : c ∈ w.sessions := List.mem_of_getElem? hc
  rcases hcases with ⟨hidle, hr₂⟩ | ⟨i, hi, hsel, hne, -, hst⟩
  · have hsel : c.selection x = none := by
      rcases hidle with hsel | hoff
      · exact hsel
      · cases hs : c.selection x with
        | none => rfl
        | some i =>
            have huses : 0 < w.users i x := users_pos.mpr ⟨c, hmem, hs, hx⟩
            have hi := h.counted.linked.known c hmem x i hs
            rw [h.unused hoff i hi x] at huses
            exact absurd huses (Nat.lt_irrefl 0)
    rw [hr₂] at hcounted ⊢
    refine
      { counted := hcounted
        implCounter := fun j hj y => ?_
        unused := fun hoff j hj y => ?_ }
    · rw [users_disable_null hc hx _ hsel]
      exact h.implCounter j hj y
    · rw [users_disable_null hc hx _ hsel]
      exact h.unused hoff j hj y
  · refine
      { counted := hcounted
        implCounter := fun j hj y => ?_
        unused := fun hoff => absurd hoff hst.running }
    have hj' : j ∈ w.system.order := hst.order ▸ hj
    have hold := h.implCounter j hj' y
    have hcount := h.counted.counter hne i hi x
    have husers := users_disable_on hc hx
      (c.settleSetStatus x .disabled w.system).2 hsel j y
    rw [hst.implCounter j y, hold]
    by_cases hjy : j = i ∧ y = x
    · rw [if_pos hjy] at husers
      obtain ⟨rfl, rfl⟩ := hjy
      have hu : 0 < w.users j y := by omega
      let after := users ⟨(c.settleSetStatus y .disabled w.system).2,
        w.sessions.set k (c.switched y .disabled)⟩ j y
      by_cases hone : w.system.counter j y = 1
      · have hzero : after = 0 := by omega
        simp [hone, hu, after, hzero]
      · have hpos : 0 < after := by omega
        simp [hone, hu, after, hpos]
    · rw [if_neg hjy] at husers
      have hno : ¬ ((j = i ∧ y = x) ∧ w.system.counter i x = 1) :=
        fun hh => hjy hh.1
      rw [if_neg hno, husers]

/-- What the list of stops says about the first of them. -/
private theorem Accounted.stopsAlone {w : World} (h : Accounted w)
    {c : Session} {x : Stream} (hx : c.status x = .enabled) {xs : List Stream}
    (hspare : w.system.SparesUse [] (c.releases w.system (x :: xs)))
    {i : ProviderId} (hsel : c.selection x = some i)
    (hne : w.system.engineState ≠ .off) : w.system.StopsAlone i x := by
  intro hone hact honly j hj y hjy
  rw [Session.releases_cons_last xs hx hsel hone] at hspare
  have hnone : ¬ 0 < w.system.counter j y := by
    intro hpos
    have hmem := hspare.1 hact (by simp)
      (fun k hk hkact => by simp [honly k hk hkact]) j hj y hpos
    have he := List.mem_singleton.mp hmem
    exact hjy ⟨congrArg Prod.fst he, congrArg Prod.snd he⟩
  have hcount := h.counted.counter hne j hj y
  omega

/-- One stream of a list: the state is accounted for again, and the other
stops still spare what is in use. -/
private theorem Accounted.disable_head {w : World} (h : Accounted w) {k : Nat}
    {c : Session} (hc : w.sessions[k]? = some c) {x : Stream}
    {xs : List Stream} (hfresh : x ∉ xs)
    (hspare : w.system.SparesUse [] (c.releases w.system (x :: xs))) :
    let r := c.settleSetStatus x .disabled w.system
    Accounted ⟨r.2, w.sessions.set k r.1⟩ ∧
      r.2.SparesUse [] (r.1.releases r.2 xs) ∧
      ∀ y, y = x ∨ c.status y = .disabled → r.1.status y = .disabled := by
  have hmem : c ∈ w.sessions := List.mem_of_getElem? hc
  have hne : ∀ y ∈ xs, y ≠ x := fun y hy e => hfresh (e ▸ hy)
  by_cases hx : c.status x = .enabled
  · have halone : ∀ i, c.selection x = some i →
        w.system.engineState ≠ .off → w.system.StopsAlone i x :=
      fun i hsel hoff => h.stopsAlone hx hspare hsel hoff
    obtain ⟨hr₁, hcases⟩ := h.counted.disable_cases hc hx halone
    let r := c.settleSetStatus x .disabled w.system
    have hr : r.1 = c.switched x .disabled := hr₁
    refine ⟨h.disable hc hx halone, ?_, fun y hy => ?_⟩
    · have hrel : ∀ t : System, (∀ y ∈ xs, ∀ j, c.selection y = some j →
          t.counter j y = w.system.counter j y) →
          r.1.releases t xs = c.releases w.system xs := by
        intro t hcount
        refine Session.releases_congr (by rw [hr]; rfl) xs (fun y hy => ?_)
          hcount
        rw [hr]
        exact Session.switched_status_ne c .disabled (hne y hy)
      rcases hcases with ⟨hidle, hr₂⟩ | ⟨i, -, hsel, -, -, hst⟩
      · show r.2.SparesUse [] (r.1.releases r.2 xs)
        have hr₂' : r.2 = w.system := hr₂
        rw [hr₂', hrel w.system fun _ _ _ _ => rfl]
        rw [Session.releases_cons_idle xs fun i hi _ => ?_] at hspare
        · exact hspare
        · have hio := h.counted.linked.known c hmem x i hi
          rcases hidle with hsel | hoff
          · rw [hsel] at hi
            cases hi
          · rw [h.counted.linked.inv.switches.off_disabled hoff i hio x]
            decide
      · have hcount : ∀ y ∈ xs, ∀ j, c.selection y = some j →
            r.2.counter j y = w.system.counter j y := by
          intro y hy j hj
          have hjo := h.counted.linked.known c hmem y j hj
          have hstep := hst.counter j hjo y
          rwa [if_neg fun hjy => hne y hy hjy.2] at hstep
        show r.2.SparesUse [] (r.1.releases r.2 xs)
        rw [hrel r.2 hcount]
        by_cases hone : w.system.counter i x = 1
        · rw [Session.releases_cons_last xs hx hsel hone] at hspare
          have hgone : ∀ q, q ∈ [(i, x)] ↔ q = (i, x) ∨
              q ∈ ([] : List (ProviderId × Stream)) := by
            simp
          exact hspare.2.released hst hone hgone
        · rw [Session.releases_cons_idle xs fun j hj _ => by
            rw [hsel] at hj
            rwa [← Option.some.inj hj]] at hspare
          exact hspare.kept hst hone
    · rw [hr₁]
      by_cases hyx : y = x
      · rw [hyx]
        exact Session.switched_status_self c x .disabled
      · rw [Session.switched_status_ne c .disabled hyx]
        exact hy.resolve_left hyx
  · have hx' : c.status x = .disabled := by
      cases hv : c.status x with
      | enabled => exact absurd hv hx
      | disabled => rfl
    dsimp only
    rw [Session.settleSetStatus_same hx']
    rw [Session.releases_cons_idle xs fun _ _ he => absurd he hx] at hspare
    refine ⟨?_, hspare, fun y hy => ?_⟩
    · show Accounted ⟨w.system, w.sessions.set k c⟩
      rw [set_same hc]
      exact h
    · rcases hy with rfl | hy
      · exact hx'
      · exact hy

/-- Disabling several streams of a session, when the stops together spare what
is in use. -/
theorem Accounted.disableAll {xs : List Stream} (hnd : xs.Nodup) {w : World}
    (h : Accounted w) {k : Nat} {c : Session} (hc : w.sessions[k]? = some c)
    (hspare : w.system.SparesUse [] (c.releases w.system xs)) :
    let r := c.settleDisableAll xs w.system
    Accounted ⟨r.2, w.sessions.set k r.1⟩ ∧
      ∀ y, y ∈ xs ∨ c.status y = .disabled → r.1.status y = .disabled := by
  induction xs generalizing w c with
  | nil =>
      refine ⟨?_, fun y hy => hy.resolve_left (by simp)⟩
      show Accounted ⟨w.system, w.sessions.set k c⟩
      rw [set_same hc]
      exact h
  | cons x xs ih =>
      obtain ⟨hfresh, hnd'⟩ := List.nodup_cons.mp hnd
      let r := c.settleSetStatus x .disabled w.system
      have hnext : (w.sessions.set k r.1)[k]? = some r.1 := by
        obtain ⟨hk, -⟩ := List.getElem?_eq_some_iff.mp hc
        simp [hk]
      obtain ⟨hacc, hspare', hstatus⟩ := h.disable_head hc hfresh hspare
      obtain ⟨hfinal, hall⟩ := ih hnd' hacc hnext hspare'
      rw [List.set_set] at hfinal
      refine ⟨hfinal, fun y hy => hall y ?_⟩
      rcases hy with hy | hy
      · rcases List.mem_cons.mp hy with rfl | hy
        · exact .inr (hstatus y (.inl rfl))
        · exact .inl hy
      · exact .inr (hstatus y (.inr hy))

/-- A session that uses nothing can be removed. -/
private theorem Accounted.eraseIdx {w : World} (h : Accounted w) {k : Nat}
    {c : Session} (hc : w.sessions[k]? = some c)
    (hidle : ∀ x, c.status x = .disabled) :
    Accounted { w with sessions := w.sessions.eraseIdx k } := by
  refine
    { counted := h.counted.eraseIdx hc hidle
      implCounter := fun i hi x => ?_
      unused := fun hoff i hi x => ?_ }
  · rw [users_eraseIdx hc hidle]
    exact h.implCounter i hi x
  · rw [users_eraseIdx hc hidle]
    exact h.unused hoff i hi x

theorem Accounted.destroy {w : World} (h : Accounted w) {k : Nat} {c : Session}
    (hc : w.sessions[k]? = some c)
    (hspare : w.system.SparesUse [] (c.releases w.system Stream.all)) :
    Accounted ⟨c.settleDestroy w.system, w.sessions.eraseIdx k⟩ := by
  obtain ⟨hacc, hidle⟩ := h.disableAll Stream.nodup_all hc hspare
  have hin := h.counted.linked.inStep c (List.mem_of_getElem? hc)
  let r := c.settleDisableAll Stream.all w.system
  have hget : (w.sessions.set k r.1)[k]? = some r.1 := by
    obtain ⟨hk, -⟩ := List.getElem?_eq_some_iff.mp hc
    simp [hk]
  have herase := hacc.eraseIdx hget
    fun x => hidle x (.inl (Stream.mem_all x))
  rw [List.eraseIdx_set_eq] at herase
  rw [hin.settleDestroy_eq]
  exact herase

theorem Accounted.create {w : World} (h : Accounted w)
    {selection : Stream → Option ProviderId}
    (hsel : SelectsKnown w.system selection) :
    Accounted { w with sessions := w.sessions ++ [.init selection] } := by
  refine
    { counted := h.counted.create hsel
      implCounter := fun i hi x => ?_
      unused := fun hoff i hi x => ?_ }
  · rw [users_create]
    exact h.implCounter i hi x
  · rw [users_create]
    exact h.unused hoff i hi x

theorem Accounted.addProvider {w : World} (h : Accounted w) (k : Nat)
    (req : Bool) :
    Accounted { w with system := w.system.addProvider k req } := by
  obtain ⟨hsame, himpl, -⟩ :=
    System.addProvider_counter k req h.counted.linked.satellite
  refine
    { counted := h.counted.addProvider k req
      implCounter := fun i hi x => ?_
      unused := fun hoff i hi x => ?_ }
  · rcases mem_addProvider h.counted.linked k req hi with
      ⟨rfl, hfresh⟩ | ⟨hi', hio⟩
    · have hu : users { w with system := w.system.addProvider k req }
          w.system.order.length x = 0 :=
        h.counted.linked.users_of_fresh hfresh x
      rw [hu]
      exact himpl x
    · have hold := h.implCounter i hio x
      unfold System.implCounter at hold ⊢
      rw [hsame i hi']
      exact hold
  · rcases mem_addProvider h.counted.linked k req hi with
      ⟨rfl, hfresh⟩ | ⟨-, hio⟩
    · exact h.counted.linked.users_of_fresh hfresh x
    · exact h.unused hoff i hio x

theorem Accounted.constructService {w : World} (h : Accounted w)
    (hempty : w.sessions = []) :
    Accounted { w with system := w.system.settleConstructService } := by
  have hatt := System.attached_settleConstructService h.counted.linked.satellite
  refine
    { counted := h.counted.constructService hempty
      implCounter := fun i hi x => ?_
      unused := fun hoff i hi x => ?_ }
  · have hold := h.implCounter i (hatt.order ▸ hi) x
    unfold System.implCounter at hold ⊢
    rw [hatt.impl i]
    exact hold
  · exact h.unused (hatt.engineState.mp hoff) i (hatt.order ▸ hi) x

theorem accounted_initEngine (v : Status) :
    Accounted ⟨System.initEngine v, []⟩ :=
  { counted := counted_initEngine v
    implCounter := fun _ hi => nomatch hi
    unused := fun _ _ hi => nomatch hi }

/-- Every step that keeps what is in use in use leaves an accounted state. -/
theorem Accounted.step {a : Action} {w w' : World} (h : Accounted w)
    (hses : SessionStep a w) (hkeep : KeepsUse a w) (hst : Step a w w') :
    Accounted w' := by
  have hcases := step_cases hst
  cases a with
  | createSession selection =>
      obtain ⟨hsel, rfl⟩ := hcases
      exact h.create hsel
  | setStatus k x v =>
      obtain ⟨c, hc, rfl⟩ := hcases
      by_cases hv : c.status x = v
      · rw [Session.settleSetStatus_same hv]
        show Accounted ⟨w.system, w.sessions.set k c⟩
        rw [set_same hc]
        exact h
      · cases v with
        | enabled =>
            have hx : c.status x = .disabled := by
              cases hval : c.status x with
              | enabled => exact absurd hval hv
              | disabled => rfl
            obtain ⟨hon, hfits⟩ := hkeep c hc hx
            exact h.enable hc hx hon hfits
        | disabled =>
            have hx : c.status x = .enabled := enabled_of_ne hv
            exact h.disable hc hx fun i hsel hne =>
              h.stopsAlone hx (hkeep c hc) hsel hne
  | destroySession k =>
      obtain ⟨c, hc, rfl⟩ := hcases
      exact h.destroy hc (hkeep c hc)
  | engine a =>
      obtain ⟨s, hs, rfl⟩ := hcases
      cases a with
      | addProvider k req =>
          obtain rfl : w.system.addProvider k req = s := Option.some.inj hs
          exact h.addProvider k req
      | constructService =>
          obtain ⟨-, rfl⟩ :=
            System.step_constructService (System.step_iff.mpr hs)
          exact h.constructService hses
      | setEngineState v => exact hses.elim
      | setSatellite v => exact hses.elim
      | setOnline v => exact hses.elim
      | setDoesSatellite v => exact hses.elim
      | start i x => exact hses.elim
      | stop i x => exact hses.elim

/-- In every run that keeps what is in use in use, the implementations run
exactly what the live sessions have enabled. -/
theorem runs_what_is_enabled {w : World}
    (h : machine.Reach (fun a w => SessionStep a w ∧ KeepsUse a w) w) :
    RunsWhatIsEnabled w := by
  have hacc : Accounted w := by
    refine Machine.Reach.invariant (fun w hw => ?_) (fun a w w' h hg hst => ?_) h
    · obtain ⟨v, rfl⟩ := hw
      exact accounted_initEngine v
    · exact h.step hg.1 hg.2 hst
  exact hacc.runsWhatIsEnabled

/-- Two sessions share a stream, and one of them disables it. -/
theorem runs_what_is_enabled_position :
    ∃ w, Machine.replay settleExec (fun a w => SessionStep a w ∧ KeepsUse a w)
        [.engine (.addProvider 0 false), .createSession fun _ => some 0,
          .createSession fun _ => some 0, .setStatus 0 .position .enabled,
          .setStatus 1 .position .enabled, .setStatus 0 .position .disabled]
        ⟨System.initEngine .on, []⟩ = some w ∧
      w.system.Running 0 .position ∧ RunsWhatIsEnabled w := by
  have hrun : (Machine.replay settleExec
      (fun a w => SessionStep a w ∧ KeepsUse a w)
      [.engine (.addProvider 0 false), .createSession fun _ => some 0,
        .createSession fun _ => some 0, .setStatus 0 .position .enabled,
        .setStatus 1 .position .enabled, .setStatus 0 .position .disabled]
      ⟨System.initEngine .on, []⟩).any (fun w =>
        decide (w.system.Running 0 .position)) = true := by
    decide
  obtain ⟨w, hw, hreach, hposition⟩ := exists_of_replay hrun
  exact ⟨w, hw, hposition, runs_what_is_enabled hreach⟩

/-- A session enables position and heading and disables both again: the first
stop has the engine zero the counter of heading, and the second stop finds
nothing to release. -/
theorem heading_runs_for_nobody :
    ¬ ∀ w, machine.Reach SessionStep w → RunsWhatIsEnabled w := by
  intro hclaim
  have hrun : (Machine.replay settleExec SessionStep
      [.engine (.addProvider 0 false), .createSession fun _ => some 0,
        .setStatus 0 .position .enabled, .setStatus 0 .heading .enabled,
        .setStatus 0 .position .disabled, .setStatus 0 .heading .disabled]
      ⟨System.initEngine .on, []⟩).any (fun w =>
        decide (0 ∈ w.system.order ∧ w.system.Running 0 .heading ∧
          ∀ c ∈ w.sessions, c.status .heading = .disabled)) = true := by
    decide
  obtain ⟨w, -, hreach, hmem, hrunning, hidle⟩ := exists_of_replay hrun
  obtain ⟨c, hc, huses⟩ := (hclaim w hreach 0 hmem .heading).mp hrunning
  have henabled := huses.2
  rw [hidle c hc] at henabled
  cases henabled

end World

end LocationService
