import LocationService.Library.Machine
import Mathlib.Algebra.Order.BigOperators.Group.Finset
import Mathlib.Algebra.Order.Ring.Int
import Mathlib.Data.List.Induction

/-!
# A count of users that is kept at a distance

Each of several users switches the use of a resource on and off.  A switch is a
command in the user's own queue; the commands are executed later, one by one,
and the resource counts who uses it.  A command may get lost, and a user may
leave: its commands are lost then, with the stop that it never sent.

The count is a number between zero and a limit.  It refuses to be operated once
it has fallen below zero, or wrapped around to a negative number above its
limit.

The commands of a queue alternate, so that the first of them tells what the
resource has been told before (`origin`).  `balance` counts the users by what
it has been told, and corrects that by what got lost.

## Main results

* `Shows.run_cases` — the count is the balance as long as this stays between
  zero and the limit; once it does not, the count keeps the value that tells on
  which side.
* `Shows.count_of_no_loss` — without losses the count is the number of users
  and never refuses, when the limit is not below their number.
-/

namespace LocationService.Library

/-! ## Queues of switches -/

/-- The state before the commands of a queue that ends in the given state. -/
def origin (wanted : Bool) : List Bool → Bool
  | [] => wanted
  | command :: _ => !command

/-- Every command of the queue changes the state, and the last one leads to the
given state. -/
def Alternates (wanted : Bool) : List Bool → Prop
  | [] => True
  | command :: rest => origin wanted rest = command ∧ Alternates wanted rest

theorem Alternates.concat {wanted : Bool} {queue : List Bool}
    (h : Alternates wanted queue) :
    Alternates (!wanted) (queue ++ [!wanted]) := by
  induction queue with
  | nil => exact ⟨rfl, trivial⟩
  | cons command rest ih =>
      constructor
      · have horigin := h.1
        cases rest with
        | nil => simpa [origin] using horigin
        | cons _ _ => exact horigin
      · exact ih h.2

theorem origin_concat (wanted : Bool) (queue : List Bool) :
    origin (!wanted) (queue ++ [!wanted]) = origin wanted queue := by
  cases queue with
  | nil => simp [origin]
  | cons _ _ => rfl

/-- The commands of a queue, and the stop that would follow, add up to what the
resource has been told before. -/
theorem Alternates.count_sub {wanted : Bool} {queue : List Bool}
    (h : Alternates wanted queue) :
    (queue.count false : Int) + (if wanted then 1 else 0) - queue.count true =
      if origin wanted queue then 1 else 0 := by
  induction queue with
  | nil => cases wanted <;> rfl
  | cons command rest ih =>
      have hrest := ih h.2
      rw [h.1] at hrest
      rw [List.count_cons, List.count_cons]
      cases command with
      | false =>
          have horigin : origin wanted (false :: rest) = true := rfl
          simp only [horigin] at hrest ⊢
          simp at hrest ⊢
          omega
      | true =>
          have horigin : origin wanted (true :: rest) = false := rfl
          simp only [horigin] at hrest ⊢
          simp at hrest ⊢
          omega

/-! ## Values that leave an interval -/

section Excursions

variable {ε : Type} {value : List ε → Int} {limit : Int} {es : List ε}

/-- Between zero and the limit from the beginning on. -/
def StaysWithin (value : List ε → Int) (limit : Int) (es : List ε) : Prop :=
  ∀ before, before <+: es → 0 ≤ value before ∧ value before ≤ limit

/-- Below zero at some time, and not above the limit before. -/
def FallsBelow (value : List ε → Int) (limit : Int) (es : List ε) : Prop :=
  ∃ before, before <+: es ∧ value before < 0 ∧
    ∀ earlier, earlier <+: before → value earlier ≤ limit

/-- Above the limit at some time, and not below zero before. -/
def RisesAbove (value : List ε → Int) (limit : Int) (es : List ε) : Prop :=
  ∃ before, before <+: es ∧ limit < value before ∧
    ∀ earlier, earlier <+: before → 0 ≤ value earlier

theorem FallsBelow.append (h : FallsBelow value limit es) (more : List ε) :
    FallsBelow value limit (es ++ more) := by
  obtain ⟨before, hbefore, hneg, hall⟩ := h
  exact ⟨before, hbefore.trans (List.prefix_append es more), hneg, hall⟩

theorem RisesAbove.append (h : RisesAbove value limit es) (more : List ε) :
    RisesAbove value limit (es ++ more) := by
  obtain ⟨before, hbefore, habove, hall⟩ := h
  exact ⟨before, hbefore.trans (List.prefix_append es more), habove, hall⟩

theorem StaysWithin.not_fallsBelow (h : StaysWithin value limit es) :
    ¬ FallsBelow value limit es := by
  rintro ⟨before, hbefore, hneg, -⟩
  have := h before hbefore
  omega

theorem StaysWithin.not_risesAbove (h : StaysWithin value limit es) :
    ¬ RisesAbove value limit es := by
  rintro ⟨before, hbefore, habove, -⟩
  have := h before hbefore
  omega

/-- Only one side is left first. -/
theorem FallsBelow.not_risesAbove (h : FallsBelow value limit es) :
    ¬ RisesAbove value limit es := by
  rintro ⟨high, hhigh, habove, hnonneg⟩
  obtain ⟨low, hlow, hneg, hle⟩ := h
  rcases List.prefix_or_prefix_of_prefix hlow hhigh with hfirst | hfirst
  · have := hnonneg low hfirst
    omega
  · have := hle high hfirst
    omega

theorem StaysWithin.concat (h : StaysWithin value limit es) {e : ε}
    (hnonneg : 0 ≤ value (es ++ [e])) (hle : value (es ++ [e]) ≤ limit) :
    StaysWithin value limit (es ++ [e]) := by
  intro before hbefore
  rcases List.prefix_concat_iff.mp hbefore with rfl | hbefore
  · exact ⟨hnonneg, hle⟩
  · exact h before hbefore

theorem StaysWithin.fallsBelow_concat (h : StaysWithin value limit es) {e : ε}
    (hlimit : 0 < limit) (hneg : value (es ++ [e]) < 0) :
    FallsBelow value limit (es ++ [e]) := by
  refine ⟨_, List.prefix_rfl, hneg, fun earlier hearlier => ?_⟩
  rcases List.prefix_concat_iff.mp hearlier with rfl | hearlier
  · omega
  · exact (h earlier hearlier).2

theorem StaysWithin.risesAbove_concat (h : StaysWithin value limit es) {e : ε}
    (hlimit : 0 < limit) (habove : limit < value (es ++ [e])) :
    RisesAbove value limit (es ++ [e]) := by
  refine ⟨_, List.prefix_rfl, habove, fun earlier hearlier => ?_⟩
  rcases List.prefix_concat_iff.mp hearlier with rfl | hearlier
  · omega
  · exact (h earlier hearlier).1

end Excursions

/-! ## Users, queues and the count -/

/-- The users of a resource, with their commands on the way, the oldest first.
A command is `true` for a start. -/
@[ext] structure UseCount (ι : Type) where
  wanted : ι → Bool
  queue : ι → List Bool
  count : Int
  /-- The commands that got lost. -/
  lost : List Bool

namespace UseCount

variable {ι : Type}

/-- Nobody uses the resource. -/
def init : UseCount ι := ⟨fun _ => false, fun _ => [], 0, []⟩

/-- What may happen; a step that concerns something else is `idle`. -/
inductive Step (ι : Type) where
  | switch (i : ι)
  | execute (i : ι)
  | lose (i : ι)
  | leave (i : ι)
  | idle

/-- Executes a command on a count with a limit. -/
def operate (limit : Int) (command : Bool) (count : Int) : Int :=
  if count < 0 then count
  else if command then
    if count = limit then -limit - 1 else count + 1
  else count - 1

/-- The user uses the resource as far as the commands taken from its queue
tell. -/
def told (s : UseCount ι) (i : ι) : Bool := origin (s.wanted i) (s.queue i)

theorem told_of_queue {s : UseCount ι} {i : ι} {command : Bool}
    {rest : List Bool} (hqueue : s.queue i = command :: rest) :
    s.told i = !command := by
  simp [told, hqueue, origin]

/-- A count that refuses stays as it is. -/
theorem operate_of_neg {limit count : Int} (h : count < 0) (command : Bool) :
    operate limit command count = count :=
  if_pos h

/-- What becomes of a count in range: it moves, falls below zero, or wraps around
at the limit. -/
theorem operate_cases {limit count : Int} (h : 0 ≤ count) (hle : count ≤ limit)
    (command : Bool) :
    let moved := count + if command then 1 else -1
    (operate limit command count = moved ∧ 0 ≤ moved ∧ moved ≤ limit) ∨
      (operate limit command count = -1 ∧ moved < 0) ∨
      (operate limit command count = -limit - 1 ∧ limit < moved) := by
  have hnonneg : ¬ count < 0 := by omega
  cases command with
  | false =>
      simp only [operate, hnonneg, Bool.false_eq_true, if_false]
      omega
  | true =>
      simp only [operate, hnonneg, if_true, if_false]
      split <;> omega

variable [DecidableEq ι]

def switch (i : ι) (s : UseCount ι) : UseCount ι :=
  { s with
    wanted := Function.update s.wanted i (!s.wanted i)
    queue := Function.update s.queue i (s.queue i ++ [!s.wanted i]) }

def execute (limit : Int) (i : ι) (s : UseCount ι) : UseCount ι :=
  match s.queue i with
  | [] => s
  | command :: rest =>
      { s with
        queue := Function.update s.queue i rest
        count := operate limit command s.count }

def lose (i : ι) (s : UseCount ι) : UseCount ι :=
  match s.queue i with
  | [] => s
  | command :: rest =>
      { s with
        queue := Function.update s.queue i rest
        lost := command :: s.lost }

/-- The user leaves without a stop. -/
def leave (i : ι) (s : UseCount ι) : UseCount ι :=
  { s with
    wanted := Function.update s.wanted i false
    queue := Function.update s.queue i []
    lost := (if s.wanted i then [false] else []) ++ s.queue i ++ s.lost }

def next (limit : Int) : Step ι → UseCount ι → UseCount ι
  | .switch i, s => s.switch i
  | .execute i, s => s.execute limit i
  | .lose i, s => s.lose i
  | .leave i, s => s.leave i
  | .idle, s => s

/-- How many users there are. -/
def users [Fintype ι] (uses : ι → Bool) : Int :=
  ∑ i, if uses i then 1 else 0

/-- The users by what was told, with the lost stops and without the lost
starts. -/
def balance [Fintype ι] (s : UseCount ι) : Int :=
  users s.told + s.lost.count false - s.lost.count true

/-- Every queue leads to what its user wants. -/
def Consistent (s : UseCount ι) : Prop :=
  ∀ i, Alternates (s.wanted i) (s.queue i)

/-! ## One step -/

variable {limit : Int}

/-- What a step does to queues, wishes, count and lost commands. -/
theorem next_cases (limit : Int) (step : Step ι) (s : UseCount ι) :
    next limit step s = s ∨ (∃ i, next limit step s = s.switch i) ∨
      (∃ i, next limit step s = s.leave i) ∨
      ∃ i command rest, s.queue i = command :: rest ∧
        (next limit step s = { s with
            queue := Function.update s.queue i rest
            count := operate limit command s.count } ∨
          next limit step s = { s with
            queue := Function.update s.queue i rest
            lost := command :: s.lost }) := by
  cases step with
  | switch i => exact .inr (.inl ⟨i, rfl⟩)
  | execute i =>
      simp only [next, execute]
      cases hqueue : s.queue i with
      | nil => exact .inl rfl
      | cons command rest =>
          exact .inr (.inr (.inr ⟨i, command, rest, hqueue, .inl rfl⟩))
  | lose i =>
      simp only [next, lose]
      cases hqueue : s.queue i with
      | nil => exact .inl rfl
      | cons command rest =>
          exact .inr (.inr (.inr ⟨i, command, rest, hqueue, .inr rfl⟩))
  | leave i => exact .inr (.inr (.inl ⟨i, rfl⟩))
  | idle => exact .inl rfl

theorem Consistent.switch {s : UseCount ι} (h : s.Consistent) (i : ι) :
    (s.switch i).Consistent := by
  intro j
  by_cases hj : j = i
  · subst hj
    simpa [UseCount.switch] using (h j).concat
  · simpa [UseCount.switch, hj] using h j

theorem Consistent.pop {s : UseCount ι} (h : s.Consistent) {i : ι}
    {command : Bool} {rest : List Bool} (hqueue : s.queue i = command :: rest)
    (j : ι) : Alternates (s.wanted j) (Function.update s.queue i rest j) := by
  by_cases hj : j = i
  · subst hj
    have halternates := h j
    rw [hqueue] at halternates
    simpa using halternates.2
  · simpa [hj] using h j

theorem Consistent.leave {s : UseCount ι} (h : s.Consistent) (i : ι) :
    (s.leave i).Consistent := by
  intro j
  by_cases hj : j = i
  · subst hj
    simp [UseCount.leave, Alternates]
  · simpa [UseCount.leave, hj] using h j

theorem Consistent.next {s : UseCount ι} (h : s.Consistent) (step : Step ι) :
    (next limit step s).Consistent := by
  rcases next_cases limit step s with hnext | ⟨i, hnext⟩ | ⟨i, hnext⟩ |
    ⟨i, command, rest, hqueue, hnext | hnext⟩
  · rwa [hnext]
  · rw [hnext]
    exact h.switch i
  · rw [hnext]
    exact h.leave i
  · rw [hnext]
    exact h.pop hqueue
  · rw [hnext]
    exact h.pop hqueue

/-- Switching is not told before its command is taken. -/
theorem told_switch (s : UseCount ι) (i : ι) : (s.switch i).told = s.told := by
  funext j
  by_cases hj : j = i
  · subst hj
    simpa [told, UseCount.switch] using origin_concat (s.wanted j) (s.queue j)
  · simp [told, UseCount.switch, hj]

/-- Taking a command changes what was told by it. -/
theorem Consistent.told_pop {s : UseCount ι} (h : s.Consistent) {i : ι}
    {command : Bool} {rest : List Bool}
    (hqueue : s.queue i = command :: rest) (count : Int) (lost : List Bool) :
    told ⟨s.wanted, Function.update s.queue i rest, count, lost⟩ =
      Function.update s.told i command := by
  have halternates := h i
  rw [hqueue] at halternates
  funext j
  by_cases hj : j = i
  · subst hj
    simpa [told] using halternates.1
  · simp [told, hj]

/-- The resource was not told anything by a user that has left. -/
theorem told_leave (s : UseCount ι) (i : ι) :
    (s.leave i).told = Function.update s.told i false := by
  funext j
  by_cases hj : j = i
  · subst hj
    simp [told, UseCount.leave, origin]
  · simp [told, UseCount.leave, hj]

variable [Fintype ι]

/-- The number of users changes by the change of one of them. -/
theorem users_update (uses : ι → Bool) (i : ι) (b : Bool) :
    users (Function.update uses i b) =
      users uses + ((if b then 1 else 0) - (if uses i then 1 else 0)) := by
  unfold users
  rw [← Finset.add_sum_erase _ _ (Finset.mem_univ i),
    ← Finset.add_sum_erase (a := i) _ (fun j => if uses j then (1 : Int) else 0)
      (Finset.mem_univ i)]
  have hrest : ∑ j ∈ Finset.univ.erase i,
        (if Function.update uses i b j then (1 : Int) else 0) =
      ∑ j ∈ Finset.univ.erase i, (if uses j then (1 : Int) else 0) := by
    apply Finset.sum_congr rfl
    intro j hj
    rw [Function.update_of_ne (Finset.ne_of_mem_erase hj)]
  rw [hrest, Function.update_self]
  omega

omit [DecidableEq ι] in
theorem users_nonneg (uses : ι → Bool) : 0 ≤ users uses := by
  apply Finset.sum_nonneg
  intro i _
  split <;> omega

omit [DecidableEq ι] in
theorem users_le_card (uses : ι → Bool) : users uses ≤ Fintype.card ι := by
  have hle := Finset.sum_le_card_nsmul Finset.univ
    (fun i => if uses i then (1 : Int) else 0) 1
    (fun i _ => by split <;> omega)
  simpa [users] using hle

omit [DecidableEq ι] in
theorem users_pos_iff (uses : ι → Bool) :
    0 < users uses ↔ ∃ i, uses i = true := by
  constructor
  · intro hpos
    by_contra hnone
    have hzero : users uses = 0 := by
      apply Finset.sum_eq_zero
      intro i _
      rw [if_neg (fun hi => hnone ⟨i, hi⟩)]
    omega
  · rintro ⟨i, hi⟩
    apply Finset.sum_pos'
    · intro j _
      split <;> omega
    · exact ⟨i, Finset.mem_univ i, by rw [if_pos hi]; omega⟩

/-- What is lost when a user leaves makes up for its use. -/
theorem Consistent.balance_leave {s : UseCount ι} (h : s.Consistent) (i : ι) :
    (s.leave i).balance = s.balance := by
  have hsub := (h i).count_sub
  have hlost : ∀ command, (s.leave i).lost.count command =
      (if s.wanted i then [false] else []).count command +
        (s.queue i).count command + s.lost.count command := by
    intro command
    simp [UseCount.leave, List.count_append, Nat.add_assoc]
  unfold balance
  rw [told_leave, users_update, hlost, hlost]
  change _ = (if s.told i then (1 : Int) else 0) at hsub
  cases hwanted : s.wanted i with
  | false =>
      rw [hwanted] at hsub
      simp only [Bool.false_eq_true, if_false, List.count_nil] at hsub ⊢
      omega
  | true =>
      rw [hwanted] at hsub
      have hstop : List.count false [false] = 1 := rfl
      have hstart : List.count true [false] = 0 := rfl
      simp only [Bool.false_eq_true, if_true, if_false, hstop, hstart]
        at hsub ⊢
      omega

/-- The balance moves with the count; nothing else moves it. -/
theorem Consistent.balance_next {s : UseCount ι} (h : s.Consistent)
    (step : Step ι) :
    (UseCount.next limit step s).count = s.count ∧
        (UseCount.next limit step s).balance = s.balance ∨
      ∃ command,
        (UseCount.next limit step s).count = operate limit command s.count ∧
        (UseCount.next limit step s).balance =
          s.balance + if command then 1 else -1 := by
  rcases next_cases limit step s with hnext | ⟨i, hnext⟩ | ⟨i, hnext⟩ |
    ⟨i, command, rest, hqueue, hnext | hnext⟩
  · left
    rw [hnext]
    exact ⟨rfl, rfl⟩
  · left
    rw [hnext]
    constructor
    · rfl
    · rw [balance, told_switch]
      rfl
  · left
    rw [hnext]
    exact ⟨rfl, h.balance_leave i⟩
  · right
    refine ⟨command, by rw [hnext], ?_⟩
    rw [hnext, balance, balance, h.told_pop hqueue, users_update,
      told_of_queue hqueue]
    cases command <;> simp <;> omega
  · left
    rw [hnext]
    constructor
    · rfl
    · rw [balance, balance, h.told_pop hqueue, users_update,
        told_of_queue hqueue]
      cases command <;> simp <;> omega

/-! ## Systems that show a use count

A system shows a use count if each of its steps is one of the count.  What is
proved here is about the runs of such systems. -/

omit [Fintype ι]

/-- Every step of a system is a step of the use count that it shows. -/
structure Shows {σ ε : Type} (limit : Int) (view : σ → UseCount ι) (start : σ)
    (act : ε → σ → σ) : Prop where
  start : view start = init
  step : ∀ e s, ∃ step, view (act e s) = next limit step (view s)

namespace Shows

variable {σ ε : Type} {view : σ → UseCount ι} {start : σ} {act : ε → σ → σ}

open Machine (run run_concat)

theorem consistent (h : Shows limit view start act) (es : List ε) :
    (view (run start act es)).Consistent := by
  apply Machine.run_invariant fun s => (view s).Consistent
  · rw [h.start]
    exact fun _ => trivial
  · intro e s hconsistent
    obtain ⟨step, hstep⟩ := h.step e s
    rw [hstep]
    exact hconsistent.next step

/-- Lost commands stay lost. -/
theorem lost_of_prefix (h : Shows limit view start act) {es before : List ε}
    (hbefore : before <+: es) (command : Bool) :
    (view (run start act before)).lost.count command ≤
      (view (run start act es)).lost.count command := by
  induction es using List.reverseRecOn with
  | nil => rw [List.prefix_nil.mp hbefore]
  | append_singleton es e ih =>
      rcases List.prefix_concat_iff.mp hbefore with rfl | hbefore
      · exact Nat.le_refl _
      · apply Nat.le_trans (ih hbefore)
        obtain ⟨step, hstep⟩ := h.step e (run start act es)
        rw [run_concat, hstep]
        rcases next_cases limit step (view (run start act es)) with hnext |
          ⟨i, hnext⟩ | ⟨i, hnext⟩ | ⟨i, other, rest, -, hnext | hnext⟩
        · rw [hnext]
        · rw [hnext]
          exact Nat.le_refl _
        · rw [hnext]
          exact (List.sublist_append_right _ _).count_le command
        · rw [hnext]
        · rw [hnext]
          exact List.count_le_count_cons

section Runs

variable [Fintype ι] (h : Shows limit view start act) (hlimit : 0 < limit)
include h hlimit

/-- The count after a run, by where the balance has been. -/
theorem run_cases (es : List ε) :
    let value := fun es => (view (run start act es)).balance
    (view (run start act es)).count = value es ∧ StaysWithin value limit es ∨
      (view (run start act es)).count = -1 ∧ FallsBelow value limit es ∨
      (view (run start act es)).count = -limit - 1 ∧
        RisesAbove value limit es := by
  intro value
  have hvalue : ∀ es, value es = (view (run start act es)).balance :=
    fun _ => rfl
  induction es using List.reverseRecOn with
  | nil =>
      left
      have hzero : value [] = 0 := by
        have hstart : view (run start act []) = init := h.start
        rw [hvalue, hstart]
        simp [init, balance, users, told, origin]
      constructor
      · rw [hzero]
        exact congrArg UseCount.count h.start
      · intro before hbefore
        rw [List.prefix_nil.mp hbefore, hzero]
        omega
  | append_singleton es e ih =>
      obtain ⟨step, hstep⟩ := h.step e (run start act es)
      have hbalance : (UseCount.next limit step _).count = _ ∧ _ ∨ _ :=
        (h.consistent es).balance_next step
      have hconcat : run start act (es ++ [e]) = act e (run start act es) :=
        run_concat es e
      rw [← hstep, ← hconcat, ← hvalue, ← hvalue] at hbalance
      have hrefuses (hneg : (view (run start act es)).count < 0) :
          (view (run start act (es ++ [e]))).count =
            (view (run start act es)).count := by
        rcases hbalance with ⟨hsame, -⟩ | ⟨command, hoperate, -⟩
        · exact hsame
        · rw [hoperate, operate_of_neg hneg]
      rcases ih with ⟨hcount, hwithin⟩ | ⟨hcount, hfalls⟩ | ⟨hcount, hrises⟩
      · have hnow := hwithin es List.prefix_rfl
        rcases hbalance with ⟨hsame, hval⟩ | ⟨command, hoperate, hval⟩
        · left
          rw [hsame, hval]
          exact ⟨hcount, hwithin.concat (by omega) (by omega)⟩
        · have hmoved := operate_cases hnow.1 hnow.2 command
          rw [hoperate, hcount]
          rw [← hval] at hmoved
          rcases hmoved with ⟨hmoves, hge, hle⟩ | ⟨hfalls, hneg⟩ |
            ⟨hwraps, hover⟩
          · exact .inl ⟨hmoves, hwithin.concat hge hle⟩
          · exact .inr (.inl ⟨hfalls, hwithin.fallsBelow_concat hlimit hneg⟩)
          · exact .inr (.inr ⟨hwraps, hwithin.risesAbove_concat hlimit hover⟩)
      · right
        left
        refine ⟨?_, hfalls.append [e]⟩
        rw [hrefuses (by omega), hcount]
      · right
        right
        refine ⟨?_, hrises.append [e]⟩
        rw [hrefuses (by omega), hcount]

/-- A count that does not refuse is the balance. -/
theorem count_of_nonneg (es : List ε)
    (hnonneg : 0 ≤ (view (run start act es)).count) :
    (view (run start act es)).count = (view (run start act es)).balance := by
  rcases h.run_cases hlimit es with ⟨hcount, -⟩ | ⟨hcount, -⟩ | ⟨hcount, -⟩
  · exact hcount
  · omega
  · omega

/-- The count has fallen below zero. -/
theorem count_eq_neg_one_iff (es : List ε) :
    (view (run start act es)).count = -1 ↔
      FallsBelow (fun es => (view (run start act es)).balance) limit es := by
  rcases h.run_cases hlimit es with ⟨hcount, hwithin⟩ | ⟨hcount, hfalls⟩ |
    ⟨hcount, hrises⟩
  · have hnow := hwithin es List.prefix_rfl
    exact iff_of_false (by omega) hwithin.not_fallsBelow
  · exact iff_of_true hcount hfalls
  · exact iff_of_false (by omega) fun hfalls => hfalls.not_risesAbove hrises

/-- The count has wrapped around. -/
theorem count_eq_wrapped_iff (es : List ε) :
    (view (run start act es)).count = -limit - 1 ↔
      RisesAbove (fun es => (view (run start act es)).balance) limit es := by
  rcases h.run_cases hlimit es with ⟨hcount, hwithin⟩ | ⟨hcount, hfalls⟩ |
    ⟨hcount, hrises⟩
  · have hnow := hwithin es List.prefix_rfl
    exact iff_of_false (by omega) hwithin.not_risesAbove
  · exact iff_of_false (by omega) hfalls.not_risesAbove
  · exact iff_of_true hcount hrises

/-- A count that refuses is one of two numbers, and stays it. -/
theorem count_of_neg (es : List ε)
    (hneg : (view (run start act es)).count < 0) :
    ((view (run start act es)).count = -1 ∨
        (view (run start act es)).count = -limit - 1) ∧
      ∀ more, (view (run start act (es ++ more))).count =
        (view (run start act es)).count := by
  rcases h.run_cases hlimit es with ⟨hcount, hwithin⟩ | ⟨hcount, hfalls⟩ |
    ⟨hcount, hrises⟩
  · have hnow := hwithin es List.prefix_rfl
    omega
  · refine ⟨.inl hcount, fun more => ?_⟩
    rw [hcount, h.count_eq_neg_one_iff hlimit]
    exact hfalls.append more
  · refine ⟨.inr hcount, fun more => ?_⟩
    rw [hcount, h.count_eq_wrapped_iff hlimit]
    exact hrises.append more

/-- As long as nothing is lost, a count whose limit suffices for all users is
the number of those it was told of. -/
theorem count_of_no_loss {es : List ε}
    (hlost : ∀ command, (view (run start act es)).lost.count command = 0)
    (hcard : (Fintype.card ι : Int) ≤ limit) :
    (view (run start act es)).count = users (view (run start act es)).told := by
  have hbalance : ∀ before, before <+: es →
      (view (run start act before)).balance =
        users (view (run start act before)).told := by
    intro before hbefore
    have hearlier := fun command => h.lost_of_prefix hbefore command
    have hstart := hearlier true
    have hstop := hearlier false
    rw [hlost] at hstart hstop
    unfold balance
    omega
  rcases h.run_cases hlimit es with ⟨hcount, -⟩ |
    ⟨-, before, hbefore, hneg, -⟩ | ⟨-, before, hbefore, habove, -⟩
  · exact hcount.trans (hbalance es List.prefix_rfl)
  · have hnonneg := users_nonneg (view (run start act before)).told
    have hzero := hbalance before hbefore
    dsimp only at hneg
    omega
  · have hle := users_le_card (view (run start act before)).told
    have htold := hbalance before hbefore
    dsimp only at habove
    omega

end Runs

end Shows

end UseCount

end LocationService.Library
