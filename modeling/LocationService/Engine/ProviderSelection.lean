import LocationService.Library.OrderedSet
import LocationService.Session.Model

/-!
# The selection of providers for new sessions

For each stream `DefaultProviderSelectionPolicy` collects the providers that
match the criteria of a client in a `std::set` and takes its first element.
The comparator of that set only tells the providers whose stream runs from
those whose stream does not, so at most two providers are ever in the set.

The engine enumerates its providers under its lock and drops what the
enumerator throws.
-/

namespace LocationService

open LocationService.Library

namespace System

/-- `Engine::for_each_provider`: an enumerator that throws keeps what it did
before, and the next provider follows. -/
def forEachProvider {σ : Type} (s : System)
    (enumerator : ProviderId → σ → σ × Except String Unit) (a : σ) : σ :=
  s.order.foldl (fun a i => (enumerator i a).1) a

end System

namespace DefaultProviderSelectionPolicy

/-- The comparator of the set of matching providers. -/
def less (s : System) (x : Stream) : ProviderId → ProviderId → Bool :=
  OrderedSet.classesLess fun i => (s.provider i).controller.areUpdatesRunning x

section Criteria

variable (matchesCriteria : ProviderId → Except String Bool)

/-- The enumerator of the policy: a matching provider is inserted into the
set. -/
def insertMatching (s : System) (x : Stream) (i : ProviderId)
    (set : List ProviderId) : List ProviderId × Except String Unit :=
  match matchesCriteria i with
  | .ok true => (OrderedSet.insert (less s x) i set, .ok ())
  | .ok false => (set, .ok ())
  | .error what => (set, .error what)

/-- `determine_*_updates_provider`; nothing stands for the null provider. -/
def determineUpdatesProvider (s : System) (x : Stream) : Option ProviderId :=
  (s.forEachProvider (insertMatching matchesCriteria s x) []).head?

def determinePositionUpdatesProvider (s : System) : Option ProviderId :=
  determineUpdatesProvider matchesCriteria s .position
def determineHeadingUpdatesProvider (s : System) : Option ProviderId :=
  determineUpdatesProvider matchesCriteria s .heading
def determineVelocityUpdatesProvider (s : System) : Option ProviderId :=
  determineUpdatesProvider matchesCriteria s .velocity

/-- `determine_provider_selection_for_criteria`. -/
def determineProviderSelectionForCriteria (s : System) :
    Stream → Option ProviderId
  | .position => determinePositionUpdatesProvider matchesCriteria s
  | .heading => determineHeadingUpdatesProvider matchesCriteria s
  | .velocity => determineVelocityUpdatesProvider matchesCriteria s

/-- The provider answers that it matches, instead of not matching or
throwing. -/
def Matches (i : ProviderId) : Bool :=
  match matchesCriteria i with
  | .ok answer => answer
  | .error _ => false

/-- The enumerator leaves the set alone unless the provider matches. -/
theorem insertMatching_fst (s : System) (x : Stream) (i : ProviderId)
    (set : List ProviderId) :
    (insertMatching matchesCriteria s x i set).1 =
      if Matches matchesCriteria i then OrderedSet.insert (less s x) i set
      else set := by
  unfold insertMatching Matches
  cases matchesCriteria i with
  | error what => rfl
  | ok answer => cases answer <;> rfl

/-- The enumeration builds the set of the matching providers, in the order
they were enumerated in. -/
theorem forEachProvider_insertMatching (s : System) (x : Stream) :
    s.forEachProvider (insertMatching matchesCriteria s x) [] =
      OrderedSet.insertAll (less s x)
        (s.order.filter (Matches matchesCriteria)) := by
  unfold System.forEachProvider OrderedSet.insertAll
  rw [List.foldl_filter]
  congr 1
  funext set i
  exact insertMatching_fst matchesCriteria s x i set

/-- The provider for a stream: the first matching one that runs, and without
one the first matching one. -/
theorem determineUpdatesProvider_eq (s : System) (x : Stream) :
    determineUpdatesProvider matchesCriteria s x =
      (s.order.find? fun i => Matches matchesCriteria i &&
        (s.provider i).controller.areUpdatesRunning x).or
      (s.order.find? (Matches matchesCriteria)) := by
  unfold determineUpdatesProvider
  rw [forEachProvider_insertMatching]
  unfold less
  rw [OrderedSet.begin_insertAll, List.find?_filter, List.head?_filter]
  simp only [Bool.decide_and, Bool.decide_eq_true]

/-- The three members of the selection are one function of the stream. -/
theorem determineProviderSelectionForCriteria_apply (s : System) (x : Stream) :
    determineProviderSelectionForCriteria matchesCriteria s x =
      determineUpdatesProvider matchesCriteria s x := by
  cases x <;> rfl

/-- Without a matching provider the selection is the null provider; otherwise
it is the first enumerated one whose stream runs, and without such a provider
the first enumerated one. -/
theorem selection_prefers_running_providers (s : System) (x : Stream) :
    (determineProviderSelectionForCriteria matchesCriteria s x = none ↔
      ∀ i ∈ s.order, ¬ Matches matchesCriteria i) ∧
    determineProviderSelectionForCriteria matchesCriteria s x =
      (s.order.find? fun i => Matches matchesCriteria i &&
        (s.provider i).controller.areUpdatesRunning x).or
      (s.order.find? (Matches matchesCriteria)) := by
  rw [determineProviderSelectionForCriteria_apply,
    determineUpdatesProvider_eq]
  constructor
  · rw [Option.or_eq_none_iff, List.find?_eq_none, List.find?_eq_none]
    constructor
    · intro hnone
      exact hnone.2
    · intro hnone
      refine ⟨fun i hi hboth => hnone i hi ?_, hnone⟩
      exact (Bool.and_eq_true_iff.mp hboth).1
  · rfl

/-- What the policy selects is a matching provider of the engine. -/
theorem mem_of_determineUpdatesProvider {s : System} {x : Stream}
    {i : ProviderId}
    (h : determineUpdatesProvider matchesCriteria s x = some i) :
    i ∈ s.order ∧ Matches matchesCriteria i := by
  rw [determineUpdatesProvider_eq, Option.or_eq_some_iff] at h
  rcases h with hrunning | ⟨-, hfirst⟩
  · have hboth := List.find?_some hrunning
    exact ⟨List.mem_of_find?_eq_some hrunning,
      (Bool.and_eq_true_iff.mp hboth).1⟩
  · exact ⟨List.mem_of_find?_eq_some hfirst, List.find?_some hfirst⟩

/-- A session can be created over every selection of the policy. -/
theorem selectsKnown_determineProviderSelectionForCriteria (s : System) :
    World.SelectsKnown s
      (determineProviderSelectionForCriteria matchesCriteria s) := by
  intro x i hi
  rw [determineProviderSelectionForCriteria_apply] at hi
  exact (mem_of_determineUpdatesProvider matchesCriteria hi).1

end Criteria

end DefaultProviderSelectionPolicy

end LocationService
