import LessonShell.Missions
import Mathlib.Data.List.FinRange
import Mathlib.Data.List.Induction

/-! Progress over a sequence of events. A mission is completed once, by the first event that
meets it; the final board depends on which events came and not on their order or number. -/
namespace LessonShell

namespace MissionSpec
variable {spec : MissionSpec} {events : List Event} {event : Event}

def isMet (events : List Event) (spec : MissionSpec) : Bool := events.any spec.criterion.accepts

/-- The place of the first event that meets the mission, and the number of events without one. -/
def firstMatch (events : List Event) (spec : MissionSpec) : Nat :=
  events.findIdx spec.criterion.accepts

theorem isMet_iff : spec.isMet events = true ↔ ∃ event ∈ events, spec.criterion.accepts event = true :=
  List.any_eq_true

theorem isMet_concat : spec.isMet (events ++ [event]) =
    (spec.isMet events || spec.criterion.accepts event) := by
  simp [isMet]

theorem isMet_congr {other : List Event} (same : ∀ event, event ∈ other ↔ event ∈ events) :
    spec.isMet other = spec.isMet events := by
  apply Bool.eq_iff_iff.mpr
  rw [isMet_iff, isMet_iff]
  simp only [same]

theorem firstMatch_lt (met : spec.isMet events = true) : spec.firstMatch events < events.length :=
  List.findIdx_lt_length.mpr (isMet_iff.mp met)

theorem firstMatch_concat_of_met (met : spec.isMet events = true) :
    spec.firstMatch (events ++ [event]) = spec.firstMatch events := by
  rw [firstMatch, List.findIdx_append]
  exact if_pos (firstMatch_lt met)

theorem firstMatch_concat_of_unmet (unmet : spec.isMet events = false)
    (accepted : spec.criterion.accepts event = true) :
    spec.firstMatch (events ++ [event]) = events.length := by
  have beyond : events.findIdx spec.criterion.accepts = events.length := by
    apply List.findIdx_eq_length_of_false
    simpa [isMet] using unmet
  rw [firstMatch, List.findIdx_append, beyond, if_neg (Nat.lt_irrefl _)]
  simp [List.findIdx_cons, accepted]

end MissionSpec

/-- The places of the missions that were met: first those that an earlier event met, and among
those that the same event met first, the earlier in the list. -/
structure CompletionOrder (specs : List MissionSpec) (events : List Event)
    (order : List (Fin specs.length)) : Prop where
  mem_iff : ∀ place, place ∈ order ↔ specs[place].isMet events = true
  sorted : order.Pairwise fun first second =>
    specs[first].firstMatch events < specs[second].firstMatch events ∨
      specs[first].firstMatch events = specs[second].firstMatch events ∧ first < second

namespace CompletionOrder
variable {specs : List MissionSpec} {events : List Event}

/-- The places of the missions that `event` meets and none of the events before it met. -/
def newlyMet (specs : List MissionSpec) (events : List Event) (event : Event) : List (Fin specs.length) :=
  (List.finRange specs.length).filter fun place =>
    !specs[place].isMet events && specs[place].criterion.accepts event

theorem mem_newlyMet {event : Event} {place : Fin specs.length} :
    place ∈ newlyMet specs events event ↔
      specs[place].isMet events = false ∧ specs[place].criterion.accepts event = true := by
  simp [newlyMet]

theorem nil : CompletionOrder specs [] [] where
  mem_iff place := by simp [MissionSpec.isMet]
  sorted := .nil

theorem concat {order : List (Fin specs.length)} (ordered : CompletionOrder specs events order)
    (event : Event) : CompletionOrder specs (events ++ [event]) (order ++ newlyMet specs events event) := by
  have early {place : Fin specs.length} (member : place ∈ order) :
      specs[place].firstMatch (events ++ [event]) = specs[place].firstMatch events :=
    MissionSpec.firstMatch_concat_of_met ((ordered.mem_iff place).mp member)
  have late {place : Fin specs.length} (member : place ∈ newlyMet specs events event) :
      specs[place].firstMatch (events ++ [event]) = events.length := by
    obtain ⟨unmet, accepted⟩ := mem_newlyMet.mp member
    exact MissionSpec.firstMatch_concat_of_unmet unmet accepted
  constructor
  · intro place
    rw [List.mem_append, ordered.mem_iff, mem_newlyMet, MissionSpec.isMet_concat]
    cases specs[place].isMet events <;> simp
  · apply List.pairwise_append.mpr
    refine ⟨?_, ?_, ?_⟩
    · apply ordered.sorted.imp_of_mem
      intro first second inFirst inSecond before
      rw [early inFirst, early inSecond]
      exact before
    · have places := (List.pairwise_lt_finRange specs.length).filter
        fun place => !specs[place].isMet events && specs[place].criterion.accepts event
      apply places.imp_of_mem
      intro first second inFirst inSecond before
      exact .inr ⟨(late inFirst).trans (late inSecond).symm, before⟩
    · intro first inOrder second inNew
      rw [early inOrder, late inNew]
      exact .inl (MissionSpec.firstMatch_lt ((ordered.mem_iff first).mp inOrder))

theorem nodup {order : List (Fin specs.length)} (ordered : CompletionOrder specs events order) :
    order.Nodup := by
  apply ordered.sorted.imp
  rintro first _ before rfl
  rcases before with sooner | ⟨_, sooner⟩
  · exact Nat.lt_irrefl _ sooner
  · exact Nat.lt_irrefl _ sooner

end CompletionOrder

namespace MissionBoard

theorem observeAll_concat (board : MissionBoard) (events : List Event) (event : Event) :
    board.observeAll (events ++ [event]) = (((board.observeAll events).1.observe event).1,
      (board.observeAll events).2 ++ ((board.observeAll events).1.observe event).2) := by
  induction events generalizing board with
  | nil => simp [observeAll]
  | cons first rest ih => simp [observeAll, ih]

theorem observeAll_ofSpecs (specs : List MissionSpec) (events : List Event) :
    ((ofSpecs specs).observeAll events).1 = ⟨specs.map fun spec => ⟨spec, spec.isMet events⟩⟩ := by
  induction events using List.reverseRecOn with
  | nil => rfl
  | append_singleton early last ih =>
    rw [observeAll_concat, ih]
    simp [observe, Mission.observe, MissionSpec.isMet_concat]

theorem observe_ids (specs : List MissionSpec) (events : List Event) (event : Event) :
    (((ofSpecs specs).observeAll events).1.observe event).2 =
      (CompletionOrder.newlyMet specs events event).map (specs[·].id) := by
  rw [observeAll_ofSpecs]
  have listed := List.map_getElem_finRange specs
  simp only [observe, CompletionOrder.newlyMet]
  conv_lhs => rw [← listed]
  simp only [List.filter_map, List.map_map]
  rfl

theorem exists_completionOrder (specs : List MissionSpec) (events : List Event) :
    ∃ order, CompletionOrder specs events order ∧
      ((ofSpecs specs).observeAll events).2 = order.map (specs[·].id) := by
  induction events using List.reverseRecOn with
  | nil => exact ⟨[], .nil, rfl⟩
  | append_singleton early last ih =>
    obtain ⟨order, ordered, ids⟩ := ih
    refine ⟨_, ordered.concat last, ?_⟩
    rw [observeAll_concat, ids, observe_ids, List.map_append]

/-- After any events a mission is completed exactly if one of them met it. The identifiers that
were returned are those of the completed missions, one for each place in the list, in the order
of completion; the board counts these missions and is complete if there is one and all are among
them. Events in another order or with repetitions lead to the same board. -/
theorem missions_tracked (specs : List MissionSpec) (events : List Event) :
    let board := ((ofSpecs specs).observeAll events).1
    board.missions.map (·.spec) = specs ∧
    (∀ mission ∈ board.missions, mission.completed = true ↔
      ∃ event ∈ events, mission.spec.criterion.accepts event = true) ∧
    (∃ order, CompletionOrder specs events order ∧ order.Nodup ∧
      ((ofSpecs specs).observeAll events).2 = order.map (specs[·].id)) ∧
    board.progress = (specs.countP (·.isMet events), specs.length) ∧
    (board.allCompleted = true ↔ specs ≠ [] ∧ ∀ spec ∈ specs, spec.isMet events = true) ∧
    ∀ other, (∀ event, event ∈ other ↔ event ∈ events) →
      ((ofSpecs specs).observeAll other).1 = board := by
  intro board
  have final : board = ⟨specs.map fun spec => ⟨spec, spec.isMet events⟩⟩ := observeAll_ofSpecs specs events
  obtain ⟨order, ordered, ids⟩ := exists_completionOrder specs events
  refine ⟨?_, ?_, ⟨order, ordered, ordered.nodup, ids⟩, ?_, ?_, ?_⟩
  · simp [final, Function.comp_def]
  · intro mission member
    rw [final] at member
    obtain ⟨spec, _, rfl⟩ := List.mem_map.mp member
    exact MissionSpec.isMet_iff
  · simp [final, progress, List.countP_eq_length_filter, List.filter_map, Function.comp_def]
  · simp [final, allCompleted]
  · intro other same
    rw [final, observeAll_ofSpecs]
    simp only [MissionSpec.isMet_congr same]

theorem shared_names_tracked :
    let specs : List MissionSpec := [⟨"a", "", .keysCopied⟩, ⟨"b", "", .keygenDone⟩, ⟨"a", "", .keygenDone⟩]
    let events : List Event := [.keygenDone, .keysCopied]
    let other : List Event := [.keysCopied, .keygenDone, .keysCopied]
    (∀ event, event ∈ other ↔ event ∈ events) ∧
      ((ofSpecs specs).observeAll other).1 = ((ofSpecs specs).observeAll events).1 ∧
      ((ofSpecs specs).observeAll events).2 = ["b", "a", "a"] ∧
      ((ofSpecs specs).observeAll other).2 = ["a", "b", "a"] := by
  intro specs events other
  have same : ∀ event, event ∈ other ↔ event ∈ events := by
    intro event
    simp only [other, events, List.mem_cons, List.not_mem_nil, or_false]
    grind
  obtain ⟨_, _, _, _, _, unordered⟩ := missions_tracked specs events
  exact ⟨same, unordered other same, by decide, by decide⟩

end MissionBoard
end LessonShell
