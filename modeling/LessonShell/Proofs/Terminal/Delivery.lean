import LessonShell.Proofs.Terminal.Outcomes
import LessonShell.Proofs.Terminal.Runs

/-! Delivery of events, whatever the commands and dialogues are. Inside a turn events are only
added, and its end hands over exactly those, so between two calls none is left; a listener has
heard what was handed over since it subscribed, in that order. -/
namespace LessonShell

namespace EventBus

/-- Every event for every listener in the order of subscription, one event after another. -/
def broadcast (listeners : Nat) (events : List Event) : List Delivery :=
  events.flatMap fun event => (List.range listeners).map (⟨·, event⟩)

/-- The bus once these events have reached everyone and have been handed over. -/
def told (bus : EventBus) (events : List Event) : EventBus :=
  { bus with delivered := bus.delivered ++ broadcast bus.listeners events }

theorem foldl_emit (events : List Event) (bus : EventBus) : events.foldl .emit bus =
    ⟨bus.listeners, bus.delivered ++ broadcast bus.listeners events, bus.pending ++ events⟩ := by
  induction events generalizing bus with
  | nil => simp [broadcast]
  | cons event rest ih =>
    rw [List.foldl_cons, ih]
    simp [emit, broadcast]

theorem received_broadcast {listener listeners : Nat} (subscribed : listener < listeners)
    (events : List Event) :
    ((broadcast listeners events).filter (·.listener = listener)).map (·.event) = events := by
  have once : (List.range listeners).filter (· = listener) = [listener] := by
    rw [List.filter_eq, List.count_eq_one_of_mem List.nodup_range (List.mem_range.mpr subscribed)]
    rfl
  induction events with
  | nil => rfl
  | cons event rest ih =>
    unfold broadcast at ih ⊢
    rw [List.flatMap_cons, List.filter_append, List.map_append, ih, List.filter_map]
    simp only [Function.comp_def]
    rw [once]
    rfl

theorem received_told {bus : EventBus} {listener : Nat} (subscribed : listener < bus.listeners)
    (events : List Event) : (bus.told events).received listener = bus.received listener ++ events := by
  rw [told, received, received, List.filter_append, List.map_append, received_broadcast subscribed]

/-- Nothing waits to be handed over, and only listeners have heard anything. -/
structure Settled (bus : EventBus) : Prop where
  quiet : bus.pending = []
  known : ∀ delivery ∈ bus.delivered, delivery.listener < bus.listeners

theorem settled_empty : empty.Settled := ⟨rfl, nofun⟩

theorem Settled.drained_eq {bus : EventBus} (settled : bus.Settled) : bus.drained = bus := by
  cases bus
  rw [drained, ← settled.quiet]

theorem Settled.subscribe {bus : EventBus} (settled : bus.Settled) : bus.subscribe.Settled :=
  ⟨settled.quiet, fun delivery heard => Nat.lt_succ_of_lt (settled.known delivery heard)⟩

theorem Settled.told {bus : EventBus} (settled : bus.Settled) (events : List Event) :
    (bus.told events).Settled := by
  refine ⟨settled.quiet, fun delivery heard => ?_⟩
  rcases List.mem_append.mp heard with old | new
  · exact settled.known delivery old
  · obtain ⟨event, _, sent⟩ := List.mem_flatMap.mp new
    obtain ⟨listener, subscribed, rfl⟩ := List.mem_map.mp sent
    exact List.mem_range.mp subscribed

theorem Settled.received_new {bus : EventBus} (settled : bus.Settled) : bus.received bus.listeners = [] := by
  have unheard : bus.delivered.filter (·.listener = bus.listeners) = [] := by
    rw [List.filter_eq_nil_iff]
    intro delivery heard same
    exact Nat.ne_of_lt (settled.known delivery heard) (of_decide_eq_true same)
  rw [received, unheard, List.map_nil]

end EventBus

/-- A program does nothing to the bus but announce events. -/
theorem Program.run_bus {D α : Type} (program : Program D α) (line : String) (lesson : Lesson)
    (scene : Scene D) : ∃ events : List Event,
      (program.run line lesson scene).2.bus = events.foldl .emit scene.bus := by
  induction program generalizing scene with
  | done value => exact ⟨[], rfl⟩
  | fail failure => exact ⟨[], rfl⟩
  | look next ih => exact ih _ scene
  | setSession session next ih => exact ih _
  | setVfs vfs next ih => exact ih _
  | print text style next ih => exact ih _
  | emit event next ih =>
    obtain ⟨events, later⟩ := ih (scene.emit event)
    exact ⟨event :: events, later⟩
  | start dialogue next ih =>
    rw [run]
    split
    · exact ih false scene
    · exact ih true _

/-- A call from outside: a new listener, a change to the commands, or a step of the terminal. -/
inductive Call (C : Type) where
  | subscribe
  | edit (change : Registry C → Registry C)
  | step (next : Step)

def Call.subscribes {C : Type} : Call C → Bool
  | .subscribe => true
  | _ => false

namespace Terminal
variable {C : Type}

theorem resume_bus (scene : Scene (Dialogue C)) (result : Except Failure (DialogueStep (Dialogue C))) :
    (scene.resume result).bus = scene.bus := by
  cases result with
  | error failure => rfl
  | ok step => cases step <;> rfl

/-- The line itself is announced before its command runs. -/
theorem called_bus (terminal : Terminal C) (input : String) : ∃ events : List Event,
    (terminal.called input).2.bus = events.foldl .emit (terminal.scene.bus.emit
      (.command (calledName input) (Text.trimmed input) (calledArgs input)
        terminal.scene.session.user terminal.scene.session.host)) := by
  unfold called
  exact Program.run_bus _ _ _ _

variable [CustomDialogue C]

/-- The terminal after a call, and the events that the call returns: only a submission returns any. -/
def call (terminal : Terminal C) : Call C → Terminal C × List Event
  | .subscribe => (terminal.subscribe, [])
  | .edit change => (terminal.editRegistry change, [])
  | .step (.submit line) => terminal.submit line
  | .step .reset => (terminal.take .reset, [])

/-- The terminal after a sequence of calls, and the events they return put together. -/
def calls (terminal : Terminal C) : List (Call C) → Terminal C × List Event
  | [] => (terminal, [])
  | next :: rest =>
    let (now, events) := terminal.call next
    let (last, later) := now.calls rest
    (last, events ++ later)

section turn
variable {terminal : Terminal C}

theorem endTurn_bus {scene : Scene (Dialogue C)} {bus : EventBus} {events : List Event}
    (quiet : bus.pending = []) (announced : scene.bus = events.foldl .emit bus) :
    (terminal.endTurn scene).1.scene.bus = bus.told (terminal.endTurn scene).2 := by
  simp only [endTurn, announced, EventBus.foldl_emit, EventBus.drained, EventBus.told, quiet, List.nil_append]

theorem answered_bus (active : Dialogue C) (input : String) :
    ∃ events : List Event, (terminal.answered active input).2.bus = events.foldl .emit terminal.scene.bus := by
  unfold answered
  exact Program.run_bus _ _ _ { terminal.scene with dialogue := none }

theorem submit_bus (quiet : terminal.scene.bus.pending = []) (input : String) :
    (terminal.submit input).1.scene.bus = terminal.scene.bus.told (terminal.submit input).2 := by
  cases waiting : terminal.scene.dialogue with
  | some active =>
    obtain ⟨events, announced⟩ := terminal.answered_bus active input
    rw [submit_of_active waiting]
    exact endTurn_bus quiet ((resume_bus _ _).trans announced)
  | none =>
    by_cases empty : Text.trimmed input = ""
    · rw [submit_of_blank waiting empty]
      simp [EventBus.told, EventBus.broadcast]
    · obtain ⟨events, announced⟩ := terminal.called_bus input
      rw [submit_of_filled waiting empty]
      generalize terminal.called input = run at announced
      rw [← List.foldl_cons] at announced
      exact endTurn_bus quiet ((conclude_same run.2 run.1).2.2.2.trans announced)

theorem reset_bus (settled : terminal.scene.bus.Settled) :
    (terminal.take .reset).scene.bus = terminal.scene.bus := by
  rw [take, reset]
  cases initialFiles terminal.lesson with
  | error failure => rfl
  | ok vfs => exact settled.drained_eq

end turn

section calls
variable {terminal : Terminal C}

/-- A call lets the listeners hear exactly the events that it returns. -/
theorem call_bus (settled : terminal.scene.bus.Settled) (next : Call C) :
    (terminal.call next).1.scene.bus =
      { terminal.scene.bus.told (terminal.call next).2 with
        listeners := terminal.scene.bus.listeners + next.subscribes.toNat } := by
  cases next with
  | subscribe => simp [call, subscribe, EventBus.subscribe, EventBus.told, EventBus.broadcast, Call.subscribes]
  | edit change => simp [call, editRegistry, EventBus.told, EventBus.broadcast, Call.subscribes]
  | step step =>
    cases step with
    | submit line => exact submit_bus settled.quiet line
    | reset =>
      simp only [call, reset_bus settled, EventBus.told, EventBus.broadcast, List.flatMap_nil, List.append_nil]
      rfl

theorem call_settled (settled : terminal.scene.bus.Settled) (next : Call C) :
    (terminal.call next).1.scene.bus.Settled := by
  rw [call_bus settled next]
  refine ⟨settled.quiet, fun delivery heard => ?_⟩
  exact Nat.lt_add_right _ ((settled.told _).known delivery heard)

theorem calls_settled (settled : terminal.scene.bus.Settled) (sequence : List (Call C)) :
    (terminal.calls sequence).1.scene.bus.Settled := by
  induction sequence generalizing terminal with
  | nil => exact settled
  | cons next rest ih => exact ih (call_settled settled next)

theorem calls_listeners (settled : terminal.scene.bus.Settled) (sequence : List (Call C)) :
    (terminal.calls sequence).1.scene.bus.listeners =
      terminal.scene.bus.listeners + sequence.countP Call.subscribes := by
  induction sequence generalizing terminal with
  | nil => rfl
  | cons next rest ih =>
    have later := ih (call_settled settled next)
    rw [call_bus settled next] at later
    have whole : (terminal.calls (next :: rest)).1 = ((terminal.call next).1.calls rest).1 := rfl
    rw [whole, later, List.countP_cons]
    cases next.subscribes <;> simp [Nat.add_assoc, Nat.add_comm]

theorem calls_received (settled : terminal.scene.bus.Settled) {listener : Nat}
    (subscribed : listener < terminal.scene.bus.listeners) (sequence : List (Call C)) :
    (terminal.calls sequence).1.scene.bus.received listener =
      terminal.scene.bus.received listener ++ (terminal.calls sequence).2 := by
  induction sequence generalizing terminal with
  | nil => exact (List.append_nil _).symm
  | cons next rest ih =>
    have still : listener < (terminal.call next).1.scene.bus.listeners := by
      rw [call_bus settled next]
      exact Nat.lt_add_right _ subscribed
    have heard : (terminal.call next).1.scene.bus.received listener =
        terminal.scene.bus.received listener ++ (terminal.call next).2 := by
      rw [call_bus settled next]
      exact EventBus.received_told subscribed _
    have later := ih (call_settled settled next) still
    rw [heard, List.append_assoc] at later
    exact later

end calls

/-- After any calls on a new terminal no event is left over. Each further call lets every listener
in turn hear the first event that it returns, then the next event, and nothing else; a reset lets
nobody hear anything. A listener that subscribes now will have heard, after any later calls, exactly
the events that they returned. -/
theorem events_delivered {lesson : Lesson} {terminal : Terminal C}
    (accepted : Terminal.new lesson = .ok terminal) (early : List (Call C)) :
    let before := (terminal.calls early).1
    let bus := before.scene.bus
    bus.pending = [] ∧ bus.listeners = early.countP Call.subscribes ∧
    (∀ next, (before.call next).1.scene.bus.delivered =
      bus.delivered ++ EventBus.broadcast bus.listeners (before.call next).2) ∧
    (before.take .reset).scene.bus = bus ∧
    ∀ late, (before.subscribe.calls late).1.scene.bus.received bus.listeners =
      (before.subscribe.calls late).2 := by
  intro before bus
  obtain ⟨_, vfs, _, rfl⟩ := new_eq_ok_iff.mp accepted
  have settled : bus.Settled := calls_settled EventBus.settled_empty early
  refine ⟨settled.quiet, ?_, ?_, reset_bus settled, ?_⟩
  · exact (calls_listeners EventBus.settled_empty early).trans (Nat.zero_add _)
  · intro next
    rw [call_bus settled next]
    rfl
  · intro late
    have heard : (before.subscribe.calls late).1.scene.bus.received bus.listeners =
        bus.subscribe.received bus.listeners ++ (before.subscribe.calls late).2 :=
      calls_received settled.subscribe (Nat.lt_succ_self _) late
    have fresh : bus.subscribe.received bus.listeners = [] := settled.received_new
    rw [heard, fresh, List.nil_append]

theorem second_listener_delivered : ∃ terminal : Terminal Empty, Terminal.new Lesson.default = .ok terminal ∧
    let before := (terminal.calls [.subscribe, .step (.submit "pwd")]).1
    before.scene.bus.pending = [] ∧
    (before.subscribe.calls [.step (.submit "echo a >> b"), .subscribe, .step .reset,
      .step (.submit "exit")]).1.scene.bus.received 1 =
        [.command "echo" "echo a >> b" ["a", ">>", "b"] "alumno" "laptop-local", .fileAppend "b" "a",
          .command "exit" "exit" [] "alumno" "laptop-local"] := by
  obtain ⟨terminal, accepted⟩ := exists_new_default (C := Empty)
  have returned : (Terminal.new (C := Empty) Lesson.default).toOption.map (fun fresh =>
      ((fresh.calls [.subscribe, .step (.submit "pwd")]).1.subscribe.calls [.step (.submit "echo a >> b"),
        .subscribe, .step .reset, .step (.submit "exit")]).2) =
      some [.command "echo" "echo a >> b" ["a", ">>", "b"] "alumno" "laptop-local", .fileAppend "b" "a",
        .command "exit" "exit" [] "alumno" "laptop-local"] := by decide +kernel
  rw [accepted] at returned
  obtain ⟨quiet, number, _, _, heard⟩ := events_delivered accepted [.subscribe, .step (.submit "pwd")]
  have last := heard [.step (.submit "echo a >> b"), .subscribe, .step .reset, .step (.submit "exit")]
  rw [number] at last
  exact ⟨terminal, accepted, quiet, last.trans (Option.some.inj returned)⟩

end Terminal
end LessonShell
