import LessonShell.Lesson

/-! Progress through the missions of a lesson. Each completes at most once, on the first
event that its criterion accepts. -/
namespace LessonShell

structure Mission where
  spec : MissionSpec
  completed : Bool
  deriving DecidableEq

structure MissionBoard where
  missions : List Mission
  deriving DecidableEq

namespace Mission

def isCompletedBy (event : Event) (mission : Mission) : Bool :=
  !mission.completed && mission.spec.criterion.accepts event

def observe (event : Event) (mission : Mission) : Mission :=
  { mission with completed := mission.completed || mission.spec.criterion.accepts event }

end Mission

namespace MissionBoard

def ofSpecs (specs : List MissionSpec) : MissionBoard := ⟨specs.map fun spec => ⟨spec, false⟩⟩

/-- The board after an event, and the identifiers of the missions it completed. -/
def observe (board : MissionBoard) (event : Event) : MissionBoard × List String :=
  (⟨board.missions.map (Mission.observe event)⟩,
    (board.missions.filter (Mission.isCompletedBy event)).map (·.spec.id))

/-- The board after several events, and all identifiers in the order of completion. -/
def observeAll (board : MissionBoard) : List Event → MissionBoard × List String
  | [] => (board, [])
  | event :: rest =>
    let (seen, first) := board.observe event
    let (last, others) := seen.observeAll rest
    (last, first ++ others)

def progress (board : MissionBoard) : Nat × Nat :=
  ((board.missions.filter (·.completed)).length, board.missions.length)

/-- An empty board is never complete. -/
def allCompleted (board : MissionBoard) : Bool :=
  !board.missions.isEmpty && board.missions.all (·.completed)

end MissionBoard
end LessonShell
