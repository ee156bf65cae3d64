import LessonShell.Missions
import LessonShell.Terminal

/-! A terminal in use: its first listener is the mission board of the lesson, and further
listeners take notes under a tag. All of them outlast a reset. -/
namespace LessonShell

structure Practice (C : Type) where
  terminal : Terminal C
  board : MissionBoard
  tags : List String

namespace Practice
variable {C : Type} [CustomDialogue C]

def new (lesson : Lesson) : Except Failure (Practice C) :=
  (Terminal.new lesson).map fun terminal =>
    ⟨terminal.subscribe, .ofSpecs lesson.missions, []⟩

def listen (practice : Practice C) (tag : String) : Practice C :=
  { practice with terminal := practice.terminal.subscribe, tags := practice.tags ++ [tag] }

def note? (practice : Practice C) (delivery : Delivery) : Option String :=
  match delivery.listener with
  | 0 => none
  | position + 1 => practice.tags[position]?.map (· ++ ":" ++ delivery.event.kind)

structure Turn (C : Type) where
  practice : Practice C
  events : List Event
  completed : List String
  notes : List String

/-- Submits a line and lets the board and the tagged listeners take in what they heard. -/
def submit (practice : Practice C) (line : String) : Turn C :=
  let heardBefore := practice.terminal.scene.bus.delivered.length
  let (terminal, events) := practice.terminal.submit line
  let deliveries := terminal.scene.bus.delivered.drop heardBefore
  let (board, completed) :=
    practice.board.observeAll ((deliveries.filter (·.listener = 0)).map (·.event))
  ⟨{ practice with terminal := terminal, board := board }, events, completed,
    deliveries.filterMap practice.note?⟩

def reset (practice : Practice C) : Except Failure (Practice C) :=
  practice.terminal.reset.map fun terminal => { practice with terminal := terminal }

def editRegistry (practice : Practice C) (edit : Registry C → Registry C) : Practice C :=
  { practice with terminal := practice.terminal.editRegistry edit }

end Practice
end LessonShell
