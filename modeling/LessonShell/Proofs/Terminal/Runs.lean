import LessonShell.Proofs.Shell.Dispatch
import LessonShell.Proofs.Shell.Replies
import LessonShell.Proofs.Terminal.Outcomes
import Mathlib.Data.List.Induction

/-! Runs of a terminal: submitted lines and resets, one after another. One turn of a
terminal with the standard commands is a blank line, a command line or an answer. -/
namespace LessonShell

inductive Step where
  | submit (line : String)
  | reset
  deriving DecidableEq

namespace Terminal
variable {C : Type}

theorem conclude_same (scene : Scene (Dialogue C)) (result : Except Failure CommandOutput) :
    (scene.conclude result).session = scene.session ∧ (scene.conclude result).vfs = scene.vfs ∧
      (scene.conclude result).dialogue = scene.dialogue ∧ (scene.conclude result).bus = scene.bus := by
  cases result with
  | error failure => exact ⟨rfl, rfl, rfl, rfl⟩
  | ok output => cases output <;> exact ⟨rfl, rfl, rfl, rfl⟩

theorem new_eq_ok_iff {lesson : Lesson} {terminal : Terminal C} :
    Terminal.new lesson = .ok terminal ↔ lesson.validate = .ok () ∧ ∃ vfs,
      initialFiles lesson = .ok vfs ∧ terminal = ⟨lesson, .standard, .opening lesson vfs .empty⟩ := by
  unfold Terminal.new
  cases lesson.validate with
  | error fault => simp
  | ok done => cases initialFiles lesson <;> simp [Except.map, eq_comm]

theorem initialFiles_eq_ok_iff {lesson : Lesson} {vfs : Vfs} :
    initialFiles lesson = .ok vfs ↔
      Vfs.ofSnapshot lesson.filesystem = .ok vfs ∧ vfs.isDir lesson.home = true := by
  unfold initialFiles
  cases Vfs.ofSnapshot lesson.filesystem with
  | error breach => simp
  | ok loaded =>
    by_cases home : loaded.isDir lesson.home = true
    · simp only [if_pos home, Except.ok.injEq]
      constructor
      · intro same
        exact ⟨same, same ▸ home⟩
      · exact fun both => both.1
    · simp only [if_neg home, Except.ok.injEq]
      constructor
      · nofun
      · rintro ⟨rfl, directory⟩
        exact absurd directory home

theorem reset_eq_ok {terminal : Terminal C} {vfs : Vfs} (loaded : initialFiles terminal.lesson = .ok vfs) :
    terminal.reset = .ok
      { terminal with scene := .opening terminal.lesson vfs terminal.scene.bus.drained } := by
  rw [reset, loaded]
  rfl

theorem exists_new {lesson : Lesson} (valid : lesson.validate = .ok ())
    (loaded : (initialFiles lesson).toOption.isSome = true) :
    ∃ terminal : Terminal C, Terminal.new lesson = .ok terminal := by
  cases files : initialFiles lesson with
  | error failure =>
    rw [files] at loaded
    cases loaded
  | ok vfs => exact ⟨_, new_eq_ok_iff.mpr ⟨valid, vfs, files, rfl⟩⟩

/-- What a new terminal does can be computed. -/
theorem exists_new_of_any {lesson : Lesson} {holds : Terminal C → Prop} [DecidablePred holds]
    (found : (Terminal.new lesson : Except Failure (Terminal C)).toOption.any (decide <| holds ·) = true) :
    ∃ terminal : Terminal C, Terminal.new lesson = .ok terminal ∧ holds terminal := by
  cases accepted : (Terminal.new lesson : Except Failure (Terminal C)) with
  | error failure =>
    rw [accepted] at found
    cases found
  | ok terminal =>
    rw [accepted] at found
    exact ⟨terminal, rfl, of_decide_eq_true found⟩

theorem exists_new_default : ∃ terminal : Terminal C, Terminal.new Lesson.default = .ok terminal :=
  exists_new (by rfl) (by decide +kernel)

theorem called_performed {terminal : Terminal C} (known : terminal.registry.IsStandard)
    (consistent : terminal.scene.vfs.Consistent) (idle : terminal.scene.dialogue = none) (input : String) :
    Performed terminal.lesson (Text.trimmed input) (calledName input) (calledArgs input)
      (acknowledge terminal.scene (Text.trimmed input) (calledName input) (calledArgs input))
      (terminal.called input) := by
  unfold called
  exact dispatch_performed known idle consistent

variable [CustomDialogue C]

theorem answered_replied (terminal : Terminal C) (prompt : Prompt) (input : String) :
    Replied terminal.lesson (if prompt.masked then input else Text.trimmed input) prompt
      { terminal.scene with dialogue := none } (terminal.answered (.builtin prompt) input) := by
  unfold answered
  exact respond_replied rfl prompt

/-- A reset that fails leaves the terminal as it is. -/
def take (terminal : Terminal C) : Step → Terminal C
  | .submit line => (terminal.submit line).1
  | .reset => match terminal.reset with
    | .ok fresh => fresh
    | .error _ => terminal

def after (terminal : Terminal C) (steps : List Step) : Terminal C := steps.foldl take terminal

/-- A new terminal of an accepted lesson, as it is or with the `echo` that accepts keys. -/
def Opens (lesson : Lesson) (terminal : Terminal C) : Prop :=
  ∃ fresh, Terminal.new lesson = .ok fresh ∧
    (terminal = fresh ∨ terminal = fresh.editRegistry Registry.addAuthorizedKeysEcho)

theorem after_append (terminal : Terminal C) (first second : List Step) :
    terminal.after (first ++ second) = (terminal.after first).after second :=
  List.foldl_append

theorem after_keeps {keeps : Terminal C → Prop} {terminal : Terminal C} (initial : keeps terminal)
    (step : ∀ now, keeps now → ∀ next, keeps (now.take next)) (steps : List Step) :
    keeps (terminal.after steps) := by
  induction steps generalizing terminal with
  | nil => exact initial
  | cons next rest ih => exact ih (step terminal initial next)

theorem submit_registry (terminal : Terminal C) (line : String) :
    (terminal.submit line).1.registry = terminal.registry := by
  rcases terminal.submit_ends line with same | ⟨scene, ended⟩
  · rw [same]
  · rw [ended]
    rfl

theorem take_registry (terminal : Terminal C) (step : Step) :
    (terminal.take step).registry = terminal.registry := by
  cases step with
  | submit line => exact terminal.submit_registry line
  | reset =>
    rw [take, Terminal.reset]
    cases initialFiles terminal.lesson <;> rfl

theorem after_registry (terminal : Terminal C) (steps : List Step) :
    (terminal.after steps).registry = terminal.registry := by
  induction steps generalizing terminal with
  | nil => rfl
  | cons next rest ih => exact (ih (terminal.take next)).trans (terminal.take_registry next)

/-- The terminal after lines without a reset among them. -/
def afterLines (terminal : Terminal C) (lines : List String) : Terminal C :=
  terminal.after (lines.map .submit)

theorem afterLines_append_singleton {terminal : Terminal C} (lines : List String) (line : String) :
    terminal.afterLines (lines ++ [line]) = ((terminal.afterLines lines).submit line).1 := by
  rw [afterLines, List.map_append, after_append]
  rfl

/-- What every one of the lines does to the terminal, all of them do, if it can be put together. -/
theorem afterLines_relates (relates : Terminal C → Terminal C → Prop)
    (refl : ∀ terminal, relates terminal terminal)
    (trans : ∀ first second third, relates first second → relates second third → relates first third)
    {terminal : Terminal C} {lines : List String}
    (step : ∀ early line late, lines = early ++ line :: late →
      relates (terminal.afterLines early) ((terminal.afterLines early).submit line).1) :
    relates terminal (terminal.afterLines lines) := by
  induction lines using List.reverseRecOn with
  | nil => exact refl terminal
  | append_singleton early line ih =>
    rw [afterLines_append_singleton]
    refine trans _ _ _ (ih ?_) (step early line [] rfl)
    intro front next rest split
    exact step front next (rest ++ [line]) (by rw [split, List.append_assoc, List.cons_append])

/-- What a turn leaves: a session that notes whether a masked question waits, and the
question itself. -/
structure Leaves (before : Terminal C) (session : Session) (vfs : Vfs) (prompt : Option Prompt)
    (after : Terminal C) : Prop where
  lesson : after.lesson = before.lesson
  registry : after.registry = before.registry
  session : after.scene.session = { session with passwordMode := prompt.any Prompt.masked }
  vfs : after.scene.vfs = vfs
  dialogue : after.scene.dialogue = prompt.map .builtin
  pending : after.scene.bus.pending = []

/-- One turn: a blank line, a command line, or the answer to a built-in question, which is
read untrimmed only if it is masked. -/
inductive Turn (before : Terminal C) (input : String) (after : Terminal C) (announced : List Event) : Prop
  | blank (idle : before.scene.dialogue = none) (empty : Text.trimmed input = "")
    (same : after = before) (silent : announced = [])
  | command {result session vfs prompt events} (idle : before.scene.dialogue = none)
    (filled : Text.trimmed input ≠ "")
    (effect : Effect before.lesson (Text.trimmed input) before.scene.session before.scene.vfs
      (Text.foldCase ((Text.words (Text.trimmed input)).headD "")) (Text.words (Text.trimmed input)).tail
      result session vfs prompt events)
    (leaves : Leaves before session vfs prompt after)
    (batch : announced = before.scene.bus.pending ++ .command
      (Text.foldCase ((Text.words (Text.trimmed input)).headD "")) (Text.trimmed input)
      (Text.words (Text.trimmed input)).tail before.scene.session.user before.scene.session.host :: events)
  | answer {prompt failure session vfs next events} (active : before.scene.dialogue = some (.builtin prompt))
    (reply : Reply before.lesson before.scene.session before.scene.vfs
      (if prompt.masked then input else Text.trimmed input) prompt failure session vfs next events)
    (leaves : Leaves before session vfs next after)
    (batch : announced = before.scene.bus.pending ++ events)

section turn
variable {before : Terminal C}

theorem filled_effect (known : before.registry.IsStandard) (consistent : before.scene.vfs.Consistent)
    {input : String} (idle : before.scene.dialogue = none) (filled : Text.trimmed input ≠ "") :
    ∃ session prompt events, Effect before.lesson (Text.trimmed input) before.scene.session
      before.scene.vfs (calledName input) (calledArgs input) (before.called input).1 session
      (before.submit input).1.scene.vfs prompt events := by
  have performed := called_performed known consistent idle input
  rw [submit_of_filled idle filled]
  generalize before.called input = run at performed
  obtain ⟨prompt, events, effect, _⟩ := performed
  rw [← (conclude_same run.2 run.1).2.1] at effect
  exact ⟨_, prompt, events, effect⟩

theorem active_reply {prompt : Prompt} (active : before.scene.dialogue = some (.builtin prompt))
    (input : String) : ∃ failure session next events, Reply before.lesson before.scene.session
      before.scene.vfs (if prompt.masked then input else Text.trimmed input) prompt failure session
      (before.submit input).1.scene.vfs next events := by
  have replied := before.answered_replied prompt input
  rw [submit_of_active active]
  generalize before.answered (.builtin prompt) input = run at replied
  obtain ⟨failure, next, events, reply, _⟩ := replied
  exact ⟨failure, _, next, events, reply⟩

private theorem any_builtin (prompt : Option Prompt) :
    (prompt.map (Dialogue.builtin (C := C))).any Dialogue.masked = prompt.any Prompt.masked := by
  cases prompt <;> rfl

theorem endTurn_leaves {scene : Scene (Dialogue C)} {prompt : Option Prompt}
    (dialogue : scene.dialogue = prompt.map .builtin) :
    Leaves before scene.session scene.vfs prompt (before.endTurn scene).1 := by
  refine ⟨rfl, rfl, ?_, rfl, dialogue, rfl⟩
  simp only [endTurn]
  rw [dialogue, any_builtin]

private theorem filled_turn (known : before.registry.IsStandard) (consistent : before.scene.vfs.Consistent)
    {input : String} (idle : before.scene.dialogue = none) (filled : Text.trimmed input ≠ "") :
    Turn before input (before.submit input).1 (before.submit input).2 := by
  have performed := called_performed known consistent idle input
  rw [submit_of_filled idle filled]
  generalize before.called input = run at performed
  obtain ⟨prompt, events, effect, dialogue, bus, _⟩ := performed
  obtain ⟨session, vfs, kept, carried⟩ := conclude_same run.2 run.1
  rw [← session, ← vfs] at effect
  refine .command idle filled effect (endTurn_leaves (kept.trans dialogue)) ?_
  change (run.2.conclude run.1).bus.pending = _
  rw [carried, bus, foldl_emit_pending]
  exact List.append_assoc ..

private theorem active_turn {prompt : Prompt} (active : before.scene.dialogue = some (.builtin prompt))
    (input : String) : Turn before input (before.submit input).1 (before.submit input).2 := by
  have replied := before.answered_replied prompt input
  rw [submit_of_active active]
  generalize before.answered (.builtin prompt) input = run at replied
  obtain ⟨failure, next, events, reply, dialogue, bus, _⟩ := replied
  refine .answer active reply (endTurn_leaves dialogue) ?_
  change (run.2.resume run.1).bus.pending = _
  rw [bus, foldl_emit_pending]

theorem submit_turn (known : before.registry.IsStandard) (consistent : before.scene.vfs.Consistent)
    (builtin : ∀ dialogue, before.scene.dialogue = some dialogue → ∃ prompt, dialogue = .builtin prompt)
    (input : String) : Turn before input (before.submit input).1 (before.submit input).2 := by
  cases waiting : before.scene.dialogue with
  | some active =>
    obtain ⟨prompt, rfl⟩ := builtin active waiting
    exact active_turn waiting input
  | none =>
    by_cases empty : Text.trimmed input = ""
    · rw [submit_of_blank waiting empty]
      exact .blank waiting empty rfl rfl
    · exact filled_turn known consistent waiting empty

end turn
end Terminal
end LessonShell
