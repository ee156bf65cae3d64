import LessonShell.Proofs.Terminal.Outcomes
import LessonShell.Proofs.Terminal.Runs

/-! The transcript of a terminal, whatever its commands and dialogues are. A program can only
show output behind what is there, and a submitted line is shown as a command before its command
runs, so the transcript grows at its end and is otherwise only emptied on request. -/
namespace LessonShell

/-- The second transcript is the first one with output behind it, and with no command line. -/
def Printed (before after : List Entry) : Prop :=
  ∃ entries, after = before ++ entries ∧ ∀ entry ∈ entries, entry.role = .output

namespace Printed
variable {first second third : List Entry}

theorem refl (transcript : List Entry) : Printed transcript transcript :=
  ⟨[], (List.append_nil transcript).symm, nofun⟩

theorem trans (early : Printed first second) (late : Printed second third) : Printed first third := by
  obtain ⟨entries, rfl, output⟩ := early
  obtain ⟨others, rfl, plain⟩ := late
  refine ⟨entries ++ others, List.append_assoc .., ?_⟩
  intro entry member
  rcases List.mem_append.mp member with inside | outside
  · exact output entry inside
  · exact plain entry outside

theorem shown (transcript : List Entry) (text : String) (style : Style) :
    Printed transcript (transcript ++ [.styled text style]) := by
  refine ⟨[.styled text style], rfl, ?_⟩
  intro entry member
  rw [List.mem_singleton.mp member]
  rfl

theorem isPrefix (printed : Printed first second) : first <+: second := by
  obtain ⟨entries, rfl, _⟩ := printed
  exact List.prefix_append first entries

end Printed

/-- A program does nothing to the transcript but print on it. -/
theorem Program.run_printed {D α : Type} (program : Program D α) (line : String) (lesson : Lesson)
    (scene : Scene D) : Printed scene.transcript (program.run line lesson scene).2.transcript := by
  induction program generalizing scene with
  | done value => exact .refl _
  | fail failure => exact .refl _
  | look next ih => exact ih _ scene
  | setSession session next ih => exact ih _
  | setVfs vfs next ih => exact ih _
  | print text style next ih => exact (Printed.shown _ text style).trans (ih (scene.print text style))
  | emit event next ih => exact ih (scene.emit event)
  | start dialogue next ih =>
    rw [run]
    split
    · exact ih false scene
    · exact ih true _

namespace Terminal
variable {C : Type}

theorem resume_printed (scene : Scene (Dialogue C)) (result : Except Failure (DialogueStep (Dialogue C))) :
    Printed scene.transcript (scene.resume result).transcript := by
  cases result with
  | error failure => exact .shown _ _ _
  | ok step => cases step <;> exact .refl _

theorem conclude_printed (scene : Scene (Dialogue C)) {result : Except Failure CommandOutput}
    (kept : result ≠ .ok .clear) : Printed scene.transcript (scene.conclude result).transcript := by
  cases result with
  | error failure => exact .shown _ _ _
  | ok output =>
    cases output with
    | silent => exact .refl _
    | clear => exact absurd rfl kept
    | text text =>
      refine ⟨(Text.splitOn '\n' text).map .output, rfl, ?_⟩
      intro entry member
      obtain ⟨piece, _, rfl⟩ := List.mem_map.mp member
      rfl

theorem called_printed (terminal : Terminal C) (input : String) :
    Printed (terminal.scene.transcript ++
        [.command (Text.trimmed input) terminal.scene.session.user terminal.scene.session.host])
      (terminal.called input).2.transcript := by
  unfold called
  exact Program.run_printed _ _ _ _

variable [CustomDialogue C]

theorem answered_printed (terminal : Terminal C) (active : Dialogue C) (input : String) :
    Printed terminal.scene.transcript (terminal.answered active input).2.transcript := by
  unfold answered
  exact Program.run_printed _ _ _ { terminal.scene with dialogue := none }

theorem active_growth {terminal : Terminal C} {input : String} {active : Dialogue C}
    (found : terminal.scene.dialogue = some active) :
    Printed terminal.scene.transcript (terminal.submit input).1.scene.transcript := by
  have spoken := answered_printed terminal active input
  rw [submit_of_active found]
  generalize terminal.answered active input = run at spoken
  exact spoken.trans (resume_printed run.2 run.1)

theorem filled_growth {terminal : Terminal C} {input : String} (idle : terminal.scene.dialogue = none)
    (filled : Text.trimmed input ≠ "") :
    ((terminal.called input).1 = .ok .clear → (terminal.submit input).1.scene.transcript = []) ∧
    ((terminal.called input).1 ≠ .ok .clear → Printed (terminal.scene.transcript ++
        [.command (Text.trimmed input) terminal.scene.session.user terminal.scene.session.host])
      (terminal.submit input).1.scene.transcript) := by
  have spoken := called_printed terminal input
  rw [submit_of_filled idle filled]
  generalize terminal.called input = run at spoken
  constructor
  · intro cleared
    rw [cleared]
    rfl
  · intro kept
    exact spoken.trans (conclude_printed run.2 kept)

/-- A line that answers a question only adds output, and a blank one adds nothing. Any other line
empties the transcript if its command asks for it; otherwise it adds one command entry, under the
identity before it, and behind that only output. -/
theorem transcript_growth (terminal : Terminal C) (input : String) :
    let before := terminal.scene
    let after := (terminal.submit input).1.scene.transcript
    match before.dialogue with
    | some _ => Printed before.transcript after
    | none =>
      if Text.trimmed input = "" then after = before.transcript
      else ((terminal.called input).1 = .ok .clear → after = []) ∧
        ((terminal.called input).1 ≠ .ok .clear → Printed (before.transcript ++
          [.command (Text.trimmed input) before.session.user before.session.host]) after) := by
  intro before after
  cases waiting : before.dialogue with
  | some active => exact active_growth waiting
  | none =>
    dsimp only
    split
    · next empty =>
      simp only [after, submit_of_blank waiting empty]
      rfl
    · next filled => exact filled_growth waiting filled

theorem submit_prefix {terminal : Terminal C} {input : String}
    (kept : terminal.outcome? input ≠ some (.ok .clear)) :
    terminal.scene.transcript <+: (terminal.submit input).1.scene.transcript := by
  cases waiting : terminal.scene.dialogue with
  | some active => exact (active_growth waiting).isPrefix
  | none =>
    by_cases empty : Text.trimmed input = ""
    · have same : (terminal.submit input).1 = terminal := by rw [submit_of_blank waiting empty]
      simp only [same, List.prefix_refl]
    · have uncleared : (terminal.called input).1 ≠ .ok .clear := by
        intro cleared
        exact kept (outcome?_eq_some_iff.mpr ⟨waiting, empty, cleared⟩)
      exact (List.prefix_append _ _).trans ((filled_growth waiting empty).2 uncleared).isPrefix

/-- Over any lines none of which clears it, the transcript keeps what it shows at its front. -/
theorem transcript_prefix {terminal : Terminal C} {lines : List String}
    (kept : ∀ early line late, lines = early ++ line :: late →
      (terminal.afterLines early).outcome? line ≠ some (.ok .clear)) :
    terminal.scene.transcript <+: (terminal.afterLines lines).scene.transcript := by
  refine afterLines_relates (fun first second => first.scene.transcript <+: second.scene.transcript) ?_ ?_ ?_
  · exact fun now => List.prefix_refl now.scene.transcript
  · exact fun _ _ _ first second => first.trans second
  · intro early line late split
    exact submit_prefix (kept early line late split)

end Terminal
end LessonShell
