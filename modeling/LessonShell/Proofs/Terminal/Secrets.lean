import LessonShell.Proofs.Terminal.Runs

/-! What a masked answer reveals. Nothing of it but whether a password prompt accepts it: two
runs that differ only in masked answers, accepted alike, cannot be told apart by anything
that a terminal shows, announces or keeps. -/
namespace LessonShell

section prompts
open Program
variable {C : Type} {lesson : Lesson} {scene : Scene (Dialogue C)} {line other : String}

theorem respondPassword_alike {purpose : PasswordPurpose} {user : String} (host : String)
    (alike : Prompt.accepts lesson.target purpose user line = Prompt.accepts lesson.target purpose user other) :
    (Prompt.respondPassword purpose user host line).run line lesson scene =
      (Prompt.respondPassword purpose user host other).run other lesson scene := by
  unfold Prompt.respondPassword
  rw [run_view_bind, run_view_bind]
  dsimp only
  rw [alike]
  split
  · rfl
  · cases purpose with
    | login =>
      dsimp only
      rw [run_completeLogin_bind, run_completeLogin_bind]
      rfl
    | copyId =>
      dsimp only
      rw [run_sayAll_bind, run_sayAll_bind]
      rfl

theorem generateKeys_alike (algorithm keyName : String) :
    (Prompt.generateKeys algorithm keyName).run line lesson scene =
      (Prompt.generateKeys algorithm keyName).run other lesson scene := by
  unfold Prompt.generateKeys
  simp only [run_say_bind, run_view_bind]
  rcases KeyPair.install (scene.print "" .normal).vfs (scene.print "" .normal).session.home keyName algorithm
    ((scene.print "" .normal).session.user ++ "@" ++ (scene.print "" .normal).session.host) with
    ⟨fault | paths, after⟩
  · rfl
  · rfl

/-- A masked prompt has the same effects on two answers unless it is a password prompt that
accepts only one of them. -/
theorem respond_alike {prompt : Prompt} (masked : prompt.masked = true)
    (alike : ∀ purpose user host, prompt = .password purpose user host →
      Prompt.accepts lesson.target purpose user line = Prompt.accepts lesson.target purpose user other) :
    (prompt.respond line).run line lesson scene = (prompt.respond other).run other lesson scene := by
  cases prompt with
  | password purpose user host => exact respondPassword_alike host (alike purpose user host rfl)
  | hostKey user host => cases masked
  | keygen step algorithm keyName =>
    cases step with
    | file => cases masked
    | passphrase => rfl
    | confirm => exact generateKeys_alike algorithm keyName

end prompts

namespace Terminal
variable {C : Type} [CustomDialogue C] {terminal : Terminal C}

/-- Two lines for a masked prompt, which accepts both or neither if it asks for a password. -/
def Concealed (terminal : Terminal C) (line other : String) : Prop :=
  ∃ prompt, terminal.scene.dialogue = some (.builtin prompt) ∧ prompt.masked = true ∧
    ∀ purpose user host, prompt = .password purpose user host →
      Prompt.accepts terminal.lesson.target purpose user line =
        Prompt.accepts terminal.lesson.target purpose user other

theorem Concealed.submit_eq {line other : String} (concealed : Concealed terminal line other) :
    terminal.submit line = terminal.submit other := by
  obtain ⟨prompt, active, masked, alike⟩ := concealed
  have same : terminal.answered (.builtin prompt) line = terminal.answered (.builtin prompt) other := by
    unfold answered
    simp only [Dialogue.masked, Dialogue.respond, masked, if_true]
    exact respond_alike masked alike
  rw [submit_of_active active, submit_of_active active, same]

/-- Two runs whose lines are the same, or concealed where they differ, pass through the same
terminals and return the same events. -/
theorem secrets_concealed {first second : List String} (length : first.length = second.length)
    (differ : ∀ i line other, first[i]? = some line → second[i]? = some other →
      line = other ∨ Concealed (terminal.afterLines (first.take i)) line other) (i : Nat) :
    terminal.afterLines (first.take i) = terminal.afterLines (second.take i) ∧
      ∀ line other, first[i]? = some line → second[i]? = some other →
        ((terminal.afterLines (first.take i)).submit line).2 =
          ((terminal.afterLines (second.take i)).submit other).2 := by
  have step (i : Nat) {line other : String} (here : first[i]? = some line) (there : second[i]? = some other) :
      (terminal.afterLines (first.take i)).submit line =
        (terminal.afterLines (first.take i)).submit other := by
    rcases differ i line other here there with rfl | concealed
    · rfl
    · exact concealed.submit_eq
  have states : terminal.afterLines (first.take i) = terminal.afterLines (second.take i) := by
    induction i with
    | zero => rfl
    | succ i ih =>
      by_cases inside : i < first.length
      · have here := List.getElem?_eq_getElem inside
        have there := List.getElem?_eq_getElem (length ▸ inside)
        rw [List.take_add_one, List.take_add_one, here, there, Option.toList_some, Option.toList_some,
          afterLines_append_singleton, afterLines_append_singleton, step i here there, ih]
      · have past : first.length ≤ i := Nat.le_of_not_lt inside
        rw [List.take_of_length_le past, List.take_of_length_le (length ▸ past)] at ih
        rw [List.take_of_length_le (Nat.le_succ_of_le past),
          List.take_of_length_le (length ▸ Nat.le_succ_of_le past)]
        exact ih
  refine ⟨states, fun line other here there => ?_⟩
  rw [← states, step i here there]

theorem passwords_concealed : ∃ terminal : Terminal Empty, Terminal.new Lesson.default = .ok terminal ∧
    terminal.afterLines ["ssh alumno@192.168.1.43", "yes", " secret"] =
      terminal.afterLines ["ssh alumno@192.168.1.43", "yes", "guess "] := by
  obtain ⟨terminal, accepted⟩ := exists_new_default (C := Empty)
  have asked : (Terminal.new (C := Empty) Lesson.default).toOption.map (fun fresh =>
      let waiting := fresh.afterLines ["ssh alumno@192.168.1.43", "yes"]
      (waiting.scene.dialogue, waiting.lesson.target)) =
        some (some (.builtin (.password .login "alumno" "192.168.1.43")), Target.default) := by decide +kernel
  rw [accepted] at asked
  obtain ⟨active, target⟩ := Prod.mk.inj (Option.some.inj asked)
  have concealed : Concealed (terminal.afterLines ["ssh alumno@192.168.1.43", "yes"]) " secret" "guess " := by
    refine ⟨_, active, rfl, ?_⟩
    rintro purpose user host ⟨⟩
    rw [target]
    decide
  have length : ["ssh alumno@192.168.1.43", "yes", " secret"].length =
    ["ssh alumno@192.168.1.43", "yes", "guess "].length := rfl
  refine ⟨terminal, accepted, (secrets_concealed length ?_ 3).1⟩
  intro i line other here there
  match i with
  | 0 => exact .inl (Option.some.inj (here.symm.trans there))
  | 1 => exact .inl (Option.some.inj (here.symm.trans there))
  | 2 =>
    obtain rfl := Option.some.inj here
    obtain rfl := Option.some.inj there
    exact .inr concealed
  | _ + 3 => cases here

end Terminal
end LessonShell
