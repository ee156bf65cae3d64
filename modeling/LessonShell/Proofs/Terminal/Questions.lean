import LessonShell.Proofs.Shell.RemoteArguments
import LessonShell.Proofs.Terminal.WorkingDirectory

/-! The question that waits for an answer. It is asked about the host of the lesson, before a
key or a password has opened it, and it stays answerable: no other line can be submitted in
between, so what held when it was asked still holds when it is answered. -/
namespace LessonShell

theorem Text.not_mem_afterLast (mark : Char) (text : List Char) : mark ∉ afterLast mark text := by
  induction text with
  | nil => simp [afterLast]
  | cons c rest ih =>
    rw [afterLast]
    split
    · exact ih
    · next last =>
      split
      · exact last
      · next other => simp [Ne.symm other, last]

/-- A login that nothing has opened yet, to the host of the lesson and by a user whom an
operand can name. -/
structure Unopened (target : Target) (session : Session) (user host : String) : Prop where
  here : host = target.host
  filled : user ≠ ""
  unmarked : '@' ∉ user.toList
  unauthorized : session.isAuthorized user host = false

namespace Prompt

/-- What holds of a question as long as it waits. -/
def Fits (target : Target) (session : Session) : Prompt → Prop
  | .password purpose user host => Unopened target session user host ∧
      (purpose = .login → target.confirmHostKey = false ∨ session.knowsHost host = true)
  | .hostKey user host => Unopened target session user host ∧
      target.confirmHostKey = true ∧ session.knowsHost host = false
  | .keygen _ algorithm keyName =>
    algorithm ∈ ["rsa", "ed25519", "ecdsa"] ∧ IsSegment keyName ∧ keyName ≠ "." ∧ keyName ≠ ".."

theorem Fits.of_trust_eq {target : Target} {session after : Session} {prompt : Prompt}
    (fits : prompt.Fits target session) (authorized : after.authorized = session.authorized)
    (known : after.knownHosts = session.knownHosts) : prompt.Fits target after := by
  have opened {user host : String} (unopened : Unopened target session user host) :
      Unopened target after user host := by
    refine ⟨unopened.here, unopened.filled, unopened.unmarked, ?_⟩
    rw [Session.isAuthorized, authorized]
    exact unopened.unauthorized
  cases prompt with
  | password purpose user host =>
    refine ⟨opened fits.1, ?_⟩
    rw [Session.knowsHost, known]
    exact fits.2
  | hostKey user host =>
    refine ⟨opened fits.1, fits.2.1, ?_⟩
    rw [Session.knowsHost, known]
    exact fits.2.2
  | keygen step algorithm keyName => exact fits

theorem chosenName_fits {present : String} (answer : String)
    (fits : IsSegment present ∧ present ≠ "." ∧ present ≠ "..") :
    IsSegment (chosenName present answer) ∧ chosenName present answer ≠ "." ∧
      chosenName present answer ≠ ".." := by
  unfold chosenName
  dsimp only
  split
  · exact fits
  · next proper =>
    rw [not_or, not_or] at proper
    obtain ⟨filled, dot, up⟩ := proper
    refine ⟨⟨filled, ?_⟩, dot, up⟩
    rw [PathText.fileName, String.toList_ofList]
    exact Text.not_mem_afterLast '/' _

theorem newKeygen_fits {target : Target} {session : Session} {algorithm : String}
    (known : algorithm ∈ ["rsa", "ed25519", "ecdsa"]) : (newKeygen algorithm).Fits target session := by
  refine ⟨known, ?_⟩
  revert algorithm
  decide

end Prompt

section turns
variable {lesson : Lesson} {line name : String} {args : List String} {session after : Session}
  {vfs changed : Vfs} {prompt : Prompt} {events : List Event}

theorem unopened_of_reach {operand user host : String} {port : Option UInt16}
    (reached : RemoteOperands.reach lesson.target operand port = .ok (user, host))
    (unauthorized : ¬ session.isAuthorized user host = true) :
    Unopened lesson.target session user host := by
  obtain ⟨named, here, _⟩ := RemoteOperands.reach_eq_ok_iff.mp reached
  exact ⟨here, named.userFilled, named.userUnmarked, by simpa using unauthorized⟩

theorem Effect.fits {result : Except Failure CommandOutput}
    (effect : Effect lesson line session vfs name args result after changed (some prompt) events) :
    prompt.Fits lesson.target after := by
  cases effect with
  | askedHost read target reached unauthorized confirm unknown =>
    exact ⟨unopened_of_reach reached unauthorized, confirm, by simpa using unknown⟩
  | askedLogin read target reached unauthorized trusted =>
    exact ⟨unopened_of_reach reached unauthorized, fun _ => trusted⟩
  | askedKey known => exact Prompt.newKeygen_fits known
  | askedInstall key read target reached unauthorized =>
    exact ⟨unopened_of_reach reached unauthorized, nofun⟩

theorem Reply.fits {asked : Prompt} {failure : Option Failure}
    (reply : Reply lesson session vfs line asked failure after changed (some prompt) events)
    (fits : asked.Fits lesson.target session) : prompt.Fits lesson.target after := by
  cases reply with
  | trusted yes =>
    obtain ⟨unopened, _, _⟩ := fits
    refine ⟨⟨unopened.here, unopened.filled, unopened.unmarked, unopened.unauthorized⟩, fun _ => .inr ?_⟩
    simp [Session.knowsHost, Session.trustHost]
  | askedAgain other undecided => exact fits
  | named => exact ⟨fits.1, Prompt.chosenName_fits _ fits.2⟩
  | hidden => exact fits

end turns

namespace Terminal
variable {C : Type} {lesson : Lesson}

/-- A terminal between two turns: no event is left over, and the question fits. -/
structure Poised (lesson : Lesson) (terminal : Terminal C) : Prop where
  sound : Sound lesson terminal
  quiet : terminal.scene.bus.pending = []
  fits : ∀ prompt, terminal.scene.dialogue = some (.builtin prompt) →
    prompt.Fits lesson.target terminal.scene.session

theorem Opens.poised {terminal : Terminal C} (opens : Opens lesson terminal) : Poised lesson terminal := by
  have sound := opens.sound
  obtain ⟨fresh, accepted, same⟩ := opens
  obtain ⟨_, vfs, loaded, rfl⟩ := new_eq_ok_iff.mp accepted
  rcases same with rfl | rfl
  · exact ⟨sound, rfl, nofun⟩
  · exact ⟨sound, rfl, nofun⟩

theorem Leaves.next_eq {before after : Terminal C} {session : Session} {vfs : Vfs} {next : Option Prompt}
    (leaves : Leaves before session vfs next after) {prompt : Prompt}
    (active : after.scene.dialogue = some (.builtin prompt)) : next = some prompt := by
  obtain ⟨asked, waiting, same⟩ := Option.map_eq_some_iff.mp (leaves.dialogue.symm.trans active)
  rw [waiting, Dialogue.builtin.inj same]

theorem Leaves.fits {before after : Terminal C} {session : Session} {vfs : Vfs} {next : Option Prompt}
    (leaves : Leaves before session vfs next after)
    (fits : ∀ prompt, next = some prompt → prompt.Fits lesson.target session) (prompt : Prompt)
    (active : after.scene.dialogue = some (.builtin prompt)) :
    prompt.Fits lesson.target after.scene.session := by
  apply (fits prompt (leaves.next_eq active)).of_trust_eq
  · rw [leaves.session]
  · rw [leaves.session]

variable [CustomDialogue C]

theorem Poised.submit {before : Terminal C} (poised : Poised lesson before) (input : String) :
    Poised lesson (before.submit input).1 := by
  have sound := poised.sound
  have after := sound.submit input
  cases sound.turn input with
  | blank idle empty same silent =>
    rw [same]
    exact poised
  | command idle filled effect leaves batch =>
    refine ⟨after, leaves.pending, leaves.fits fun prompt waiting => ?_⟩
    subst waiting
    rw [← sound.about]
    exact effect.fits
  | answer active reply leaves batch =>
    refine ⟨after, leaves.pending, leaves.fits fun prompt waiting => ?_⟩
    subst waiting
    rw [← sound.about]
    exact reply.fits (sound.about ▸ poised.fits _ active)

/-- While a question waits, every line is an answer to it. -/
theorem Poised.answers {before : Terminal C} (poised : Poised lesson before) {prompt : Prompt}
    (asked : before.scene.dialogue = some (.builtin prompt)) (input : String) :
    ∃ failure session vfs next events, Reply lesson before.scene.session before.scene.vfs
        (if prompt.masked then input else Text.trimmed input) prompt failure session vfs next events ∧
      Leaves before session vfs next (before.submit input).1 ∧ (before.submit input).2 = events := by
  cases poised.sound.turn input with
  | blank idle empty same silent =>
    rw [asked] at idle
    cases idle
  | command idle filled effect leaves batch =>
    rw [asked] at idle
    cases idle
  | answer active reply leaves batch =>
    rw [asked] at active
    obtain rfl := Dialogue.builtin.inj (Option.some.inj active)
    rw [poised.sound.about] at reply
    rw [poised.quiet] at batch
    exact ⟨_, _, _, _, _, reply, leaves, batch⟩

theorem Poised.take {before : Terminal C} (poised : Poised lesson before) (step : Step) :
    Poised lesson (before.take step) := by
  have sound := poised.sound.take step
  cases step with
  | submit line => exact poised.submit line
  | reset =>
    obtain ⟨vfs, _, same⟩ := poised.sound.take_reset
    rw [same] at sound ⊢
    refine ⟨sound, rfl, fun prompt active => ?_⟩
    cases active

theorem Poised.afterLines {terminal : Terminal C} (poised : Poised lesson terminal) (lines : List String) :
    Poised lesson (terminal.afterLines lines) :=
  after_keeps poised (fun _ now next => now.take next) _

theorem Opens.poised_after {terminal : Terminal C} (opens : Opens lesson terminal) (steps : List Step) :
    Poised lesson (terminal.after steps) :=
  after_keeps opens.poised (fun _ now next => now.take next) steps

/-- After every run of lines and resets the waiting question is a built-in one that fits. -/
theorem question_fits {terminal : Terminal C} (opens : Opens lesson terminal) (steps : List Step)
    {dialogue : Dialogue C} (active : (terminal.after steps).scene.dialogue = some dialogue) :
    ∃ prompt, dialogue = .builtin prompt ∧
      prompt.Fits lesson.target (terminal.after steps).scene.session := by
  have poised := opens.poised_after steps
  obtain ⟨prompt, rfl⟩ := poised.sound.builtin dialogue active
  exact ⟨prompt, rfl, poised.fits prompt active⟩

theorem question_fits_once_trusted : ∃ terminal : Terminal Empty, Opens Lesson.default terminal ∧
    let trusting := terminal.after [.submit "ssh alumno@192.168.1.43", .submit "maybe", .submit " YES "]
    trusting.scene.dialogue = some (.builtin (.password .login "alumno" "192.168.1.43")) ∧
      (Prompt.password .login "alumno" "192.168.1.43").Fits Lesson.default.target trusting.scene.session := by
  obtain ⟨terminal, accepted⟩ := exists_new_default (C := Empty)
  have opens : Opens Lesson.default terminal := ⟨terminal, accepted, .inl rfl⟩
  have asked : (Terminal.new (C := Empty) Lesson.default).toOption.map (fun fresh => (fresh.after
      [.submit "ssh alumno@192.168.1.43", .submit "maybe", .submit " YES "]).scene.dialogue) =
        some (some (.builtin (.password .login "alumno" "192.168.1.43"))) := by decide +kernel
  rw [accepted] at asked
  have active := Option.some.inj asked
  obtain ⟨prompt, same, fits⟩ := question_fits opens _ active
  obtain rfl := Dialogue.builtin.inj same
  exact ⟨terminal, opens, active, fits⟩

end Terminal
end LessonShell
