import LessonShell.Proofs.Shell.Effects

/-! What an answer to a built-in dialogue does: the outcomes of every question with their
conditions, and the question that comes next. -/
namespace LessonShell

/-- The outcomes of answering a question with `line`: a failure if there is one, the
session and files it leaves, the next question and the events it announces. -/
inductive Reply (lesson : Lesson) (session : Session) (vfs : Vfs) (line : String) :
    Prompt → Option Failure → Session → Vfs → Option Prompt → List Event → Prop
  | denied {purpose user host}
    (wrong : Prompt.accepts lesson.target purpose user line = false) :
    Reply lesson session vfs line (.password purpose user host) none session vfs none []
  | loggedIn {user host} (right : Prompt.accepts lesson.target .login user line = true) :
    Reply lesson session vfs line (.password .login user host) none (session.connect user host) vfs none
      [.connected user host .password]
  | installed {user host} (right : Prompt.accepts lesson.target .copyId user line = true) :
    Reply lesson session vfs line (.password .copyId user host) none (session.authorize user host) vfs none
      [.keysCopied]
  | trusted {user host}
    (yes : Text.foldCase line = "yes" ∨ line = lesson.target.hostKeyFingerprint) :
    Reply lesson session vfs line (.hostKey user host) none (session.trustHost host) vfs
      (some (.password .login user host)) []
  | distrusted {user host}
    (other : ¬ (Text.foldCase line = "yes" ∨ line = lesson.target.hostKeyFingerprint))
    (no : Text.foldCase line = "no") :
    Reply lesson session vfs line (.hostKey user host) none session vfs none []
  | askedAgain {user host}
    (other : ¬ (Text.foldCase line = "yes" ∨ line = lesson.target.hostKeyFingerprint))
    (open_ : Text.foldCase line ≠ "no") :
    Reply lesson session vfs line (.hostKey user host) none session vfs (some (.hostKey user host)) []
  | named {algorithm keyName} :
    Reply lesson session vfs line (.keygen .file algorithm keyName) none session vfs
      (some (.keygen .passphrase algorithm (Prompt.chosenName keyName (Text.trimmed line)))) []
  | hidden {algorithm keyName} :
    Reply lesson session vfs line (.keygen .passphrase algorithm keyName) none session vfs
      (some (.keygen .confirm algorithm keyName)) []
  | keyWritten {algorithm keyName paths after}
    (done : KeyPair.install vfs session.home keyName algorithm (session.user ++ "@" ++ session.host) =
      (.ok paths, after)) :
    Reply lesson session vfs line (.keygen .confirm algorithm keyName) none session after none [.keygenDone]
  | keyFailed {algorithm keyName fault after}
    (done : KeyPair.install vfs session.home keyName algorithm (session.user ++ "@" ++ session.host) =
      (.error fault, after)) :
    Reply lesson session vfs line (.keygen .confirm algorithm keyName) (some (.vfs fault)) session after none []

section replies
open Program
variable {C : Type} {lesson : Lesson} {line : String} {scene : Scene (Dialogue C)}

def Replied (lesson : Lesson) (line : String) (prompt : Prompt) (scene : Scene (Dialogue C))
    (run : Except Failure (DialogueStep (Dialogue C)) × Scene (Dialogue C)) : Prop :=
  ∃ failure next events, Reply lesson scene.session scene.vfs line prompt failure
      (run.2.resume run.1).session (run.2.resume run.1).vfs next events ∧
    (run.2.resume run.1).dialogue = next.map .builtin ∧
    (run.2.resume run.1).bus = events.foldl .emit scene.bus ∧
    ∃ entries, (run.2.resume run.1).transcript = scene.transcript ++ entries

theorem password_replied (idle : scene.dialogue = none) (purpose : PasswordPurpose) (user host : String) :
    Replied lesson line (.password purpose user host) scene
      ((Prompt.respondPassword purpose user host line).run line lesson scene) := by
  unfold Prompt.respondPassword
  rw [run_view_bind]
  dsimp only
  split
  · next wrong =>
    exact ⟨none, none, [], .denied (by simpa using wrong), idle, rfl, [_], rfl⟩
  · next accepted =>
    have right := not_not.mp accepted
    cases purpose with
    | login =>
      dsimp only
      rw [run_completeLogin_bind]
      exact ⟨none, none, [_], .loggedIn right, idle, rfl, _, List.append_assoc ..⟩
    | copyId =>
      dsimp only
      rw [run_sayAll_bind]
      exact ⟨none, none, [_], .installed right, idle, rfl, _, rfl⟩

theorem Prompt.hostKey_asksAgain (lesson : Lesson) (line : String) (scene : Scene (Dialogue C))
    {user host : String}
    (other : ¬ (Text.foldCase line = "yes" ∨ line = lesson.target.hostKeyFingerprint))
    (undecided : Text.foldCase line ≠ "no") :
    (Prompt.respondHostKey user host line).run line lesson scene =
      (.ok (.proceed (.builtin (.hostKey user host))), { scene with
        transcript := scene.transcript ++
          [.output line, .styled "Please type 'yes', 'no' or the fingerprint:" .prompt] }) := by
  unfold Prompt.respondHostKey
  rw [run_view_bind, run_say_bind]
  dsimp only
  rw [if_neg other, if_neg undecided, run_sayStyled_bind]
  simp only [run_pure, Scene.print, List.append_assoc]
  rfl

theorem hostKey_replied (idle : scene.dialogue = none) (user host : String) :
    Replied lesson line (.hostKey user host) scene
      ((Prompt.respondHostKey user host line).run line lesson scene) := by
  by_cases yes : Text.foldCase line = "yes" ∨ line = lesson.target.hostKeyFingerprint
  · unfold Prompt.respondHostKey
    rw [run_view_bind, run_say_bind]
    dsimp only
    rw [if_pos yes]
    refine ⟨none, some _, [], .trusted yes, rfl, rfl, ?_⟩
    simp only [run_sayStyled_bind, run_editSession_bind, run_pure, Scene.resume, Scene.print,
      List.append_assoc]
    exact ⟨_, rfl⟩
  · by_cases no : Text.foldCase line = "no"
    · unfold Prompt.respondHostKey
      rw [run_view_bind, run_say_bind]
      dsimp only
      rw [if_neg yes, if_pos no]
      exact ⟨none, none, [], .distrusted yes no, idle, rfl, [_, _], List.append_assoc ..⟩
    · rw [Prompt.hostKey_asksAgain lesson line scene yes no]
      refine ⟨none, some _, [], .askedAgain yes no, ?_, rfl, [_, _], rfl⟩
      change scene.dialogue.or _ = _
      rw [idle]
      rfl

section generation
variable {algorithm keyName : String} {after : Vfs}

theorem Prompt.generateKeys_fails (line : String) (lesson : Lesson) (scene : Scene (Dialogue C)) {fault : Vfs.Fault}
    (done : KeyPair.install scene.vfs scene.session.home keyName algorithm
      (scene.session.user ++ "@" ++ scene.session.host) = (.error fault, after)) :
    (Prompt.generateKeys algorithm keyName).run line lesson scene =
      (.error (.vfs fault), { scene.print "" .normal with vfs := after }) := by
  unfold Prompt.generateKeys
  rw [run_say_bind, run_view_bind]
  dsimp only
  have outcome : KeyPair.install (scene.print "" .normal).vfs (scene.print "" .normal).session.home keyName
      algorithm ((scene.print "" .normal).session.user ++ "@" ++ (scene.print "" .normal).session.host) =
        (.error fault, after) := done
  rw [outcome, run_putVfs_bind_error]

theorem Prompt.generateKeys_finishes (line : String) (lesson : Lesson) (scene : Scene (Dialogue C))
    {paths : String × String}
    (done : KeyPair.install scene.vfs scene.session.home keyName algorithm
      (scene.session.user ++ "@" ++ scene.session.host) = (.ok paths, after)) :
    ∃ entries, (Prompt.generateKeys algorithm keyName).run line lesson scene =
      (.ok .finish, Scene.emit { scene with vfs := after, transcript := scene.transcript ++ entries }
        .keygenDone) := by
  unfold Prompt.generateKeys
  rw [run_say_bind, run_view_bind]
  dsimp only
  have outcome : KeyPair.install (scene.print "" .normal).vfs (scene.print "" .normal).session.home keyName
      algorithm ((scene.print "" .normal).session.user ++ "@" ++ (scene.print "" .normal).session.host) =
        (.ok paths, after) := done
  rw [outcome, run_putVfs_bind_ok]
  simp only [run_say_bind, run_announce_bind, run_pure, Scene.print, List.append_assoc]
  exact ⟨_, rfl⟩

end generation

theorem keygen_replied (idle : scene.dialogue = none) (step : KeygenStep) (algorithm keyName : String) :
    Replied lesson line (.keygen step algorithm keyName) scene
      ((Prompt.respondKeygen algorithm keyName line step).run line lesson scene) := by
  unfold Prompt.respondKeygen
  cases step with
  | file =>
    dsimp only
    rw [run_view_bind]
    dsimp only
    rw [run_say_bind, run_sayStyled_bind]
    refine ⟨none, some _, [], .named, ?_, rfl, [_, _], List.append_assoc ..⟩
    change scene.dialogue.or _ = _
    rw [idle]
    rfl
  | passphrase =>
    dsimp only
    rw [run_say_bind, run_sayStyled_bind]
    refine ⟨none, some _, [], .hidden, ?_, rfl, [_, _], List.append_assoc ..⟩
    change scene.dialogue.or _ = _
    rw [idle]
    rfl
  | confirm =>
    dsimp only
    rcases done : KeyPair.install scene.vfs scene.session.home keyName algorithm
      (scene.session.user ++ "@" ++ scene.session.host) with ⟨result, after⟩
    cases result with
    | error fault =>
      rw [Prompt.generateKeys_fails line lesson scene done]
      exact ⟨some _, none, [], .keyFailed done, idle, rfl, [_, _], List.append_assoc ..⟩
    | ok paths =>
      obtain ⟨entries, ran⟩ := Prompt.generateKeys_finishes line lesson scene done
      rw [ran]
      exact ⟨none, none, [_], .keyWritten done, idle, rfl, entries, rfl⟩

theorem respond_replied (idle : scene.dialogue = none) (prompt : Prompt) :
    Replied lesson line prompt scene ((prompt.respond line).run line lesson scene) := by
  cases prompt with
  | password purpose user host => exact password_replied idle purpose user host
  | hostKey user host => exact hostKey_replied idle user host
  | keygen step algorithm keyName => exact keygen_replied idle step algorithm keyName

end replies
end LessonShell
