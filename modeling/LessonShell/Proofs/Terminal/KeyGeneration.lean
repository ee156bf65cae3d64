import LessonShell.Proofs.Installation
import LessonShell.Proofs.Terminal.Attempts

/-! The wizard of `ssh-keygen`, from its command line to its last answer. The first two answers only
pick the name; the third makes the installation, so it succeeds exactly if nothing is in the way. A
refused installation is not undone: it can leave a private key without its public one. -/
namespace LessonShell

/-- The last segment of an answer, trailing slashes apart, or the name for the algorithm where that is
no proper name. -/
def KeyPair.requestedName (algorithm answer : String) : String :=
  let kept := String.ofList (Text.dropEndWhile (· == '/') answer.toList)
  let last := (Text.splitOn '/' kept).getLastD ""
  if last = "" ∨ last = "." ∨ last = ".." then "id_" ++ algorithm else last

theorem Prompt.chosenName_eq (algorithm answer : String) :
    chosenName ("id_" ++ algorithm) answer = KeyPair.requestedName algorithm answer := by
  unfold KeyPair.requestedName
  dsimp only
  rw [Text.getLastD_splitOn]
  rfl

namespace Terminal
variable {C : Type} {lesson : Lesson}

theorem sshKeygen_member : (Command.sshKeygen : Command C) ∈ Registry.standardCommands := by
  simp [Registry.standardCommands]

/-- A turn that changes nothing but the question, after another turn. -/
theorem Leaves.reask {before middle after : Terminal C} {session : Session} {vfs : Vfs}
    {prompt next : Option Prompt} (leaves : Leaves before session vfs prompt middle)
    (reasks : Leaves middle middle.scene.session middle.scene.vfs next after) :
    Leaves before session vfs next after := by
  refine ⟨reasks.lesson.trans leaves.lesson, reasks.registry.trans leaves.registry, ?_,
    reasks.vfs.trans leaves.vfs, reasks.dialogue, reasks.pending⟩
  rw [reasks.session, leaves.session]

variable [CustomDialogue C]

/-- What the last answer to the wizard does: it installs the key pair if nothing is in the way, and is
answered with one error otherwise. -/
structure Generates (before : Terminal C) (algorithm name input : String)
    (turn : Terminal C × List Event) : Prop where
  succeeds : (before.answered (.builtin (.keygen .confirm algorithm name)) input).1 = .ok .finish ↔
    KeyPair.Installable before.scene.vfs before.scene.session.home name
  installs : KeyPair.Installable before.scene.vfs before.scene.session.home name →
    turn.2 = [.keygenDone] ∧
      KeyPair.Installed before.scene.vfs before.scene.session.home name
        (KeyPair.publicText algorithm (before.scene.session.user ++ "@" ++ before.scene.session.host))
        turn.1.scene.vfs
  refuses : ¬ KeyPair.Installable before.scene.vfs before.scene.session.home name →
    turn.2 = [] ∧ ∃ failure : Failure, turn.1.scene.transcript =
      before.scene.transcript ++ [.output "", .styled failure.message .error]
  leaves : Leaves before before.scene.session turn.1.scene.vfs none turn.1

/-- How the wizard ends with its last answer: the installation is finished and announced, or it is
refused and its fault is shown. -/
inductive LastAnswer (before : Terminal C) (algorithm name input : String)
    (turn : Terminal C × List Event) : Prop
  | finished {paths} (ends : KeyPair.Ends before.scene.vfs before.scene.session.home name algorithm
      (before.scene.session.user ++ "@" ++ before.scene.session.host) (.ok paths) turn.1.scene.vfs)
    (succeeded : (before.answered (.builtin (.keygen .confirm algorithm name)) input).1 = .ok .finish)
    (batch : turn.2 = [.keygenDone])
  | refused {fault} (ends : KeyPair.Ends before.scene.vfs before.scene.session.home name algorithm
      (before.scene.session.user ++ "@" ++ before.scene.session.host) (.error fault) turn.1.scene.vfs)
    (failed : (before.answered (.builtin (.keygen .confirm algorithm name)) input).1 = .error (.vfs fault))
    (shown : turn.1.scene.transcript = before.scene.transcript ++
      [.output "", .styled (Failure.vfs fault).message .error])
    (batch : turn.2 = [])

section confirm
variable {before : Terminal C} {algorithm name : String} {after : Vfs}

theorem confirm_refused (active : before.scene.dialogue = some (.builtin (.keygen .confirm algorithm name)))
    {fault : Vfs.Fault} (done : KeyPair.install before.scene.vfs before.scene.session.home name algorithm
      (before.scene.session.user ++ "@" ++ before.scene.session.host) = (.error fault, after)) (input : String) :
    (before.answered (.builtin (.keygen .confirm algorithm name)) input).1 = .error (.vfs fault) ∧
      (before.submit input).1.scene.transcript = before.scene.transcript ++
        [.output "", .styled (Failure.vfs fault).message .error] := by
  have ran : before.answered (.builtin (.keygen .confirm algorithm name)) input = _ :=
    Prompt.generateKeys_fails input before.lesson { before.scene with dialogue := none } done
  rw [submit_of_active active, ran]
  exact ⟨rfl, List.append_assoc ..⟩

theorem confirm_finished {paths : String × String}
    (done : KeyPair.install before.scene.vfs before.scene.session.home name algorithm
      (before.scene.session.user ++ "@" ++ before.scene.session.host) = (.ok paths, after)) (input : String) :
    (before.answered (.builtin (.keygen .confirm algorithm name)) input).1 = .ok .finish := by
  obtain ⟨entries, ran⟩ :=
    Prompt.generateKeys_finishes input before.lesson { before.scene with dialogue := none } done
  exact congrArg Prod.fst ran

theorem Poised.lastAnswer (poised : Poised lesson before)
    (active : before.scene.dialogue = some (.builtin (.keygen .confirm algorithm name))) (input : String) :
    LastAnswer before algorithm name input (before.submit input) ∧
      Leaves before before.scene.session (before.submit input).1.scene.vfs none (before.submit input).1 := by
  obtain ⟨failure, session, after, next, events, reply, leaves, batch⟩ := poised.answers active input
  have files := leaves.vfs
  cases reply with
  | keyFailed done =>
    obtain ⟨failed, shown⟩ := confirm_refused active done input
    exact ⟨.refused (files ▸ KeyPair.install_eq_iff.mp done) failed shown batch, files ▸ leaves⟩
  | keyWritten done =>
    exact ⟨.finished (files ▸ KeyPair.install_eq_iff.mp done) (confirm_finished done input) batch, files ▸ leaves⟩

theorem Poised.confirms (poised : Poised lesson before)
    (active : before.scene.dialogue = some (.builtin (.keygen .confirm algorithm name))) (input : String) :
    Generates before algorithm name input (before.submit input) := by
  have consistent := poised.sound.stands.consistent
  have segment : IsSegment name := (poised.fits _ active).2.1
  obtain ⟨ended, leaves⟩ := poised.lastAnswer active input
  cases ended with
  | refused ends failed shown batch =>
    obtain ⟨blocked, _⟩ := ends.of_error consistent segment
    refine ⟨?_, fun installable => absurd installable blocked, fun _ => ⟨batch, _, shown⟩, leaves⟩
    rw [failed]
    exact iff_of_false nofun blocked
  | finished ends succeeded batch =>
    have installable := ends.installable consistent segment
    exact ⟨iff_of_true succeeded installable, fun _ => ⟨batch, ends.installed consistent segment⟩,
      fun blocked => absurd installable blocked, leaves⟩

end confirm

section wizard
variable {before : Terminal C} {input : String}

theorem Invokes.sshKeygen_asks {algorithm : String} (known : algorithm ∈ ["rsa", "ed25519", "ecdsa"])
    (invokes : Invokes lesson before input .sshKeygen ["-t", algorithm]) :
    Leaves before before.scene.session before.scene.vfs (some (.newKeygen algorithm))
        (before.submit input).1 ∧
      (before.submit input).2 = [before.callEvent input "ssh-keygen" ["-t", algorithm]] := by
  have chosen : Command.keyAlgorithm "rsa" ["-t", algorithm] = .ok algorithm := rfl
  obtain ⟨entries, ran⟩ := Command.sshKeygen_asks lesson (Text.trimmed input)
    (before.callScene input "ssh-keygen" ["-t", algorithm]) invokes.idle chosen known
  exact invokes.leaves ran rfl (List.append_nil _).symm

theorem Poised.named (poised : Poised lesson before) {algorithm : String}
    (active : before.scene.dialogue = some (.builtin (.newKeygen algorithm))) (input : String) :
    Leaves before before.scene.session before.scene.vfs
        (some (.keygen .passphrase algorithm (KeyPair.requestedName algorithm (Text.trimmed input))))
        (before.submit input).1 ∧
      (before.submit input).2 = [] := by
  obtain ⟨failure, session, vfs, next, events, reply, leaves, batch⟩ := poised.answers active input
  cases reply with
  | named =>
    rw [← Prompt.chosenName_eq, ← Text.trimmed_trimmed]
    exact ⟨leaves, batch⟩

theorem Poised.hidden (poised : Poised lesson before) {algorithm name : String}
    (active : before.scene.dialogue = some (.builtin (.keygen .passphrase algorithm name))) (input : String) :
    Leaves before before.scene.session before.scene.vfs (some (.keygen .confirm algorithm name))
        (before.submit input).1 ∧
      (before.submit input).2 = [] := by
  obtain ⟨failure, session, vfs, next, events, reply, leaves, batch⟩ := poised.answers active input
  cases reply with
  | hidden => exact ⟨leaves, batch⟩

end wizard

/-- In every state that waits for a line, `ssh-keygen -t` with a known algorithm asks three questions
whatever the answers are. The first two change nothing but the question and pick the name of the key;
the third installs the pair if nothing is in the way, and is answered with one error otherwise. -/
theorem wizard_completes {terminal : Terminal C} (opens : Opens lesson terminal) (steps : List Step)
    (idle : (terminal.after steps).scene.dialogue = none) {opening word algorithm : String}
    (words : Text.words opening = [word, "-t", algorithm]) (called : Text.foldCase word = "ssh-keygen")
    (known : algorithm ∈ ["rsa", "ed25519", "ecdsa"]) (first second third : String) :
    let start := terminal.after steps
    let name := KeyPair.requestedName algorithm (Text.trimmed first)
    let asked := (start.submit opening).1
    let named := (asked.submit first).1
    let confirming := (named.submit second).1
    (Leaves start start.scene.session start.scene.vfs
        (some (.keygen .file algorithm ("id_" ++ algorithm))) asked ∧
      (start.submit opening).2 = [start.callEvent opening "ssh-keygen" ["-t", algorithm]]) ∧
    (Leaves start start.scene.session start.scene.vfs (some (.keygen .passphrase algorithm name)) named ∧
      (asked.submit first).2 = []) ∧
    (Leaves start start.scene.session start.scene.vfs (some (.keygen .confirm algorithm name)) confirming ∧
      (named.submit second).2 = []) ∧
    Generates confirming algorithm name third (confirming.submit third) := by
  intro start name asked named confirming
  have poised : Poised lesson start := opens.poised_after steps
  have invokes : Invokes lesson start opening .sshKeygen ["-t", algorithm] :=
    invokes_standard poised.sound.about poised.sound.registry idle poised.quiet sshKeygen_member
      (by simp [Command.sshKeygen]) words called
  obtain ⟨opened, announced⟩ := invokes.sshKeygen_asks known
  have asks : Poised lesson asked := poised.submit opening
  obtain ⟨picked, silent⟩ := asks.named opened.dialogue first
  have hides : Poised lesson named := asks.submit first
  obtain ⟨repeated, still⟩ := hides.hidden picked.dialogue second
  have last := (hides.submit second).confirms repeated.dialogue third
  have chosen := opened.reask picked
  exact ⟨⟨opened, announced⟩, ⟨chosen, silent⟩, ⟨chosen.reask repeated, still⟩, last⟩

theorem wizard_completes_despite_slashes : ∃ terminal : Terminal Empty, Opens Lesson.default terminal ∧
    let asked := ((terminal.after [.submit "mkdir .ssh"]).submit "SSH-Keygen  -t ed25519").1
    let named := (asked.submit " /tmp/mine// ").1
    let confirming := (named.submit "first").1
    named.scene.dialogue = some (.builtin (.keygen .passphrase "ed25519" "mine")) ∧
      (confirming.submit "second").2 = [.keygenDone] ∧
      (confirming.submit "second").1.scene.vfs.read "/home/alumno/.ssh/mine" = .ok KeyPair.privateText := by
  obtain ⟨terminal, accepted⟩ := exists_new_default (C := Empty)
  have opens : Opens Lesson.default terminal := ⟨terminal, accepted, .inl rfl⟩
  have ran : (Terminal.new (C := Empty) Lesson.default).toOption.map (fun fresh =>
      let start := fresh.after [.submit "mkdir .ssh"]
      let scene := (start.afterLines ["SSH-Keygen  -t ed25519", " /tmp/mine// ", "first"]).scene
      (start.scene.dialogue, scene.session.home, scene.vfs.isDir scene.session.home,
        scene.vfs.isDir (KeyPair.directory scene.session.home),
        scene.vfs.isDir (KeyPair.privatePath scene.session.home "mine"),
        scene.vfs.isDir (KeyPair.publicPath scene.session.home "mine"))) =
        some (none, "/home/alumno", true, true, false, false) := by decide +kernel
  rw [accepted] at ran
  obtain ⟨idle, home, above, place, secret, shared⟩ : _ ∧ _ ∧ _ ∧ _ ∧ _ ∧ _ := by
    simpa using Option.some.inj ran
  have words : Text.words "SSH-Keygen  -t ed25519" = ["SSH-Keygen", "-t", "ed25519"] := by decide +kernel
  have name : KeyPair.requestedName "ed25519" (Text.trimmed " /tmp/mine// ") = "mine" := by decide +kernel
  have path : KeyPair.privatePath "/home/alumno" "mine" = "/home/alumno/.ssh/mine" := by decide +kernel
  obtain ⟨_, ⟨named, _⟩, _, generates⟩ := wizard_completes opens [.submit "mkdir .ssh"] idle words
    (by decide +kernel) (by decide) " /tmp/mine// " "first" "second"
  rw [name] at named generates
  obtain ⟨announced, installed⟩ := generates.installs ⟨above, .inr place, secret, shared⟩
  refine ⟨terminal, opens, named.dialogue, announced, ?_⟩
  rw [← path, ← home]
  exact installed.secret

/-- A wizard whose last answer fails has not made the `.ssh` directory. It has left the files as they
were unless only a directory in the place of the public key was in the way: then the private key has
been written. -/
theorem failed_generation_files {terminal : Terminal C} (opens : Opens lesson terminal) (steps : List Step)
    {algorithm name : String}
    (active : (terminal.after steps).scene.dialogue = some (.builtin (.keygen .confirm algorithm name)))
    {input : String} {failure : Failure}
    (failed : ((terminal.after steps).answered (.builtin (.keygen .confirm algorithm name)) input).1 =
      .error failure) :
    let before := (terminal.after steps).scene
    let after := ((terminal.after steps).submit input).1.scene
    (after.vfs = before.vfs ↔ ¬ KeyPair.Halves before.vfs before.session.home name) ∧
    (KeyPair.Halves before.vfs before.session.home name → ∃ new,
      before.vfs.write (KeyPair.privatePath before.session.home name) KeyPair.privateText =
        (.ok new, after.vfs)) ∧
    after.vfs.has (KeyPair.directory before.session.home) =
      before.vfs.has (KeyPair.directory before.session.home) := by
  intro before after
  have poised : Poised lesson (terminal.after steps) := opens.poised_after steps
  have consistent := poised.sound.stands.consistent
  have segment : IsSegment name := (poised.fits _ active).2.1
  cases (poised.lastAnswer active input).1 with
  | finished ends succeeded batch =>
    rw [succeeded] at failed
    cases failed
  | refused ends _ shown batch =>
    refine ⟨ends.unchanged_iff consistent segment, ?_, ends.has_directory consistent segment⟩
    rintro ⟨shared, secret, _⟩
    exact (if_pos ⟨shared, secret⟩).mp (ends.of_error consistent segment).2

/-- Lines after which the wizard for the offered name asks its last question, with a directory in the
way of one of the two files. -/
private def obstructed (name : String) : List Step :=
  [.submit "mkdir .ssh", .submit "cd .ssh", .submit ("mkdir " ++ name), .submit "ssh-keygen", .submit "", .submit ""]

private theorem exists_error {ε α : Type} {result : Except ε α} (failed : result.toOption = none) :
    ∃ failure, result = .error failure := by
  cases result with
  | error failure => exact ⟨failure, rfl⟩
  | ok value => cases failed

theorem failed_generation_keeps_files : ∃ terminal : Terminal Empty, Opens Lesson.default terminal ∧
    let before := terminal.after (obstructed "id_rsa")
    (∃ failure, (before.answered (.builtin (.keygen .confirm "rsa" "id_rsa")) "").1 = .error failure) ∧
      (before.submit "").1.scene.vfs = before.scene.vfs := by
  obtain ⟨terminal, accepted⟩ := exists_new_default (C := Empty)
  have opens : Opens Lesson.default terminal := ⟨terminal, accepted, .inl rfl⟩
  have ran : (Terminal.new (C := Empty) Lesson.default).toOption.map (fun fresh =>
      let before := fresh.after (obstructed "id_rsa")
      (before.scene.dialogue,
        (before.answered (.builtin (.keygen .confirm "rsa" "id_rsa")) "").1.toOption.isNone,
        before.scene.vfs.isDir (KeyPair.publicPath before.scene.session.home "id_rsa"))) =
        some (some (.builtin (.keygen .confirm "rsa" "id_rsa")), true, false) := by decide +kernel
  rw [accepted] at ran
  obtain ⟨active, fails, free⟩ : _ ∧ _ ∧ _ := by simpa using Option.some.inj ran
  obtain ⟨failure, failed⟩ := exists_error fails
  refine ⟨terminal, opens, ⟨failure, failed⟩, (failed_generation_files opens _ active failed).1.mpr ?_⟩
  rintro ⟨shared, _⟩
  exact Bool.false_ne_true (free.symm.trans shared)

theorem failed_generation_halves : ∃ terminal : Terminal Empty, Opens Lesson.default terminal ∧
    let before := terminal.after (obstructed "id_rsa.pub")
    let after := (before.submit "").1
    before.scene.dialogue = some (.builtin (.keygen .confirm "rsa" "id_rsa")) ∧
      (∃ failure, (before.answered (.builtin (.keygen .confirm "rsa" "id_rsa")) "").1 = .error failure) ∧
      after.scene.vfs.isFile "/home/alumno/.ssh/id_rsa" = true ∧
      after.scene.vfs.isFile "/home/alumno/.ssh/id_rsa.pub" = false ∧
      after.scene.vfs ≠ before.scene.vfs := by
  obtain ⟨terminal, accepted⟩ := exists_new_default (C := Empty)
  have opens : Opens Lesson.default terminal := ⟨terminal, accepted, .inl rfl⟩
  have ran : (Terminal.new (C := Empty) Lesson.default).toOption.map (fun fresh =>
      let before := fresh.after (obstructed "id_rsa.pub")
      let after := (before.submit "").1
      (before.scene.dialogue,
        (before.answered (.builtin (.keygen .confirm "rsa" "id_rsa")) "").1.toOption.isNone,
        after.scene.vfs.isFile "/home/alumno/.ssh/id_rsa", after.scene.vfs.isFile "/home/alumno/.ssh/id_rsa.pub",
        before.scene.vfs.isFile "/home/alumno/.ssh/id_rsa")) =
        some (some (.builtin (.keygen .confirm "rsa" "id_rsa")), true, true, false, false) := by decide +kernel
  rw [accepted] at ran
  obtain ⟨active, fails, secret, shared, absent⟩ : _ ∧ _ ∧ _ ∧ _ ∧ _ := by simpa using Option.some.inj ran
  refine ⟨terminal, opens, active, exists_error fails, secret, shared, fun same => ?_⟩
  rw [same, absent] at secret
  cases secret

end Terminal
end LessonShell
