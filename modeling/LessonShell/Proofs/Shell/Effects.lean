import LessonShell.Proofs.Shell.Running
import LessonShell.Proofs.Vfs.Relocation

/-! What a command line and an answer can do, apart from what they show. Both relations
list every outcome of the standard commands and dialogues with its conditions, so that a
property of all turns is one case analysis. -/
namespace LessonShell

/-- Where `mv` puts an entry: under its own name into an existing directory, and otherwise at
the path that is named. -/
def Command.destination (vfs : Vfs) (cwd source dest : String) : String :=
  let target := PathText.resolve cwd dest
  if vfs.isDir target then PathText.join target source else target

/-- The commands that can succeed and do no more than show something. -/
def Command.showing : List String :=
  ["ls", "cd", "pwd", "whoami", "cat", "echo", "clear", "exit", "help", "ssh-copy-id"]

/-- The outcomes of a command `name` with `args` while no dialogue is active: its result,
the session and files it leaves, the question it asks and the events it announces. -/
inductive Effect (lesson : Lesson) (line : String) (session : Session) (vfs : Vfs) :
    String → List String → Except Failure CommandOutput → Session → Vfs → Option Prompt →
      List Event → Prop
  | refused {name args} (failure : Failure) (own : failure.kind ≠ .dialogueActive) :
    Effect lesson line session vfs name args (.error failure) session vfs none []
  | shown {name args} (output : CommandOutput) (shows : name ∈ Command.showing) :
    Effect lesson line session vfs name args (.ok output) session vfs none []
  | wentHome (home : vfs.isDir session.home = true) :
    Effect lesson line session vfs "cd" [] (.ok .silent) { session with cwd := session.home } vfs none []
  | wentUp {rest} (deep : 1 < (Path.ofText session.cwd).length) :
    Effect lesson line session vfs "cd" (".." :: rest) (.ok .silent)
      { session with cwd := PathText.parent session.cwd } vfs none []
  | wentTo {arg rest} (there : vfs.isDir (PathText.resolve session.cwd arg) = true) :
    Effect lesson line session vfs "cd" (arg :: rest) (.ok .silent)
      { session with cwd := PathText.resolve session.cwd arg } vfs none []
  | madeDirectory {child rest after} (done : vfs.mkdir (PathText.join session.cwd child) = (.ok (), after))
    (simple : ¬ (Text.contains child "/" || Text.contains child "..") = true)
    (fresh : ¬ (child = "." ∨ vfs.has (PathText.join session.cwd child) = true)) :
    Effect lesson line session vfs "mkdir" (child :: rest) (.ok .silent) session after none []
  | touched {arg rest made after} (done : vfs.touch (PathText.resolve session.cwd arg) = (.ok made, after)) :
    Effect lesson line session vfs "touch" (arg :: rest) (.ok .silent) session after none []
  | moved {source dest rest names destination after}
    (listing : vfs.children session.cwd = .ok names) (listed : source ∈ names)
    (apart : ¬ Command.continues session.home (PathText.join session.cwd source) = true)
    (done : vfs.rename (PathText.join session.cwd source) destination = (.ok (), after))
    (place : destination = Command.destination vfs session.cwd source dest) :
    Effect lesson line session vfs "mv" (source :: dest :: rest) (.ok .silent) session after none []
  | left {args} (text : String) (remote : session.isRemote = true) :
    Effect lesson line session vfs "exit" args (.ok (.text text)) session.disconnect vfs none []
  | appended {args content target}
    (request : EchoRequest.ofLine line = .ok (.append content target)) :
    Effect lesson line session vfs "echo" args (.ok .silent) session vfs none [.fileAppend target content]
  | keyRefused {args content target}
    (request : EchoRequest.ofLine line = .ok (.append content target))
    (short : content.toList.length ≤ 10) :
    Effect lesson line session vfs "echo" args (.error (.command .shortKey)) session vfs none
      [.fileAppend target content]
  | keyAccepted {args content target}
    (request : EchoRequest.ofLine line = .ok (.append content target))
    (long : 10 < content.toList.length) :
    Effect lesson line session vfs "echo" args (.ok .silent)
      (session.authorize session.user session.host) vfs none [.fileAppend target content, .keysCopied]
  | connected {args operands operand user host} (read : RemoteOperands.read "ssh" args = .ok operands)
    (target : operands.target = some operand)
    (reached : RemoteOperands.reach lesson.target operand operands.port = .ok (user, host))
    (authorized : session.isAuthorized user host = true) :
    Effect lesson line session vfs "ssh" args (.ok .silent) (session.connect user host) vfs none
      [.connected user host .key]
  | askedHost {args operands operand user host} (read : RemoteOperands.read "ssh" args = .ok operands)
    (target : operands.target = some operand)
    (reached : RemoteOperands.reach lesson.target operand operands.port = .ok (user, host))
    (unauthorized : ¬ session.isAuthorized user host = true)
    (confirm : lesson.target.confirmHostKey = true) (unknown : ¬ session.knowsHost host = true) :
    Effect lesson line session vfs "ssh" args (.ok .silent) session vfs (some (.hostKey user host)) []
  | askedLogin {args operands operand user host} (read : RemoteOperands.read "ssh" args = .ok operands)
    (target : operands.target = some operand)
    (reached : RemoteOperands.reach lesson.target operand operands.port = .ok (user, host))
    (unauthorized : ¬ session.isAuthorized user host = true)
    (trusted : lesson.target.confirmHostKey = false ∨ session.knowsHost host = true) :
    Effect lesson line session vfs "ssh" args (.ok .silent) session vfs
      (some (.password .login user host)) []
  | askedKey {args algorithm} (known : algorithm ∈ ["rsa", "ed25519", "ecdsa"]) :
    Effect lesson line session vfs "ssh-keygen" args (.ok .silent) session vfs
      (some (.newKeygen algorithm)) []
  | askedInstall {args operands operand user host publicKey}
    (key : KeyPair.find? vfs session.home = some publicKey)
    (read : RemoteOperands.read "ssh-copy-id" args = .ok operands)
    (target : operands.target = some operand)
    (reached : RemoteOperands.reach lesson.target operand operands.port = .ok (user, host))
    (unauthorized : ¬ session.isAuthorized user host = true) :
    Effect lesson line session vfs "ssh-copy-id" args (.ok .silent) session vfs
      (some (.password .copyId user host)) []

section commands
open Program
variable {C : Type} {lesson : Lesson} {line name : String} {args : List String} {scene : Scene (Dialogue C)}

/-- A run had one of the listed effects, and only added to the transcript; it showed nothing if
it failed. -/
def Performed (lesson : Lesson) (line name : String) (args : List String) (scene : Scene (Dialogue C))
    (run : Except Failure CommandOutput × Scene (Dialogue C)) : Prop :=
  ∃ prompt events, Effect lesson line scene.session scene.vfs name args run.1 run.2.session run.2.vfs
      prompt events ∧
    run.2.dialogue = prompt.map .builtin ∧ run.2.bus = events.foldl .emit scene.bus ∧
    ∃ entries, run.2.transcript = scene.transcript ++ entries ∧
      ∀ failure, run.1 = .error failure → entries = []

theorem foldl_emit_pending (events : List Event) (bus : EventBus) :
    (events.foldl .emit bus).pending = bus.pending ++ events := by
  induction events generalizing bus with
  | nil => simp
  | cons event rest ih =>
    rw [List.foldl_cons, ih]
    simp [EventBus.emit]

private theorem performed_idle {result : Except Failure CommandOutput} {session : Session} {vfs : Vfs}
    (idle : scene.dialogue = none)
    (effect : Effect lesson line scene.session scene.vfs name args result session vfs none []) :
    Performed lesson line name args scene (result, { scene with session := session, vfs := vfs }) :=
  ⟨none, [], effect, idle, rfl, [], (List.append_nil scene.transcript).symm, fun _ _ => rfl⟩

private theorem performed_refused (idle : scene.dialogue = none) (cause : Diagnostic) :
    Performed lesson line name args scene (.error (.command cause), scene) :=
  performed_idle idle (.refused _ nofun)

private theorem performed_fault (idle : scene.dialogue = none) (fault : Vfs.Fault) :
    Performed lesson line name args scene (.error (.vfs fault), scene) :=
  performed_idle idle (.refused _ nofun)

private theorem performed_shown (shows : name ∈ Command.showing) (idle : scene.dialogue = none)
    (output : CommandOutput) :
    Performed lesson line name args scene (.ok output, scene) :=
  performed_idle idle (.shown output shows)

private theorem unfailed {output : CommandOutput} {entries : List Entry} (failure : Failure)
    (failed : (Except.ok output : Except Failure CommandOutput) = .error failure) : entries = [] := by
  cases failed

theorem ls_performed (idle : scene.dialogue = none) :
    Performed lesson line "ls" args scene ((Command.ls.execute args).run line lesson scene) := by
  simp only [Command.ls, run_view_bind]
  split
  · exact performed_refused idle _
  · exact performed_shown (by decide) idle _

theorem cd_performed (idle : scene.dialogue = none) :
    Performed lesson line "cd" args scene ((Command.cd.execute args).run line lesson scene) := by
  simp only [Command.cd, run_view_bind]
  split
  · split
    · next home => exact performed_idle idle (.wentHome home)
    · exact performed_refused idle _
  · next arg rest =>
    split
    · next up =>
      subst up
      split
      · next deep => exact performed_idle idle (.wentUp deep)
      · exact performed_shown (by decide) idle _
    · split
      · next there => exact performed_idle idle (.wentTo there)
      · exact performed_refused idle _

theorem pwd_performed (idle : scene.dialogue = none) :
    Performed lesson line "pwd" args scene ((Command.pwd.execute args).run line lesson scene) :=
  performed_shown (by decide) idle _

theorem whoami_performed (idle : scene.dialogue = none) :
    Performed lesson line "whoami" args scene ((Command.whoami.execute args).run line lesson scene) :=
  performed_shown (by decide) idle _

theorem clear_performed (idle : scene.dialogue = none) :
    Performed lesson line "clear" args scene ((Command.clear.execute args).run line lesson scene) :=
  performed_shown (by decide) idle _

theorem cat_performed (idle : scene.dialogue = none) :
    Performed lesson line "cat" args scene ((Command.cat.execute args).run line lesson scene) := by
  cases args with
  | nil => exact performed_refused idle _
  | cons arg rest =>
    simp only [Command.cat, run_view_bind]
    split
    · exact performed_shown (by decide) idle _
    · exact performed_refused idle _

theorem mkdir_performed (idle : scene.dialogue = none) :
    Performed lesson line "mkdir" args scene ((Command.mkdir.execute args).run line lesson scene) := by
  cases args with
  | nil => exact performed_refused idle _
  | cons child rest =>
    simp only [Command.mkdir]
    split
    · exact performed_refused idle _
    · next simple =>
      simp only [run_view_bind]
      split
      · exact performed_refused idle _
      · next fresh =>
        rcases done : scene.vfs.mkdir (PathText.join scene.session.cwd child) with ⟨fault | ⟨⟩, after⟩
        · obtain rfl := Vfs.mkdir_refused done
          rw [run_putVfs_bind_error]
          exact performed_fault idle fault
        · rw [run_putVfs_bind_ok]
          exact performed_idle idle (.madeDirectory done simple fresh)

theorem touch_performed (idle : scene.dialogue = none) :
    Performed lesson line "touch" args scene ((Command.touch.execute args).run line lesson scene) := by
  cases args with
  | nil => exact performed_refused idle _
  | cons arg rest =>
    simp only [Command.touch, run_view_bind]
    split
    · exact performed_refused idle _
    · rcases done : scene.vfs.touch (PathText.resolve scene.session.cwd arg) with ⟨fault | made, after⟩
      · obtain rfl := Vfs.touch_refused done
        rw [run_putVfs_bind_error]
        exact performed_fault idle fault
      · rw [run_putVfs_bind_ok]
        exact performed_idle idle (.touched done)

private theorem rename_performed {source dest : String} {names : List String}
    (rest : List String) (idle : scene.dialogue = none) (consistent : scene.vfs.Consistent)
    (listing : scene.vfs.children scene.session.cwd = .ok names) (listed : source ∈ names)
    (apart : ¬ Command.continues scene.session.home (PathText.join scene.session.cwd source) = true)
    {destination : String}
    (place : destination = Command.destination scene.vfs scene.session.cwd source dest) :
    Performed lesson line "mv" (source :: dest :: rest) scene
      ((putVfs (scene.vfs.rename (PathText.join scene.session.cwd source) destination) >>=
        fun _ => pure .silent : Program (Dialogue C) CommandOutput).run line lesson scene) := by
  rcases done : scene.vfs.rename (PathText.join scene.session.cwd source) destination with ⟨fault | ⟨⟩, after⟩
  · obtain rfl := Vfs.rename_refused consistent done
    rw [run_putVfs_bind_error]
    exact performed_fault idle fault
  · rw [run_putVfs_bind_ok]
    exact performed_idle idle (.moved listing listed apart done place)

theorem mv_performed (idle : scene.dialogue = none) (consistent : scene.vfs.Consistent) :
    Performed lesson line "mv" args scene ((Command.mv.execute args).run line lesson scene) := by
  unfold Command.mv
  dsimp only
  split
  · next source dest rest =>
    rw [run_view_bind, run_bind]
    cases listing : scene.vfs.children scene.session.cwd with
    | error fault => exact performed_fault idle fault
    | ok names =>
      simp only [ofVfs, run]
      split
      · exact performed_refused idle _
      · next listed =>
        split
        · exact performed_refused idle _
        · next apart =>
          have member := not_not.mp listed
          split
          · next directory =>
            simp only [Command.moveInto]
            split
            · rw [run_refuse_bind]
              exact performed_refused idle _
            · split
              · rw [run_refuse_bind]
                exact performed_refused idle _
              · split
                · rw [run_refuse_bind]
                  exact performed_refused idle _
                · exact rename_performed rest idle consistent listing member apart (if_pos directory).symm
          · next missing =>
            simp only [Command.moveTo]
            split
            · rw [run_refuse_bind]
              exact performed_refused idle _
            · split
              · rw [run_refuse_bind]
                exact performed_refused idle _
              · exact rename_performed rest idle consistent listing member apart (if_neg missing).symm
  · exact performed_refused idle _

theorem Command.run_exit (lesson : Lesson) (line : String) (args : List String) (scene : Scene (Dialogue C)) :
    ∃ text, (Command.exit.execute args).run line lesson scene = (.ok (.text text),
      { scene with
        session := if scene.session.isRemote then scene.session.disconnect else scene.session }) := by
  simp only [Command.exit, run_view_bind]
  split
  · exact ⟨_, rfl⟩
  · next remote =>
    rw [if_pos (not_not.mp remote)]
    exact ⟨_, rfl⟩

theorem exit_performed (idle : scene.dialogue = none) :
    Performed lesson line "exit" args scene ((Command.exit.execute args).run line lesson scene) := by
  obtain ⟨text, ran⟩ := Command.run_exit lesson line args scene
  rw [ran]
  split
  · next remote => exact performed_idle idle (.left _ remote)
  · exact performed_shown (by decide) idle _

theorem Command.run_echo (lesson : Lesson) (line : String) (args : List String) (scene : Scene (Dialogue C)) :
    (Command.echo.execute args).run line lesson scene = match EchoRequest.ofLine line with
      | .error cause => (.error (.command cause), scene)
      | .ok (.print text) => (.ok (.text text), scene)
      | .ok (.append content target) => (.ok .silent, scene.emit (.fileAppend target content)) := by
  simp only [Command.echo, run_view_bind]
  rw [run_bind]
  cases EchoRequest.ofLine line with
  | error cause => rfl
  | ok parsed => cases parsed <;> rfl

theorem Command.run_authorizedKeysEcho (lesson : Lesson) (line : String) (args : List String)
    (scene : Scene (Dialogue C)) :
    (Command.authorizedKeysEcho.execute args).run line lesson scene = match EchoRequest.ofLine line with
      | .error cause => (.error (.command cause), scene)
      | .ok (.print text) => (.ok (.text text), scene)
      | .ok (.append content target) =>
        let announced := scene.emit (.fileAppend target content)
        if ¬ Text.contains target "authorized_keys" then (.ok .silent, announced)
        else if content.toList.length ≤ 10 then (.error (.command .shortKey), announced)
        else (.ok .silent, Scene.emit { announced with
          session := scene.session.authorize scene.session.user scene.session.host } .keysCopied) := by
  simp only [Command.authorizedKeysEcho, run_view_bind]
  rw [run_bind]
  cases EchoRequest.ofLine line with
  | error cause => rfl
  | ok parsed =>
    cases parsed with
    | print text => rfl
    | append content target =>
      simp only [ofParse, run, run_announce_bind]
      split
      · rfl
      · split <;> rfl

theorem echo_performed (idle : scene.dialogue = none) :
    Performed lesson line "echo" args scene ((Command.echo.execute args).run line lesson scene) := by
  rw [Command.run_echo]
  cases request : EchoRequest.ofLine line with
  | error cause => exact performed_refused idle cause
  | ok parsed =>
    cases parsed with
    | print text => exact performed_shown (by decide) idle _
    | append content target =>
      exact ⟨none, [_], .appended request, idle, rfl, [], (List.append_nil scene.transcript).symm, unfailed⟩

theorem authorizedKeysEcho_performed (idle : scene.dialogue = none) :
    Performed lesson line "echo" args scene
      ((Command.authorizedKeysEcho.execute args).run line lesson scene) := by
  rw [Command.run_authorizedKeysEcho]
  cases request : EchoRequest.ofLine line with
  | error cause => exact performed_refused idle cause
  | ok parsed =>
    cases parsed with
    | print text => exact performed_shown (by decide) idle _
    | append content target =>
      have same := (List.append_nil scene.transcript).symm
      dsimp only
      split
      · exact ⟨none, [_], .appended request, idle, rfl, [], same, unfailed⟩
      · split
        · next short => exact ⟨none, [_], .keyRefused request short, idle, rfl, [], same, fun _ _ => rfl⟩
        · next long =>
          exact ⟨none, [_, _], .keyAccepted request (Nat.lt_of_not_le long), idle, rfl, [], same, unfailed⟩

theorem run_completeLogin_bind {β : Type} (user host : String) (method : AuthMethod)
    (rest : Unit → Program (Dialogue C) β) :
    (completeLogin user host method >>= rest).run line lesson scene = (rest ()).run line lesson
      (Scene.emit
        { scene with
          session := scene.session.connect user host
          transcript := scene.transcript ++ lesson.loginBanner.map (Entry.styled · .banner) ++
            [.output ("Last login: Tue Oct  3 10:12:45 2023 from " ++ lesson.target.clientAddress)] }
        (.connected user host method)) := by
  rw [run_bind, completeLogin, run_view_bind, run_sayAll_bind]
  rfl

private theorem reached_performed {command : String} {cause : String → Unreachable → Diagnostic}
    {proceed : String → String → Program (Dialogue C) CommandOutput} (idle : scene.dialogue = none)
    (operand : String) (port : Option UInt16)
    (reaches : ∀ user host, RemoteOperands.reach lesson.target operand port = .ok (user, host) →
      Performed lesson line command args scene ((proceed user host).run line lesson scene)) :
    Performed lesson line command args scene
      ((match RemoteOperands.reach lesson.target operand port with
        | .error reason => refuse (cause operand reason)
        | .ok (user, host) => proceed user host).run line lesson scene) := by
  split
  · exact performed_refused idle _
  · next user host reached => exact reaches user host reached

section login
variable {user host : String}

theorem Command.login_by_key (lesson : Lesson) (line : String) (scene : Scene (Dialogue C))
    (authorized : scene.session.isAuthorized user host = true) :
    ∃ entries, (Command.login user host).run line lesson scene = (.ok .silent, Scene.emit
      { scene with
        session := scene.session.connect user host, transcript := scene.transcript ++ entries }
      (.connected user host .key)) := by
  unfold Command.login
  rw [run_view_bind]
  dsimp only
  rw [if_pos authorized, run_say_bind, run_completeLogin_bind]
  simp only [run_pure, Scene.print, List.append_assoc]
  exact ⟨_, rfl⟩

theorem Command.login_asks_host (line : String) (scene : Scene (Dialogue C)) (idle : scene.dialogue = none)
    (unauthorized : ¬ scene.session.isAuthorized user host = true)
    (confirm : lesson.target.confirmHostKey = true) (unknown : ¬ scene.session.knowsHost host = true) :
    ∃ entries, (Command.login user host).run line lesson scene = (.ok .silent,
      { scene with
        transcript := scene.transcript ++ entries, dialogue := some (.builtin (.hostKey user host)) }) := by
  have asks : (lesson.target.confirmHostKey && !scene.session.knowsHost host) = true := by
    simpa [confirm] using unknown
  unfold Command.login
  rw [run_view_bind]
  dsimp only
  rw [if_neg unauthorized, if_pos asks, run_sayStyled_bind, run_sayStyled_bind, run_sayStyled_bind,
    run_startDialogue_bind (by exact idle)]
  simp only [run_pure, Scene.print, List.append_assoc]
  exact ⟨_, rfl⟩

theorem Command.login_asks_password (line : String) (scene : Scene (Dialogue C)) (idle : scene.dialogue = none)
    (unauthorized : ¬ scene.session.isAuthorized user host = true)
    (trusted : lesson.target.confirmHostKey = false ∨ scene.session.knowsHost host = true) :
    ∃ entries, (Command.login user host).run line lesson scene = (.ok .silent,
      { scene with
        transcript := scene.transcript ++ entries,
        dialogue := some (.builtin (.password .login user host)) }) := by
  have silent : ¬ (lesson.target.confirmHostKey && !scene.session.knowsHost host) = true := by
    rcases trusted with open_ | known
    · simp [open_]
    · simp [known]
  unfold Command.login
  rw [run_view_bind]
  dsimp only
  rw [if_neg unauthorized, if_neg silent, run_sayStyled_bind, run_startDialogue_bind (by exact idle)]
  exact ⟨_, rfl⟩

theorem Command.run_ssh {operands : RemoteOperands} {operand : String}
    (read : RemoteOperands.read "ssh" args = .ok operands) (target : operands.target = some operand)
    (reached : RemoteOperands.reach lesson.target operand operands.port = .ok (user, host)) :
    (Command.ssh.execute args).run line lesson scene = (Command.login user host).run line lesson scene := by
  unfold Command.ssh
  dsimp only
  rw [run_bind, read]
  simp only [ofParse, run, target, run_view_bind, reached]

end login

theorem ssh_performed (idle : scene.dialogue = none) :
    Performed lesson line "ssh" args scene ((Command.ssh.execute args).run line lesson scene) := by
  unfold Command.ssh
  dsimp only
  rw [run_bind]
  cases read : RemoteOperands.read "ssh" args with
  | error cause => exact performed_refused idle cause
  | ok operands =>
    simp only [ofParse, run]
    split
    · next operand target =>
      rw [run_view_bind]
      refine reached_performed idle operand operands.port fun user host reached => ?_
      by_cases authorized : scene.session.isAuthorized user host = true
      · obtain ⟨entries, ran⟩ := Command.login_by_key lesson line scene authorized
        rw [ran]
        exact ⟨none, [_], .connected read target reached authorized, idle, rfl, entries, rfl, unfailed⟩
      · by_cases trusted : lesson.target.confirmHostKey = false ∨ scene.session.knowsHost host = true
        · obtain ⟨entries, ran⟩ := Command.login_asks_password line scene idle authorized trusted
          rw [ran]
          exact ⟨some _, [], .askedLogin read target reached authorized trusted, rfl, rfl, entries, rfl, unfailed⟩
        · rw [not_or, Bool.not_eq_false] at trusted
          obtain ⟨confirm, unknown⟩ := trusted
          obtain ⟨entries, ran⟩ := Command.login_asks_host line scene idle authorized confirm unknown
          rw [ran]
          exact ⟨some _, [], .askedHost read target reached authorized confirm unknown, rfl, rfl, entries, rfl,
            unfailed⟩
    · exact performed_refused idle _

theorem Command.sshKeygen_asks (lesson : Lesson) (line : String) (scene : Scene (Dialogue C))
    (idle : scene.dialogue = none) {algorithm : String}
    (chosen : Command.keyAlgorithm "rsa" args = .ok algorithm)
    (known : algorithm ∈ ["rsa", "ed25519", "ecdsa"]) :
    ∃ entries, (Command.sshKeygen.execute args).run line lesson scene = (.ok .silent,
      { scene with
        transcript := scene.transcript ++ entries,
        dialogue := some (.builtin (.newKeygen algorithm)) }) := by
  unfold Command.sshKeygen
  dsimp only
  rw [run_bind, chosen]
  simp only [ofParse, run, if_neg (not_not.mpr known), run_view_bind, idle, Option.isSome_none,
    Bool.false_eq_true, if_false]
  rw [run_say_bind, run_sayStyled_bind, run_startDialogue_bind (by exact idle)]
  simp only [run_pure, Scene.print, List.append_assoc]
  exact ⟨_, rfl⟩

theorem sshKeygen_performed (idle : scene.dialogue = none) :
    Performed lesson line "ssh-keygen" args scene ((Command.sshKeygen.execute args).run line lesson scene) := by
  cases chosen : Command.keyAlgorithm "rsa" args with
  | error cause =>
    unfold Command.sshKeygen
    dsimp only
    rw [run_bind, chosen]
    exact performed_refused idle cause
  | ok algorithm =>
    by_cases known : algorithm ∈ ["rsa", "ed25519", "ecdsa"]
    · obtain ⟨entries, ran⟩ := Command.sshKeygen_asks lesson line scene idle chosen known
      rw [ran]
      exact ⟨some _, [], .askedKey known, rfl, rfl, entries, rfl, unfailed⟩
    · unfold Command.sshKeygen
      dsimp only
      rw [run_bind, chosen]
      simp only [ofParse, run, if_pos known]
      exact performed_refused idle _

theorem Command.installKey_asks (lesson : Lesson) (line publicKey : String) (scene : Scene (Dialogue C))
    (idle : scene.dialogue = none) {user host : String}
    (unauthorized : ¬ scene.session.isAuthorized user host = true) :
    ∃ entries, (Command.installKey publicKey user host).run line lesson scene = (.ok .silent,
      { scene with
        transcript := scene.transcript ++ entries,
        dialogue := some (.builtin (.password .copyId user host)) }) := by
  unfold Command.installKey
  rw [run_view_bind]
  dsimp only
  rw [run_say_bind, if_neg unauthorized, run_sayStyled_bind, run_startDialogue_bind (by exact idle)]
  simp only [run_pure, Scene.print, List.append_assoc]
  exact ⟨_, rfl⟩

theorem Command.installKey_skips (lesson : Lesson) (line publicKey : String) (scene : Scene (Dialogue C))
    {user host : String} (authorized : scene.session.isAuthorized user host = true) :
    ∃ entries, (Command.installKey publicKey user host).run line lesson scene =
      (.ok .silent, { scene with transcript := scene.transcript ++ entries }) := by
  unfold Command.installKey
  rw [run_view_bind]
  dsimp only
  rw [run_say_bind, if_pos authorized, run_sayStyled_bind]
  simp only [run_pure, Scene.print, List.append_assoc]
  exact ⟨_, rfl⟩

theorem Command.run_sshCopyId {operands : RemoteOperands} {operand publicKey user host : String}
    (key : KeyPair.find? scene.vfs scene.session.home = some publicKey)
    (read : RemoteOperands.read "ssh-copy-id" args = .ok operands) (target : operands.target = some operand)
    (reached : RemoteOperands.reach lesson.target operand operands.port = .ok (user, host)) :
    (Command.sshCopyId.execute args).run line lesson scene =
      (Command.installKey publicKey user host).run line lesson scene := by
  unfold Command.sshCopyId
  dsimp only
  rw [run_view_bind, key]
  dsimp only
  rw [run_bind, read]
  simp only [ofParse, run, target, reached]

theorem sshCopyId_performed (idle : scene.dialogue = none) :
    Performed lesson line "ssh-copy-id" args scene
      ((Command.sshCopyId.execute args).run line lesson scene) := by
  unfold Command.sshCopyId
  dsimp only
  rw [run_view_bind]
  split
  · next publicKey key =>
    rw [run_bind]
    cases read : RemoteOperands.read "ssh-copy-id" args with
    | error cause => exact performed_refused idle cause
    | ok operands =>
      simp only [ofParse, run]
      split
      · next operand target =>
        refine reached_performed idle operand operands.port fun user host reached => ?_
        by_cases authorized : scene.session.isAuthorized user host = true
        · obtain ⟨entries, ran⟩ := Command.installKey_skips lesson line publicKey scene authorized
          rw [ran]
          exact ⟨none, [], .shown _ (by decide), idle, rfl, entries, rfl, unfailed⟩
        · obtain ⟨entries, ran⟩ := Command.installKey_asks lesson line publicKey scene idle authorized
          rw [ran]
          exact ⟨some _, [], .askedInstall key read target reached authorized, rfl, rfl, entries, rfl, unfailed⟩
      · exact performed_refused idle _
  · exact performed_refused idle _

end commands
end LessonShell
