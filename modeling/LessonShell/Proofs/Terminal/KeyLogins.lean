import LessonShell.Proofs.KeyPair
import LessonShell.Proofs.Terminal.Identity
import LessonShell.Proofs.Terminal.Logins
import LessonShell.Proofs.Terminal.RemoteLines

/-! From a new key to a login without a password. A finished wizard leaves a key that the search
finds, so `ssh-copy-id` asks for the password; the right one installs the key for that login, and
every later `ssh` there connects by key, whatever was submitted in between. -/
namespace LessonShell

/-- The question of the wizard that comes before this one. -/
def KeygenStep.prior? : KeygenStep → Option KeygenStep
  | .file => none
  | .passphrase => some .file
  | .confirm => some .passphrase

section turns
variable {lesson : Lesson} {line name : String} {args : List String} {session after : Session}
  {vfs changed : Vfs} {events : List Event} {step : KeygenStep} {algorithm keyName : String}

theorem Effect.of_keygen {result : Except Failure CommandOutput}
    (effect : Effect lesson line session vfs name args result after changed
      (some (.keygen step algorithm keyName)) events) : step = .file ∧ after = session := by
  cases effect with
  | askedKey known => exact ⟨rfl, rfl⟩

theorem Effect.keygenDone_not_mem {result : Except Failure CommandOutput} {next : Option Prompt}
    (effect : Effect lesson line session vfs name args result after changed next events) :
    .keygenDone ∉ events := by
  cases effect <;> simp

theorem Reply.of_keygen {prompt : Prompt} {failure : Option Failure}
    (reply : Reply lesson session vfs line prompt failure after changed
      (some (.keygen step algorithm keyName)) events) :
    after = session ∧ ∃ prior earlier, step.prior? = some prior ∧ prompt = .keygen prior algorithm earlier := by
  cases reply with
  | named => exact ⟨rfl, .file, _, rfl, rfl⟩
  | hidden => exact ⟨rfl, .passphrase, _, rfl, rfl⟩

theorem Reply.of_keygenDone {prompt : Prompt} {failure : Option Failure} {next : Option Prompt}
    (reply : Reply lesson session vfs line prompt failure after changed next events)
    (done : .keygenDone ∈ events) : after = session ∧ next = none ∧
      ∃ algorithm keyName paths, prompt = .keygen .confirm algorithm keyName ∧
        KeyPair.install vfs session.home keyName algorithm (session.user ++ "@" ++ session.host) =
          (.ok paths, changed) := by
  cases reply with
  | keyWritten installed => exact ⟨rfl, rfl, _, _, _, rfl, installed⟩
  | _ => simp at done

end turns

namespace Terminal
variable {C : Type} {lesson : Lesson} [CustomDialogue C]

section wizard
variable {before : Terminal C} {input : String}

theorem Poised.of_keygen (poised : Poised lesson before) {step : KeygenStep} {algorithm keyName : String}
    (asked : (before.submit input).1.scene.dialogue = some (.builtin (.keygen step algorithm keyName))) :
    (before.submit input).1.scene.session.authorized = before.scene.session.authorized ∧
      ∀ prior, step.prior? = some prior → ∃ earlier,
        before.scene.dialogue = some (.builtin (.keygen prior algorithm earlier)) := by
  cases poised.sound.turn input with
  | blank idle empty same silent =>
    rw [same, idle] at asked
    cases asked
  | command idle filled effect leaves batch =>
    obtain rfl := leaves.next_eq asked
    obtain ⟨rfl, rfl⟩ := effect.of_keygen
    rw [leaves.session]
    exact ⟨rfl, nofun⟩
  | answer active reply leaves batch =>
    obtain rfl := leaves.next_eq asked
    obtain ⟨rfl, prior, earlier, comes, rfl⟩ := reply.of_keygen
    rw [leaves.session]
    refine ⟨rfl, fun other found => ⟨earlier, ?_⟩⟩
    rw [active, Option.some.inj (comes.symm.trans found)]

theorem Poised.of_keygenDone (poised : Poised lesson before) (done : .keygenDone ∈ (before.submit input).2) :
    let after := (before.submit input).1
    (∃ algorithm keyName, before.scene.dialogue = some (.builtin (.keygen .confirm algorithm keyName))) ∧
      after.scene.dialogue = none ∧
      after.scene.session.authorized = before.scene.session.authorized ∧
      ∃ publicKey, KeyPair.find? after.scene.vfs after.scene.session.home = some publicKey := by
  intro after
  cases poised.sound.turn input with
  | blank idle empty same silent =>
    rw [silent] at done
    cases done
  | command idle filled effect leaves batch =>
    rw [batch, poised.quiet] at done
    simp only [List.nil_append, List.mem_cons, reduceCtorEq, false_or] at done
    exact absurd done effect.keygenDone_not_mem
  | answer active reply leaves batch =>
    rw [batch, poised.quiet, List.nil_append] at done
    obtain ⟨rfl, rfl, algorithm, keyName, paths, rfl, installed⟩ := reply.of_keygenDone done
    have segment : IsSegment keyName := (poised.fits _ active).2.1
    have consistent := poised.sound.stands.consistent
    obtain ⟨secret, shared⟩ := KeyPair.isFile_of_install consistent installed
    have whole := reply.consistent consistent
    have found := KeyPair.find?_of_isFile whole segment secret shared
    refine ⟨⟨algorithm, keyName, active⟩, leaves.dialogue, ?_, ?_⟩
    · rw [leaves.session]
    · rw [leaves.session, leaves.vfs]
      exact found

end wizard

/-- Once the last answer to the wizard has been confirmed, no question waits, the search finds a key,
and the logins that accept it are the same as before. -/
theorem Poised.generated {before : Terminal C} (poised : Poised lesson before)
    {opening file first second : String}
    (done : .keygenDone ∈ ((before.afterLines [opening, file, first]).submit second).2) :
    let after := before.afterLines [opening, file, first, second]
    after.scene.dialogue = none ∧ after.scene.session.authorized = before.scene.session.authorized ∧
      ∃ publicKey, KeyPair.find? after.scene.vfs after.scene.session.home = some publicKey := by
  intro after
  obtain ⟨⟨algorithm, third, confirm⟩, idle, kept, key⟩ :=
    (poised.afterLines [opening, file, first]).of_keygenDone done
  -- Each question of the wizard was asked by the answer to the one before it.
  obtain ⟨keptThird, priorThird⟩ := (poised.afterLines [opening, file]).of_keygen confirm
  obtain ⟨middle, passphrase⟩ := priorThird .passphrase rfl
  obtain ⟨keptSecond, priorSecond⟩ := (poised.afterLines [opening]).of_keygen passphrase
  obtain ⟨earliest, name⟩ := priorSecond .file rfl
  obtain ⟨keptFirst, -⟩ := poised.of_keygen name
  exact ⟨idle, kept.trans (keptThird.trans (keptSecond.trans keptFirst)), key⟩

theorem Poised.installed {before : Terminal C} (poised : Poised lesson before) {user host secret : String}
    (asked : before.scene.dialogue = some (.builtin (.password .copyId user host)))
    (right : lesson.target.verifyPassword user secret = true) :
    (before.submit secret).2 = [.keysCopied] ∧
      (before.submit secret).1.scene.session.isAuthorized user host = true := by
  obtain ⟨failure, session, vfs, next, events, reply, leaves, batch⟩ := poised.answers asked secret
  cases reply with
  | denied wrong => exact absurd right (Bool.eq_false_iff.mp wrong)
  | installed =>
    rw [batch, leaves.session]
    refine ⟨rfl, Session.isAuthorized_iff.mpr ?_⟩
    exact List.mem_insert_self

/-- After the wizard has made a key, `ssh-copy-id` and a right password install it for a login that
did not accept it, and `ssh` connects there by key whenever the terminal waits for a line again. -/
theorem key_login_connects {terminal : Terminal C} (accepted : Terminal.new lesson = .ok terminal)
    (steps : List Step) {args : List String} {file first second : String}
    (generated : .keygenDone ∈
      (((terminal.after steps).afterLines [callLine "ssh-keygen" args, file, first]).submit second).2)
    {user secret : String} (named : Nameable user lesson.target.host)
    (unauthorized : (terminal.after steps).scene.session.isAuthorized user lesson.target.host = false)
    (right : lesson.target.verifyPassword user secret = true) :
    let keyed := (terminal.after steps).afterLines [callLine "ssh-keygen" args, file, first, second]
    let asked := (keyed.submit (sshCopyIdLine lesson.target user)).1
    (asked.submit secret).2 = [.keysCopied] ∧ ∀ lines,
      let later := (asked.submit secret).1.afterLines lines
      later.scene.dialogue = none →
        (later.submit (sshLine lesson.target user)).2 =
          [.command "ssh" (sshLine lesson.target user) (lesson.target.operandsFor user)
            later.scene.session.user later.scene.session.host,
            .connected user lesson.target.host .key] ∧
        (later.submit (sshLine lesson.target user)).1.scene.dialogue = none := by
  intro keyed asked
  have start : Poised lesson (terminal.after steps) := Opens.poised_after ⟨_, accepted, .inl rfl⟩ steps
  have poised : Poised lesson keyed := start.afterLines _
  have waiting : Poised lesson asked := poised.submit _
  obtain ⟨valid, vfs, loaded, same⟩ := new_eq_ok_iff.mp accepted
  have standard : keyed.registry = .standard := calc
    keyed.registry = (terminal.after steps).registry := after_registry _ _
    _ = terminal.registry := after_registry terminal steps
    _ = .standard := by rw [same]
  obtain ⟨idle, kept, publicKey, key⟩ := start.generated generated
  have stranger : ¬ keyed.scene.session.isAuthorized user lesson.target.host = true := by
    rw [Session.isAuthorized, kept]
    exact Bool.eq_false_iff.mp unauthorized
  have asks : asked.scene.dialogue = some (.builtin (.password .copyId user lesson.target.host)) :=
    (poised.ready valid standard idle named).sshCopyId_asks key stranger
  obtain ⟨copied, authorized⟩ := waiting.installed asks right
  refine ⟨copied, ?_⟩
  intro lines later waits
  have reached : Poised lesson later := (waiting.submit secret).afterLines lines
  have onward := ((waiting.submit secret).continues lines).authorized
  have still : later.scene.session.isAuthorized user lesson.target.host = true := by
    rw [Session.isAuthorized_iff] at authorized ⊢
    exact onward authorized
  have registry : later.registry = .standard := calc
    later.registry = (asked.submit secret).1.registry := after_registry _ _
    _ = asked.registry := asked.submit_registry secret
    _ = keyed.registry := keyed.submit_registry _
    _ = .standard := standard
  exact (reached.ready valid registry waits named).ssh_connects still

theorem key_login_despite_a_stray_key : ∃ terminal : Terminal Empty,
    Terminal.new Lesson.default = .ok terminal ∧
    let target := Lesson.default.target
    let keyed := (terminal.after [.submit "mkdir .ssh", .submit "touch .ssh/aaa.pub"]).afterLines
      [callLine "ssh-keygen" ["-t", "ed25519"], "/tmp/mine/", "first", "second"]
    let asked := (keyed.submit (sshCopyIdLine target "alumno")).1
    let later := (asked.submit " secret ").1.afterLines ["mv .ssh old"]
    (asked.submit " secret ").2 = [.keysCopied] ∧
      (later.submit (sshLine target "alumno")).2 =
        [.command "ssh" "ssh -p 22 alumno@192.168.1.43" ["-p", "22", "alumno@192.168.1.43"]
          later.scene.session.user later.scene.session.host, .connected "alumno" "192.168.1.43" .key] := by
  obtain ⟨terminal, accepted⟩ := exists_new_default (C := Empty)
  have ran : (Terminal.new (C := Empty) Lesson.default).toOption.map (fun fresh =>
      let start := fresh.after [.submit "mkdir .ssh", .submit "touch .ssh/aaa.pub"]
      let keyed := start.afterLines
        [callLine "ssh-keygen" ["-t", "ed25519"], "/tmp/mine/", "first", "second"]
      let asked := (keyed.submit (sshCopyIdLine Lesson.default.target "alumno")).1
      let later := (asked.submit " secret ").1.afterLines ["mv .ssh old"]
      (decide (.keygenDone ∈ ((start.afterLines [callLine "ssh-keygen" ["-t", "ed25519"], "/tmp/mine/",
        "first"]).submit "second").2), start.scene.session.isAuthorized "alumno" "192.168.1.43",
        later.scene.dialogue)) = some (true, false, none) := by decide +kernel
  rw [accepted] at ran
  obtain ⟨done, rest⟩ := Prod.mk.inj (Option.some.inj ran)
  obtain ⟨unauthorized, idle⟩ := Prod.mk.inj rest
  have named : Nameable "alumno" Lesson.default.target.host := ⟨by decide, by decide, by decide, by decide, by decide⟩
  have right : Lesson.default.target.verifyPassword "alumno" " secret " = true := by decide
  obtain ⟨copied, later⟩ := key_login_connects accepted _ (of_decide_eq_true done) named unauthorized right
  exact ⟨terminal, accepted, copied, (later _ idle).1⟩

end Terminal
end LessonShell
