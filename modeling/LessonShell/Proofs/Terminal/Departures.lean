import LessonShell.Proofs.Terminal.Identity
import LessonShell.Proofs.Terminal.Logins
import LessonShell.Proofs.Terminal.RemoteLines

/-! How a login ends. `exit` asks only whether the session is at the local host, so it ends every
login unless the target goes by the name of that host: there a stranger who got in stays. -/
namespace LessonShell

/-- A login to the target, as user and host, that a line can name and that some secret opens. -/
structure Target.Welcomes (target : Target) (login : String × String) : Prop where
  here : login.2 = target.host
  named : Nameable login.1 login.2
  opened : ∃ secret, target.verifyLogin login.1 secret = true

/-- The target goes by the name of the local host and welcomes somebody who is not the local user. -/
def Lesson.Shadowed (lesson : Lesson) : Prop :=
  lesson.target.host = lesson.host ∧ ∃ user, user ≠ lesson.user ∧ lesson.target.Welcomes (user, lesson.host)

/-- A lesson whose target goes by the name of the local host. -/
def Lesson.homonym (accounts : List Account) (openLogin : Bool) : Lesson :=
  { Lesson.default with
    target := { Target.default with host := "laptop-local", accounts := accounts, openLogin := openLogin } }

/-- The login that a question is about. -/
def Prompt.login? : Prompt → Option (String × String)
  | .password _ user host => some (user, host)
  | .hostKey user host => some (user, host)
  | .keygen .. => none

section turns
variable {lesson : Lesson} {line name user host : String} {args : List String} {session after : Session}
  {vfs changed : Vfs} {events : List Event} {next prompt : Prompt} {asked : Option Prompt}

theorem nameable_of_read {command operand : String} {operands : RemoteOperands}
    (words : ∀ arg ∈ args, Text.IsWord arg) (read : RemoteOperands.read command args = .ok operands)
    (target : operands.target = some operand)
    (reached : RemoteOperands.reach lesson.target operand operands.port = .ok (user, host)) :
    host = lesson.target.host ∧ Nameable user host := by
  obtain ⟨named, here, _⟩ := RemoteOperands.reach_eq_ok_iff.mp reached
  obtain ⟨member, unflagged⟩ := RemoteOperands.operand_of_read read target
  exact ⟨here, named.nameable (words operand member) unflagged⟩

theorem Effect.asks_nameable {result : Except Failure CommandOutput}
    (effect : Effect lesson line session vfs name args result after changed (some next) events)
    (words : ∀ arg ∈ args, Text.IsWord arg) {login : String × String} (about : next.login? = some login) :
    login.2 = lesson.target.host ∧ Nameable login.1 login.2 := by
  cases effect with
  | askedHost read target reached =>
    cases about
    exact nameable_of_read words read target reached
  | askedLogin read target reached =>
    cases about
    exact nameable_of_read words read target reached
  | askedKey known => cases about
  | askedInstall key read target reached =>
    cases about
    exact nameable_of_read words read target reached

theorem Reply.login_eq {failure : Option Failure}
    (reply : Reply lesson session vfs line prompt failure after changed (some next) events) :
    next.login? = prompt.login? := by
  cases reply <;> rfl

theorem Effect.identity_cases {result : Except Failure CommandOutput}
    (effect : Effect lesson line session vfs name args result after changed asked events) :
    after.identity = session.identity ∨ after.identity = session.localIdentity ∨
      after.identity ∈ session.authorized := by
  cases effect with
  | left text remote => exact .inr (.inl rfl)
  | connected read target reached authorized => exact .inr (.inr (Session.isAuthorized_iff.mp authorized))
  | _ => exact .inl rfl

theorem Reply.identity_cases {failure : Option Failure}
    (reply : Reply lesson session vfs line prompt failure after changed asked events) :
    after.identity = session.identity ∨ ∃ user host, prompt = .password .login user host ∧
      lesson.target.verifyLogin user line = true ∧ after.identity = (user, host) := by
  cases reply with
  | loggedIn right => exact .inr ⟨_, _, rfl, right, rfl⟩
  | _ => exact .inl rfl

end turns

namespace Terminal
variable {C : Type} {lesson : Lesson}

/-- Whoever can be met in a session: the local user, or a login that the target welcomes; and so
for the logins that accept the key and, but for the secret, those that a question is about. -/
structure Attested (lesson : Lesson) (terminal : Terminal C) : Prop where
  localIdentity : terminal.scene.session.localIdentity = (lesson.user, lesson.host)
  identity : terminal.scene.session.identity = (lesson.user, lesson.host) ∨
    lesson.target.Welcomes terminal.scene.session.identity
  authorized : ∀ login ∈ terminal.scene.session.authorized, lesson.target.Welcomes login
  asked : ∀ prompt, terminal.scene.dialogue = some (.builtin prompt) → ∀ login,
    prompt.login? = some login → login.2 = lesson.target.host ∧ Nameable login.1 login.2

theorem Leaves.attested {before after : Terminal C} {session : Session} {vfs : Vfs} {next : Option Prompt}
    (leaves : Leaves before session vfs next after)
    (localIdentity : session.localIdentity = (lesson.user, lesson.host))
    (identity : session.identity = (lesson.user, lesson.host) ∨ lesson.target.Welcomes session.identity)
    (authorized : ∀ login ∈ session.authorized, lesson.target.Welcomes login)
    (asked : ∀ prompt, next = some prompt → ∀ login, prompt.login? = some login →
      login.2 = lesson.target.host ∧ Nameable login.1 login.2) : Attested lesson after := by
  refine ⟨?_, ?_, ?_, fun prompt active => asked prompt (leaves.next_eq active)⟩
  · rw [leaves.session]
    exact localIdentity
  · rw [leaves.session]
    exact identity
  · rw [leaves.session]
    exact authorized

theorem attested_opening (vfs : Vfs) (registry : Registry C) (bus : EventBus) :
    Attested lesson (⟨lesson, registry, .opening lesson vfs bus⟩ : Terminal C) := by
  refine ⟨rfl, .inl rfl, fun login member => ?_, fun prompt active => ?_⟩
  · cases member
  · cases active

theorem standard_accepts_no_key (name : String) :
    (Registry.standard : Registry C).find? name ≠ some .authorizedKeysEcho := by
  intro found
  have member := (Registry.mem_of_standard_find? found).1
  have listed : "lesson" ∈ (Registry.standardCommands : List (Command C)).map Command.category :=
    List.mem_map_of_mem member
  have categories : (Registry.standardCommands : List (Command C)).map Command.category =
    ["file", "file", "file", "general", "file", "file", "file", "file", "text", "general", "network",
      "network", "network", "network"] := rfl
  rw [categories] at listed
  exact absurd listed (by decide)

variable [CustomDialogue C]

theorem Attested.submit {before : Terminal C} (attested : Attested lesson before)
    (poised : Poised lesson before) (standard : before.registry = .standard) (input : String) :
    Attested lesson (before.submit input).1 := by
  cases poised.sound.turn input with
  | blank idle empty same silent =>
    rw [same]
    exact attested
  | command idle filled effect leaves batch =>
    apply leaves.attested
    · exact effect.continues.localIdentity.trans attested.localIdentity
    · rcases effect.identity_cases with same | back | accepted
      · rw [same]
        exact attested.identity
      · exact .inl (back.trans attested.localIdentity)
      · exact .inr (attested.authorized _ accepted)
    · rcases effect.authorized_cases with kept | ⟨copied, _⟩
      · rw [kept]
        exact attested.authorized
      · have announced : .keysCopied ∈ (before.submit input).2 := by
          rw [batch]
          exact List.mem_append_right _ (List.mem_cons_of_mem _ copied)
        have found := poised.find?_of_keysCopied idle announced
        rw [standard] at found
        exact absurd found (standard_accepts_no_key _)
    · intro prompt waiting login about
      subst waiting
      rw [← poised.sound.about]
      apply effect.asks_nameable (fun arg member => ?_) about
      exact Text.isWord_of_mem_words (List.mem_of_mem_tail member)
  | answer active reply leaves batch =>
    apply leaves.attested
    · exact reply.continues.localIdentity.trans attested.localIdentity
    · rcases reply.identity_cases with same | ⟨user, host, rfl, right, entered⟩
      · rw [same]
        exact attested.identity
      · obtain ⟨here, named⟩ := attested.asked _ active (user, host) rfl
        rw [poised.sound.about] at right
        rw [entered]
        exact .inr ⟨here, named, _, right⟩
    · rcases reply.authorized_cases with kept | ⟨user, host, rfl, right, _, grown⟩
      · rw [kept]
        exact attested.authorized
      · intro login member
        rw [grown] at member
        rcases List.mem_insert_iff.mp member with rfl | old
        · obtain ⟨here, named⟩ := attested.asked _ active (user, host) rfl
          rw [poised.sound.about] at right
          exact ⟨here, named, _, Target.verifyLogin_iff_password.mpr (.inl right)⟩
        · exact attested.authorized login old
    · intro prompt waiting login about
      subst waiting
      rw [reply.login_eq] at about
      exact attested.asked _ active login about

theorem Poised.attested_reset {before : Terminal C} (poised : Poised lesson before) :
    Attested lesson (before.take .reset) := by
  obtain ⟨vfs, _, same⟩ := poised.sound.take_reset
  rw [same]
  exact attested_opening vfs _ _

theorem attested_after {terminal : Terminal C} (accepted : Terminal.new lesson = .ok terminal)
    (steps : List Step) : Attested lesson (terminal.after steps) := by
  obtain ⟨_, vfs, _, same⟩ := new_eq_ok_iff.mp accepted
  induction steps using List.reverseRecOn with
  | nil =>
    rw [same]
    exact attested_opening vfs _ _
  | append_singleton early last ih =>
    have poised : Poised lesson (terminal.after early) := Opens.poised_after ⟨_, accepted, .inl rfl⟩ early
    rw [after_append]
    cases last with
    | reset => exact poised.attested_reset
    | submit line =>
      apply ih.submit poised
      rw [after_registry, same]

theorem submit_exit {terminal : Terminal C} (registry : terminal.registry = .standard)
    (idle : terminal.scene.dialogue = none) :
    (terminal.submit "exit").1.scene.session.identity = if terminal.scene.session.isRemote
      then terminal.scene.session.localIdentity else terminal.scene.session.identity := by
  have member : (Command.exit : Command C) ∈ Registry.standardCommands := by
    simp [Registry.standardCommands]
  obtain ⟨text, ran⟩ := Command.run_exit terminal.lesson (callLine "exit" []) []
    (acknowledge terminal.scene (callLine "exit" []) "exit" [])
  have leaves : Leaves terminal _ _ none (terminal.submit (callLine _ [])).1 :=
    submit_call_leaves registry idle member (by simp) ran idle
  refine (congrArg Session.identity leaves.session).trans ?_
  change Session.identity (if terminal.scene.session.isRemote then terminal.scene.session.disconnect
    else terminal.scene.session) = _
  split
  · rfl
  · rfl

theorem Attested.submit_exit {before : Terminal C} (attested : Attested lesson before)
    (registry : before.registry = .standard) (idle : before.scene.dialogue = none) :
    (before.submit "exit").1.scene.session.identity = if before.scene.session.host = lesson.host
      then before.scene.session.identity else (lesson.user, lesson.host) := by
  have here : before.scene.session.localHost = lesson.host := congrArg Prod.snd attested.localIdentity
  rw [Terminal.submit_exit registry idle, attested.localIdentity, Session.isRemote, here]
  by_cases stays : before.scene.session.host = lesson.host
  · simp [stays]
  · simp [stays]

theorem Poised.trusted {before : Terminal C} (poised : Poised lesson before) {user host : String}
    (asked : before.scene.dialogue = some (.builtin (.hostKey user host))) :
    (before.submit "yes").1.scene.dialogue = some (.builtin (.password .login user host)) := by
  have agreed : Text.foldCase (Text.trimmed "yes") = "yes" := by decide
  obtain ⟨failure, session, vfs, next, events, reply, leaves, _⟩ := poised.answers asked "yes"
  cases reply with
  | trusted yes => exact leaves.dialogue
  | distrusted other no => exact absurd (.inl agreed) other
  | askedAgain other undecided => exact absurd (.inl agreed) other

theorem Poised.loggedIn {before : Terminal C} (poised : Poised lesson before) {user host secret : String}
    (asked : before.scene.dialogue = some (.builtin (.password .login user host)))
    (right : lesson.target.verifyLogin user secret = true) :
    (before.submit secret).1.scene.dialogue = none ∧
      (before.submit secret).1.scene.session.identity = (user, host) := by
  obtain ⟨failure, session, vfs, next, events, reply, leaves, _⟩ := poised.answers asked secret
  cases reply with
  | denied wrong => exact absurd right (Bool.eq_false_iff.mp wrong)
  | loggedIn =>
    rw [leaves.session]
    exact ⟨leaves.dialogue, rfl⟩

/-- A login that a line can name is open to whoever knows a secret for it. -/
theorem Ready.exists_login {terminal : Terminal C} {user secret : String} (ready : Ready lesson terminal user)
    (poised : Poised lesson terminal)
    (unauthorized : ¬ terminal.scene.session.isAuthorized user lesson.target.host = true)
    (right : lesson.target.verifyLogin user secret = true) :
    ∃ lines, (terminal.afterLines lines).scene.dialogue = none ∧
      (terminal.afterLines lines).scene.session.identity = (user, lesson.target.host) := by
  have asking := poised.submit (sshLine lesson.target user)
  by_cases trusted : lesson.target.confirmHostKey = false ∨
      terminal.scene.session.knowsHost lesson.target.host = true
  · have asks := ready.ssh_asks_password unauthorized trusted
    exact ⟨[sshLine lesson.target user, secret], asking.loggedIn asks right⟩
  · rw [not_or, Bool.not_eq_false] at trusted
    have asks := asking.trusted (ready.ssh_asks_host unauthorized trusted.1 trusted.2)
    exact ⟨[sshLine lesson.target user, "yes", secret], (asking.submit "yes").loggedIn asks right⟩

/-- At another host than the local one `exit` ends the session, and at the local one it changes
nobody's identity. So it always leaves the local user at the local host, unless the target goes by
the name of that host and welcomes somebody else. -/
theorem exit_returns {terminal : Terminal C} (accepted : Terminal.new lesson = .ok terminal) :
    (∀ steps, (terminal.after steps).scene.dialogue = none →
      ((terminal.after steps).submit "exit").1.scene.session.identity =
        if (terminal.after steps).scene.session.host = lesson.host
        then (terminal.after steps).scene.session.identity else (lesson.user, lesson.host)) ∧
    ((∀ steps, (terminal.after steps).scene.dialogue = none →
      ((terminal.after steps).submit "exit").1.scene.session.identity = (lesson.user, lesson.host)) ↔
        ¬ lesson.Shadowed) := by
  obtain ⟨valid, vfs, loaded, same⟩ := new_eq_ok_iff.mp accepted
  have standard : terminal.registry = .standard := by rw [same]
  have left (steps : List Step) (idle : (terminal.after steps).scene.dialogue = none) :=
    (attested_after accepted steps).submit_exit ((after_registry terminal steps).trans standard) idle
  refine ⟨left, ?_, ?_⟩
  · rintro returns ⟨namesake, user, stranger, welcome⟩
    have poised : Poised lesson terminal := Opens.poised ⟨_, accepted, .inl rfl⟩
    have idle : terminal.scene.dialogue = none := by rw [same]; rfl
    have unauthorized : ¬ terminal.scene.session.isAuthorized user lesson.target.host = true := by
      rw [same]
      exact Bool.false_ne_true
    have ready : Ready lesson terminal user := poised.ready valid standard idle (namesake ▸ welcome.named)
    obtain ⟨secret, right⟩ := welcome.opened
    obtain ⟨lines, waits, entered⟩ := ready.exists_login poised unauthorized right
    have stays := returns (lines.map .submit) waits
    have here : (terminal.after (lines.map .submit)).scene.session.host = lesson.host :=
      (congrArg Prod.snd entered).trans namesake
    rw [left _ waits, if_pos here] at stays
    exact stranger (congrArg Prod.fst (entered.symm.trans stays))
  · intro clear steps idle
    rw [left steps idle]
    split
    · next here =>
      rcases (attested_after accepted steps).identity with unchanged | welcome
      · exact unchanged
      · by_cases own : (terminal.after steps).scene.session.user = lesson.user
        · exact Prod.ext own here
        · refine absurd ⟨?_, _, own, ?_⟩ clear
          · exact welcome.here.symm.trans here
          · rw [← here]
            exact welcome
    · rfl

private theorem exists_new_homonym {accounts : List Account} {openLogin : Bool}
    (valid : (Lesson.homonym accounts openLogin).validate = .ok ()) :
    ∃ terminal : Terminal Empty, Terminal.new (Lesson.homonym accounts openLogin) = .ok terminal := by
  obtain ⟨_, accepted⟩ := exists_new_default (C := Empty)
  obtain ⟨_, vfs, loaded, _⟩ := new_eq_ok_iff.mp accepted
  have files : initialFiles (Lesson.homonym accounts openLogin) = .ok vfs := loaded
  exact exists_new valid (by rw [files]; rfl)

theorem exit_returns_without_strangers : ∃ terminal : Terminal Empty,
    Terminal.new (Lesson.homonym [⟨"alumno", some "secret"⟩] false) = .ok terminal ∧
      ∀ steps, (terminal.after steps).scene.dialogue = none →
        ((terminal.after steps).submit "exit").1.scene.session.identity = ("alumno", "laptop-local") := by
  have valid : (Lesson.homonym [⟨"alumno", some "secret"⟩] false).validate = .ok () := by rfl
  obtain ⟨terminal, accepted⟩ := exists_new_homonym valid
  have clear : ¬ (Lesson.homonym [⟨"alumno", some "secret"⟩] false).Shadowed := by
    rintro ⟨_, user, stranger, welcome⟩
    obtain ⟨secret, right⟩ := welcome.opened
    rcases Target.verifyLogin_iff.mp right with empty | ⟨account, found, _⟩ | ⟨_, everyone⟩
    · cases empty
    · have named := List.find?_some found
      have member := List.mem_of_find?_eq_some found
      obtain rfl := List.mem_singleton.mp member
      exact stranger (of_decide_eq_true named).symm
    · cases everyone
  exact ⟨terminal, accepted, (exit_returns accepted).2.mpr clear⟩

theorem exit_keeps_stranger : ∃ terminal : Terminal Empty,
    Terminal.new (Lesson.homonym Target.default.accounts true) = .ok terminal ∧
    let entered := terminal.after [.submit "ssh root@laptop-local", .submit "yes", .submit "x"]
    entered.scene.dialogue = none ∧
      (entered.submit "exit").1.scene.session.identity = ("root", "laptop-local") ∧
      (entered.submit "exit").1.scene.session.identity ≠ ("alumno", "laptop-local") := by
  have valid : (Lesson.homonym Target.default.accounts true).validate = .ok () := by rfl
  obtain ⟨terminal, accepted⟩ := exists_new_homonym valid
  have ran : (Terminal.new (C := Empty) (Lesson.homonym Target.default.accounts true)).toOption.map (fun fresh =>
      let entered := fresh.after [.submit "ssh root@laptop-local", .submit "yes", .submit "x"]
      (entered.scene.dialogue, (entered.submit "exit").1.scene.session.identity)) =
        some (none, ("root", "laptop-local")) := by decide +kernel
  rw [accepted] at ran
  obtain ⟨idle, stays⟩ := Prod.mk.inj (Option.some.inj ran)
  refine ⟨terminal, accepted, idle, stays, ?_⟩
  rw [stays]
  decide

end Terminal
end LessonShell
