import LessonShell.Proofs.Accounts
import LessonShell.Proofs.Terminal.Outcomes
import LessonShell.Proofs.Terminal.Questions

/-! Why a connection is announced. A login by password answers the prompt for that very
identity with an accepted secret. A login by key needs the key to be installed, and nothing
installs it but an accepted secret at the prompt of `ssh-copy-id` or the `echo` that takes
keys; a reset forgets every installation, so the line that did it lies after the last one. -/
namespace LessonShell

/-- The ways in which a secret opens a login. -/
def Target.Admits (target : Target) (user secret : String) : Prop :=
  target.accounts = [] ∨
    (∃ account, target.accounts.find? (·.user = user) = some account ∧
      (account.password = none ∨ account.password = some secret)) ∨
    (∀ account ∈ target.accounts, account.user ≠ user) ∧ target.openLogin = true

theorem Target.verifyLogin_iff {target : Target} {user secret : String} :
    target.verifyLogin user secret = true ↔ target.Admits user secret := by
  rw [verifyLogin_iff_password, verifyPassword_iff, or_assoc]
  rfl

theorem Session.isAuthorized_iff {session : Session} {user host : String} :
    session.isAuthorized user host = true ↔ (user, host) ∈ session.authorized := by
  simp [isAuthorized]

section turns
variable {lesson : Lesson} {line name user host : String} {args : List String} {session after : Session}
  {vfs changed : Vfs} {events : List Event} {next : Option Prompt} {method : AuthMethod}

theorem Effect.authorized_cases {result : Except Failure CommandOutput}
    (effect : Effect lesson line session vfs name args result after changed next events) :
    after.authorized = session.authorized ∨ .keysCopied ∈ events ∧
      after.authorized = session.authorized.insert (session.user, session.host) := by
  cases effect with
  | keyAccepted request long => exact .inr ⟨by simp, rfl⟩
  | _ => exact .inl rfl

theorem Reply.authorized_cases {prompt : Prompt} {failure : Option Failure}
    (reply : Reply lesson session vfs line prompt failure after changed next events) :
    after.authorized = session.authorized ∨ ∃ user host, prompt = .password .copyId user host ∧
      lesson.target.verifyPassword user line = true ∧ .keysCopied ∈ events ∧
      after.authorized = session.authorized.insert (user, host) := by
  cases reply with
  | installed right => exact .inr ⟨_, _, rfl, right, List.mem_singleton.mpr rfl, rfl⟩
  | _ => exact .inl rfl

theorem Effect.of_connected {result : Except Failure CommandOutput}
    (effect : Effect lesson line session vfs name args result after changed next events)
    (announced : .connected user host method ∈ events) :
    method = .key ∧ session.isAuthorized user host = true ∧ host = lesson.target.host ∧
      after = session.connect user host := by
  cases effect with
  | connected read target reached authorized =>
    simp only [List.mem_singleton, Event.connected.injEq] at announced
    obtain ⟨rfl, rfl, rfl⟩ := announced
    exact ⟨rfl, authorized, (RemoteOperands.reach_eq_ok_iff.mp reached).2.1, rfl⟩
  | _ => simp at announced

theorem Reply.of_connected {prompt : Prompt} {failure : Option Failure}
    (reply : Reply lesson session vfs line prompt failure after changed next events)
    (announced : .connected user host method ∈ events) :
    method = .password ∧ prompt = .password .login user host ∧
      lesson.target.verifyLogin user line = true ∧ after = session.connect user host := by
  cases reply with
  | loggedIn right =>
    simp only [List.mem_singleton, Event.connected.injEq] at announced
    obtain ⟨rfl, rfl, rfl⟩ := announced
    exact ⟨rfl, rfl, right, rfl⟩
  | _ => simp at announced

end turns

namespace Terminal
variable {C : Type} [CustomDialogue C] {lesson : Lesson}

/-- The line installs our key for `user` at `host` and for no other login: it is an accepted
secret at the prompt of `ssh-copy-id`, or the `echo` that takes keys in a session of that
very identity. -/
structure Installs (before : Terminal C) (line user host : String) : Prop where
  announced : .keysCopied ∈ (before.submit line).2
  authorized : (before.submit line).1.scene.session.authorized =
    before.scene.session.authorized.insert (user, host)
  means : before.scene.dialogue = some (.builtin (.password .copyId user host)) ∧
      before.lesson.target.verifyPassword user line = true ∨
    before.scene.dialogue = none ∧
      before.registry.find? (calledName line) = some .authorizedKeysEcho ∧
      before.scene.session.user = user ∧ before.scene.session.host = host

/-- Some line since the last reset installed our key for `user` at `host`. -/
def Installed (terminal : Terminal C) (steps : List Step) (user host : String) : Prop :=
  ∃ early line late, steps = early ++ .submit line :: late ∧ .reset ∉ late ∧
    Installs (terminal.after early) line user host

theorem Poised.find?_of_keysCopied {before : Terminal C} (poised : Poised lesson before)
    (idle : before.scene.dialogue = none) {input : String}
    (copied : .keysCopied ∈ (before.submit input).2) :
    before.registry.find? (calledName input) = some .authorizedKeysEcho := by
  by_cases empty : Text.trimmed input = ""
  · rw [submit_of_blank idle empty] at copied
    cases copied
  · have announced : (before.submit input).2 = (before.called input).2.bus.pending := by
      rw [submit_of_filled idle empty, endTurn, (conclude_same _ _).2.2.2]
    rw [announced] at copied
    unfold called at copied
    refine LessonShell.find?_of_keysCopied poised.sound.registry ?_ ?_ ?_ copied
    · exact idle
    · exact poised.sound.stands.consistent
    · change .keysCopied ∉ before.scene.bus.pending ++ [_]
      simp [poised.quiet]

theorem Installs.authorized_cases {before : Terminal C} {input asker machine user host : String}
    (installs : Installs before input asker machine)
    (authorized : (user, host) ∈ (before.submit input).1.scene.session.authorized) :
    (user, host) ∈ before.scene.session.authorized ∨ Installs before input user host := by
  rw [installs.authorized] at authorized
  rcases List.mem_insert_iff.mp authorized with same | old
  · obtain ⟨rfl, rfl⟩ := Prod.mk.inj same
    exact .inr installs
  · exact .inl old

theorem Poised.authorized_cases {before : Terminal C} (poised : Poised lesson before)
    {input user host : String}
    (authorized : (before.submit input).1.scene.session.isAuthorized user host = true) :
    before.scene.session.isAuthorized user host = true ∨ Installs before input user host := by
  rw [Session.isAuthorized_iff] at authorized ⊢
  cases poised.sound.turn input with
  | blank idle empty same silent =>
    rw [same] at authorized
    exact .inl authorized
  | command idle filled effect leaves batch =>
    have session := congrArg Session.authorized leaves.session
    rcases effect.authorized_cases with kept | ⟨copied, grown⟩
    · rw [session.trans kept] at authorized
      exact .inl authorized
    · have announced : .keysCopied ∈ (before.submit input).2 := by
        rw [batch]
        exact List.mem_append_right _ (List.mem_cons_of_mem _ copied)
      have called := poised.find?_of_keysCopied idle announced
      have installs : Installs before input before.scene.session.user before.scene.session.host :=
        ⟨announced, session.trans grown, .inr ⟨idle, called, rfl, rfl⟩⟩
      exact installs.authorized_cases authorized
  | answer active reply leaves batch =>
    have session := congrArg Session.authorized leaves.session
    rcases reply.authorized_cases with kept | ⟨asker, machine, rfl, right, copied, grown⟩
    · rw [session.trans kept] at authorized
      exact .inl authorized
    · have announced : .keysCopied ∈ (before.submit input).2 := by
        rw [batch]
        exact List.mem_append_right _ copied
      have installs : Installs before input asker machine :=
        ⟨announced, session.trans grown, .inl ⟨active, right⟩⟩
      exact installs.authorized_cases authorized

theorem Installed.later {terminal : Terminal C} {steps : List Step} {user host : String}
    (installed : Installed terminal steps user host) (line : String) :
    Installed terminal (steps ++ [.submit line]) user host := by
  obtain ⟨early, installing, late, rfl, kept, installs⟩ := installed
  refine ⟨early, installing, late ++ [.submit line], by simp, ?_, installs⟩
  simpa using kept

theorem Opens.installed {terminal : Terminal C} (opens : Opens lesson terminal) (steps : List Step)
    {user host : String}
    (authorized : (terminal.after steps).scene.session.isAuthorized user host = true) :
    Installed terminal steps user host := by
  induction steps using List.reverseRecOn with
  | nil =>
    obtain ⟨fresh, accepted, same⟩ := opens
    obtain ⟨_, vfs, loaded, rfl⟩ := new_eq_ok_iff.mp accepted
    rcases same with rfl | rfl
    · cases authorized
    · cases authorized
  | append_singleton early last ih =>
    rw [after_append] at authorized
    have poised := opens.poised_after early
    cases last with
    | submit line =>
      rcases poised.authorized_cases authorized with before | installs
      · exact (ih before).later line
      · exact ⟨early, line, [], rfl, List.not_mem_nil, installs⟩
    | reset =>
      obtain ⟨vfs, _, same⟩ := poised.sound.take_reset
      change ((terminal.after early).take .reset).scene.session.isAuthorized user host = true at authorized
      rw [same] at authorized
      cases authorized

/-- Every announced connection is to the host of the lesson and makes the session that of the
user who connected. One by password answers the prompt for that login with a secret that opens
it; one by key comes after a line, since the last reset, that installed the key for that login. -/
theorem connection_authenticated {terminal : Terminal C} (opens : Opens lesson terminal)
    (steps : List Step) {line user host : String} {method : AuthMethod}
    (announced : .connected user host method ∈ ((terminal.after steps).submit line).2) :
    let before := terminal.after steps
    let after := (before.submit line).1
    host = lesson.target.host ∧ after.scene.session.user = user ∧ after.scene.session.host = host ∧
      match method with
      | .password => before.scene.dialogue = some (.builtin (.password .login user host)) ∧
        lesson.target.Admits user line
      | .key => Installed terminal steps user host := by
  intro before after
  have poised : Poised lesson before := opens.poised_after steps
  cases poised.sound.turn line with
  | blank idle empty same silent =>
    rw [silent] at announced
    cases announced
  | command idle filled effect leaves batch =>
    have caused := announced
    rw [batch, poised.quiet] at caused
    simp only [List.nil_append, List.mem_cons, reduceCtorEq, false_or] at caused
    obtain ⟨rfl, authorized, here, same⟩ := effect.of_connected caused
    rw [poised.sound.about] at here
    have session := leaves.session
    rw [same] at session
    exact ⟨here, congrArg Session.user session, congrArg Session.host session,
      opens.installed steps authorized⟩
  | answer active reply leaves batch =>
    have caused := announced
    rw [batch, poised.quiet, List.nil_append] at caused
    obtain ⟨rfl, rfl, right, same⟩ := reply.of_connected caused
    rw [poised.sound.about] at right
    have session := leaves.session
    rw [same] at session
    have fits := poised.fits _ active
    exact ⟨fits.1.here, congrArg Session.user session, congrArg Session.host session, active,
      Target.verifyLogin_iff.mp right⟩

theorem key_login_authenticated : ∃ terminal : Terminal Empty, Opens Lesson.default terminal ∧
    let steps : List Step := [.reset, .submit "ssh-keygen", .submit "", .submit "first", .submit "second",
      .submit "ssh-copy-id alumno@192.168.1.43", .submit " secret "]
    .connected "alumno" "192.168.1.43" .key ∈
        ((terminal.after steps).submit "ssh -p 22 alumno@192.168.1.43").2 ∧
      Installed terminal steps "alumno" "192.168.1.43" := by
  obtain ⟨terminal, accepted⟩ := exists_new_default (C := Empty)
  have opens : Opens Lesson.default terminal := ⟨terminal, accepted, .inl rfl⟩
  have heard : (Terminal.new (C := Empty) Lesson.default).toOption.any (fun fresh =>
      decide (.connected "alumno" "192.168.1.43" .key ∈ ((fresh.after [.reset, .submit "ssh-keygen",
        .submit "", .submit "first", .submit "second", .submit "ssh-copy-id alumno@192.168.1.43",
        .submit " secret "]).submit "ssh -p 22 alumno@192.168.1.43").2)) = true := by decide +kernel
  rw [accepted] at heard
  have announced := of_decide_eq_true heard
  exact ⟨terminal, opens, announced, (connection_authenticated opens _ announced).2.2.2⟩

end Terminal
end LessonShell
