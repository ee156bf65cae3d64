import LessonShell.Proofs.Terminal.Questions

/-! Whose session it is. The identity is the local one or that of the last announced connection,
and the home, the installed keys and the trusted hosts outlast every login. A session continues
an earlier one along the events of a turn, and so along those of a whole run. -/
namespace LessonShell

def Event.connection? : Event → Option (String × String)
  | .connected user host _ => some (user, host)
  | _ => none

/-- The user and the host of the last connection among the events. -/
def lastConnection? (events : List Event) : Option (String × String) :=
  (events.filterMap Event.connection?).getLast?

theorem lastConnection?_append (early late : List Event) :
    lastConnection? (early ++ late) = (lastConnection? late).or (lastConnection? early) := by
  rw [lastConnection?, List.filterMap_append, List.getLast?_append]
  rfl

namespace Session

def identity (session : Session) : String × String := (session.user, session.host)

def localIdentity (session : Session) : String × String := (session.localUser, session.localHost)

/-- What a session keeps of an earlier one while these events are announced: it goes by the last
connection among them, or by who it was without one, unless it has come back to the local user. -/
structure Continues (events : List Event) (before after : Session) : Prop where
  identity : after.identity = (lastConnection? events).getD before.identity ∨
    after.identity = before.localIdentity
  localIdentity : after.localIdentity = before.localIdentity
  home : after.home = before.home
  authorized : before.authorized ⊆ after.authorized
  knownHosts : before.knownHosts ⊆ after.knownHosts

namespace Continues
variable {early late events : List Event} {before middle after : Session}

theorem refl (session : Session) : Continues [] session session :=
  ⟨.inl rfl, rfl, rfl, List.Subset.refl _, List.Subset.refl _⟩

theorem cons {event : Event} (other : event.connection? = none) (continues : Continues events before after) :
    Continues (event :: events) before after := by
  have same : lastConnection? (event :: events) = lastConnection? events := by
    rw [lastConnection?, List.filterMap_cons_none other]
    rfl
  refine ⟨?_, continues.localIdentity, continues.home, continues.authorized, continues.knownHosts⟩
  rw [same]
  exact continues.identity

theorem trans (first : Continues early before middle) (second : Continues late middle after) :
    Continues (early ++ late) before after := by
  refine ⟨?_, second.localIdentity.trans first.localIdentity, second.home.trans first.home,
    List.Subset.trans first.authorized second.authorized,
    List.Subset.trans first.knownHosts second.knownHosts⟩
  rw [lastConnection?_append]
  rcases second.identity with followed | returned
  · cases connected : lastConnection? late with
    | some identity =>
      rw [connected] at followed
      exact .inl followed
    | none =>
      rw [connected, Option.getD_none] at followed
      rw [followed, Option.none_or]
      exact first.identity
  · exact .inr (returned.trans first.localIdentity)

end Continues
end Session

section turns
variable {lesson : Lesson} {line name : String} {args : List String} {session after : Session}
  {vfs changed : Vfs} {next : Option Prompt} {events : List Event}

theorem Effect.continues {result : Except Failure CommandOutput}
    (effect : Effect lesson line session vfs name args result after changed next events) :
    session.Continues events after := by
  cases effect with
  | left text remote => exact ⟨.inr rfl, rfl, rfl, List.Subset.refl _, List.Subset.refl _⟩
  | keyAccepted request long =>
    refine ⟨.inl rfl, rfl, rfl, fun login member => ?_, List.Subset.refl _⟩
    exact List.mem_insert_of_mem member
  | _ => exact ⟨.inl rfl, rfl, rfl, List.Subset.refl _, List.Subset.refl _⟩

theorem Reply.continues {prompt : Prompt} {failure : Option Failure}
    (reply : Reply lesson session vfs line prompt failure after changed next events) :
    session.Continues events after := by
  cases reply with
  | installed right =>
    refine ⟨.inl rfl, rfl, rfl, fun login member => ?_, List.Subset.refl _⟩
    exact List.mem_insert_of_mem member
  | trusted yes =>
    refine ⟨.inl rfl, rfl, rfl, List.Subset.refl _, fun host member => ?_⟩
    exact List.mem_insert_of_mem member
  | _ => exact ⟨.inl rfl, rfl, rfl, List.Subset.refl _, List.Subset.refl _⟩

/-- Only `cd` changes the working directory, and it announces nothing. -/
theorem Effect.cwd_eq {result : Except Failure CommandOutput}
    (effect : Effect lesson line session vfs name args result after changed next events)
    (elsewhere : events ≠ [] ∨ name ≠ "cd") : after.cwd = session.cwd := by
  cases effect with
  | wentHome home => simp at elsewhere
  | wentUp deep => simp at elsewhere
  | wentTo there => simp at elsewhere
  | _ => rfl

end turns

namespace Terminal
variable {C : Type} {lesson : Lesson}

theorem Leaves.continues {before after : Terminal C} {session : Session} {vfs : Vfs}
    {next : Option Prompt} (leaves : Leaves before session vfs next after) :
    session.Continues [] after.scene.session := by
  rw [leaves.session]
  exact ⟨.inl rfl, rfl, rfl, List.Subset.refl _, List.Subset.refl _⟩

variable [CustomDialogue C]

/-- The events that the lines of a run return, in order. -/
def heard (terminal : Terminal C) : List String → List Event
  | [] => []
  | line :: rest => (terminal.submit line).2 ++ (terminal.submit line).1.heard rest

theorem Poised.continues_submit {before : Terminal C} (poised : Poised lesson before) (input : String) :
    before.scene.session.Continues (before.submit input).2 (before.submit input).1.scene.session := by
  cases poised.sound.turn input with
  | blank idle empty same silent =>
    rw [same, silent]
    exact .refl _
  | command idle filled effect leaves batch =>
    rw [batch, poised.quiet, List.nil_append]
    have shown := effect.continues.trans leaves.continues
    rw [List.append_nil] at shown
    exact shown.cons rfl
  | answer active reply leaves batch =>
    rw [batch, poised.quiet, List.nil_append]
    have settled := reply.continues.trans leaves.continues
    rwa [List.append_nil] at settled

theorem Poised.continues {before : Terminal C} (poised : Poised lesson before) (lines : List String) :
    before.scene.session.Continues (before.heard lines) (before.afterLines lines).scene.session := by
  induction lines generalizing before with
  | nil => exact .refl _
  | cons line rest ih => exact (poised.continues_submit line).trans (ih (poised.submit line))

theorem Poised.cwd_eq {before : Terminal C} (poised : Poised lesson before) {input : String}
    (crossing : (∃ user host method, .connected user host method ∈ (before.submit input).2) ∨
      before.scene.dialogue = none ∧ calledName input = "exit") :
    (before.submit input).1.scene.session.cwd = before.scene.session.cwd := by
  cases poised.sound.turn input with
  | blank idle empty same silent => rw [same]
  | command idle filled effect leaves batch =>
    rw [leaves.session]
    apply effect.cwd_eq
    rcases crossing with ⟨user, host, method, announced⟩ | ⟨_, called⟩
    · rw [batch, poised.quiet] at announced
      refine .inl fun silent => ?_
      simp [silent] at announced
    · refine .inr fun entered => ?_
      exact absurd (called.symm.trans entered) (by decide)
  | answer active reply leaves batch =>
    rw [leaves.session]
    exact reply.cwd_eq

/-- A run starts anew with no step behind it, or with a reset as the last one. -/
def Anew (steps : List Step) : Prop := steps = [] ∨ ∃ front, steps = front ++ [.reset]

theorem Opens.session_anew {terminal : Terminal C} (opens : Opens lesson terminal) {steps : List Step}
    (anew : Anew steps) : (terminal.after steps).scene.session = .start lesson := by
  rcases anew with rfl | ⟨front, rfl⟩
  · obtain ⟨fresh, accepted, same⟩ := opens
    obtain ⟨_, vfs, _, rfl⟩ := new_eq_ok_iff.mp accepted
    rcases same with rfl | rfl <;> rfl
  · rw [after_append]
    have sound : Sound lesson (terminal.after front) := opens.sound.after front
    obtain ⟨vfs, _, same⟩ := sound.take_reset
    change ((terminal.after front).take .reset).scene.session = _
    rw [same]
    rfl

/-- In a run of lines since the start or a reset, the session is that of the last announced
connection or the local one, and the local one if no connection was announced. The home is as
configured, a login or an `exit` keeps the working directory, and later lines only add to the
installed keys and the trusted hosts. -/
theorem identity_follows {terminal : Terminal C} (opens : Opens lesson terminal) {early : List Step}
    (anew : Anew early) (lines : List String) :
    let start := terminal.after early
    let now := start.afterLines lines
    (match lastConnection? (start.heard lines) with
      | none => now.scene.session.identity = (lesson.user, lesson.host)
      | some connected => now.scene.session.identity = connected ∨
        now.scene.session.identity = (lesson.user, lesson.host)) ∧
    now.scene.session.home = lesson.home ∧
    (∀ line, ((∃ user host method, .connected user host method ∈ (now.submit line).2) ∨
        now.scene.dialogue = none ∧ calledName line = "exit") →
      (now.submit line).1.scene.session.cwd = now.scene.session.cwd) ∧
    ∀ later, now.scene.session.authorized ⊆ (now.afterLines later).scene.session.authorized ∧
      now.scene.session.knownHosts ⊆ (now.afterLines later).scene.session.knownHosts := by
  intro start now
  have poised : Poised lesson start := opens.poised_after early
  have reached : Poised lesson now := by
    have further := opens.poised_after (early ++ lines.map .submit)
    rwa [after_append] at further
  have opening : start.scene.session = .start lesson := opens.session_anew anew
  have continues : start.scene.session.Continues (start.heard lines) now.scene.session :=
    poised.continues lines
  rw [opening] at continues
  refine ⟨?_, continues.home, fun line crossing => reached.cwd_eq crossing, fun later => ?_⟩
  · have identity := continues.identity
    cases connected : lastConnection? (start.heard lines) with
    | none =>
      rw [connected] at identity
      exact identity.elim id id
    | some last =>
      rw [connected] at identity
      exact identity
  · have onward := reached.continues later
    exact ⟨onward.authorized, onward.knownHosts⟩

theorem identity_follows_two_logins : ∃ terminal : Terminal Empty, Opens Lesson.default terminal ∧
    let start := terminal.after [.submit "ssh root@192.168.1.43", .reset]
    let now := start.afterLines ["ssh root@192.168.1.43", "yes", "toor", "ssh alumno@192.168.1.43", "", "cd .."]
    lastConnection? (start.heard ["ssh root@192.168.1.43", "yes", "toor", "ssh alumno@192.168.1.43", "",
      "cd .."]) = some ("alumno", "192.168.1.43") ∧
    (now.scene.session.identity = ("alumno", "192.168.1.43") ∨
      now.scene.session.identity = ("alumno", "laptop-local")) ∧
    (now.submit "exit").1.scene.session.cwd = now.scene.session.cwd := by
  obtain ⟨terminal, accepted⟩ := exists_new_default (C := Empty)
  have opens : Opens Lesson.default terminal := ⟨terminal, accepted, .inl rfl⟩
  have anew : Anew [.submit "ssh root@192.168.1.43", .reset] := .inr ⟨[_], rfl⟩
  have heard : (Terminal.new (C := Empty) Lesson.default).toOption.map (fun fresh =>
      let start := fresh.after [.submit "ssh root@192.168.1.43", .reset]
      let lines := ["ssh root@192.168.1.43", "yes", "toor", "ssh alumno@192.168.1.43", "", "cd .."]
      (lastConnection? (start.heard lines), (start.afterLines lines).scene.dialogue)) =
        some (some ("alumno", "192.168.1.43"), none) := by decide +kernel
  rw [accepted] at heard
  obtain ⟨last, idle⟩ := Prod.mk.inj (Option.some.inj heard)
  obtain ⟨identity, _, crossing, _⟩ := identity_follows opens anew
    ["ssh root@192.168.1.43", "yes", "toor", "ssh alumno@192.168.1.43", "", "cd .."]
  rw [last] at identity
  exact ⟨terminal, opens, last, identity, crossing "exit" (.inr ⟨idle, by decide⟩)⟩

end Terminal
end LessonShell
