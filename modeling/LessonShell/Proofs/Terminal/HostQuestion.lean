import LessonShell.Proofs.Terminal.Masking
import LessonShell.Proofs.Terminal.Questions

/-! The question about an unknown host, over any lines. Each undecided line is shown and asked about
again and changes nothing else; the first decisive one trusts the host and asks for the password, or
ends the login. Nothing but an accepting answer to this question makes a host known. -/
namespace LessonShell

/-- The answers that trust the host. -/
def Target.Accepts (target : Target) (answer : String) : Prop :=
  Text.foldCase answer = "yes" ∨ answer = target.hostKeyFingerprint

/-- The lines that settle the host question, either way. -/
def Target.Decides (target : Target) (line : String) : Prop :=
  target.Accepts (Text.trimmed line) ∨ Text.foldCase (Text.trimmed line) = "no"

instance (target : Target) (answer : String) : Decidable (target.Accepts answer) :=
  inferInstanceAs (Decidable (_ ∨ _))

instance (target : Target) (line : String) : Decidable (target.Decides line) :=
  inferInstanceAs (Decidable (_ ∨ _))

section turns
variable {lesson : Lesson} {line name : String} {args : List String} {session after : Session}
  {vfs changed : Vfs} {next : Option Prompt} {events : List Event}

theorem Effect.knownHosts_eq {result : Except Failure CommandOutput}
    (effect : Effect lesson line session vfs name args result after changed next events) :
    after.knownHosts = session.knownHosts := by
  cases effect <;> rfl

theorem Reply.knownHosts_cases {prompt : Prompt} {failure : Option Failure}
    (reply : Reply lesson session vfs line prompt failure after changed next events) :
    after.knownHosts = session.knownHosts ∨
      ∃ user host, prompt = .hostKey user host ∧ lesson.target.Accepts line ∧
        after.knownHosts = session.knownHosts.insert host := by
  cases reply with
  | trusted yes => exact .inr ⟨_, _, rfl, yes, rfl⟩
  | _ => exact .inl rfl

end turns

theorem Session.knowsHost_iff {session : Session} {host : String} :
    session.knowsHost host = true ↔ host ∈ session.knownHosts := List.contains_iff_mem

namespace Terminal
variable {C : Type} {lesson : Lesson}

/-- The terminal with further entries in its transcript. -/
def showing (terminal : Terminal C) (entries : List Entry) : Terminal C :=
  { terminal with scene := { terminal.scene with transcript := terminal.scene.transcript ++ entries } }

@[simp] theorem showing_showing (terminal : Terminal C) (first second : List Entry) :
    (terminal.showing first).showing second = terminal.showing (first ++ second) := by
  simp only [showing, List.append_assoc]

@[simp] theorem showing_nil (terminal : Terminal C) : terminal.showing [] = terminal := by
  simp only [showing, List.append_nil]

/-- What an undecided line is answered with. -/
def askedAgain (line : String) : List Entry :=
  [.output (Text.trimmed line), .styled "Please type 'yes', 'no' or the fingerprint:" .prompt]

variable [CustomDialogue C]

theorem endTurn_showing {before : Terminal C} (notes : NotesMask before)
    (quiet : before.scene.bus.pending = []) (entries : List Entry) :
    before.endTurn (before.showing entries).scene = (before.showing entries, []) := by
  have session : { before.scene.session with passwordMode := before.scene.dialogue.any Dialogue.masked } =
      before.scene.session := by
    rw [← notes]
  have bus : before.scene.bus.drained = before.scene.bus := by
    rw [EventBus.drained, ← quiet]
  simp only [endTurn, showing, session, bus, quiet]

/-- A terminal between two turns that waits for an answer to the host question. -/
structure AsksHost (lesson : Lesson) (terminal : Terminal C) (user host : String) : Prop where
  poised : Poised lesson terminal
  notes : NotesMask terminal
  asked : terminal.scene.dialogue = some (.builtin (.hostKey user host))

/-- What a line does to the host question. -/
structure HostAnswered (lesson : Lesson) (before : Terminal C) (user host line : String)
    (turn : Terminal C × List Event) : Prop where
  undecided : ¬ lesson.target.Decides line → turn = (before.showing (askedAgain line), [])
  trusted : lesson.target.Accepts (Text.trimmed line) →
    Leaves before (before.scene.session.trustHost host) before.scene.vfs
      (some (.password .login user host)) turn.1 ∧ turn.2 = []
  refused : lesson.target.Decides line → ¬ lesson.target.Accepts (Text.trimmed line) →
    turn.1.scene.dialogue = none ∧ turn.1.scene.session = before.scene.session ∧
      turn.1.scene.vfs = before.scene.vfs ∧ turn.2 = []
  known : turn.1.scene.session.knowsHost host = true ↔ lesson.target.Accepts (Text.trimmed line)

namespace AsksHost
variable {before : Terminal C} {user host line : String}

theorem unmasked (asks : AsksHost lesson before user host) : before.scene.session.passwordMode = false := by
  rw [asks.notes, asks.asked]
  rfl

theorem unknown (asks : AsksHost lesson before user host) : before.scene.session.knowsHost host = false :=
  (asks.poised.fits _ asks.asked).2.2

theorem showing (asks : AsksHost lesson before user host) (entries : List Entry) :
    AsksHost lesson (before.showing entries) user host := by
  obtain ⟨⟨⟨about, loaded, registry, builtin, home, stands⟩, quiet, fits⟩, notes, asked⟩ := asks
  exact ⟨⟨⟨about, loaded, registry, builtin, home, stands⟩, quiet, fits⟩, notes, asked⟩

theorem resumed (asks : AsksHost lesson before user host) (undecided : ¬ lesson.target.Decides line) :
    (before.answered (.builtin (.hostKey user host)) line).2.resume
      (before.answered (.builtin (.hostKey user host)) line).1 = (before.showing (askedAgain line)).scene := by
  rw [Target.Decides, not_or, ← asks.poised.sound.about] at undecided
  obtain ⟨other, open_⟩ := undecided
  have answered : before.answered (.builtin (.hostKey user host)) line =
      (.ok (.proceed (.builtin (.hostKey user host))), { before.scene with
        dialogue := none, transcript := before.scene.transcript ++ askedAgain line }) := by
    unfold Terminal.answered
    exact Prompt.hostKey_asksAgain before.lesson (Text.trimmed line) { before.scene with dialogue := none }
      other open_
  simp only [answered, Scene.resume, Option.none_or, Terminal.showing, asks.asked]

/-- An undecided line changes the transcript and nothing else. -/
theorem submit_undecided (asks : AsksHost lesson before user host) (undecided : ¬ lesson.target.Decides line) :
    before.submit line = (before.showing (askedAgain line), []) := by
  rw [submit_of_active asks.asked, asks.resumed undecided]
  exact endTurn_showing asks.notes asks.poised.quiet (askedAgain line)

theorem afterLines_undecided (asks : AsksHost lesson before user host) {lines : List String}
    (undecided : ∀ line ∈ lines, ¬ lesson.target.Decides line) :
    before.afterLines lines = before.showing (lines.flatMap askedAgain) := by
  induction lines generalizing before with
  | nil => exact (showing_nil before).symm
  | cons line rest ih =>
    -- The question still waits after the line, so the other lines are undecided answers to it too.
    have first := asks.submit_undecided (undecided line List.mem_cons_self)
    have others : ∀ other ∈ rest, ¬ lesson.target.Decides other :=
      fun other member => undecided other (List.mem_cons_of_mem line member)
    calc
      before.afterLines (line :: rest) = (before.submit line).1.afterLines rest := rfl
      _ = (before.showing (askedAgain line)).afterLines rest := by rw [first]
      _ = (before.showing (askedAgain line)).showing (rest.flatMap askedAgain) :=
        ih (asks.showing (askedAgain line)) others
      _ = before.showing ((line :: rest).flatMap askedAgain) := by
        rw [showing_showing, List.flatMap_cons]

theorem outcome (asks : AsksHost lesson before user host) (line : String) :
    HostAnswered lesson before user host line (before.submit line) := by
  obtain ⟨failure, session, vfs, next, events, reply, leaves, batch⟩ := asks.poised.answers asks.asked line
  have unmasked : { before.scene.session with passwordMode := false } = before.scene.session := by
    rw [← asks.unmasked]
  have stranger {turned : Session} (same : turned.knownHosts = before.scene.session.knownHosts) :
      ¬ turned.knowsHost host = true := by
    rw [Session.knowsHost, same]
    exact Bool.eq_false_iff.mp asks.unknown
  cases reply with
  | trusted yes =>
    refine ⟨fun undecided => absurd (.inl yes) undecided, fun _ => ⟨leaves, batch⟩,
      fun _ other => absurd yes other, iff_of_true ?_ yes⟩
    rw [leaves.session]
    exact Session.knowsHost_iff.mpr List.mem_insert_self
  | distrusted other no =>
    refine ⟨fun undecided => absurd (.inr no) undecided, fun yes => absurd yes other,
      fun _ _ => ⟨leaves.dialogue, leaves.session.trans unmasked, leaves.vfs, batch⟩, iff_of_false ?_ other⟩
    rw [leaves.session]
    exact stranger rfl
  | askedAgain other open_ =>
    have undecided : ¬ lesson.target.Decides line := not_or.mpr ⟨other, open_⟩
    refine ⟨fun _ => asks.submit_undecided undecided, fun yes => absurd yes other,
      fun decisive => absurd decisive undecided, iff_of_false ?_ other⟩
    rw [leaves.session]
    exact stranger rfl

end AsksHost

/-- Only an accepting answer to the question about a host makes it known. -/
theorem Poised.trusts {before : Terminal C} (poised : Poised lesson before) {host line : String}
    (unknown : before.scene.session.knowsHost host = false)
    (known : (before.submit line).1.scene.session.knowsHost host = true) :
    ∃ user, before.scene.dialogue = some (.builtin (.hostKey user host)) ∧
      lesson.target.Accepts (Text.trimmed line) := by
  have stranger : host ∉ before.scene.session.knownHosts :=
    fun member => Bool.eq_false_iff.mp unknown (Session.knowsHost_iff.mpr member)
  rw [Session.knowsHost_iff] at known
  cases poised.sound.turn line with
  | blank idle empty same silent =>
    rw [same] at known
    exact absurd known stranger
  | command idle filled effect leaves batch =>
    have same := (congrArg Session.knownHosts leaves.session).trans effect.knownHosts_eq
    rw [same] at known
    exact absurd known stranger
  | answer active reply leaves batch =>
    have session := congrArg Session.knownHosts leaves.session
    rcases reply.knownHosts_cases with kept | ⟨user, machine, rfl, accepted, grown⟩
    · rw [session.trans kept] at known
      exact absurd known stranger
    · rw [session.trans grown] at known
      rcases List.mem_insert_iff.mp known with rfl | old
      · exact ⟨user, active, poised.sound.about ▸ accepted⟩
      · exact absurd old stranger

/-- While the host question waits, undecided lines change nothing but the transcript, where each adds
two entries, and the first decisive one settles the question. Whatever lines come before, a line makes
the host known only if it is an accepting answer to the question about it. -/
theorem host_question_settled {terminal : Terminal C} (opens : Opens lesson terminal) (steps : List Step)
    {user host : String}
    (asked : (terminal.after steps).scene.dialogue = some (.builtin (.hostKey user host)))
    (early : List String) (line : String) :
    let before := terminal.after steps
    let now := before.afterLines early
    ((∀ other ∈ early, ¬ lesson.target.Decides other) →
      now = before.showing (early.flatMap askedAgain) ∧
        HostAnswered lesson now user host line (now.submit line)) ∧
    (now.scene.session.knowsHost host = false →
      (now.submit line).1.scene.session.knowsHost host = true →
      ∃ asker, now.scene.dialogue = some (.builtin (.hostKey asker host)) ∧
        lesson.target.Accepts (Text.trimmed line)) := by
  intro before now
  have poised : Poised lesson before := opens.poised_after steps
  have asks : AsksHost lesson before user host := ⟨poised, opens.notesMask_after steps, asked⟩
  refine ⟨fun undecided => ?_, (poised.afterLines early).trusts⟩
  have same : now = before.showing (early.flatMap askedAgain) := asks.afterLines_undecided undecided
  have still : AsksHost lesson now user host := same ▸ asks.showing _
  exact ⟨same, still.outcome line⟩

theorem host_question_settled_after_hesitation : ∃ terminal : Terminal Empty, Opens Lesson.default terminal ∧
    let before := terminal.after [.submit "ssh alumno@192.168.1.43"]
    let now := before.afterLines ["maybe", "", "\u00a0y"]
    now = before.showing (["maybe", "", "\u00a0y"].flatMap askedAgain) ∧
      (now.submit " YES ").1.scene.dialogue =
        some (.builtin (.password .login "alumno" "192.168.1.43")) ∧
      (now.submit " YES ").1.scene.session.knowsHost "192.168.1.43" = true ∧
      (now.submit "No").1.scene.dialogue = none := by
  obtain ⟨terminal, accepted⟩ := exists_new_default (C := Empty)
  have opens : Opens Lesson.default terminal := ⟨terminal, accepted, .inl rfl⟩
  have ran : (Terminal.new (C := Empty) Lesson.default).toOption.map (fun fresh =>
      (fresh.after [.submit "ssh alumno@192.168.1.43"]).scene.dialogue) =
        some (some (.builtin (.hostKey "alumno" "192.168.1.43"))) := by decide +kernel
  rw [accepted] at ran
  have asked := Option.some.inj ran
  have undecided : ∀ other ∈ ["maybe", "", "\u00a0y"], ¬ Lesson.default.target.Decides other := by
    decide +kernel
  have yes : Lesson.default.target.Accepts (Text.trimmed " YES ") := by decide +kernel
  have no : Lesson.default.target.Decides "No" ∧ ¬ Lesson.default.target.Accepts (Text.trimmed "No") := by
    decide +kernel
  obtain ⟨same, trusting⟩ := (host_question_settled opens _ asked _ " YES ").1 undecided
  obtain ⟨_, leaving⟩ := (host_question_settled opens _ asked _ "No").1 undecided
  exact ⟨terminal, opens, same, (trusting.trusted yes).1.dialogue, trusting.known.mpr yes,
    (leaving.refused no.1 no.2).1⟩

end Terminal
end LessonShell
