import LessonShell.Proofs.Terminal.KeyGeneration

/-! What a submitted line does to the files. A successful `mv` carries what it moves to its new
place, the last answer of a key generation rewrites at most the two key files, and no other line
takes a file away or changes one. The last answer can rewrite a file although it fails. -/
namespace LessonShell

section turns
variable {lesson : Lesson} {line name : String} {args : List String} {session after : Session}
  {vfs changed : Vfs} {prompt : Option Prompt} {events : List Event}

theorem Effect.files {result : Except Failure CommandOutput}
    (effect : Effect lesson line session vfs name args result after changed prompt events)
    (consistent : vfs.Consistent) :
    changed = vfs ∨ name ∈ ["mkdir", "touch"] ∧ vfs.Retained [] changed ∨
      name = "mv" ∧ result = .ok .silent ∧ ∃ source dest rest, args = source :: dest :: rest := by
  cases effect with
  | madeDirectory done => exact .inr (.inl ⟨by simp, (Vfs.mkdir_added consistent done).retained⟩)
  | touched done => exact .inr (.inl ⟨by simp, (Vfs.touch_created consistent done).retained⟩)
  | moved listing listed apart done place => exact .inr (.inr ⟨rfl, rfl, _, _, _, rfl⟩)
  | _ => exact .inl rfl

theorem Effect.carried {result : Except Failure CommandOutput} {output : CommandOutput}
    {source dest : String} {rest : List String}
    (effect : Effect lesson line session vfs name args result after changed prompt events)
    (consistent : vfs.Consistent) (named : name = "mv") (given : args = source :: dest :: rest)
    (ended : result = .ok output) :
    vfs.Carried (Path.ofText (PathText.join session.cwd source))
      (Path.ofText (Command.destination vfs session.cwd source dest)) changed := by
  cases effect with
  | refused failure own => cases ended
  | shown output shows =>
    rw [named] at shows
    exact absurd shows (by decide)
  | moved listing listed apart done place =>
    obtain ⟨rfl, rest⟩ := List.cons.inj given
    obtain ⟨rfl, rfl⟩ := List.cons.inj rest
    rw [← place]
    exact Vfs.rename_carried consistent done
  | _ => simp at named

end turns

namespace Terminal
variable {C : Type} {lesson : Lesson}

/-- The line is an `mv` that succeeds and takes the entry at `source` to `target`. -/
def Moves (terminal : Terminal C) (input : String) (source target : Path) : Prop :=
  calledName input = "mv" ∧ ∃ entry dest rest output, calledArgs input = entry :: dest :: rest ∧
    terminal.outcome? input = some (.ok output) ∧
    source = Path.ofText (PathText.join terminal.scene.session.cwd entry) ∧
    target = Path.ofText (Command.destination terminal.scene.vfs terminal.scene.session.cwd entry dest)

/-- The key files of a wizard that waits for its last answer, and none at any other time. -/
def keyFiles (terminal : Terminal C) : List Path :=
  match terminal.scene.dialogue with
  | some (.builtin (.keygen .confirm _ name)) =>
    [Path.ofText (KeyPair.privatePath terminal.scene.session.home name),
      Path.ofText (KeyPair.publicPath terminal.scene.session.home name)]
  | _ => []

/-- The wizard waits for its last answer, which will fail and write over a file all the same. -/
def Spoils (terminal : Terminal C) (name : String) : Prop :=
  (∃ algorithm, terminal.scene.dialogue = some (.builtin (.keygen .confirm algorithm name))) ∧
    KeyPair.Spoils terminal.scene.vfs terminal.scene.session.home name

section waiting
variable {terminal : Terminal C} {algorithm name : String}

theorem keyFiles_of_confirm
    (active : terminal.scene.dialogue = some (.builtin (.keygen .confirm algorithm name))) :
    terminal.keyFiles = [Path.ofText (KeyPair.privatePath terminal.scene.session.home name),
      Path.ofText (KeyPair.publicPath terminal.scene.session.home name)] := by
  rw [keyFiles, active]

theorem unspoiled_iff
    (active : terminal.scene.dialogue = some (.builtin (.keygen .confirm algorithm name))) :
    (∀ other, ¬ terminal.Spoils other) ↔
      ¬ KeyPair.Spoils terminal.scene.vfs terminal.scene.session.home name := by
  constructor
  · exact fun unspoiled spoils => unspoiled name ⟨⟨algorithm, active⟩, spoils⟩
  · rintro whole other ⟨⟨_, again⟩, spoils⟩
    cases active.symm.trans again
    exact whole spoils

theorem keyFiles_cases (terminal : Terminal C) :
    terminal.keyFiles = [] ∧ (∀ name, ¬ terminal.Spoils name) ∨
      ∃ algorithm name, terminal.scene.dialogue = some (.builtin (.keygen .confirm algorithm name)) := by
  by_cases waits : ∃ algorithm name, terminal.scene.dialogue = some (.builtin (.keygen .confirm algorithm name))
  · exact .inr waits
  · refine .inl ⟨?_, fun name spoils => waits ⟨_, name, spoils.1.choose_spec⟩⟩
    unfold keyFiles
    split
    · next active => exact absurd ⟨_, _, active⟩ waits
    · rfl

end waiting

variable [CustomDialogue C]

/-- The key files that a line writes by completing the wizard, which it then announces. -/
def completedKeys (terminal : Terminal C) (input : String) : List Path :=
  if .keygenDone ∈ (terminal.submit input).2 then terminal.keyFiles else []

theorem Sound.carried {before : Terminal C} (sound : Sound lesson before) {input : String}
    {source target : Path} (moves : before.Moves input source target) :
    before.scene.vfs.Carried source target (before.submit input).1.scene.vfs := by
  obtain ⟨named, entry, dest, rest, output, args, outcome, rfl, rfl⟩ := moves
  obtain ⟨idle, filled, ended⟩ := outcome?_eq_some_iff.mp outcome
  obtain ⟨session, prompt, events, effect⟩ := filled_effect sound.registry sound.stands.consistent idle filled
  exact effect.carried sound.stands.consistent named args ended

theorem Sound.command_files {before : Terminal C} (sound : Sound lesson before) {input : String}
    (idle : before.scene.dialogue = none)
    (unmoved : ∀ source target, ¬ before.Moves input source target) :
    (before.submit input).1.scene.vfs = before.scene.vfs ∨ calledName input ∈ ["mkdir", "touch"] ∧
      before.scene.vfs.Retained [] (before.submit input).1.scene.vfs := by
  by_cases empty : Text.trimmed input = ""
  · rw [submit_of_blank idle empty]
    exact .inl rfl
  · obtain ⟨session, prompt, events, effect⟩ := filled_effect sound.registry sound.stands.consistent idle empty
    rcases effect.files sound.stands.consistent with same | grown | moved
    · exact .inl same
    · exact .inr grown
    · obtain ⟨named, ended, entry, dest, rest, args⟩ := moved
      have outcome := outcome?_eq_some_iff.mpr ⟨idle, empty, ended⟩
      exact absurd ⟨named, entry, dest, rest, _, args, outcome, rfl, rfl⟩ (unmoved _ _)

theorem Sound.answer_files {before : Terminal C} (sound : Sound lesson before) (input : String)
    {active : Dialogue C} (found : before.scene.dialogue = some active) :
    (before.submit input).1.scene.vfs = before.scene.vfs ∨ before.keyFiles ≠ [] ∧
      before.scene.vfs.Retained before.keyFiles (before.submit input).1.scene.vfs := by
  obtain ⟨prompt, rfl⟩ := sound.builtin active found
  obtain ⟨failure, session, next, events, reply⟩ := active_reply found input
  rcases reply.files with same | ⟨algorithm, keyName, comment, rfl, same⟩
  · exact .inl same
  · rw [same, keyFiles_of_confirm found]
    exact .inr ⟨List.cons_ne_nil _ _, Vfs.install_retained sound.stands.consistent _ _ _ _⟩

theorem Sound.files_cases {before : Terminal C} (sound : Sound lesson before) {input : String}
    (unmoved : ∀ source target, ¬ before.Moves input source target) :
    (before.submit input).1.scene.vfs = before.scene.vfs ∨
      (before.keyFiles ≠ [] ∨ before.scene.dialogue = none ∧ calledName input ∈ ["mkdir", "touch"]) ∧
        before.scene.vfs.Retained before.keyFiles (before.submit input).1.scene.vfs := by
  cases waiting : before.scene.dialogue with
  | some active =>
    rcases sound.answer_files input waiting with same | ⟨ends, retained⟩
    · exact .inl same
    · exact .inr ⟨.inl ends, retained⟩
  | none =>
    rcases sound.command_files waiting unmoved with same | ⟨named, retained⟩
    · exact .inl same
    · exact .inr ⟨.inr ⟨rfl, named⟩, retained.weaken (List.nil_subset _)⟩

theorem Sound.retained {before : Terminal C} (sound : Sound lesson before) {input : String}
    (unmoved : ∀ source target, ¬ before.Moves input source target) :
    before.scene.vfs.Retained before.keyFiles (before.submit input).1.scene.vfs := by
  rcases sound.files_cases unmoved with same | ⟨_, retained⟩
  · rw [same]
    exact (Vfs.Retained.refl _).weaken (List.nil_subset _)
  · exact retained

theorem Poised.retained_iff {before : Terminal C} (poised : Poised lesson before) {input : String}
    (unmoved : ∀ source target, ¬ before.Moves input source target) :
    before.scene.vfs.Retained (before.completedKeys input) (before.submit input).1.scene.vfs ↔
      ∀ name, ¬ before.Spoils name := by
  have consistent := poised.sound.stands.consistent
  have retained := poised.sound.retained unmoved
  rcases before.keyFiles_cases with ⟨none, unspoiled⟩ | ⟨algorithm, name, active⟩
  · rw [completedKeys, none, ite_self]
    exact iff_of_true (none ▸ retained) unspoiled
  · have segment : IsSegment name := (poised.fits _ active).2.1
    rw [unspoiled_iff active]
    cases (poised.lastAnswer active input).1 with
    | finished ends _ announced =>
      rw [completedKeys, announced, if_pos (List.mem_singleton_self _)]
      refine iff_of_true retained fun spoils => ?_
      exact Bool.false_ne_true ((ends.installable consistent segment).shared.symm.trans spoils.1)
    | refused ends _ _ silent =>
      rw [completedKeys, silent, if_neg List.not_mem_nil]
      exact ends.retained_iff consistent segment

theorem Poised.spoiled {before : Terminal C} (poised : Poised lesson before) {name : String}
    (spoils : before.Spoils name) (input : String) :
    (before.submit input).2 = [] ∧
      before.scene.vfs.Retained [Path.ofText (KeyPair.privatePath before.scene.session.home name)]
        (before.submit input).1.scene.vfs ∧
      (before.submit input).1.scene.vfs.read (KeyPair.privatePath before.scene.session.home name) =
        .ok KeyPair.privateText := by
  obtain ⟨⟨algorithm, active⟩, spoils⟩ := spoils
  have consistent := poised.sound.stands.consistent
  have segment : IsSegment name := (poised.fits _ active).2.1
  cases (poised.lastAnswer active input).1 with
  | finished ends _ _ =>
    exact absurd ((ends.installable consistent segment).shared.symm.trans spoils.1) Bool.false_ne_true
  | refused ends _ _ silent => exact ⟨silent, ends.spoiled consistent segment spoils⟩

/-- What becomes of the files. A successful `mv` carries what lies at and under its source; after any
other line every file is where it was, every list of children begins as before, and no content has
changed but that of the key files of a wizard that got its last answer. If the wizard completes they
are what it wrote; else all contents stay, unless the answer fails at the public file and has written
over the private one. Only `mkdir`, `touch`, `mv` and such an answer change the files at all. -/
theorem files_retained_iff {terminal : Terminal C} (opens : Opens lesson terminal) (steps : List Step)
    (input : String) :
    let before := terminal.after steps
    let files := before.scene.vfs
    let turn := before.submit input
    let now := turn.1.scene.vfs
    (∀ source target, before.Moves input source target → files.Carried source target now) ∧
    ((∀ source target, ¬ before.Moves input source target) →
      files.Retained before.keyFiles now ∧
      (files.Retained (before.completedKeys input) now ↔ ∀ name, ¬ before.Spoils name) ∧
      (∀ name, before.Spoils name → turn.2 = [] ∧
        files.Retained [Path.ofText (KeyPair.privatePath before.scene.session.home name)] now ∧
        now.read (KeyPair.privatePath before.scene.session.home name) = .ok KeyPair.privateText) ∧
      (now ≠ files → before.keyFiles ≠ [] ∨
        before.scene.dialogue = none ∧ calledName input ∈ ["mkdir", "touch"])) := by
  intro before files turn now
  have poised : Poised lesson before := opens.poised_after steps
  refine ⟨fun source target moves => poised.sound.carried moves, fun unmoved => ?_⟩
  refine ⟨poised.sound.retained unmoved, poised.retained_iff unmoved,
    fun name spoils => poised.spoiled spoils input, fun changed => ?_⟩
  rcases poised.sound.files_cases unmoved with same | ⟨reason, _⟩
  · exact absurd same changed
  · exact reason

theorem files_retained_in_a_move : ∃ terminal : Terminal Empty, Opens Lesson.default terminal ∧
    let before := terminal.after [.submit "mkdir d", .submit "mv notas.txt d"]
    before.Moves "mv d ../teacher" ["home", "alumno", "d"] ["home", "teacher", "d"] ∧
    (before.submit "mv d ../teacher").1.scene.vfs.nodes[["home", "teacher", "d", "notas.txt"]]? =
      some (.file "Apuntes secretos de la clase de SSH.") := by
  obtain ⟨terminal, accepted⟩ := exists_new_default (C := Empty)
  have opens : Opens Lesson.default terminal := ⟨terminal, accepted, .inl rfl⟩
  have moving : (Terminal.new (C := Empty) Lesson.default).toOption.map (fun fresh =>
      let before := fresh.after [.submit "mkdir d", .submit "mv notas.txt d"]
      let cwd := before.scene.session.cwd
      ((before.outcome? "mv d ../teacher").map Except.toOption,
        Path.ofText (PathText.join cwd "d"), Path.ofText (Command.destination before.scene.vfs cwd "d" "../teacher"),
        before.scene.vfs.nodes[["home", "alumno", "d", "notas.txt"]]?)) =
      some (some (some .silent), ["home", "alumno", "d"], ["home", "teacher", "d"],
        some (.file "Apuntes secretos de la clase de SSH.")) := by decide +kernel
  rw [accepted] at moving
  obtain ⟨ended, moving⟩ := Prod.mk.inj (Option.some.inj moving)
  obtain ⟨source, moving⟩ := Prod.mk.inj moving
  obtain ⟨target, file⟩ := Prod.mk.inj moving
  obtain ⟨result, outcome, succeeds⟩ := Option.map_eq_some_iff.mp ended
  cases result with
  | error failure => cases succeeds
  | ok output =>
    have moves : Moves _ "mv d ../teacher" ["home", "alumno", "d"] ["home", "teacher", "d"] :=
      ⟨by decide, "d", "../teacher", [], output, by decide, outcome, source.symm, target.symm⟩
    obtain ⟨carried, _⟩ := files_retained_iff opens _ "mv d ../teacher"
    exact ⟨terminal, opens, moves, (carried _ _ moves).inside ["notas.txt"] _ file⟩

/-- With a directory in the place of the public file, the last answer fails and announces nothing, and
the file in the place of the private one has lost its content. -/
theorem failed_generation_spoils : ∃ terminal : Terminal Empty, Opens Lesson.default terminal ∧
    let before := terminal.after [.submit "mkdir .ssh", .submit "cd .ssh", .submit "touch id_rsa",
      .submit "mkdir id_rsa.pub", .submit "ssh-keygen", .submit "", .submit ""]
    let turn := before.submit ""
    (∀ source target, ¬ before.Moves "" source target) ∧ turn.2 = [] ∧
      before.scene.vfs.nodes[["home", "alumno", ".ssh", "id_rsa"]]? = some (.file "") ∧
      turn.1.scene.vfs.nodes[["home", "alumno", ".ssh", "id_rsa"]]? = some (.file KeyPair.privateText) := by
  obtain ⟨terminal, accepted⟩ := exists_new_default (C := Empty)
  have opens : Opens Lesson.default terminal := ⟨terminal, accepted, .inl rfl⟩
  have ran : (Terminal.new (C := Empty) Lesson.default).toOption.map (fun fresh =>
      let before := fresh.after [.submit "mkdir .ssh", .submit "cd .ssh", .submit "touch id_rsa",
        .submit "mkdir id_rsa.pub", .submit "ssh-keygen", .submit "", .submit ""]
      let turn := before.submit ""
      (turn.2, before.scene.vfs.nodes[["home", "alumno", ".ssh", "id_rsa"]]?,
        turn.1.scene.vfs.nodes[["home", "alumno", ".ssh", "id_rsa"]]?)) =
      some ([], some (.file ""), some (.file KeyPair.privateText)) := by decide +kernel
  rw [accepted] at ran
  obtain ⟨silent, contents⟩ := Prod.mk.inj (Option.some.inj ran)
  obtain ⟨empty, spoiled⟩ := Prod.mk.inj contents
  exact ⟨terminal, opens, fun _ _ moves => absurd moves.1 (by decide), silent, empty, spoiled⟩

/-- Over any lines none of which moves an entry, completes a key generation or spoils a file by one
that fails, every file stays as it is and the lists of children only grow at their ends. -/
theorem files_stay {terminal : Terminal C} (opens : Opens lesson terminal) {lines : List String}
    (spared : ∀ early line late, lines = early ++ line :: late →
      let now := terminal.afterLines early
      (∀ source target, ¬ now.Moves line source target) ∧ .keygenDone ∉ (now.submit line).2 ∧
        ∀ name, ¬ now.Spoils name) :
    terminal.scene.vfs.Retained [] (terminal.afterLines lines).scene.vfs := by
  refine afterLines_relates (fun first second => first.scene.vfs.Retained [] second.scene.vfs) ?_ ?_ ?_
  · exact fun now => .refl now.scene.vfs
  · exact fun _ _ _ first second => first.trans second
  · intro early line late split
    obtain ⟨unmoved, unfinished, unspoiled⟩ := spared early line late split
    have retained := ((opens.poised.afterLines early).retained_iff unmoved).mpr unspoiled
    rwa [completedKeys, if_neg unfinished] at retained

end Terminal
end LessonShell
