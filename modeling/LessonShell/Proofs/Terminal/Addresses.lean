import LessonShell.Proofs.Terminal.Questions
import LessonShell.Proofs.Vfs.Plain

/-! Every node stays addressable. New names come from `mkdir`, `touch`, `mv` and the key wizard,
each with a check of its own; none lets in a name that a path reads as a direction, so a node is
reached from everywhere by the spelling of its path. -/
namespace LessonShell

section turns
variable {lesson : Lesson} {line name : String} {args : List String} {session after : Session}
  {vfs changed : Vfs} {events : List Event}

theorem plain_of_simple {child : String}
    (simple : ¬ (Text.contains child "/" || Text.contains child "..") = true) (dot : child ≠ ".") :
    (Path.ofText child).Plain := by
  rw [Bool.or_eq_true, not_or] at simple
  obtain ⟨unslashed, undotted⟩ := simple
  have up : child ≠ ".." := fun same => undotted (by rw [same]; decide)
  rw [Path.ofText_unslashed fun slash => unslashed (Text.occurs_singleton_of_mem slash)]
  split
  · exact ⟨List.not_mem_nil, List.not_mem_nil⟩
  · exact Path.plain_singleton.mpr ⟨dot, up⟩

theorem Effect.plain {result : Except Failure CommandOutput} {prompt : Option Prompt}
    (effect : Effect lesson line session vfs name args result after changed prompt events)
    (stands : Stands session vfs) (plain : vfs.Plain) : changed.Plain := by
  have consistent := stands.consistent
  have here := plain _ stands.cwd.mem
  cases effect with
  | madeDirectory done simple fresh =>
    refine (Vfs.mkdir_growth consistent done).plain plain ?_
    rw [PathText.ofText_join]
    exact Path.plain_append.mpr ⟨here, plain_of_simple simple fun dot => fresh (.inl dot)⟩
  | touched done =>
    refine (Vfs.touch_growth consistent done).plain plain ?_
    rw [PathText.ofText_resolve]
    exact PathText.locate_plain _ _
  | @moved source _ _ _ _ _ listing listed apart done place =>
    refine Vfs.rename_plain consistent done plain ?_
    have found := Vfs.children_eq_ok_iff.mp listing
    have segment := consistent.segments found source listed
    have named := (Path.plain_child.mp (plain _ (consistent.present found source listed))).2
    rw [place, Command.destination]
    split
    · rw [PathText.ofText_join_segment _ segment, PathText.ofText_resolve]
      exact Path.plain_child.mpr ⟨PathText.locate_plain _ _, named⟩
    · rw [PathText.ofText_resolve]
      exact PathText.locate_plain _ _
  | _ => exact plain

theorem Reply.plain {prompt : Prompt} {failure : Option Failure} {next : Option Prompt}
    (reply : Reply lesson session vfs line prompt failure after changed next events)
    (consistent : vfs.Consistent) (fits : prompt.Fits lesson.target session)
    (housed : (Path.ofText session.home).Plain) (plain : vfs.Plain) : changed.Plain := by
  rcases reply.files with rfl | ⟨algorithm, keyName, comment, rfl, rfl⟩
  · exact plain
  · obtain ⟨_, segment, dot, up⟩ := fits
    exact Vfs.install_plain consistent plain housed segment dot up algorithm comment

end turns

namespace Command
open Program
variable {C : Type} {line : String} {lesson : Lesson} {scene : Scene (Dialogue C)} {path : Path} {node : Node}

/-- How `cd` to a node ends: a directory is entered, a file is refused. -/
def entering (scene : Scene (Dialogue C)) (path : Path) : Node → Except Failure CommandOutput × Scene (Dialogue C)
  | .dir _ => (.ok .silent, { scene with session := { scene.session with cwd := path.text } })
  | .file _ => (.error (.command (.changeMissing path.text)), scene)

/-- How `cat` of a node ends: a file is shown, a directory is refused. -/
def reading (scene : Scene (Dialogue C)) (path : Path) : Node → Except Failure CommandOutput × Scene (Dialogue C)
  | .dir _ => (.error (.command (.showMissing path.text)), scene)
  | .file content => (.ok (.text content), scene)

/-- How `touch` of an existing node ends: it stays as it is, and the root is refused. -/
def touching (scene : Scene (Dialogue C)) (path : Path) : Except Failure CommandOutput × Scene (Dialogue C) :=
  if path = Path.root then (.error (.command (.touchMissing path.text)), scene) else (.ok .silent, scene)

theorem run_cd_text (normal : path.Normal) (plain : path.Plain)
    (found : scene.vfs.nodes[path]? = some node) (rest : List String) :
    (cd.execute (path.text :: rest)).run line lesson scene = entering scene path node := by
  have absolute : path.text ≠ ".." := by
    intro same
    have slash := PathText.startsWith_text path
    rw [same] at slash
    exact absurd slash (by decide)
  simp only [cd, run_view_bind, if_neg absolute, PathText.resolve_text normal plain]
  cases node with
  | dir names =>
    have directory : scene.vfs.isDir path.text = true :=
      Vfs.isDir_iff.mpr ⟨names, by rw [Path.ofText_text normal, found]⟩
    rw [if_pos directory]
    rfl
  | file content =>
    have leaf : ¬ scene.vfs.isDir path.text = true := by
      rw [Vfs.isDir_iff, Path.ofText_text normal]
      rintro ⟨names, directory⟩
      rw [found] at directory
      cases directory
    rw [if_neg leaf]
    rfl

theorem run_cat_text (normal : path.Normal) (plain : path.Plain)
    (found : scene.vfs.nodes[path]? = some node) (rest : List String) :
    (cat.execute (path.text :: rest)).run line lesson scene = reading scene path node := by
  have held : scene.vfs.get? path.text = some node := by
    rw [Vfs.get?, Path.ofText_text normal, found]
  simp only [cat, run_view_bind, PathText.resolve_text normal plain, held]
  cases node <;> rfl

theorem run_touch_text (consistent : scene.vfs.Consistent) (plain : path.Plain)
    (found : scene.vfs.nodes[path]? = some node) (rest : List String) :
    (touch.execute (path.text :: rest)).run line lesson scene = touching scene path := by
  have member : path ∈ scene.vfs.nodes := Vfs.mem_nodes_iff.mpr ⟨node, found⟩
  have normal := consistent.normal member
  simp only [touch, run_view_bind, PathText.resolve_text normal plain]
  by_cases top : path = Path.root
  · rw [touching, if_pos top, if_pos (.inl (by rw [top]; rfl))]
    rfl
  · have below : path.text ≠ "/" := fun same => top (Path.text_injective normal Path.normal_root same)
    have above : scene.vfs.isDir (PathText.parent path.text) = true := by
      rw [PathText.parent_text normal top, Vfs.isDir_iff, Path.ofText_text normal.parent]
      exact consistent.parent_isDirectory member top
    have kept : scene.vfs.touch path.text = (.ok false, scene.vfs) := by
      simp only [Vfs.touch, Path.ofText_text normal, found]
    rw [touching, if_neg top, if_neg (by simp [below, above]), kept]
    rfl

end Command

/-- The spelling of a path leads to it from everywhere, and `cd`, `cat` and `touch` that are given
it act on the node there. -/
structure Addressed {C : Type} (registry : Registry C) (vfs : Vfs) (path : Path) (node : Node) : Prop where
  resolve : ∀ cwd, PathText.resolve cwd path.text = path.text
  cd : ∀ {line : String} {lesson : Lesson} {scene : Scene (Dialogue C)} (rest : List String), scene.vfs = vfs →
    (registry.dispatch "cd" (path.text :: rest)).run line lesson scene = Command.entering scene path node
  cat : ∀ {line : String} {lesson : Lesson} {scene : Scene (Dialogue C)} (rest : List String), scene.vfs = vfs →
    (registry.dispatch "cat" (path.text :: rest)).run line lesson scene = Command.reading scene path node
  touch : ∀ {line : String} {lesson : Lesson} {scene : Scene (Dialogue C)} (rest : List String), scene.vfs = vfs →
    (registry.dispatch "touch" (path.text :: rest)).run line lesson scene = Command.touching scene path

theorem addressed_of_plain {C : Type} {registry : Registry C} {vfs : Vfs} {path : Path} {node : Node}
    (known : registry.IsStandard) (consistent : vfs.Consistent) (plain : path.Plain)
    (found : vfs.nodes[path]? = some node) : Addressed registry vfs path node := by
  have normal := consistent.normal (Vfs.mem_nodes_iff.mpr ⟨node, found⟩)
  have cd := known.dispatch_eq Command.cd (by simp [Registry.standardCommands]) (by simp [Command.cd])
  have cat := known.dispatch_eq Command.cat (by simp [Registry.standardCommands]) (by simp [Command.cat])
  have touch := known.dispatch_eq Command.touch (by simp [Registry.standardCommands]) (by simp [Command.touch])
  refine ⟨PathText.resolve_text normal plain, ?_, ?_, ?_⟩
  · rintro line lesson scene rest rfl
    exact cd (path.text :: rest) ▸ Command.run_cd_text normal plain found rest
  · rintro line lesson scene rest rfl
    exact cat (path.text :: rest) ▸ Command.run_cat_text normal plain found rest
  · rintro line lesson scene rest rfl
    exact touch (path.text :: rest) ▸ Command.run_touch_text consistent plain found rest

namespace Terminal
variable {C : Type} {lesson : Lesson}

/-- A terminal between two turns whose files, like the home of its lesson, have plain paths. -/
structure Navigable (lesson : Lesson) (terminal : Terminal C) : Prop where
  poised : Poised lesson terminal
  housed : (Path.ofText lesson.home).Plain
  plain : terminal.scene.vfs.Plain

theorem plain_of_initialFiles {vfs : Vfs} (keys : ∀ key ∈ lesson.filesystem, (Path.ofText key).Plain)
    (loaded : initialFiles lesson = .ok vfs) : vfs.Plain ∧ (Path.ofText lesson.home).Plain := by
  obtain ⟨accepted, home⟩ := initialFiles_eq_ok_iff.mp loaded
  have plain := Vfs.plain_of_ofSnapshot keys accepted
  exact ⟨plain, plain _ (Vfs.isDir_iff.mp home).mem⟩

theorem Opens.navigable {terminal : Terminal C} (opens : Opens lesson terminal)
    (keys : ∀ key ∈ lesson.filesystem, (Path.ofText key).Plain) : Navigable lesson terminal := by
  have poised := opens.poised
  obtain ⟨fresh, accepted, same⟩ := opens
  obtain ⟨_, vfs, loaded, rfl⟩ := new_eq_ok_iff.mp accepted
  obtain ⟨plain, housed⟩ := plain_of_initialFiles keys loaded
  rcases same with rfl | rfl
  · exact ⟨poised, housed, plain⟩
  · exact ⟨poised, housed, plain⟩

variable [CustomDialogue C]

theorem Navigable.submit {before : Terminal C} (navigable : Navigable lesson before) (input : String) :
    Navigable lesson (before.submit input).1 := by
  obtain ⟨poised, housed, plain⟩ := navigable
  have sound := poised.sound
  refine ⟨poised.submit input, housed, ?_⟩
  cases sound.turn input with
  | blank idle empty same silent => rwa [same]
  | command idle filled effect leaves batch =>
    rw [leaves.vfs]
    exact effect.plain sound.stands plain
  | answer active reply leaves batch =>
    rw [leaves.vfs]
    rw [sound.about] at reply
    rw [← sound.home] at housed
    exact reply.plain sound.stands.consistent (poised.fits _ active) housed plain

theorem Navigable.take {before : Terminal C} (navigable : Navigable lesson before)
    (keys : ∀ key ∈ lesson.filesystem, (Path.ofText key).Plain) (step : Step) :
    Navigable lesson (before.take step) := by
  cases step with
  | submit line => exact navigable.submit line
  | reset =>
    have poised := navigable.poised.take .reset
    obtain ⟨vfs, loaded, same⟩ := navigable.poised.sound.take_reset
    refine ⟨poised, navigable.housed, ?_⟩
    rw [same]
    exact (plain_of_initialFiles keys loaded).1

/-- After every run of lines and resets no key has an empty segment or one that a path reads as
a direction, and each node is what `cd`, `cat` and `touch` act on when they are given its path. -/
theorem nodes_stay_addressable {terminal : Terminal C} (opens : Opens lesson terminal)
    (keys : ∀ key ∈ lesson.filesystem, (Path.ofText key).Plain) (steps : List Step) {path : Path} {node : Node}
    (found : (terminal.after steps).scene.vfs.nodes[path]? = some node) :
    (∀ name ∈ path, name ≠ "" ∧ name ≠ "." ∧ name ≠ "..") ∧
      Addressed (terminal.after steps).registry (terminal.after steps).scene.vfs path node := by
  have navigable : Navigable lesson (terminal.after steps) :=
    after_keeps (opens.navigable keys) (fun _ now next => now.take keys next) steps
  have sound := navigable.poised.sound
  have consistent := sound.stands.consistent
  have member := Vfs.mem_nodes_iff.mpr ⟨node, found⟩
  have plain := navigable.plain path member
  refine ⟨fun name inside => ⟨?_, ?_, ?_⟩, addressed_of_plain sound.registry consistent plain found⟩
  · exact (consistent.normal member name inside).1
  · rintro rfl
    exact plain.1 inside
  · rintro rfl
    exact plain.2 inside

theorem default_keys_plain : ∀ key ∈ Lesson.default.filesystem, (Path.ofText key).Plain := by
  have listed : ∀ key ∈ Lesson.default.filesystem.keys, (Path.ofText key).Plain := by decide +kernel
  exact fun key member => listed key (Std.ExtTreeMap.mem_keys.mpr member)

theorem key_file_stays_addressable : ∃ terminal : Terminal Empty, Opens Lesson.default terminal ∧
    let moved := terminal.after
      [.submit "ssh-keygen", .submit "../..", .submit "", .submit "", .submit "mv .ssh ./old/../keys"]
    Addressed moved.registry moved.scene.vfs ["home", "alumno", "keys", "id_rsa"]
      (.file KeyPair.privateText) := by
  obtain ⟨terminal, accepted⟩ := exists_new_default (C := Empty)
  have opens : Opens Lesson.default terminal := ⟨terminal, accepted, .inl rfl⟩
  have held : (Terminal.new (C := Empty) Lesson.default).toOption.map (fun fresh => (fresh.after
      [.submit "ssh-keygen", .submit "../..", .submit "", .submit "", .submit "mv .ssh ./old/../keys"]
        ).scene.vfs.nodes[(["home", "alumno", "keys", "id_rsa"] : Path)]?) =
      some (some (.file KeyPair.privateText)) := by decide +kernel
  rw [accepted] at held
  exact ⟨terminal, opens, (nodes_stay_addressable opens default_keys_plain _ (Option.some.inj held)).2⟩

end Terminal
end LessonShell
