import LessonShell.Proofs.Spelling
import LessonShell.Proofs.Vfs.Requests
import LessonShell.Proofs.Vfs.Writing

/-! Requests that put one node at a path. Where nothing exists they all do the same, with a node
and an answer of their own; they differ in what they do about a node that is there already. -/
namespace LessonShell

inductive Creation where
  | mkdir
  | ensureDir
  | touch
  | write (content : String)
  deriving DecidableEq

namespace Creation

def request (creation : Creation) (text : String) : FileRequest :=
  match creation with
  | mkdir => .mkdir text
  | ensureDir => .ensureDir text
  | touch => .touch text
  | write content => .write text content

/-- The node that is made where nothing exists. -/
def node : Creation → Node
  | mkdir => .emptyDir
  | ensureDir => .emptyDir
  | touch => .file ""
  | write content => .file content

/-- The answer to a request that made its node; only `mkdir` has no other way to succeed. -/
def answer : Creation → FileAnswer
  | mkdir => .nothing
  | _ => .flag true

/-- A node exists at the path, and the request puts up with it. -/
def Accepts (creation : Creation) (vfs : Vfs) (path : Path) : Prop :=
  match creation with
  | mkdir => False
  | ensureDir => vfs.IsDirectory path
  | touch => path ∈ vfs.nodes
  | write _ => ∃ old, vfs.nodes[path]? = some (.file old)

/-- What a request can come to, with its answer and the files it leaves: a new node that ends the
list of its directory, another content of an existing file, or no change at all. -/
inductive Outcome (creation : Creation) (vfs : Vfs) (path : Path) :
    Except Failure FileAnswer → Vfs → Prop
  | added {after : Vfs} (change : Vfs.Added vfs path creation.node after)
    (unlisted : ∀ names, vfs.nodes[path.parent]? = some (.dir names) → path.name ∉ names) :
    Outcome creation vfs path (.ok creation.answer) after
  | overwritten {content : String} {after : Vfs} (writes : creation = .write content)
    (change : Vfs.Overwritten vfs path content after) :
    Outcome creation vfs path (.ok (.flag false)) after
  | kept (accepted : creation.Accepts vfs path) (idle : ∀ content, creation ≠ .write content) :
    Outcome creation vfs path (.ok (.flag false)) vfs
  | refused (fault : Vfs.Fault) (unaccepted : ¬ creation.Accepts vfs path)
    (hindered : path ∈ vfs.nodes ∨ ¬ vfs.IsDirectory path.parent) :
    Outcome creation vfs path (.error (.vfs fault)) vfs

variable {creation : Creation} {vfs after : Vfs} {path : Path} {text : String}
  {result : Except Failure FileAnswer}

theorem Accepts.mem (accepted : creation.Accepts vfs path) : path ∈ vfs.nodes := by
  cases creation with
  | mkdir => exact accepted.elim
  | ensureDir => exact Vfs.IsDirectory.mem accepted
  | touch => exact accepted
  | write content =>
    obtain ⟨old, file⟩ := accepted
    exact Vfs.mem_nodes_iff.mpr ⟨_, file⟩

theorem node_childless (creation : Creation) (names : List String) (dir : creation.node = .dir names) :
    names = [] := by
  cases creation with
  | mkdir => exact (Node.dir.inj dir).symm
  | ensureDir => exact (Node.dir.inj dir).symm
  | touch => cases dir
  | write content => cases dir

private theorem settle_create {path : Path} {node : Node} :
    FileRequest.settle .flag (vfs.create path node) =
      FileRequest.settle (fun _ => .flag true) (vfs.insertNew path node) := by
  rw [Vfs.create]
  rcases vfs.insertNew path node with ⟨fault | ⟨⟩, after⟩ <;> rfl

theorem perform_absent (absent : vfs.nodes[Path.ofText text]? = none) :
    (creation.request text).perform vfs = FileRequest.settle (fun _ => creation.answer)
      (vfs.insertNew (Path.ofText text) creation.node) := by
  cases creation with
  | mkdir => simp only [request, FileRequest.perform, Vfs.mkdir, absent, answer, node]
  | ensureDir => simp only [request, FileRequest.perform, Vfs.ensureDir, absent, settle_create, answer, node]
  | touch => simp only [request, FileRequest.perform, Vfs.touch, absent, settle_create, answer, node]
  | write content => simp only [request, FileRequest.perform, Vfs.write, absent, settle_create, answer, node]

theorem outcome_absent (consistent : vfs.Consistent) (absent : vfs.nodes[Path.ofText text]? = none) :
    creation.Outcome vfs (Path.ofText text) ((creation.request text).perform vfs).1
      ((creation.request text).perform vfs).2 := by
  have free := Vfs.not_mem_nodes_iff.mpr absent
  rw [perform_absent absent]
  rcases done : vfs.insertNew (Path.ofText text) creation.node with ⟨fault | ⟨⟩, grown⟩
  · obtain rfl := Vfs.insertNew_refused done
    refine .refused fault (fun accepted => free accepted.mem) (.inr fun above => ?_)
    obtain ⟨after, made⟩ := Vfs.exists_insertNew_iff.mpr above
    cases done.symm.trans made
  · have change := Vfs.insertNew_added consistent free creation.node_childless done
    exact .added change fun names above => change.unlisted consistent above

theorem outcome_present {found : Node} (present : vfs.nodes[Path.ofText text]? = some found) :
    creation.Outcome vfs (Path.ofText text) ((creation.request text).perform vfs).1
      ((creation.request text).perform vfs).2 := by
  have member : Path.ofText text ∈ vfs.nodes := Vfs.mem_nodes_iff.mpr ⟨found, present⟩
  cases creation with
  | mkdir =>
    simp only [request, FileRequest.perform, Vfs.mkdir, present]
    exact .refused _ id (.inl member)
  | ensureDir =>
    simp only [request, FileRequest.perform, Vfs.ensureDir, present]
    cases found with
    | dir names => exact .kept ⟨names, present⟩ (by simp)
    | file content =>
      refine .refused _ ?_ (.inl member)
      rintro ⟨names, listed⟩
      cases present.symm.trans listed
  | touch =>
    simp only [request, FileRequest.perform, Vfs.touch, present]
    exact .kept member (by simp)
  | write content =>
    simp only [request, FileRequest.perform, Vfs.write, present]
    cases found with
    | dir names =>
      refine .refused _ ?_ (.inl member)
      rintro ⟨old, file⟩
      cases present.symm.trans file
    | file old => exact .overwritten rfl (Vfs.overwritten_insert present content)

theorem Outcome.grows_iff (outcome : creation.Outcome vfs path result after) :
    (∃ other ∈ after.nodes, other ∉ vfs.nodes) ↔
      path ∉ vfs.nodes ∧ vfs.IsDirectory path.parent := by
  cases outcome with
  | added change unlisted =>
    obtain ⟨names, above, _⟩ := change.lookup
    exact iff_of_true ⟨path, change.mem_iff.mpr (.inl rfl), change.absent⟩ ⟨change.absent, names, above⟩
  | overwritten writes change =>
    obtain ⟨old, file⟩ := change.file
    refine iff_of_false ?_ fun free => free.1 (Vfs.mem_nodes_iff.mpr ⟨_, file⟩)
    rintro ⟨other, new, fresh⟩
    exact fresh (change.mem_iff.mp new)
  | kept accepted idle => exact iff_of_false (fun ⟨_, new, fresh⟩ => fresh new) fun free => free.1 accepted.mem
  | refused fault unaccepted hindered =>
    refine iff_of_false (fun ⟨_, new, fresh⟩ => fresh new) fun free => ?_
    rcases hindered with there | rootless
    · exact free.1 there
    · exact rootless free.2

theorem Outcome.written {content : String} {answer : FileAnswer}
    (outcome : Outcome (.write content) vfs path (.ok answer) after) :
    after.nodes[path]? = some (.file content) := by
  cases outcome with
  | added change unlisted =>
    obtain ⟨names, _, lookup⟩ := change.lookup
    rw [lookup, if_pos rfl]
    rfl
  | overwritten writes change =>
    rw [change.lookup, if_pos rfl, Creation.write.inj writes]
  | kept accepted idle => exact absurd rfl (idle content)

end Creation

namespace FileRequest

/-- A request that puts a node at a path adds that node alone and ends the list of its directory with
its name, or gives an existing file another content, or changes nothing. A node is added exactly
where nothing exists in an existing directory; what was written is read under every spelling. -/
theorem creation_outcome {vfs : Vfs} (audited : vfs.breach? = none) (creation : Creation) (text : String) :
    let path := Path.ofText text
    let done := (creation.request text).perform vfs
    creation.Outcome vfs path done.1 done.2 ∧
    ((∃ other ∈ done.2.nodes, other ∉ vfs.nodes) ↔
      path ∉ vfs.nodes ∧ vfs.IsDirectory path.parent) ∧
    ∀ content, creation = .write content → ∀ answer, done.1 = .ok answer →
      ∀ spelling, PathText.normalize spelling = PathText.normalize text →
        done.2.read spelling = .ok content := by
  intro path done
  have consistent := Vfs.breach?_eq_none_iff.mp audited
  have outcome : creation.Outcome vfs path done.1 done.2 := by
    cases held : vfs.nodes[path]? with
    | none => exact Creation.outcome_absent consistent held
    | some found => exact Creation.outcome_present held
  refine ⟨outcome, outcome.grows_iff, ?_⟩
  rintro content rfl answer succeeded spelling same
  rw [succeeded] at outcome
  rw [Vfs.read_eq_ok_iff, PathText.normalize_eq_iff.mp same]
  exact outcome.written

theorem creation_in_a_new_directory :
    let vfs := performAll Vfs.empty [.mkdir "/a", .write "/a/f" "old"]
    let grown := (perform vfs (.write "//a/g/" "new")).2
    let rewritten := (perform vfs (.write "a//f" "new")).2
    vfs.breach? = none ∧
      (∃ other ∈ grown.nodes, other ∉ vfs.nodes) ∧ grown.read "/a//g" = .ok "new" ∧
      (¬ ∃ other ∈ rewritten.nodes, other ∉ vfs.nodes) ∧ rewritten.read "/a/f/" = .ok "new" := by
  intro vfs grown rewritten
  have audited : vfs.breach? = none := by decide +kernel
  have directory : vfs.IsDirectory ["a"] := Vfs.isDir_iff.mp (by decide +kernel : vfs.isDir "/a" = true)
  obtain ⟨_, grows, reads⟩ := creation_outcome audited (.write "new") "//a/g/"
  obtain ⟨_, stays, rereads⟩ := creation_outcome audited (.write "new") "a//f"
  refine ⟨audited, grows.mpr ⟨by decide +kernel, directory⟩, ?_, fun new => ?_, ?_⟩
  · exact reads "new" rfl (.flag true) (by decide +kernel) "/a//g" (by decide +kernel)
  · exact (stays.mp new).1 (by decide +kernel)
  · exact rereads "new" rfl (.flag false) (by decide +kernel) "/a/f/" (by decide +kernel)

end FileRequest
end LessonShell
