import LessonShell.Proofs.Shell.RemoteArguments
import LessonShell.Proofs.Text.Words

/-! Operands of the network commands. A login that a line can name is spelled as one word, and
reading that word gives the login back; whatever login is read from a line can be named. -/
namespace LessonShell

namespace Text

theorem startsWith_dash_append {text : String} (filled : text ≠ "") (rest : String) :
    startsWith (text ++ rest) "-" = startsWith text "-" := by
  have letters : text.toList ≠ [] := by simpa using filled
  obtain ⟨first, others, spelled⟩ := List.exists_cons_of_ne_nil letters
  rw [startsWith, startsWith, String.toList_append, spelled]
  rfl

theorem stripStart?_dashed {text : String} (unflagged : startsWith text "-" = false) (option : String) :
    stripStart? text ("-" ++ option) = none := by
  rw [stripStart?, if_neg]
  intro begins
  obtain ⟨rest, rfl⟩ := startsWith_iff.mp begins
  have dashed : startsWith ("-" ++ option ++ rest) "-" = true :=
    startsWith_append (startsWith_iff.mpr ⟨option, rfl⟩) rest
  rw [unflagged] at dashed
  cases dashed

end Text

/-- A user and a host that a line can name in one operand, which is not taken for a flag. -/
structure Nameable (user host : String) : Prop where
  userWord : Text.IsWord user
  hostWord : Text.IsWord host
  userUnmarked : '@' ∉ user.toList
  hostUnmarked : '@' ∉ host.toList
  unflagged : Text.startsWith user "-" = false

/-- The arguments that name a user of the target together with its port. -/
def Target.operandsFor (target : Target) (user : String) : List String :=
  ["-p", Nat.repr target.port.toNat, user ++ "@" ++ target.host]

theorem Text.isBlank_of_isDigit {c : Char} (digit : c.isDigit = true) : isBlank c = false := by
  have range : 48 ≤ c.toNat ∧ c.toNat ≤ 57 := Char.isDigit_iff_toNat.mp digit
  simp only [isBlank, Bool.or_eq_false_iff, Bool.and_eq_false_iff, decide_eq_false_iff_not, beq_eq_false_iff_ne]
  omega

theorem Target.operandsFor_words {target : Target} {user : String} (named : Nameable user target.host) :
    ∀ arg ∈ target.operandsFor user, Text.IsWord arg := by
  have port : Text.IsWord (Nat.repr target.port.toNat) := by
    refine ⟨Nat.repr_ne_empty, fun c member => ?_⟩
    rw [Nat.toList_repr] at member
    exact Text.isBlank_of_isDigit (Nat.isDigit_of_mem_toDigits (by decide) (by decide) member)
  have operand : Text.IsWord (user ++ "@" ++ target.host) := by
    refine ⟨fun empty => named.userWord.1 (by simpa using congrArg String.toList empty), fun c member => ?_⟩
    rw [String.toList_append, String.toList_append, List.mem_append, List.mem_append] at member
    rcases member with (inUser | mark) | inHost
    · exact named.userWord.2 c inUser
    · obtain rfl : c = '@' := by simpa using mark
      decide
    · exact named.hostWord.2 c inHost
  intro arg member
  simp only [operandsFor, List.mem_cons, List.not_mem_nil, or_false] at member
  rcases member with rfl | rfl | rfl
  · decide
  · exact port
  · exact operand

theorem Nameable.identifies {user host : String} (named : Nameable user host) :
    Identifies (user ++ "@" ++ host) user host :=
  ⟨rfl, named.userWord.1, named.hostWord.1, named.userUnmarked, named.hostUnmarked⟩

theorem Identifies.nameable {operand user host : String} (identifies : Identifies operand user host)
    (word : Text.IsWord operand) (unflagged : Text.startsWith operand "-" = false) :
    Nameable user host := by
  obtain ⟨rfl, userFilled, hostFilled, userUnmarked, hostUnmarked⟩ := identifies
  refine ⟨⟨userFilled, fun c member => word.2 c ?_⟩, ⟨hostFilled, fun c member => word.2 c ?_⟩,
    userUnmarked, hostUnmarked, ?_⟩
  · simp [member]
  · simp [member]
  · rw [← Text.startsWith_dash_append userFilled ("@" ++ host), ← String.append_assoc]
    exact unflagged

theorem spellsPort_repr {port : UInt16} (positive : port ≠ 0) : SpellsPort (Nat.repr port.toNat) port :=
  ⟨Nat.toDigits 10 port.toNat, .inl rfl, Nat.toDigits_ne_nil,
    fun _ member => Nat.isDigit_of_mem_toDigits (by decide) (by decide) member,
    Nat.ofDigitChars_ten_toDigits, positive⟩

namespace RemoteArgument

theorem ofText_of_unflagged {text : String} (unflagged : Text.startsWith text "-" = false) :
    ofText text = .operand text := by
  have unstripped : Text.stripStart? text "-p" = none := Text.stripStart?_dashed unflagged "p"
  rw [ofText, unstripped]
  simp [unflagged]

theorem mem_of_operand {args : List String} {text : String} (member : .operand text ∈ parts args) :
    text ∈ args ∧ Text.startsWith text "-" = false := by
  fun_induction parts args with
  | case1 => cases member
  | case2 => simp at member
  | case3 raw others ih =>
    obtain ⟨later, unflagged⟩ := ih ((List.mem_cons.mp member).resolve_left nofun)
    exact ⟨List.mem_cons_of_mem _ (List.mem_cons_of_mem _ later), unflagged⟩
  | case4 arg rest other ih =>
    rcases List.mem_cons.mp member with here | later
    · unfold ofText at here
      split at here
      · cases here
      · split at here
        · cases here
        · next plain =>
          cases here
          exact ⟨List.mem_cons_self, by simpa using plain⟩
    · exact ⟨List.mem_cons_of_mem _ (ih later).1, (ih later).2⟩

end RemoteArgument

namespace RemoteOperands

theorem read_operandsFor (command : String) {target : Target} (positive : target.port ≠ 0) {user : String}
    (named : Nameable user target.host) : read command (target.operandsFor user) =
      .ok ⟨some (user ++ "@" ++ target.host), some target.port⟩ := by
  have unflagged : Text.startsWith (user ++ "@" ++ target.host) "-" = false := by
    rw [String.append_assoc, Text.startsWith_dash_append named.userWord.1]
    exact named.unflagged
  have other : user ++ "@" ++ target.host ≠ "-p" := by
    intro same
    rw [same] at unflagged
    exact absurd unflagged (by decide)
  have parts : RemoteArgument.parts (target.operandsFor user) =
      [.port (Nat.repr target.port.toNat), .operand (user ++ "@" ++ target.host)] := by
    rw [← RemoteArgument.ofText_of_unflagged unflagged]
    exact congrArg _ (RemoteArgument.parts_of_other other [])
  rw [read_eq_ok_iff, parts]
  exact ⟨by simp, [target.port], .cons (spellsPort_repr positive) .nil, rfl⟩

theorem reach_operandsFor {target : Target} {user : String} (named : Nameable user target.host) :
    reach target (user ++ "@" ++ target.host) (some target.port) = .ok (user, target.host) :=
  reach_eq_ok_iff.mpr ⟨named.identifies, rfl, rfl⟩

theorem operand_of_read {command : String} {args : List String} {operands : RemoteOperands}
    {operand : String} (read : read command args = .ok operands) (target : operands.target = some operand) :
    operand ∈ args ∧ Text.startsWith operand "-" = false := by
  obtain ⟨_, _, _, rfl⟩ := read_eq_ok_iff.mp read
  obtain ⟨part, member, found⟩ := List.exists_of_findSome?_eq_some target
  cases part with
  | operand text =>
    cases found
    exact RemoteArgument.mem_of_operand member
  | _ => cases found

end RemoteOperands
end LessonShell
