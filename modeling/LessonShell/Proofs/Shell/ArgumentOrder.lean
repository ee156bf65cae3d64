import LessonShell.Proofs.Shell.Operands

/-! The order of the arguments of a network command. Reading them keeps the first operand and the last
port, and stops at the first fault. An operand can therefore stand wherever it is not taken for the
value of a `-p`, and a port can follow its `-p` or be attached to it. -/
namespace LessonShell

/-- Arguments in which every `-p` that stands alone is followed by its value. -/
inductive PortsFilled : List String → Prop
  | nil : PortsFilled []
  | port (raw : String) {rest : List String} (others : PortsFilled rest) : PortsFilled ("-p" :: raw :: rest)
  | other {arg : String} {rest : List String} (other : arg ≠ "-p") (others : PortsFilled rest) :
    PortsFilled (arg :: rest)

/-- An argument that no line can have, with the error that it is answered with. -/
inductive RemoteArgument.Faulty (command : String) : RemoteArgument → Diagnostic → Prop
  | misspelled {raw : String} (unspelled : ¬ ∃ port, SpellsPort raw port) : Faulty command (.port raw) (.badPort raw)
  | missing : Faulty command .portMissing (.portMissing command)

namespace RemoteOperands

theorem readPort_eq_error_iff {raw : String} {cause : Diagnostic} :
    readPort raw = .error cause ↔ (¬ ∃ port, SpellsPort raw port) ∧ cause = .badPort raw := by
  cases read : readPort raw with
  | ok port =>
    refine iff_of_false nofun fun refused => refused.1 ⟨port, ?_⟩
    exact readPort_eq_ok_iff.mp read
  | error other =>
    have worded : other = .badPort raw := by
      unfold readPort at read
      extract_lets digits value at read
      split at read
      · cases read
      · exact (Except.error.inj read).symm
    have unspelled : ¬ ∃ port, SpellsPort raw port := by
      rintro ⟨port, spelled⟩
      rw [readPort_eq_ok_iff.mpr spelled] at read
      cases read
    rw [worded, Except.error.injEq]
    exact ⟨fun same => ⟨unspelled, same.symm⟩, fun refused => refused.2.symm⟩

end RemoteOperands

namespace RemoteArgument

theorem parts_pair (raw : String) (rest : List String) : parts ("-p" :: raw :: rest) = .port raw :: parts rest := by
  rw [parts, if_pos rfl]

theorem parts_attached {raw : String} (filled : raw ≠ "") (rest : List String) :
    parts (("-p" ++ raw) :: rest) = .port raw :: parts rest := by
  have other : "-p" ++ raw ≠ "-p" := by
    intro same
    apply filled
    simpa using congrArg String.toList same
  rw [parts_of_other other, ofText, Text.stripStart?_eq_some_iff.mpr rfl]

theorem parts_operand {text : String} (unflagged : Text.startsWith text "-" = false) (rest : List String) :
    parts (text :: rest) = .operand text :: parts rest := by
  have other : text ≠ "-p" := by
    rintro rfl
    exact absurd unflagged (by decide)
  rw [parts_of_other other, ofText_of_unflagged unflagged]

theorem parts_append {front : List String} (filled : PortsFilled front) (back : List String) :
    parts (front ++ back) = parts front ++ parts back := by
  induction filled with
  | nil => rfl
  | port raw others ih =>
    rw [parts_pair, List.cons_append, List.cons_append, parts_pair, ih, List.cons_append]
  | other other others ih =>
    rw [parts_of_other other, List.cons_append, parts_of_other other, ih, List.cons_append]

def refusal? {α : Type} : Except Diagnostic α → Option Diagnostic
  | .ok _ => none
  | .error cause => some cause

theorem refusal?_eq_some_iff {α : Type} {result : Except Diagnostic α} {cause : Diagnostic} :
    refusal? result = some cause ↔ result = .error cause := by
  cases result <;> simp [refusal?]

/-- The error that an argument is answered with, wherever it stands. -/
def fault? (command : String) : RemoteArgument → Option Diagnostic
  | .port raw => refusal? (RemoteOperands.readPort raw)
  | .portMissing => some (.portMissing command)
  | .flag _ => none
  | .operand _ => none

theorem fault?_eq_some_iff {command : String} {part : RemoteArgument} {cause : Diagnostic} :
    fault? command part = some cause ↔ Faulty command part cause := by
  cases part with
  | port raw =>
    rw [fault?, refusal?_eq_some_iff, RemoteOperands.readPort_eq_error_iff]
    constructor
    · rintro ⟨unspelled, rfl⟩
      exact .misspelled unspelled
    · intro faulty
      cases faulty with
      | misspelled unspelled => exact ⟨unspelled, rfl⟩
  | portMissing =>
    constructor
    · intro found
      cases found
      exact .missing
    · intro faulty
      cases faulty
      rfl
  | flag text => exact iff_of_false nofun nofun
  | operand text => exact iff_of_false nofun nofun

end RemoteArgument

namespace RemoteOperands
open RemoteArgument

theorem foldlM_add_eq_error_iff {command : String} {parts : List RemoteArgument} {found : RemoteOperands}
    {cause : Diagnostic} : parts.foldlM (add command) found = .error cause ↔
      parts.findSome? (fault? command) = some cause := by
  -- Whether an argument is a fault does not depend on what was found before it.
  induction parts generalizing found with
  | nil => exact iff_of_false nofun nofun
  | cons part rest ih =>
    cases part with
    | port raw =>
      rw [List.foldlM_cons, add, List.findSome?_cons, fault?]
      cases readPort raw with
      | ok port => exact ih
      | error other => simp [refusal?, Except.map, bind, Except.bind]
    | portMissing => simp [add, List.findSome?_cons, fault?, bind, Except.bind]
    | flag text => exact ih
    | operand text => exact ih

theorem read_eq_error_iff {command : String} {args : List String} {cause : Diagnostic} :
    read command args = .error cause ↔ (parts args).findSome? (fault? command) = some cause := by
  rw [read, readFrom_eq_foldlM, foldlM_add_eq_error_iff]

/-- One more operand counts if there is none before it. -/
theorem read_insert (command : String) {front : List String} (filled : PortsFilled front) (back : List String)
    {operand : String} (unflagged : Text.startsWith operand "-" = false) :
    read command (front ++ operand :: back) = (read command (front ++ back)).map fun found =>
      { found with target := ((parts front).findSome? operand?).or (some operand) } := by
  have longer : parts (front ++ operand :: back) = parts front ++ .operand operand :: parts back := by
    rw [parts_append filled, parts_operand unflagged]
  cases given : read command (front ++ back) with
  | error cause =>
    rw [read_eq_error_iff, parts_append filled, List.findSome?_append] at given
    change _ = Except.error cause
    rw [read_eq_error_iff, longer, List.findSome?_append, List.findSome?_cons, fault?]
    exact given
  | ok found =>
    obtain ⟨complete, ports, spelled, rfl⟩ := read_eq_ok_iff.mp given
    rw [parts_append filled] at complete spelled
    change _ = Except.ok _
    refine read_eq_ok_iff.mpr ⟨?_, ports, ?_, ?_⟩
    · simpa [longer] using complete
    · rw [longer, List.filterMap_append, List.filterMap_cons_none rfl]
      rwa [List.filterMap_append] at spelled
    · rw [longer, List.findSome?_append, List.findSome?_cons, operand?]

theorem read_pair (command : String) {front : List String} (filled : PortsFilled front) (back : List String)
    {raw : String} (valued : raw ≠ "") :
    read command (front ++ "-p" :: raw :: back) = read command (front ++ ("-p" ++ raw) :: back) := by
  rw [read, read, readFrom_eq_foldlM, readFrom_eq_foldlM, parts_append filled, parts_append filled,
    parts_pair, parts_attached valued]

theorem read_later_operand (command : String) {front : List String} (filled : PortsFilled front)
    (back : List String) {earlier operand : String} (first : .operand earlier ∈ parts front)
    (unflagged : Text.startsWith operand "-" = false) :
    read command (front ++ operand :: back) = read command (front ++ back) := by
  have taken : ((parts front).findSome? operand?).isSome = true :=
    List.findSome?_isSome_iff.mpr ⟨_, first, rfl⟩
  obtain ⟨kept, found⟩ := Option.isSome_iff_exists.mp taken
  rw [read_insert command filled back unflagged, found, Option.some_or]
  cases given : read command (front ++ back) with
  | error cause => rfl
  | ok operands =>
    obtain ⟨_, ports, _, rfl⟩ := read_eq_ok_iff.mp given
    rw [parts_append filled, List.findSome?_append, found]
    rfl

/-- A port is accepted exactly in the spellings that stand for a number from 1 to 65535. -/
theorem readPort_accepts_iff {raw : String} : (∃ port, readPort raw = .ok port) ↔
    ∃ digits : List Char, (raw = String.ofList digits ∨ raw = "+" ++ String.ofList digits) ∧
      digits ≠ [] ∧ (∀ c ∈ digits, c.isDigit = true) ∧
      1 ≤ Nat.ofDigitChars 10 digits 0 ∧ Nat.ofDigitChars 10 digits 0 ≤ 65535 := by
  constructor
  · rintro ⟨port, read⟩
    obtain ⟨digits, written, filled, decimal, value, positive⟩ := readPort_eq_ok_iff.mp read
    have bound : port.toNat < 65536 := port.toNat_lt
    have nonzero : port.toNat ≠ 0 := fun zero => positive (UInt16.toNat_inj.mp zero)
    refine ⟨digits, written, filled, decimal, ?_, ?_⟩ <;> omega
  · rintro ⟨digits, written, filled, decimal, positive, bounded⟩
    let port := UInt16.ofNat (Nat.ofDigitChars 10 digits 0)
    have value : port.toNat = Nat.ofDigitChars 10 digits 0 :=
      UInt16.toNat_ofNat_of_lt' (Nat.lt_of_le_of_lt bounded (by decide))
    refine ⟨port, readPort_eq_ok_iff.mpr ⟨digits, written, filled, decimal, value.symm, fun zero => ?_⟩⟩
    rw [zero] at value
    exact absurd (value ▸ positive) (by decide)

/-- The arguments are read alike wherever the operand stands, unless it is taken for the value of a `-p`,
and however a port is joined to its `-p`. Further operands do not count, a port is a number from 1 to
65535 in decimal digits, and the first argument that no line can have decides the error. -/
theorem read_in_any_order (command : String) {front : List String} (filled : PortsFilled front)
    (back : List String) :
    (∀ operand, Text.startsWith operand "-" = false → (∀ other, .operand other ∉ parts (front ++ back)) →
      read command (front ++ operand :: back) =
        (read command (front ++ back)).map fun found => ⟨some operand, found.port⟩) ∧
    (∀ found, read command (front ++ back) = .ok found → ∃ ports,
      List.Forall₂ SpellsPort ((parts (front ++ back)).filterMap port?) ports ∧
        found.port = ports.getLast?) ∧
    (∀ raw, raw ≠ "" →
      read command (front ++ "-p" :: raw :: back) = read command (front ++ ("-p" ++ raw) :: back)) ∧
    (∀ earlier later, .operand earlier ∈ parts front → Text.startsWith later "-" = false →
      read command (front ++ later :: back) = read command (front ++ back)) ∧
    (∀ raw, (∃ port, readPort raw = .ok port) ↔
      ∃ digits : List Char, (raw = String.ofList digits ∨ raw = "+" ++ String.ofList digits) ∧
        digits ≠ [] ∧ (∀ c ∈ digits, c.isDigit = true) ∧
        1 ≤ Nat.ofDigitChars 10 digits 0 ∧ Nat.ofDigitChars 10 digits 0 ≤ 65535) ∧
    ∀ cause, read command (front ++ back) = .error cause ↔
      ∃ early part late, parts (front ++ back) = early ++ part :: late ∧ Faulty command part cause ∧
        ∀ before ∈ early, ∀ other, ¬ Faulty command before other := by
  refine ⟨?_, ?_, ?_, ?_, fun raw => readPort_accepts_iff, ?_⟩
  · intro operand unflagged alone
    have none : (parts front).findSome? operand? = none := by
      rw [List.findSome?_eq_none_iff]
      intro part member
      cases part with
      | operand other =>
        refine absurd ?_ (alone other)
        rw [parts_append filled]
        exact List.mem_append_left _ member
      | _ => rfl
    rw [read_insert command filled back unflagged, none, Option.none_or]
  · intro found given
    obtain ⟨_, ports, spelled, rfl⟩ := read_eq_ok_iff.mp given
    exact ⟨ports, spelled, rfl⟩
  · intro raw valued
    exact read_pair command filled back valued
  · intro earlier later first unflagged
    exact read_later_operand command filled back first unflagged
  · intro cause
    have unfaulted (part : RemoteArgument) :
        fault? command part = none ↔ ∀ other, ¬ Faulty command part other := by
      simp only [Option.eq_none_iff_forall_ne_some, ne_eq, fault?_eq_some_iff]
    simp only [read_eq_error_iff, List.findSome?_eq_some_iff, fault?_eq_some_iff, unfaulted]

theorem read_with_an_operand_among_ports :
    let found : RemoteOperands := ⟨some "a@b", some 2222⟩
    read "ssh" ["-v", "-p", "22", "a@b", "-p+02222"] = .ok found ∧
    read "ssh" ["-v", "-p", "22", "a@b", "-p", "+02222"] = .ok found ∧
    read "ssh" ["-v", "-p", "22", "a@b", "c@d", "-p+02222"] = .ok found := by
  have filled : PortsFilled ["-v", "-p", "22"] := .other (by decide) (.port "22" .nil)
  have named : PortsFilled ["-v", "-p", "22", "a@b"] :=
    .other (by decide) (.port "22" (.other (by decide) .nil))
  have around : parts (["-v", "-p", "22"] ++ ["-p+02222"]) = [.flag "-v", .port "22", .port "+02222"] := by decide
  have alone (other : String) : .operand other ∉ parts (["-v", "-p", "22"] ++ ["-p+02222"]) := by
    rw [around]
    simp
  obtain ⟨placed, -⟩ := read_in_any_order "ssh" filled ["-p+02222"]
  obtain ⟨-, -, joined, -⟩ := read_in_any_order "ssh" named []
  obtain ⟨-, -, -, ignored, -⟩ := read_in_any_order "ssh" named ["-p+02222"]
  have first := placed "a@b" (by decide) alone
  have second := joined "+02222" (by decide)
  have third := ignored "a@b" "c@d" (by decide) (by decide)
  exact ⟨first, second.trans first, third.trans first⟩

end RemoteOperands
end LessonShell
