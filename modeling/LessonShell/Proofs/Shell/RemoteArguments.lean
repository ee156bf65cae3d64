import LessonShell.Proofs.Text.Pieces
import LessonShell.Shell.RemoteCommands
import Mathlib.Data.List.Forall2

/-! What the arguments of a network command say. A line is read if every port is spelled as one
and no `-p` at its end lacks one; the first operand and the last port count, and the operand
reaches the target if it is a user and the target's host around the only `@`. -/
namespace LessonShell

/-- An argument of a network command; a `-p` that stands alone is one with the text after it. -/
inductive RemoteArgument where
  | port (raw : String)
  | portMissing
  | flag (text : String)
  | operand (text : String)
  deriving DecidableEq

namespace RemoteArgument

/-- An argument other than a `-p` that stands alone. -/
def ofText (arg : String) : RemoteArgument :=
  match Text.stripStart? arg "-p" with
  | some raw => .port raw
  | none => if Text.startsWith arg "-" then .flag arg else .operand arg

/-- The arguments of a line, from the left. -/
def parts : List String → List RemoteArgument
  | [] => []
  | arg :: rest =>
    if arg = "-p" then match rest with
      | [] => [.portMissing]
      | raw :: others => .port raw :: parts others
    else ofText arg :: parts rest

def port? : RemoteArgument → Option String
  | .port raw => some raw
  | _ => none

def operand? : RemoteArgument → Option String
  | .operand text => some text
  | _ => none

theorem parts_of_other {arg : String} (other : arg ≠ "-p") (rest : List String) :
    parts (arg :: rest) = ofText arg :: parts rest := by
  rw [parts.eq_def]
  exact if_neg other

/-- What one more argument adds to what has been read. -/
def add (command : String) (found : RemoteOperands) : RemoteArgument → Except Diagnostic RemoteOperands
  | .port raw => (RemoteOperands.readPort raw).map fun port => { found with port := some port }
  | .portMissing => .error (.portMissing command)
  | .flag _ => .ok found
  | .operand text => .ok { found with target := found.target.or (some text) }

end RemoteArgument

/-- A port in decimal digits, with or without a plus sign before them. -/
def SpellsPort (raw : String) (port : UInt16) : Prop :=
  ∃ digits : List Char, (raw = String.ofList digits ∨ raw = "+" ++ String.ofList digits) ∧
    digits ≠ [] ∧ (∀ c ∈ digits, c.isDigit = true) ∧
    Nat.ofDigitChars 10 digits 0 = port.toNat ∧ port ≠ 0

/-- An operand that names a user and a host around its only `@`. -/
structure Identifies (operand user host : String) : Prop where
  spelled : operand = user ++ "@" ++ host
  userFilled : user ≠ ""
  hostFilled : host ≠ ""
  userUnmarked : '@' ∉ user.toList
  hostUnmarked : '@' ∉ host.toList

namespace RemoteOperands

theorem readPort_eq_ok_iff {raw : String} {port : UInt16} :
    readPort raw = .ok port ↔ SpellsPort raw port := by
  constructor
  · intro read
    unfold readPort at read
    extract_lets digits value at read
    split at read
    · next valid =>
      obtain ⟨filled, decimal, positive, bounded⟩ := valid
      obtain rfl := Except.ok.inj read
      have kept : (UInt16.ofNat value).toNat = value :=
        UInt16.toNat_ofNat_of_lt' (Nat.lt_of_le_of_lt bounded (by decide))
      refine ⟨digits, ?_, by simpa using filled, List.all_eq_true.mp decimal, kept.symm, fun zero => ?_⟩
      · cases signed : Text.stripStart? raw "+" with
        | none => exact .inl (by simp [digits, signed])
        | some rest => exact .inr (by simpa [digits, signed] using Text.stripStart?_eq_some_iff.mp signed)
      · rw [zero] at kept
        exact absurd (kept ▸ positive) (by decide)
    · cases read
  · rintro ⟨digits, written, filled, decimal, spelled, positive⟩
    have unsigned : Text.stripStart? (String.ofList digits) "+" = none := by
      rw [Option.eq_none_iff_forall_ne_some]
      intro rest signed
      have letters : digits = '+' :: rest.toList := by
        simpa using congrArg String.toList (Text.stripStart?_eq_some_iff.mp signed)
      exact absurd (decimal '+' (letters ▸ List.mem_cons_self)) (by decide)
    have kept : ((Text.stripStart? raw "+").getD raw).toList = digits := by
      rcases written with rfl | rfl
      · simp [unsigned]
      · simp [Text.stripStart?_eq_some_iff.mpr rfl]
    have bound : port.toNat < 65536 := port.toNat_lt
    have nonzero : port.toNat ≠ 0 := fun zero => positive (UInt16.toNat_inj.mp zero)
    rw [Nat.ofDigitChars_eq_foldl] at spelled
    simp only [readPort, kept, spelled]
    rw [if_pos, UInt16.ofNat_toNat]
    refine ⟨by simpa using filled, List.all_eq_true.mpr decimal, ?_, ?_⟩ <;> omega

theorem identity?_eq_some_iff {operand user host : String} :
    identity? operand = some (user, host) ↔ Identifies operand user host := by
  constructor
  · intro found
    unfold identity? at found
    split at found
    · next first second cut =>
      split at found
      · cases found
      · next filled =>
        rw [not_or] at filled
        obtain ⟨rfl, rfl⟩ := Prod.mk.inj (Option.some.inj found)
        obtain ⟨spelled, front, back⟩ := Text.splitOn_eq_pair_iff.mp cut
        exact ⟨spelled, filled.1, filled.2, front, back⟩
    · cases found
  · intro named
    have cut : Text.splitOn '@' operand = [user, host] :=
      Text.splitOn_eq_pair_iff.mpr ⟨named.spelled, named.userUnmarked, named.hostUnmarked⟩
    rw [identity?, cut]
    simp [named.userFilled, named.hostFilled]

theorem readFrom_eq_foldlM (command : String) (found : RemoteOperands) (args : List String) :
    readFrom command found args = (RemoteArgument.parts args).foldlM (RemoteArgument.add command) found := by
  fun_induction readFrom command found args with
  | case1 found => rfl
  | case2 found => rfl
  | case3 found raw others port given ih =>
    rw [ih, RemoteArgument.parts, if_pos rfl, List.foldlM_cons, RemoteArgument.add, given]
    rfl
  | case4 found raw others cause refused =>
    rw [RemoteArgument.parts, if_pos rfl, List.foldlM_cons, RemoteArgument.add, refused]
    rfl
  | case5 found arg rest other raw stripped port given ih =>
    rw [ih, RemoteArgument.parts_of_other other, RemoteArgument.ofText, stripped, List.foldlM_cons,
      RemoteArgument.add, given]
    rfl
  | case6 found arg rest other raw stripped cause refused =>
    rw [RemoteArgument.parts_of_other other, RemoteArgument.ofText, stripped, List.foldlM_cons,
      RemoteArgument.add, refused]
    rfl
  | case7 found arg rest other unstripped flagged ih =>
    rw [ih, RemoteArgument.parts_of_other other, RemoteArgument.ofText, unstripped]
    simp only [if_pos flagged]
    rfl
  | case8 found arg rest other unstripped plain ih =>
    rw [ih, RemoteArgument.parts_of_other other, RemoteArgument.ofText, unstripped]
    simp only [if_neg plain]
    rfl

theorem foldlM_add_eq_ok_iff {command : String} {parts : List RemoteArgument}
    {found result : RemoteOperands} :
    parts.foldlM (RemoteArgument.add command) found = .ok result ↔
      .portMissing ∉ parts ∧ ∃ ports,
        List.Forall₂ SpellsPort (parts.filterMap RemoteArgument.port?) ports ∧
          result = ⟨found.target.or (parts.findSome? RemoteArgument.operand?),
            ports.getLast?.or found.port⟩ := by
  -- What was found before stays the fallback, so the induction is over every `found`.
  induction parts generalizing found with
  | nil => simp [pure, Except.pure, eq_comm]
  | cons part rest ih =>
    cases part with
    | port raw =>
      rw [List.foldlM_cons, RemoteArgument.add]
      cases given : readPort raw with
      | error cause =>
        refine iff_of_false nofun ?_
        rintro ⟨_, ports, spelled, -⟩
        obtain ⟨port, _, first, _, -⟩ := List.forall₂_cons_left_iff.mp spelled
        rw [← readPort_eq_ok_iff, given] at first
        cases first
      | ok port =>
        refine Iff.trans ih (and_congr (by simp) ?_)
        have last (ports : List UInt16) :
            (port :: ports).getLast?.or found.port = ports.getLast?.or (some port) := by
          rw [List.getLast?_cons]
          cases ports.getLast? <;> rfl
        constructor
        · rintro ⟨ports, spelled, same⟩
          exact ⟨port :: ports, .cons (readPort_eq_ok_iff.mp given) spelled, by rw [last]; exact same⟩
        · rintro ⟨ports, spelled, same⟩
          obtain ⟨other, others, first, later, rfl⟩ := List.forall₂_cons_left_iff.mp spelled
          rw [← readPort_eq_ok_iff, given] at first
          obtain rfl := Except.ok.inj first
          rw [last] at same
          exact ⟨others, later, same⟩
    | portMissing =>
      refine iff_of_false nofun ?_
      rintro ⟨complete, -⟩
      exact complete List.mem_cons_self
    | flag text =>
      refine Iff.trans ih (and_congr ?_ Iff.rfl)
      simp
    | operand text =>
      have first : (found.target.or (some text)).or (rest.findSome? RemoteArgument.operand?) =
          found.target.or (some text) := by cases found.target <;> rfl
      refine Iff.trans ih (and_congr (by simp) ?_)
      rw [first]
      exact Iff.rfl

/-- The arguments are read unless a port is misspelled or missing; what counts of them is the first
operand and the last port. -/
theorem read_eq_ok_iff {command : String} {args : List String} {result : RemoteOperands} :
    read command args = .ok result ↔
      .portMissing ∉ RemoteArgument.parts args ∧ ∃ ports,
        List.Forall₂ SpellsPort ((RemoteArgument.parts args).filterMap RemoteArgument.port?) ports ∧
          result = ⟨(RemoteArgument.parts args).findSome? RemoteArgument.operand?, ports.getLast?⟩ := by
  rw [read, readFrom_eq_foldlM, foldlM_add_eq_ok_iff]
  simp only [Option.none_or, Option.or_none]

theorem reach_eq_ok_iff {target : Target} {operand user host : String} {port : Option UInt16} :
    reach target operand port = .ok (user, host) ↔
      Identifies operand user host ∧ host = target.host ∧ port.getD 22 = target.port := by
  rw [← identity?_eq_some_iff, reach]
  cases identity? operand with
  | none => simp
  | some named =>
    obtain ⟨first, second⟩ := named
    dsimp only
    split
    · next elsewhere =>
      refine iff_of_false nofun ?_
      rintro ⟨same, here, -⟩
      cases same
      exact elsewhere here
    · next here =>
      split
      · next closed => exact iff_of_false nofun fun both => closed both.2.2
      · next open_ =>
        rw [not_not] at here open_
        constructor
        · intro same
          cases same
          exact ⟨rfl, here, open_⟩
        · rintro ⟨same, -, -⟩
          cases same
          rfl

end RemoteOperands

/-- The arguments reach the target as this user of this host. -/
structure Target.Reached (target : Target) (args : List String) (user host : String) : Prop where
  complete : .portMissing ∉ RemoteArgument.parts args
  /-- Every port is spelled as one, and the last, or 22 where none is given, is the target's. -/
  ports : ∃ ports,
    List.Forall₂ SpellsPort ((RemoteArgument.parts args).filterMap RemoteArgument.port?) ports ∧
      ports.getLast?.getD 22 = target.port
  operand : ∃ operand, (RemoteArgument.parts args).findSome? RemoteArgument.operand? = some operand ∧
    Identifies operand user host
  here : host = target.host

theorem Target.reached_iff {target : Target} (command : String) {args : List String} {user host : String} :
    target.Reached args user host ↔ ∃ operands operand, RemoteOperands.read command args = .ok operands ∧
      operands.target = some operand ∧
      RemoteOperands.reach target operand operands.port = .ok (user, host) := by
  constructor
  · rintro ⟨complete, ⟨ports, spelled, last⟩, ⟨operand, first, named⟩, here⟩
    exact ⟨_, operand, RemoteOperands.read_eq_ok_iff.mpr ⟨complete, ports, spelled, rfl⟩, first,
      RemoteOperands.reach_eq_ok_iff.mpr ⟨named, here, last⟩⟩
  · rintro ⟨operands, operand, read, first, reached⟩
    obtain ⟨complete, ports, spelled, rfl⟩ := RemoteOperands.read_eq_ok_iff.mp read
    obtain ⟨named, here, last⟩ := RemoteOperands.reach_eq_ok_iff.mp reached
    exact ⟨complete, ⟨ports, spelled, last⟩, ⟨operand, first, named⟩, here⟩

end LessonShell
