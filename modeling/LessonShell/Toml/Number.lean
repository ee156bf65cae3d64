import LessonShell.Toml.Text

/-! Integers, floats, dates and times of TOML 1.0. -/
namespace LessonShell.Toml

/-- The digits at the front, with single underscores between them dropped. -/
def moreDigits (isDigit : Char → Bool) : Reader (List Char)
  | '_' :: d :: rest =>
    if isDigit d then (moreDigits isDigit rest).map fun (digits, rest) => (d :: digits, rest) else none
  | c :: rest =>
    if isDigit c then (moreDigits isDigit rest).map fun (digits, rest) => (c :: digits, rest)
    else if c = '_' then none
    else some ([], c :: rest)
  | [] => some ([], [])

def someDigits (isDigit : Char → Bool) : Reader (List Char)
  | c :: rest =>
    if isDigit c then (moreDigits isDigit rest).map fun (digits, rest) => (c :: digits, rest) else none
  | [] => none

/-- Whether a minus sign stands in front; either sign is skipped. -/
def sign : List Char → Bool × List Char
  | '-' :: rest => (true, rest)
  | '+' :: rest => (false, rest)
  | input => (false, input)

/-- Decimal digits of which only a lone zero begins with zero. -/
def wholeDigits : Reader (List Char)
  | '0' :: rest => some (['0'], rest)
  | input => someDigits Char.isDigit input

def signed (negative : Bool) (magnitude : Nat) : Int := if negative then -magnitude else magnitude

def basedInteger (base : Nat) (isDigit : Char → Bool) (input : List Char) :
    Option (Int × List Char) := do
  let (digits, rest) ← someDigits isDigit input
  return (digitsValue base digits, rest)

/-- An integer of 64 bits in base ten, or without a sign in base 16, 8 or 2. -/
def integer (input : List Char) : Option (Int × List Char) := do
  let (value, rest) ← match input with
    | '0' :: 'x' :: rest => basedInteger 16 isHexDigit rest
    | '0' :: 'o' :: rest => basedInteger 8 (fun c => '0' ≤ c && c ≤ '7') rest
    | '0' :: 'b' :: rest => basedInteger 2 (fun c => c = '0' || c = '1') rest
    | _ => do
      let (negative, rest) := sign input
      let (digits, rest) ← wholeDigits rest
      pure (signed negative (digitsValue 10 digits), rest)
  if -9223372036854775808 ≤ value ∧ value ≤ 9223372036854775807 then some (value, rest) else none

def exponent (input : List Char) : Option (Int × List Char) := do
  let (negative, rest) := sign input
  let (digits, rest) ← someDigits Char.isDigit rest
  return (signed negative (digitsValue 10 digits), rest)

/-- Whether `mantissa · 10 ^ power` rounds to infinity as a binary float of 64 bits. -/
def overflows (mantissa : Nat) (power : Int) : Bool :=
  let bound := Nat.pow 2 1024 - Nat.pow 2 970
  let size : Int := (Nat.toDigits 10 mantissa).length + power
  if mantissa = 0 ∨ size < 309 then false
  else if 309 < size then true
  else if 0 ≤ power then bound ≤ mantissa * Nat.pow 10 power.toNat
  else bound * Nat.pow 10 (-power).toNat ≤ mantissa

/-- An optional exponent; it must be whole once its letter is there. -/
def optionalExponent : Reader Int
  | 'e' :: rest => exponent rest
  | 'E' :: rest => exponent rest
  | input => some (0, input)

/-- A number with a fraction, an exponent or both, and not too large to be finite. -/
def decimal (input : List Char) : Option (Unit × List Char) := do
  let (negative, rest) := sign input
  let (whole, rest) ← wholeDigits rest
  let (fraction, rest) ← match rest with
    | '.' :: rest => someDigits Char.isDigit rest
    | 'e' :: _ => some ([], rest)
    | 'E' :: _ => some ([], rest)
    | _ => none
  let (power, rest) ← optionalExponent rest
  let mantissa := digitsValue 10 (whole ++ fraction)
  if ¬ negative ∧ overflows mantissa (power - fraction.length) then none else some ((), rest)

/-- Infinity or not a number, with an optional sign. -/
def nonFinite (input : List Char) : Option (Unit × List Char) :=
  match (sign input).2 with
  | 'i' :: 'n' :: 'f' :: rest => some ((), rest)
  | 'n' :: 'a' :: 'n' :: rest => some ((), rest)
  | _ => none

/-- Exactly `count` decimal digits with a value within the bounds. -/
def fixedDigits (count low high : Nat) (input : List Char) : Option (Nat × List Char) :=
  let digits := input.take count
  let value := digitsValue 10 digits
  if digits.length = count ∧ digits.all Char.isDigit ∧ low ≤ value ∧ value ≤ high then
    some (value, input.drop count)
  else none

def expect (mark : Char) : List Char → Option (List Char)
  | c :: rest => if c = mark then some rest else none
  | [] => none

def daysIn (year month : Nat) : Nat :=
  if month = 2 then
    if year % 4 = 0 ∧ (year % 100 ≠ 0 ∨ year % 400 = 0) then 29 else 28
  else if month ∈ [4, 6, 9, 11] then 30
  else 31

def date (input : List Char) : Option (List Char) := do
  let (year, rest) ← fixedDigits 4 0 9999 input
  let (month, rest) ← fixedDigits 2 1 12 (← expect '-' rest)
  let (_, rest) ← fixedDigits 2 1 (daysIn year month) (← expect '-' rest)
  return rest

/-- A time of day; sixty seconds are allowed, and any number of places after them. -/
def time (input : List Char) : Option (List Char) := do
  let (_, rest) ← fixedDigits 2 0 23 input
  let (_, rest) ← fixedDigits 2 0 59 (← expect ':' rest)
  let (_, rest) ← fixedDigits 2 0 60 (← expect ':' rest)
  match rest with
  | '.' :: d :: more => if d.isDigit then return more.dropWhile Char.isDigit else return rest
  | _ => return rest

/-- The distance of a time from universal time. -/
def offset (input : List Char) : Option (List Char) := do
  match input with
  | 'Z' :: rest => return rest
  | 'z' :: rest => return rest
  | c :: rest =>
    if c ≠ '+' ∧ c ≠ '-' then none
    let (_, rest) ← fixedDigits 2 0 23 rest
    let (_, rest) ← fixedDigits 2 0 59 (← expect ':' rest)
    return rest
  | [] => none

/-- A date, a time, or a date with a time that may have an offset. -/
def moment (input : List Char) : Option (Unit × List Char) :=
  match date input with
  | none => (time input).map ((), ·)
  | some rest =>
    let dayOnly := some ((), rest)
    match rest with
    | c :: after =>
      if c = 'T' ∨ c = 't' ∨ c = ' ' then match time after with
        | some rest => some ((), (offset rest).getD rest)
        | none => dayOnly
      else dayOnly
    | [] => dayOnly

end LessonShell.Toml
