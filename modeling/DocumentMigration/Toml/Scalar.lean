import DocumentMigration.Json.Object
import DocumentMigration.Text.Blank

/-!
TOML values without parts: booleans, numbers, dates and times. Each is read from the whole run of
characters that could belong to it. Infinities and not-a-number have no JSON form and read as
null; a date or time reads as an object that holds its text.
-/
namespace DocumentMigration.Toml

open Json

/-- Digits of a class with single underscores between them; the answer has no underscores. -/
def separated? (isDigit : Char → Bool) : List Char → Option (List Char)
  | [c] => if isDigit c then some [c] else none
  | c :: '_' :: rest => if isDigit c then (separated? isDigit rest).map (c :: ·) else none
  | c :: rest => if isDigit c then (separated? isDigit rest).map (c :: ·) else none
  | [] => none

def sign : List Char → Bool × List Char
  | '-' :: rest => (true, rest)
  | '+' :: rest => (false, rest)
  | rest => (false, rest)

/-- Decimal digits that do not begin with a zero, or the zero itself. -/
def decimalDigits? (cs : List Char) : Option (List Char) :=
  match cs with
  | ['0'] => some ['0']
  | '0' :: _ => none
  | _ => separated? Char.isDigit cs

def integerValue? (i : Int) : Option Value :=
  if h : -2 ^ (63 : Nat) ≤ i ∧ i < 2 ^ (63 : Nat) then
    some (.number (.integer i (by omega)))
  else none

def decimalInteger? (token : List Char) : Option Value := do
  let (negative, rest) := sign token
  let n := Number.digitsValue (← decimalDigits? rest)
  integerValue? (if negative then -(n : Int) else n)

def digitValue (c : Char) : Nat :=
  if c.isDigit then c.toNat - '0'.toNat else c.toLower.toNat - 'a'.toNat + 10

def radixInteger? (radix : Nat) (digits : List Char) : Option Value := do
  let isDigit (c : Char) : Bool := (c.isDigit || c.isAlpha) && digitValue c < radix
  let digits ← separated? isDigit digits
  integerValue? (digits.foldl (fun n c => radix * n + digitValue c) 0 : Nat)

def exponent? (cs : List Char) : Option Int := do
  let (negative, rest) := sign cs
  let n := Number.digitsValue (← separated? Char.isDigit rest)
  return if negative then -(n : Int) else n

/-- A whole part and a fraction, an exponent, or both. A number below all floats is the negative
infinity, and one above them all is no float. -/
def float? (token : List Char) : Option Value := do
  let (negative, rest) := sign token
  let (mantissa, power) := rest.span fun c => c ≠ 'e' && c ≠ 'E'
  let (whole, fraction) := mantissa.span (· ≠ '.')
  if fraction.isEmpty && power.isEmpty then none
  let whole ← decimalDigits? whole
  let fraction ← if fraction.isEmpty then some [] else separated? Char.isDigit (fraction.drop 1)
  let exponent ← if power.isEmpty then some 0 else exponent? (power.drop 1)
  match Binary64.ofDecimal negative (Number.digitsValue (whole ++ fraction))
    (exponent - fraction.length) with
  | some x => return .number (.float x)
  | none => if negative then return .null else none

/-! Dates and times. -/

/-- A number of exactly `width` digits within bounds. -/
def field? (width low high : Nat) (cs : List Char) : Option (Nat × List Char) :=
  let digits := cs.take width
  let n := Number.digitsValue digits
  if digits.length = width ∧ digits.all Char.isDigit ∧ low ≤ n ∧ n ≤ high then
    some (n, cs.drop width)
  else none

def isLeap (year : Nat) : Bool := year % 4 = 0 && (year % 100 ≠ 0 || year % 400 = 0)

def daysInMonth (year month : Nat) : Nat :=
  if month = 2 then (if isLeap year then 29 else 28)
  else if month = 4 ∨ month = 6 ∨ month = 9 ∨ month = 11 then 30 else 31

def mark? (c : Char) : List Char → Option (List Char)
  | d :: rest => if c = d then some rest else none
  | [] => none

def two (n : Nat) : String := Text.padded 2 n

def date? (cs : List Char) : Option (String × List Char) := do
  let (year, rest) ← field? 4 0 9999 cs
  let (month, rest) ← field? 2 1 12 (← mark? '-' rest)
  let (day, rest) ← field? 2 1 (daysInMonth year month) (← mark? '-' rest)
  return (Text.padded 4 year ++ "-" ++ two month ++ "-" ++ two day, rest)

/-- A fraction of a second to nine places, without the zeros at its end. -/
def fraction? : List Char → Option (String × List Char)
  | '.' :: rest =>
    let (digits, rest) := rest.span Char.isDigit
    if digits.isEmpty then none else
      let kept := ((digits.take 9).reverse.dropWhile (· = '0')).reverse
      some (if kept.isEmpty then "" else "." ++ String.ofList kept, rest)
  | rest => some ("", rest)

def time? (cs : List Char) : Option (String × List Char) := do
  let (hour, rest) ← field? 2 0 23 cs
  let (minute, rest) ← field? 2 0 59 (← mark? ':' rest)
  let (second, rest) ← field? 2 0 60 (← mark? ':' rest)
  let (fraction, rest) ← fraction? rest
  return (two hour ++ ":" ++ two minute ++ ":" ++ two second ++ fraction, rest)

/-- An offset from universal time; nothing at all is a local time. -/
def offset? : List Char → Option String
  | [] => some ""
  | ['Z'] | ['z'] => some "Z"
  | c :: rest => do
    if c ≠ '+' ∧ c ≠ '-' then none
    let (hour, rest) ← field? 2 0 23 rest
    let (minute, rest) ← field? 2 0 59 (← mark? ':' rest)
    if !rest.isEmpty then none
    let mark := if c = '-' ∧ hour + minute ≠ 0 then "-" else "+"
    return mark ++ two hour ++ ":" ++ two minute

/-- The text of a date, a time, or both with a `T` between them. -/
def dateTime? (token : List Char) : Option String :=
  match date? token with
  | some (date, []) => some date
  | some (date, mark :: rest) => do
    if mark ≠ 'T' ∧ mark ≠ 't' ∧ mark ≠ ' ' then none
    let (time, rest) ← time? rest
    return date ++ "T" ++ time ++ (← offset? rest)
  | none =>
    match time? token with
    | some (time, []) => some time
    | _ => none

def dateTimeValue (text : String) : Value :=
  .object [("$__toml_private_datetime", .string text)]

def special? (token : List Char) : Option Value :=
  match (sign token).2 with
  | ['i', 'n', 'f'] | ['n', 'a', 'n'] => some .null
  | _ => none

def scalar? (token : List Char) : Option Value :=
  match token with
  | ['t', 'r', 'u', 'e'] => some (.bool true)
  | ['f', 'a', 'l', 's', 'e'] => some (.bool false)
  | '0' :: 'x' :: digits => radixInteger? 16 digits
  | '0' :: 'o' :: digits => radixInteger? 8 digits
  | '0' :: 'b' :: digits => radixInteger? 2 digits
  | _ => (decimalInteger? token).or <| (float? token).or <| (special? token).or <|
      (dateTime? token).map dateTimeValue

def isScalarChar (c : Char) : Bool :=
  c.isAlphanum || c = '+' || c = '-' || c = '_' || c = '.' || c = ':'

/-- A date may go on with a time after a single space. -/
def scalarToken (cs : List Char) : List Char × List Char :=
  let (token, rest) := cs.span isScalarChar
  match (date? token), rest with
  | some (_, []), ' ' :: a :: more =>
    if a.isDigit then
      let (time, rest) := (a :: more).span isScalarChar
      (token ++ ' ' :: time, rest)
    else (token, rest)
  | _, _ => (token, rest)

end DocumentMigration.Toml
