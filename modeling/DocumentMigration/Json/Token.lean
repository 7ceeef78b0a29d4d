import DocumentMigration.Json.Object

/-!
JSON text as tokens. Blanks separate tokens and are dropped; a string token holds the text that it
denotes and a number token its value.
-/
namespace DocumentMigration.Json

inductive Token where
  | openArray | closeArray | openObject | closeObject | comma | colon
  | null | bool (b : Bool) | number (n : Number) | string (s : String)
deriving DecidableEq

namespace Token

def isBlank (c : Char) : Bool := c = ' ' || c = '\t' || c = '\n' || c = '\r'

def hexValue? (c : Char) : Option Nat :=
  if c.isDigit then some (c.toNat - '0'.toNat)
  else if 'a' ≤ c ∧ c ≤ 'f' then some (c.toNat - 'a'.toNat + 10)
  else if 'A' ≤ c ∧ c ≤ 'F' then some (c.toNat - 'A'.toNat + 10)
  else none

def hex4? : List Char → Option (Nat × List Char)
  | a :: b :: c :: d :: rest => do
    let high := (← hexValue? a) * 16 + (← hexValue? b)
    let n := (high * 16 + (← hexValue? c)) * 16 + (← hexValue? d)
    return (n, rest)
  | _ => none

/-- The escape after `\u`: one unit, or two that make a surrogate pair. -/
def unicodeEscape? (cs : List Char) : Option (Char × List Char) := do
  let (unit, rest) ← hex4? cs
  if unit < 0xD800 ∨ 0xDFFF < unit then return (Char.ofNat unit, rest)
  if 0xDC00 ≤ unit then none
  match rest with
  | '\\' :: 'u' :: rest =>
    let (low, rest) ← hex4? rest
    if low < 0xDC00 ∨ 0xDFFF < low then none
    return (Char.ofNat (0x10000 + (unit - 0xD800) * 0x400 + (low - 0xDC00)), rest)
  | _ => none

/-- One character of a string, plain or escaped; none at a quote or at a fault. -/
def stringChar? : List Char → Option (Char × List Char)
  | [] => none
  | '"' :: _ => none
  | '\\' :: '"' :: rest => some ('"', rest)
  | '\\' :: '\\' :: rest => some ('\\', rest)
  | '\\' :: '/' :: rest => some ('/', rest)
  | '\\' :: 'b' :: rest => some (Char.ofNat 8, rest)
  | '\\' :: 'f' :: rest => some (Char.ofNat 12, rest)
  | '\\' :: 'n' :: rest => some ('\n', rest)
  | '\\' :: 'r' :: rest => some ('\r', rest)
  | '\\' :: 't' :: rest => some ('\t', rest)
  | '\\' :: 'u' :: rest => unicodeEscape? rest
  | '\\' :: _ => none
  | c :: rest => if c.toNat < 32 then none else some (c, rest)

/-- The characters up to the closing quote. The fuel bounds their number. -/
def stringBody? : Nat → List Char → Option (List Char × List Char)
  | 0, _ => none
  | _ + 1, '"' :: rest => some ([], rest)
  | fuel + 1, cs => do
    let (c, rest) ← stringChar? cs
    let (body, rest) ← stringBody? fuel rest
    return (c :: body, rest)

def digits? (cs : List Char) : Option (List Char × List Char) :=
  match cs.span Char.isDigit with
  | ([], _) => none
  | found => some found

def fraction? : List Char → Option (Option (List Char) × List Char)
  | '.' :: rest => (digits? rest).map fun (ds, rest) => (some ds, rest)
  | rest => some (none, rest)

def exponent? : List Char → Option (Option (Bool × List Char) × List Char)
  | c :: rest =>
    if c = 'e' ∨ c = 'E' then
      let (negative, rest) := match rest with
        | '-' :: rest => (true, rest)
        | '+' :: rest => (false, rest)
        | rest => (false, rest)
      (digits? rest).map fun (ds, rest) => (some (negative, ds), rest)
    else some (none, c :: rest)
  | [] => some (none, [])

/-- A whole part is `0` alone or does not begin with it. -/
def whole? : List Char → Option (List Char × List Char)
  | '0' :: rest => some (['0'], rest)
  | cs => digits? cs

def unsigned? [FloatReader] (negative : Bool) (cs : List Char) : Option (Number × List Char) := do
  let (whole, rest) ← whole? cs
  let (fraction, rest) ← fraction? rest
  let (exponent, rest) ← exponent? rest
  let n ← Number.ofLiteral ⟨negative, whole, fraction, exponent⟩
  return (n, rest)

def number? [FloatReader] : List Char → Option (Number × List Char)
  | '-' :: rest => unsigned? true rest
  | rest => unsigned? false rest

/-- The token at the head of a text that does not begin with a blank. -/
def next? [FloatReader] : List Char → Option (Token × List Char)
  | '[' :: rest => some (.openArray, rest)
  | ']' :: rest => some (.closeArray, rest)
  | '\x7b' :: rest => some (.openObject, rest)
  | '\x7d' :: rest => some (.closeObject, rest)
  | ',' :: rest => some (.comma, rest)
  | ':' :: rest => some (.colon, rest)
  | 'n' :: 'u' :: 'l' :: 'l' :: rest => some (.null, rest)
  | 't' :: 'r' :: 'u' :: 'e' :: rest => some (.bool true, rest)
  | 'f' :: 'a' :: 'l' :: 's' :: 'e' :: rest => some (.bool false, rest)
  | '"' :: rest =>
    (stringBody? (rest.length + 1) rest).map fun (body, rest) =>
      (.string (String.ofList body), rest)
  | cs => (number? cs).map fun (n, rest) => (.number n, rest)

/-- All tokens of a text. The fuel bounds their number. -/
def scan? [FloatReader] : Nat → List Char → Option (List Token)
  | 0, _ => none
  | fuel + 1, cs =>
    match cs.dropWhile isBlank with
    | [] => some []
    | c :: rest => do
      let (token, rest) ← next? (c :: rest)
      let tokens ← scan? fuel rest
      return token :: tokens

def ofText? [FloatReader] (text : String) : Option (List Token) :=
  scan? (text.toList.length + 1) text.toList

end Token
end DocumentMigration.Json
