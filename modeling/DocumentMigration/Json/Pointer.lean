import DocumentMigration.Json.Object

/-!
JSON pointers: places in a value as lists of member names and array indexes, and their text.
-/
namespace DocumentMigration.Json.Pointer

def escapeChar (c : Char) : List Char :=
  if c = '~' then ['~', '0'] else if c = '/' then ['~', '1'] else [c]

def escape (segment : String) : String := String.ofList (segment.toList.flatMap escapeChar)

def unescapeChars : List Char → List Char
  | '~' :: '1' :: rest => '/' :: unescapeChars rest
  | '~' :: '0' :: rest => '~' :: unescapeChars rest
  | c :: rest => c :: unescapeChars rest
  | [] => []

def unescape (segment : String) : String := String.ofList (unescapeChars segment.toList)

/-- The segment for an index. -/
def indexText (i : Nat) : String := String.ofList (Nat.toDigits 10 i)

/-- Every segment is escaped and follows a slash. -/
def text (segments : List String) : String :=
  String.join (segments.map fun s => "/" ++ escape s)

/-- The segments of a pointer; none for a text that is not empty and lacks the first slash. -/
def segments? (pointer : String) : Option (List String) :=
  match pointer.toList with
  | [] => some []
  | '/' :: rest => some ((rest.splitOn '/').map fun cs => unescape (String.ofList cs))
  | _ => none

/-- An array index has no sign and no leading zero. -/
def index? (segment : String) : Option Nat :=
  let digits := segment.toList
  if digits = [] ∨ !digits.all Char.isDigit ∨ (digits.length ≠ 1 ∧ digits.head? = some '0')
  then none
  else some (Number.digitsValue digits)

def child? (segment : String) : Value → Option Value
  | .object ms => Object.get? segment ms
  | .array xs => (index? segment).bind (xs[·]?)
  | _ => none

def lookup? : List String → Value → Option Value
  | [], v => some v
  | segment :: rest, v => (child? segment v).bind (lookup? rest)

/-- Reads `%` and two hexadecimal digits as a byte, in the fragment of a reference. -/
def percentDecode (fragment : String) : Option String :=
  String.fromUTF8? ⟨(bytes fragment.toUTF8.toList).toArray⟩
where
  hex? (b : UInt8) : Option UInt8 :=
    let n := b.toNat
    if 48 ≤ n ∧ n ≤ 57 then some (b - 48)
    else if 97 ≤ n ∧ n ≤ 102 then some (b - 87)
    else if 65 ≤ n ∧ n ≤ 70 then some (b - 55)
    else none
  bytes : List UInt8 → List UInt8
    | a :: b :: c :: rest =>
      match (if a = 37 then hex? b else none), hex? c with
      | some high, some low => (high * 16 + low) :: bytes rest
      | _, _ => a :: bytes (b :: c :: rest)
    | short => short

end DocumentMigration.Json.Pointer
