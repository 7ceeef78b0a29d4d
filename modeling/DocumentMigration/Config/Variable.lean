import DocumentMigration.Config.Layer
import DocumentMigration.Path.Basic
import DocumentMigration.Toml.Text

/-!
Environment variables as a layer of settings. A name says which key is set, two underscores lead
into a section; the value is a text that may be written like a boolean, a number, a character or a
text in quotes, a list or a table.
-/
namespace DocumentMigration

abbrev Environment := List (String × String)

namespace Environment

def find? (name : String) (env : Environment) : Option String := env.lookup name

/-- Sets a variable unless it is set already. -/
def setNew (name value : String) (env : Environment) : Environment :=
  if (env.find? name).isSome then env else env ++ [(name, value)]

end Environment

namespace Config

open Json

namespace Variable

def isSpace (c : Char) : Bool :=
  c = ' ' || c = '\t' || c = '\n' || c = '\x0c' || c = '\r'

def isSeparator (c : Char) : Bool :=
  c = ',' || c = '\x7b' || c = '\x7d' || c = '[' || c = ']'

def skipSpace (cs : List Char) : List Char := cs.dropWhile isSpace

/-- The exponent of a decimal; nothing at all is zero. -/
def exponent? : List Char → Option Int
  | [] => some 0
  | mark :: cs => do
    if mark ≠ 'e' ∧ mark ≠ 'E' then none
    let (negative, digits) := match cs with
      | '-' :: digits => (true, digits)
      | '+' :: digits => (false, digits)
      | digits => (false, digits)
    if digits.isEmpty || !digits.all Char.isDigit then none
    let n : Int := Number.digitsValue digits
    return if negative then -n else n

/-- A number with a point; digits may be missing on one side of it. One that overflows has no JSON
form and reads as null. -/
def fraction? (text : List Char) : Option Value := do
  let (negative, rest) := match text with
    | '-' :: rest => (true, rest)
    | '+' :: rest => (false, rest)
    | rest => (false, rest)
  let (whole, rest) := rest.span Char.isDigit
  match rest with
  | '.' :: rest =>
    let (part, rest) := rest.span Char.isDigit
    if whole.isEmpty && part.isEmpty then none
    let exponent ← exponent? rest
    return match Binary64.ofDecimal negative (Number.digitsValue (whole ++ part))
        (exponent - part.length) with
      | some x => .number (.float x)
      | none => .null
  | _ => none

def negative? : List Char → Option Value
  | '-' :: digits =>
    let n : Int := -(Number.digitsValue digits : Int)
    if digits.isEmpty || !digits.all Char.isDigit || n < -2 ^ (63 : Nat) then none
    else (Number.ofInt? n).map .number
  | _ => none

/-- A number if it reads as one, else the text. -/
def scalar (text : List Char) : Value :=
  let found := (fraction? text).or <| ((Path.index? (String.ofList text)).map Value.nat).or <|
    negative? text
  found.getD (.string (String.ofList text))

/-- A text up to its closing quote. Control characters other than the tab have to be escaped. -/
def quoted? : Nat → List Char → Option (List Char × List Char)
  | 0, _ | _, [] => none
  | _, '"' :: rest => some ([], rest)
  | fuel + 1, '\\' :: rest => do
    let (c, rest) ← Toml.escape? rest
    let (body, rest) ← quoted? fuel rest
    return (c :: body, rest)
  | fuel + 1, c :: rest =>
    if Toml.isPlain c then (quoted? fuel rest).map fun (body, rest) => (c :: body, rest) else none

/-- A key of letters, digits, underscores and dashes, or in quotes. -/
def key? (cs : List Char) : Option (String × List Char) :=
  match skipSpace cs with
  | '"' :: rest =>
    (quoted? (rest.length + 1) rest).map fun (k, rest) => (String.ofList k, skipSpace rest)
  | rest =>
    let (name, rest) := rest.span Toml.isBareKey
    if name.isEmpty then none else some (String.ofList name, skipSpace rest)

mutual
/-- A value and the rest of the text. The fuel bounds the number of steps. -/
def value? : Nat → List Char → Option (Value × List Char)
  | 0, _ => none
  | fuel + 1, cs => do
    let (v, rest) ← match skipSpace cs with
      | 't' :: 'r' :: 'u' :: 'e' :: rest => some (.bool true, rest)
      | 'f' :: 'a' :: 'l' :: 's' :: 'e' :: rest => some (.bool false, rest)
      | '\x7b' :: rest => (pairs? fuel rest).map fun (ms, rest) =>
          (.object (Object.ofList ms), rest)
      | '[' :: rest => (items? fuel rest).map fun (xs, rest) => (.array xs, rest)
      | '"' :: rest => (quoted? (rest.length + 1) rest).map fun (t, rest) =>
          (.string (String.ofList t), rest)
      | '\'' :: c :: '\'' :: rest => some (.string (String.ofList [c]), rest)
      | '\'' :: _ => none
      | rest =>
        let (text, rest) := rest.span fun c => !isSeparator c
        some (scalar (Text.strip Text.isBlank text), rest)
    return (v, skipSpace rest)

def items? : Nat → List Char → Option (List Value × List Char)
  | 0, _ => none
  | _, ']' :: rest => some ([], rest)
  | fuel + 1, cs => do
    let (x, rest) ← value? fuel cs
    match rest with
    | ',' :: rest => (items? fuel rest).map fun (xs, rest) => (x :: xs, rest)
    | ']' :: rest => return ([x], rest)
    | _ => none

def pairs? : Nat → List Char → Option (List (String × Value) × List Char)
  | 0, _ => none
  | _, '\x7d' :: rest => some ([], rest)
  | fuel + 1, cs => do
    let (k, rest) ← key? cs
    match rest with
    | '=' :: rest =>
      let (v, rest) ← value? fuel rest
      match rest with
      | ',' :: rest => (pairs? fuel rest).map fun (ms, rest) => ((k, v) :: ms, rest)
      | '\x7d' :: rest => return ([(k, v)], rest)
      | _ => none
    | _ => none
end

/-- The value of a variable. A text that does not read as a whole stands for itself. -/
def read (text : String) : Value :=
  let cs := text.toList
  match value? (2 * cs.length + 2) cs with
  | some (v, []) => v
  | _ => .string text

/-- Two underscores part keys as a point does. -/
def withPoints : List Char → List Char
  | '_' :: '_' :: rest => '.' :: withPoints rest
  | c :: rest => c :: withPoints rest
  | [] => []

/-- The keys that a name stands for. The case of the name does not matter. -/
def keys? (name : String) : Option (List String) :=
  let lowered := (Text.lowerAscii (Text.trim name)).toList
  let mark := "docmig_".toList
  if lowered.take mark.length ≠ mark then none else
    let keys := ((withPoints (Text.strip Text.isBlank (lowered.drop mark.length))).splitOn '.').map
      String.ofList
    if keys.any String.isEmpty then none else some keys

def nested (v : Value) : List String → Value
  | [] => v
  | k :: rest => .object [(k, nested v rest)]

end Variable

/-- The layer of the variables. Of two names for one key the later one counts. -/
def ofEnvironment (env : Environment) : Object :=
  env.foldl (fun layer (name, text) =>
    match Variable.keys? name with
    | some (k :: rest) => overlayMembers layer [(k, Variable.nested (Variable.read text) rest)]
    | _ => layer) []

end Config
end DocumentMigration
