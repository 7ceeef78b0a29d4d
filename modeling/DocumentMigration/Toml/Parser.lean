import DocumentMigration.Toml.Scalar
import DocumentMigration.Toml.Table
import DocumentMigration.Toml.Text

/-!
Reading a TOML document as a JSON object, line by line. A byte order mark in front is skipped.
-/
namespace DocumentMigration.Toml

open Json

/-- Arrays and inline tables may be nested less deep than this, and keys have fewer parts. -/
def nestingBound : Nat := 80

def boundedKey? (cs : List Char) : Option (List String × List Char) := do
  let (key, rest) ← key? (cs.length + 1) cs
  if key.length < nestingBound then some (key, rest) else none

mutual
/-- A value at a level of nesting. The fuel bounds the number of steps. -/
def value? (level : Nat) : Nat → List Char → Option (Value × List Char)
  | 0, _ => none
  | fuel + 1, cs =>
    match cs with
    | '[' :: rest =>
      if level + 1 < nestingBound then
        (items? (level + 1) fuel (skipLines (rest.length + 1) rest)).map fun (xs, rest) =>
          (.array xs, rest)
      else none
    | '\x7b' :: rest =>
      if level + 1 < nestingBound then
        match skipSpaces rest with
        | '\x7d' :: rest => some (.object [], rest)
        | rest => (pairs? (level + 1) fuel [] rest).map fun (entries, rest) =>
            (Entries.toValue entries, rest)
      else none
    | '"' :: _ | '\'' :: _ => (string? cs).map fun (s, rest) => (.string (String.ofList s), rest)
    | _ =>
      let (token, rest) := scalarToken cs
      (scalar? token).map (·, rest)

/-- The items of an array up to its bracket; a comma may stand behind the last one. -/
def items? (level : Nat) : Nat → List Char → Option (List Value × List Char)
  | 0, _ => none
  | _ + 1, ']' :: rest => some ([], rest)
  | fuel + 1, cs => do
    let (x, rest) ← value? level fuel cs
    match skipLines (rest.length + 1) rest with
    | ',' :: rest =>
      let (xs, rest) ← items? level fuel (skipLines (rest.length + 1) rest)
      return (x :: xs, rest)
    | ']' :: rest => return ([x], rest)
    | _ => none

/-- The pairs of an inline table up to its brace, all on one line. -/
def pairs? (level : Nat) : Nat → Entries → List Char → Option (Entries × List Char)
  | 0, _, _ => none
  | fuel + 1, entries, cs => do
    let (key, rest) ← boundedKey? cs
    match rest with
    | '=' :: rest =>
      let (v, rest) ← value? level fuel (skipSpaces rest)
      let entries ← entries.insertKey key v
      match skipSpaces rest with
      | ',' :: rest => pairs? level fuel entries rest
      | '\x7d' :: rest => return (entries, rest)
      | _ => none
    | _ => none
end

def header? (cs : List Char) : Option (List String × List Char) := do
  let (key, rest) ← boundedKey? cs
  match rest with
  | ']' :: rest => return (key, rest)
  | _ => none

def line? (cs : List Char) (d : Draft) : Option (Draft × List Char) :=
  match skipSpaces cs with
  | [] => some (d, [])
  | '#' :: rest => some (d, '#' :: rest)
  | '\n' :: rest => some (d, '\n' :: rest)
  | '\r' :: rest => some (d, '\r' :: rest)
  | '[' :: '[' :: rest => do
    let (key, rest) ← header? rest
    match rest with
    | ']' :: rest => return (← d.openElement key, rest)
    | _ => none
  | '[' :: rest => do
    let (key, rest) ← header? rest
    return (← d.openTable key, rest)
  | cs => do
    let (key, rest) ← boundedKey? cs
    match rest with
    | '=' :: rest =>
      let rest := skipSpaces rest
      let (v, rest) ← value? 0 (rest.length + 1) rest
      return (← d.insert key v, rest)
    | _ => none

def lines? : Nat → List Char → Draft → Option Draft
  | 0, _, _ => none
  | _, [], d => some d
  | fuel + 1, cs, d => do
    let (d, rest) ← line? cs d
    let rest ← lineEnd? rest
    lines? fuel rest d

def parse? (text : String) : Option Value := do
  let cs := match text.toList with
    | '\uFEFF' :: rest => rest
    | cs => cs
  let d ← lines? (cs.length + 1) cs {}
  return Entries.toValue (← d.close)

end DocumentMigration.Toml
