import DocumentMigration.Json.Token

/-!
The lexical parts of TOML: blanks, line ends, comments, strings of all four kinds, and keys.
-/
namespace DocumentMigration.Toml

open Json (Token)

def isSpace (c : Char) : Bool := c = ' ' || c = '\t'

def skipSpaces (cs : List Char) : List Char := cs.dropWhile isSpace

def newline? : List Char → Option (List Char)
  | '\n' :: rest => some rest
  | '\r' :: '\n' :: rest => some rest
  | _ => none

/-- Control characters but the tab may stand nowhere. -/
def isPlain (c : Char) : Bool := c = '\t' || (32 ≤ c.toNat && c.toNat ≠ 127)

def skipComment : List Char → List Char
  | '#' :: rest => rest.dropWhile isPlain
  | rest => rest

def lineEnd? (cs : List Char) : Option (List Char) :=
  match skipComment (skipSpaces cs) with
  | [] => some []
  | rest => newline? rest

/-- Blanks, comments and line ends between the items of an array. The fuel bounds the lines. -/
def skipLines : Nat → List Char → List Char
  | 0, cs => cs
  | fuel + 1, cs =>
    match newline? (skipComment (skipSpaces cs)) with
    | some rest => skipLines fuel rest
    | none => skipSpaces cs

def hexCode? (width : Nat) (cs : List Char) : Option (Char × List Char) := do
  let digits := cs.take width
  if digits.length ≠ width then none
  let n ← digits.foldlM (fun n c => (Token.hexValue? c).map (16 * n + ·)) 0
  if n.isValidChar then some (Char.ofNat n, cs.drop width) else none

def escape? : List Char → Option (Char × List Char)
  | 'b' :: rest => some (Char.ofNat 8, rest)
  | 't' :: rest => some ('\t', rest)
  | 'n' :: rest => some ('\n', rest)
  | 'f' :: rest => some (Char.ofNat 12, rest)
  | 'r' :: rest => some ('\r', rest)
  | '"' :: rest => some ('"', rest)
  | '\\' :: rest => some ('\\', rest)
  | 'u' :: rest => hexCode? 4 rest
  | 'U' :: rest => hexCode? 8 rest
  | _ => none

/-- A string on one line up to its closing quote; escapes count only between double quotes. -/
def lineString? (quote : Char) : Nat → List Char → Option (List Char × List Char)
  | 0, _ => none
  | _, [] => none
  | fuel + 1, c :: rest =>
    if c = quote then some ([], rest)
    else if c = '\\' ∧ quote = '"' then do
      let (d, rest) ← escape? rest
      let (body, rest) ← lineString? quote fuel rest
      return (d :: body, rest)
    else if isPlain c then do
      let (body, rest) ← lineString? quote fuel rest
      return (c :: body, rest)
    else none

def skipBlankLines : List Char → List Char
  | '\r' :: '\n' :: rest => skipBlankLines rest
  | c :: rest => if isSpace c || c = '\n' then skipBlankLines rest else c :: rest
  | [] => []

/-- What a backslash at the end of a line joins: the blanks and line ends after it. -/
def joinedLine? (cs : List Char) : Option (List Char) :=
  (newline? (skipSpaces cs)).map skipBlankLines

/-- A string over several lines up to three quotes. One or two quotes more belong to it. -/
def blockString? (quote : Char) : Nat → List Char → Option (List Char × List Char)
  | 0, _ => none
  | _, [] => none
  | fuel + 1, c :: rest =>
    if c = quote then
      let run := 1 + (rest.takeWhile (· = quote)).length
      let rest := rest.dropWhile (· = quote)
      if run < 3 then do
        let (body, rest) ← blockString? quote fuel rest
        return (List.replicate run quote ++ body, rest)
      else if run ≤ 5 then some (List.replicate (run - 3) quote, rest)
      else none
    else if c = '\\' ∧ quote = '"' then
      match joinedLine? rest with
      | some rest => blockString? quote fuel rest
      | none => do
        let (d, rest) ← escape? rest
        let (body, rest) ← blockString? quote fuel rest
        return (d :: body, rest)
    else if isPlain c then do
      let (body, rest) ← blockString? quote fuel rest
      return (c :: body, rest)
    else do
      let rest ← newline? (c :: rest)
      let (body, rest) ← blockString? quote fuel rest
      return ('\n' :: body, rest)

/-- A line end right after the opening quotes is dropped. -/
def string? : List Char → Option (List Char × List Char)
  | '"' :: '"' :: '"' :: rest =>
    blockString? '"' (rest.length + 1) ((newline? rest).getD rest)
  | '\'' :: '\'' :: '\'' :: rest =>
    blockString? '\'' (rest.length + 1) ((newline? rest).getD rest)
  | '"' :: rest => lineString? '"' (rest.length + 1) rest
  | '\'' :: rest => lineString? '\'' (rest.length + 1) rest
  | _ => none

def isBareKey (c : Char) : Bool := c.isAlphanum || c = '_' || c = '-'

def keyPart? : List Char → Option (String × List Char)
  | '"' :: rest =>
    (lineString? '"' (rest.length + 1) rest).map fun (k, rest) => (String.ofList k, rest)
  | '\'' :: rest =>
    (lineString? '\'' (rest.length + 1) rest).map fun (k, rest) => (String.ofList k, rest)
  | cs =>
    match cs.span isBareKey with
    | ([], _) => none
    | (k, rest) => some (String.ofList k, rest)

/-- A key of parts with dots between them. The fuel bounds their number. -/
def key? : Nat → List Char → Option (List String × List Char)
  | 0, _ => none
  | fuel + 1, cs => do
    let (part, rest) ← keyPart? (skipSpaces cs)
    match skipSpaces rest with
    | '.' :: rest =>
      let (parts, rest) ← key? fuel rest
      return (part :: parts, rest)
    | rest => return ([part], rest)

end DocumentMigration.Toml
