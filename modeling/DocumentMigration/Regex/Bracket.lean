import DocumentMigration.Json.Token
import DocumentMigration.Regex.Basic

/-!
Reading classes in brackets, and the escapes that stand for a character or a set inside and outside
of them. Brackets nest, and the operations between unions group to the left.
-/
namespace DocumentMigration.Regex

open Json (Token)

/-- Why a text cannot be read as a regular expression of the plain kind. -/
inductive Stop where
  | invalid
  /-- An assertion about the surroundings, or a reference to a group. -/
  | foreign
  /-- An escape without a meaning: the letter, and what comes after it. -/
  | unknownEscape (letter : Char) (rest : List Char)

def afterComment (cs : List Char) : List Char := (cs.dropWhile (· ≠ '\n')).drop 1

/-- Drops blanks and comments where they say nothing. The fuel bounds the number of comments. -/
def skipBlanks (blanks : Bool) : Nat → List Char → List Char
  | 0, cs => cs
  | fuel + 1, cs =>
    if !blanks then cs else
      match cs.dropWhile Text.isBlank with
      | '#' :: rest => skipBlanks blanks fuel (afterComment rest)
      | rest => rest

def skip (blanks : Bool) (cs : List Char) : List Char := skipBlanks blanks (cs.length + 1) cs

/-- How a class or an escape is read: whether blanks say nothing, and whether shorthands go over all
of Unicode. -/
structure Reading where
  blanks : Bool
  wide : Bool

inductive Escaped where
  | literal (c : Char)
  | set (s : CharSet)
  | assertion (a : Anchor)

def character? (n : Nat) : Option Char := if n.isValidChar then some (Char.ofNat n) else none

def hexValue? (digits : List Char) : Option Nat :=
  if digits.isEmpty then none
  else digits.foldlM (fun n c => (Token.hexValue? c).map (16 * n + ·)) 0

def bracedDigits (r : Reading) : Nat → List Char → Except Stop (List Char × List Char)
  | 0, _ | _, [] => .error .invalid
  | fuel + 1, c :: rest =>
    if c = '\x7d' then .ok ([], rest) else do
      let (digits, rest) ← bracedDigits r fuel (skip r.blanks rest)
      return (c :: digits, rest)

def fixedDigits (r : Reading) : Nat → List Char → Except Stop (List Char × List Char)
  | 0, rest => .ok ([], rest)
  | _, [] => .error .invalid
  | n + 1, c :: rest => do
    let (digits, rest) ← fixedDigits r n (if n = 0 then rest else skip r.blanks rest)
    return (c :: digits, rest)

def codePoint (r : Reading) (digits : Nat) (cs : List Char) :
    Except Stop (Escaped × List Char) := do
  let (digits, rest) ← match skip r.blanks cs with
    | '\x7b' :: rest => bracedDigits r (rest.length + 1) (skip r.blanks rest)
    | cs => fixedDigits r digits cs
  match (hexValue? digits).bind character? with
  | some c => return (.literal c, rest)
  | none => throw .invalid

def splitAt? (mark : List Char) : List Char → Option (List Char × List Char)
  | [] => none
  | c :: rest =>
    if mark.isPrefixOf (c :: rest) then some ([], (c :: rest).drop mark.length)
    else (splitAt? mark rest).map fun (front, back) => (c :: front, back)

/-- The property that a name in braces stands for, and whether its mark negates it. -/
def propertyOfText? (text : List Char) : Option (Bool × Text.Property) :=
  let named (negated : Bool) (p : List Char × List Char) :=
    (Text.Property.ofNameAndValue? (String.ofList p.1) (String.ofList p.2)).map (negated, ·)
  match splitAt? ['!', '='] text, splitAt? [':'] text, splitAt? ['='] text with
  | some p, _, _ => named true p
  | none, some p, _ => named false p
  | none, none, some p => named false p
  | none, none, none => (Text.Property.ofName? (String.ofList text)).map (false, ·)

def property (r : Reading) (negated : Bool) (cs : List Char) :
    Except Stop (Escaped × List Char) := do
  let (name, rest) ← match skip r.blanks cs with
    | [] => throw .invalid
    | '\x7b' :: rest => bracedDigits r (rest.length + 1) (skip r.blanks rest)
    | c :: rest => pure ([c], rest)
  match propertyOfText? name with
  | some (opposite, p) => return (.set (.bracketed (negated != opposite) (.property p)), rest)
  | none => throw .invalid

def boundary? (name : String) : Option Anchor :=
  match name with
  | "start" => some .wordStart
  | "end" => some .wordEnd
  | "start-half" => some .wordStartHalf
  | "end-half" => some .wordEndHalf
  | _ => none

def isBoundaryChar (c : Char) : Bool := c.isAlpha || c = '-'

def wordBoundary (r : Reading) (cs : List Char) : Except Stop (Escaped × List Char) :=
  match cs with
  | '\x7b' :: rest =>
    match skip r.blanks rest with
    | [] => .error .invalid
    | c :: more =>
      if !isBoundaryChar c then .ok (.assertion .wordBoundary, cs) else do
        let (name, rest) ← bracedDigits r (more.length + 2) (c :: more)
        match boundary? (String.ofList name) with
        | some a => return (.assertion a, rest)
        | none => throw .invalid
  | _ => .ok (.assertion .wordBoundary, cs)

def shorthand? (c : Char) : Option (Bool × Shorthand) :=
  match c with
  | 'd' => some (false, .digit)
  | 'D' => some (true, .digit)
  | 's' => some (false, .blank)
  | 'S' => some (true, .blank)
  | 'w' => some (false, .word)
  | 'W' => some (true, .word)
  | _ => none

def control? (c : Char) : Option Char :=
  match c with
  | 'a' => some '\x07'
  | 'f' => some '\x0c'
  | 't' => some '\t'
  | 'n' => some '\n'
  | 'r' => some '\r'
  | 'v' => some '\x0b'
  | _ => none

/-- Marks of ASCII stand for themselves after a backslash, but for the angles. -/
def isMark (c : Char) : Bool := c.toNat < 128 && !c.isAlphanum && c ≠ '<' && c ≠ '>'

def escape (r : Reading) : List Char → Except Stop (Escaped × List Char)
  | [] => .error .invalid
  | c :: rest =>
    if c.isDigit then .error .foreign
    else if c = 'x' then codePoint r 2 rest
    else if c = 'u' then codePoint r 4 rest
    else if c = 'U' then codePoint r 8 rest
    else if c = 'p' ∨ c = 'P' then property r (c = 'P') rest
    else if c = 'b' then wordBoundary r rest
    else if c = 'B' then .ok (.assertion .noWordBoundary, rest)
    else if c = '<' then .ok (.assertion .wordStart, rest)
    else if c = '>' then .ok (.assertion .wordEnd, rest)
    else if c = 'A' then .ok (.assertion .textStart, rest)
    else if c = 'z' then .ok (.assertion .textEnd, rest)
    else if isMark c then .ok (.literal c, rest)
    else match shorthand? c, control? c with
      | some (negated, s), _ => .ok (.set (CharSet.ofShorthand r.wide s negated), rest)
      | none, some control => .ok (.literal control, rest)
      | none, none => .error (.unknownEscape c rest)

/-- A class that is still open: the union at hand, and the operation that waits for it. -/
structure Bracket where
  negated : Bool
  waiting : Option (SetOperation × CharSet) := none
  items : CharSet := .empty

namespace Bracket

def add (b : Bracket) (s : CharSet) : Bracket := { b with items := .union b.items s }

def value (b : Bracket) : CharSet :=
  match b.waiting with
  | some (operation, left) => .combined operation left b.items
  | none => b.items

def operate (b : Bracket) (operation : SetOperation) : Bracket :=
  { b with waiting := some (operation, b.value), items := .empty }

def close (b : Bracket) : CharSet := .bracketed b.negated b.value

/-- Dashes in front are members. -/
def leadingDashes (r : Reading) : Nat → Bracket → List Char → Bracket × List Char
  | fuel + 1, b, '-' :: rest => leadingDashes r fuel (b.add (.single '-')) (skip r.blanks rest)
  | _, b, cs => (b, cs)

/-- The beginning of a class after its bracket; a closing bracket in the first place is a member. -/
def opening (r : Reading) (cs : List Char) : Bracket × List Char :=
  let cs := skip r.blanks cs
  let (negated, cs) := match cs with
    | '^' :: rest => (true, skip r.blanks rest)
    | cs => (false, cs)
  match leadingDashes r cs.length { negated } cs with
  | ({ items := .empty, negated, waiting }, ']' :: rest) =>
    ({ items := .single ']', negated, waiting }, skip r.blanks rest)
  | opened => opened

def asciiClass? : List Char → Option (CharSet × List Char)
  | ':' :: rest => do
    let (negated, rest) := match rest with
      | '^' :: rest => (true, rest)
      | rest => (false, rest)
    let name := rest.takeWhile (· ≠ ':')
    let set ← CharSet.ofAsciiName? (String.ofList name)
    match rest.drop name.length with
    | ':' :: ']' :: rest => return (.bracketed negated set, rest)
    | _ => none
  | _ => none

def member (r : Reading) : List Char → Except Stop (Escaped × List Char)
  | '\\' :: rest => escape r rest
  | c :: rest => .ok (.literal c, rest)
  | [] => .error .invalid

def item (r : Reading) (cs : List Char) : Except Stop (CharSet × List Char) := do
  let (first, rest) ← member r cs
  let alone (rest : List Char) : Except Stop (CharSet × List Char) :=
    match first with
    | .literal c => .ok (.single c, rest)
    | .set s => .ok (s, rest)
    | .assertion _ => .error .invalid
  match skip r.blanks rest with
  | '-' :: after =>
    match skip r.blanks after with
    | ']' :: _ | '-' :: _ => alone ('-' :: after)
    | after => do
      let (last, rest) ← member r after
      match first, last with
      | .literal a, .literal b =>
        if a ≤ b then return (.range a b, rest) else throw .invalid
      | _, _ => throw .invalid
  | rest => alone rest

/-- Reads on in the innermost of some open classes until all are closed. -/
def finish (r : Reading) : Nat → Bracket → List Bracket → List Char →
    Except Stop (CharSet × List Char)
  | 0, _, _, _ => .error .invalid
  | fuel + 1, b, outer, cs =>
    match skip r.blanks cs with
    | [] => .error .invalid
    | '[' :: rest =>
      match asciiClass? rest with
      | some (set, rest) => finish r fuel (b.add set) outer rest
      | none =>
        let (inner, rest) := opening r rest
        finish r fuel inner (b :: outer) rest
    | ']' :: rest =>
      match outer with
      | [] => .ok (b.close, rest)
      | o :: outer => finish r fuel (o.add b.close) outer rest
    | '&' :: '&' :: rest => finish r fuel (b.operate .intersection) outer rest
    | '-' :: '-' :: rest => finish r fuel (b.operate .difference) outer rest
    | '~' :: '~' :: rest => finish r fuel (b.operate .symmetricDifference) outer rest
    | cs => do
      let (set, rest) ← item r cs
      finish r fuel (b.add set) outer rest

def read (r : Reading) (cs : List Char) : Except Stop (CharSet × List Char) :=
  let (b, rest) := opening r cs
  finish r (rest.length + 1) b [] rest

end Bracket
end DocumentMigration.Regex
