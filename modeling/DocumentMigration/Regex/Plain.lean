import DocumentMigration.Regex.Bracket

/-!
The plain kind of regular expressions: those without assertions about the surroundings and without
references to groups. Their shorthands are narrow. A text that breaks the rules of the plain kind
before anything foreign to it comes up is no regular expression at all.
-/
namespace DocumentMigration.Regex.Plain

structure Progress where
  /-- Whether blanks say nothing here. -/
  blanks : Bool := false
  /-- The same for the groups that are open, the innermost first. -/
  outer : List Bool := []
  /-- Whether something stands before this place that a repetition can apply to. -/
  repeatable : Bool := false
  names : List String := []
  /-- Whether the bell has been escaped by its letter. -/
  bell : Bool := false

def Progress.item (p : Progress) : Progress := { p with repeatable := true }

def isNameStart (c : Char) : Bool := c = '_' || Text.isAlphabetic c

def isNameChar (c : Char) : Bool := ['_', '.', '[', ']'].contains c || Text.isAlphanumeric c

def groupName? (cs : List Char) : Option (String × List Char) :=
  let name := cs.takeWhile (· ≠ '>')
  match name, cs.drop name.length with
  | c :: more, _ :: rest =>
    if isNameStart c && more.all isNameChar then some (String.ofList name, rest) else none
  | _, _ => none

def isFlag (c : Char) : Bool := ['i', 'm', 's', 'U', 'u', 'R', 'x'].contains c

/-- Flags are letters of which none repeats, with at most one dash among them and not at the end. -/
def areFlags (flags : List Char) : Bool :=
  flags.all (fun c => c = '-' || isFlag c) && flags.eraseDups.length = flags.length
    && flags.getLast? ≠ some '-'

def blanksOf? (flags : List Char) : Option Bool :=
  if flags.contains 'x' then some ((flags.takeWhile (· ≠ 'x')).all (· ≠ '-')) else none

def digits (r : Reading) : Nat → List Char → List Char × List Char
  | fuel + 1, c :: rest =>
    if c.isDigit then
      let (more, rest) := digits r fuel (skip r.blanks rest)
      (c :: more, rest)
    else ([], c :: rest)
  | _, cs => ([], cs)

/-- A count of 32 bits, with blanks around it. -/
def count? (r : Reading) (cs : List Char) : Option (Option Nat × List Char) :=
  let (ds, rest) := digits r cs.length (cs.dropWhile Text.isBlank)
  let n := Json.Number.digitsValue ds
  let rest := skip r.blanks (rest.dropWhile Text.isBlank)
  if ds.isEmpty then some (none, rest) else if n < 2 ^ (32 : Nat) then some (some n, rest) else none

def counts? (r : Reading) (cs : List Char) : Option (List Char) := do
  let (least, rest) ← count? r (skip r.blanks cs)
  let least ← least
  match rest with
  | '\x7d' :: rest => return rest
  | ',' :: rest =>
    match skip r.blanks rest with
    | '\x7d' :: rest => return rest
    | rest =>
      let (most, rest) ← count? r rest
      let most ← most
      match rest with
      | '\x7d' :: rest => if least ≤ most then return rest else none
      | _ => none
  | _ => none

/-- A question mark after a repetition belongs to it. -/
def afterRepetition : List Char → List Char
  | '?' :: rest => rest
  | rest => rest

def openGroup (p : Progress) (blanks : Bool) : Progress :=
  { p with blanks, outer := p.blanks :: p.outer, repeatable := false }

def named (p : Progress) (cs : List Char) : Except Stop (Progress × List Char) :=
  match groupName? cs with
  | some (name, rest) =>
    if p.names.contains name then .error .invalid
    else .ok (openGroup { p with names := name :: p.names } p.blanks, rest)
  | none => .error .invalid

/-- Flags with the mark that ends them: a colon opens a group, and a closing parenthesis sets them
for the rest of the group around it. -/
def flagged (p : Progress) (cs : List Char) : Except Stop (Progress × List Char) :=
  let flags := cs.takeWhile fun c => c ≠ ':' && c ≠ ')'
  if !areFlags flags then .error .invalid else
    let blanks := (blanksOf? flags).getD p.blanks
    match cs.drop flags.length with
    | ':' :: rest => .ok (openGroup p blanks, rest)
    | ')' :: rest =>
      if flags.isEmpty then .error .invalid else .ok ({ p with blanks, repeatable := false }, rest)
    | _ => .error .invalid

def group (p : Progress) (cs : List Char) : Except Stop (Progress × List Char) :=
  match skip p.blanks cs with
  | '?' :: '=' :: _ | '?' :: '!' :: _ | '?' :: '<' :: '=' :: _ | '?' :: '<' :: '!' :: _ =>
    .error .foreign
  | '?' :: 'P' :: '<' :: rest | '?' :: '<' :: rest => named p rest
  | '?' :: rest => flagged p rest
  | rest => .ok (openGroup p p.blanks, rest)

def step (p : Progress) (cs : List Char) : Except Stop (Progress × List Char) :=
  let r : Reading := ⟨p.blanks, false⟩
  match cs with
  | [] => .ok (p, [])
  | '(' :: rest => group p rest
  | ')' :: rest =>
    match p.outer with
    | [] => .error .invalid
    | blanks :: outer => .ok ({ p with blanks, outer, repeatable := true }, rest)
  | '|' :: rest => .ok ({ p with repeatable := false }, rest)
  | '[' :: rest => (Bracket.read r rest).map fun (_, rest) => (p.item, rest)
  | '?' :: rest | '*' :: rest | '+' :: rest =>
    if p.repeatable then .ok (p, afterRepetition rest) else .error .invalid
  | '\x7b' :: rest =>
    match p.repeatable, counts? r rest with
    | true, some rest => .ok (p, afterRepetition (skip p.blanks rest))
    | _, _ => .error .invalid
  | '\\' :: 'a' :: rest => .ok ({ p.item with bell := true }, rest)
  | '\\' :: rest => (escape r rest).map fun (_, rest) => (p.item, rest)
  | _ :: rest => .ok (p.item, rest)

/-- Reads a whole text. The fuel bounds the number of its pieces. -/
def run : Nat → Progress → List Char → Except Stop Unit
  | 0, _, _ => .error .invalid
  | fuel + 1, p, cs =>
    match skip p.blanks cs with
    | [] => if p.outer.isEmpty && !p.bell then .ok () else .error .invalid
    | cs => do
      let (p, rest) ← step p cs
      run fuel p rest

def check (cs : List Char) : Except Stop Unit := run (cs.length + 1) {} cs

/-- A regular expression of either kind as a text to be read, and whether its shorthands are wide.
An escape of a control character by its letter is replaced by that character. The fuel bounds their
number. -/
def settle : Nat → List Char → Option (Bool × List Char)
  | 0, _ => none
  | fuel + 1, cs =>
    match check cs with
    | .ok () => some (false, cs)
    | .error .foreign => some (true, cs)
    | .error (.unknownEscape 'c' (letter :: rest)) =>
      if letter.isAlpha then
        let front := cs.take (cs.length - rest.length - 3)
        settle fuel (front ++ Char.ofNat (letter.toNat % 32) :: rest)
      else none
    | .error _ => none

end DocumentMigration.Regex.Plain
