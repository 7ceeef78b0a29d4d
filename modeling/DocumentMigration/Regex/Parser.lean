import DocumentMigration.Regex.Plain

/-!
Reading regular expressions of both kinds. A text is read piece by piece; the groups that are open
wait in a stack, and what a group stands for is settled when it closes.
-/
namespace DocumentMigration.Regex

structure Flags where
  anyCase : Bool := false
  lines : Bool := false
  dotAll : Bool := false
  swapLazy : Bool := false
  blanks : Bool := false

inductive GroupKind where
  | capture (group : Nat)
  /-- Its flags end with it. -/
  | flagged (outside : Flags)
  | ahead (negated : Bool)
  | behind (negated : Bool)
  | atomic
  | condition
  | choice (condition : Regex)

/-- A group that is still open: its branches, and the items of the last branch, latest first. -/
structure Group where
  kind : GroupKind
  branches : List Regex := []
  items : List Regex := []

/-- The state of a reader between two pieces. -/
structure Reader where
  wide : Bool
  /-- The length of the text in bytes. -/
  bytes : Nat
  flags : Flags := {}
  groups : Nat := 0
  names : List (String × Nat) := []
  /-- Whether a group has been referred to by its number. -/
  numbered : Bool := false
  innermost : Group
  outer : List Group := []

inductive Gap where
  | clear
  | line
  | remark

/-- Skips remarks in parentheses, and blanks and comments where they say nothing; none when a remark
does not end. -/
def skipGap? (blanks : Bool) : Gap → List Char → Option (List Char)
  | .clear, '(' :: '?' :: '#' :: rest => skipGap? blanks .remark rest
  | .clear, c :: rest =>
    if blanks && c = '#' then skipGap? blanks .line rest
    else if blanks && [' ', '\r', '\n', '\t'].contains c then skipGap? blanks .clear rest
    else some (c :: rest)
  | .line, c :: rest => skipGap? blanks (if c = '\n' then .clear else .line) rest
  | .clear, [] | .line, [] => some []
  | .remark, ')' :: rest => skipGap? blanks .clear rest
  | .remark, '\\' :: _ :: rest => skipGap? blanks .remark rest
  | .remark, _ :: rest => skipGap? blanks .remark rest
  | .remark, [] => none

namespace Reader

def skip? (r : Reader) (cs : List Char) : Option (List Char) := skipGap? r.flags.blanks .clear cs

def push (r : Reader) (item : Regex) : Reader :=
  match item with
  | .empty => r
  | item => { r with innermost := { r.innermost with items := item :: r.innermost.items } }

/-! Repetitions. -/

/-- An optional count; none as well for one that does not fit 64 bits. -/
def count? (cs : List Char) : Option Nat × List Char :=
  let digits := cs.takeWhile Char.isDigit
  let n := Json.Number.digitsValue digits
  if digits.isEmpty || 2 ^ (64 : Nat) ≤ n then (none, cs) else (some n, cs.drop digits.length)

/-- The counts of a repetition after its opening brace; none where they are no counts. -/
def counts? (r : Reader) (cs : List Char) : Option (Nat × Option Nat × List Char) := do
  let cs ← r.skip? cs
  let (least, cs) ← match cs, count? cs with
    | ',' :: _, _ => some (0, cs)
    | _, (some n, rest) => some (n, rest)
    | _, (none, _) => none
  match (← r.skip? cs) with
  | '\x7d' :: rest => return (least, some least, rest)
  | ',' :: rest =>
    let (most, rest) := count? (← r.skip? rest)
    match (← r.skip? rest) with
    | '\x7d' :: rest => return (least, most, rest)
    | _ => none
  | _ => none

def repetition? (r : Reader) : List Char → Option (Nat × Option Nat × List Char)
  | '?' :: rest => some (0, some 1, rest)
  | '*' :: rest => some (0, none, rest)
  | '+' :: rest => some (1, none, rest)
  | '\x7b' :: rest => r.counts? rest
  | _ => none

def isHuge (most : Option Nat) : Bool := most.any (2 ^ (32 : Nat) ≤ ·)

/-- Takes an item with the repetition that follows it. A question mark after that swaps which rounds
are preferred, and a plus sign then makes it settle for its first way. -/
def complete? (r : Reader) (repeatable : Bool) (item : Regex) (cs : List Char) :
    Option (Reader × List Char) := do
  let cs ← r.skip? cs
  match r.repetition? cs with
  | none => return (r.push item, cs)
  | some (least, most, cs) =>
    if !repeatable || most.any (· < least) || isHuge most || isHuge (some least) then none
    let cs ← r.skip? cs
    let (swapped, cs) := match cs with
      | '?' :: rest => (true, rest)
      | cs => (false, cs)
    let repeated := Regex.times item least most (swapped != r.flags.swapLazy)
    match cs with
    | '+' :: rest => return (r.push (.atomic repeated), rest)
    | cs => return (r.push repeated, cs)

/-! References to groups. -/

def again? (r : Reader) (group : Nat) : Option Regex :=
  if group ≤ r.groups then some (.again group) else none

def numbered? (r : Reader) (cs : List Char) : Option (Reader × Regex × List Char) := do
  let (group, rest) := count? cs
  let group ← group
  if group < r.bytes / 2 then
    return ({ r with numbered := true }, ← r.again? group, rest)
  else none

def isNameChar (c : Char) : Bool := c = '_' || Text.isAlphanumeric c

def name? (close : Char) (cs : List Char) : Option (String × List Char) :=
  let name := cs.takeWhile isNameChar
  match name, cs.drop name.length with
  | _ :: _, c :: rest => if c = close then some (String.ofList name, rest) else none
  | _, _ => none

def number? (digits : List Char) : Option Nat :=
  if digits.isEmpty || !digits.all Char.isDigit then none else some (Json.Number.digitsValue digits)

/-- A reference by name, by number, or by the distance back from the groups so far. -/
def referred? (r : Reader) (close : Char) (cs : List Char) : Option (Regex × List Char) :=
  match cs with
  | '-' :: back => do
    let (text, rest) ← name? close back
    let distance ← number? text.toList
    if distance = 0 ∨ r.groups < distance then none
    return (← r.again? (r.groups + 1 - distance), rest)
  | cs => do
    let (text, rest) ← name? close cs
    match r.names.lookup text with
    | some group => return (← r.again? group, rest)
    | none => return (← r.again? (← number? text.toList), rest)

/-! Escapes. -/

def codePoint? (digits : Nat) (cs : List Char) : Option (Char × List Char) :=
  let isHex (c : Char) : Bool := (Json.Token.hexValue? c).isSome
  let fixed := cs.take digits
  if fixed.length = digits && fixed.all isHex then
    ((hexValue? fixed).bind character?).map (·, cs.drop digits)
  else match cs with
    | '\x7b' :: rest =>
      let inner := rest.takeWhile isHex
      match rest.drop inner.length with
      | '\x7d' :: rest =>
        if inner.length ≤ 8 then ((hexValue? inner).bind character?).map (·, rest) else none
      | _ => none
    | _ => none

/-- The text of a class that an escape stands for, inside and outside of brackets alike. -/
def classText? : List Char → Option (List Char × List Char)
  | 'h' :: rest => some ("[0-9A-Fa-f]".toList, rest)
  | 'H' :: rest => some ("[^0-9A-Fa-f]".toList, rest)
  | c :: '\x7b' :: rest =>
    if c = 'p' ∨ c = 'P' then
      let name := rest.takeWhile (· ≠ '\x7d')
      match rest.drop name.length with
      | close :: rest => some ('\\' :: c :: '\x7b' :: name ++ [close], rest)
      | [] => none
    else if (shorthand? c).isSome then some (['\\', c], '\x7b' :: rest) else none
  | 'p' :: c :: rest => some (['\\', 'p', c], rest)
  | 'P' :: c :: rest => some (['\\', 'P', c], rest)
  | c :: rest => if (shorthand? c).isSome then some (['\\', c], rest) else none
  | [] => none

def literal? (inClass : Bool) : List Char → Option (Char × List Char)
  | [] => none
  | 'x' :: rest => codePoint? 2 rest
  | 'u' :: rest => codePoint? 4 rest
  | 'U' :: rest => codePoint? 8 rest
  | c :: rest =>
    if c = 'e' then some ('\x1b', rest)
    else if c = 'b' ∧ inClass then some ('\x08', rest)
    else match control? c with
      | some control => some (control, rest)
      | none => if c.isAlphanum then none else some (c, rest)

def boundaryAt? : List Char → Option (Anchor × List Char)
  | '\x7b' :: rest => do
    let name := rest.takeWhile (· ≠ '\x7d')
    let a ← boundary? (String.ofList name)
    return (a, rest.drop (name.length + 1))
  | rest => some (.wordBoundary, rest)

def anchor? : List Char → Option (Anchor × List Char)
  | 'A' :: rest => some (.textStart, rest)
  | 'z' :: rest => some (.textEnd, rest)
  | 'b' :: rest => boundaryAt? rest
  | 'B' :: rest => some (.noWordBoundary, rest)
  | '<' :: rest => some (.wordStart, rest)
  | '>' :: rest => some (.wordEnd, rest)
  | _ => none

/-! Classes. -/

def isMeta (c : Char) : Bool := "\\.+*?()|[]\x7b\x7d^$#&-~".toList.contains c

def quoted (c : Char) : List Char := if isMeta c then ['\\', c] else [c]

/-- Collects the text of a class up to the bracket that ends it, with every escape written anew. The
fuel bounds its length, and the depth counts the open brackets. -/
def collect? : Nat → Nat → List Char → Option (List Char × List Char)
  | 0, _, _ | _, _, [] => none
  | fuel + 1, depth, '\\' :: rest => do
    let (text, rest) ← match classText? rest with
      | some found => some found
      | none => (literal? true rest).map fun (c, rest) => (quoted c, rest)
    let (more, rest) ← collect? fuel depth rest
    return (text ++ more, rest)
  | fuel + 1, depth, c :: rest =>
    if c = ']' ∧ depth = 0 then some ([']'], rest) else do
      let depth := if c = '[' then depth + 1 else if c = ']' then depth - 1 else depth
      let (more, rest) ← collect? fuel depth rest
      return (c :: more, rest)

/-- The text of a class after its opening bracket. A closing bracket in the first place does not end
it. -/
def bracketText? (cs : List Char) : Option (List Char × List Char) := do
  let (front, cs) := match cs with
    | '^' :: ']' :: rest => (['^', ']'], rest)
    | '^' :: rest => (['^'], rest)
    | ']' :: rest => ([']'], rest)
    | rest => ([], rest)
  let (text, rest) ← collect? (cs.length + 1) 0 cs
  return (front ++ text, rest)

def set? (r : Reader) (text : List Char) : Option CharSet :=
  match Bracket.read ⟨false, r.wide⟩ text with
  | .ok (set, []) => some set
  | _ => none

/-! Pieces. -/

def literal (r : Reader) (c : Char) : Regex :=
  .one r.flags.anyCase (.bracketed false (.single c))

def escape? (r : Reader) (cs : List Char) : Option (Reader × List Char) :=
  match cs, anchor? cs, classText? cs with
  | _, some (a, rest), _ => r.complete? false (.anchor a) rest
  | _, none, some (text, rest) => do
    let set ← r.set? (text ++ [']'])
    r.complete? true (.one r.flags.anyCase set) rest
  | 'k' :: '\'' :: rest, none, none => do
    let (item, rest) ← r.referred? '\'' rest
    r.complete? true item rest
  | 'k' :: '<' :: rest, none, none => do
    let (item, rest) ← r.referred? '>' rest
    r.complete? true item rest
  | 'K' :: rest, none, none => r.complete? true (.seq .empty .empty) rest
  | 'G' :: rest, none, none => r.complete? true (.seq (.anchor .textStart) .empty) rest
  | c :: rest, none, none =>
    if c.isDigit then do
      let (r, item, rest) ← r.numbered? (c :: rest)
      r.complete? true item rest
    else do
      let (c, rest) ← literal? false (c :: rest)
      r.complete? true (r.literal c) rest
  | [], none, none => none

/-- Opens a group. Groups may nest 63 deep. -/
def enter? (r : Reader) (kind : GroupKind) (cs : List Char) : Option (Reader × List Char) :=
  if 63 ≤ r.outer.length then none
  else some ({ r with innermost := { kind }, outer := r.innermost :: r.outer }, cs)

def capture? (r : Reader) (name : Option String) (cs : List Char) : Option (Reader × List Char) :=
  let group := r.groups + 1
  let names := match name with
    | some name => (name, group) :: r.names
    | none => r.names
  { r with groups := group, names }.enter? (.capture group) cs

def flag? (flags : Flags) (value : Bool) : Char → Option Flags
  | 'i' => some { flags with anyCase := value }
  | 'm' => some { flags with lines := value }
  | 's' => some { flags with dotAll := value }
  | 'U' => some { flags with swapLazy := value }
  | 'x' => some { flags with blanks := value }
  | 'u' => if value then some flags else none
  | _ => none

/-- Reads flags up to the mark that ends them. The fuel bounds their number, `read` counts the marks
so far, and a dash turns the rest off. -/
def flags? : Nat → Flags → Bool → Nat → List Char → Option (Flags × Bool × Nat × List Char)
  | 0, _, _, _, _ => none
  | fuel + 1, flags, off, read, cs => do
    match (← skipGap? flags.blanks .clear cs) with
    | '-' :: rest => if off then none else flags? fuel flags true (read + 1) rest
    | ')' :: rest => return (flags, off, read, ')' :: rest)
    | ':' :: rest => return (flags, off, read, ':' :: rest)
    | c :: rest => flags? fuel (← flag? flags (!off) c) off (read + 1) rest
    | [] => none

def flagged? (r : Reader) (cs : List Char) : Option (Reader × List Char) := do
  let (flags, off, read, rest) ← flags? (cs.length + 1) r.flags false 0 cs
  let bare := off && read = 1
  match rest with
  | ')' :: rest =>
    if read = 0 || bare then none
    { r with flags }.complete? false .empty rest
  | ':' :: rest =>
    if bare then none
    { r with flags }.enter? (.flagged r.flags) rest
  | _ => none

def conditional? (r : Reader) (cs : List Char) : Option (Reader × List Char) := do
  let (r, item, rest) ← match cs with
    | '\'' :: rest => (r.referred? '\'' rest).map fun (item, rest) => (r, item, rest)
    | '<' :: rest => (r.referred? '>' rest).map fun (item, rest) => (r, item, rest)
    | c :: _ => if c.isDigit then r.numbered? cs else pure (r, .empty, [])
    | [] => none
  match item with
  | .again group =>
    match (← r.skip? rest) with
    | ')' :: rest => r.enter? (.choice (.entered group)) rest
    | _ => none
  | _ => r.enter? .condition cs

def group? (r : Reader) (cs : List Char) : Option (Reader × List Char) := do
  match (← r.skip? cs) with
  | '?' :: '=' :: rest => r.enter? (.ahead false) rest
  | '?' :: '!' :: rest => r.enter? (.ahead true) rest
  | '?' :: '<' :: '=' :: rest => r.enter? (.behind false) rest
  | '?' :: '<' :: '!' :: rest => r.enter? (.behind true) rest
  | '?' :: '<' :: rest | '?' :: 'P' :: '<' :: rest => do
    let (name, rest) ← name? '>' rest
    r.capture? (some name) rest
  | '?' :: 'P' :: '=' :: rest => do
    let (item, rest) ← r.referred? ')' rest
    r.complete? true item rest
  | '?' :: '>' :: rest => r.enter? .atomic rest
  | '?' :: '(' :: rest => r.conditional? rest
  | '?' :: rest => r.flagged? rest
  | rest => r.capture? none rest

/-- The expression of the group at hand. Without alternatives it is an error to have referred to a
group by its number while groups have names. -/
def body? (r : Reader) : Option Regex :=
  let last := sequence r.innermost.items.reverse
  match r.innermost.branches with
  | [] => if r.numbered && !r.names.isEmpty then none else some last
  | branches => some (anyOf (last :: branches).reverse)

/-- What a choice takes when its condition holds, and what otherwise. -/
def waysOf : Regex → Regex × Regex
  | .either yes no => (yes, no)
  | yes => (yes, .empty)

def choice? (condition body : Regex) : Option Regex :=
  match waysOf body, condition with
  | (.empty, .empty), .entered group => some (.entered group)
  | (.empty, .empty), _ => none
  | (yes, no), condition => some (.choice condition yes no)

def leave? (r : Reader) (cs : List Char) : Option (Reader × List Char) := do
  let body ← r.body?
  match r.outer with
  | [] => none
  | innermost :: outer =>
    let around := { r with innermost, outer }
    match r.innermost.kind with
    | .capture group => around.complete? true (.capture group body) cs
    | .flagged flags =>
      let repeatable := match body with
        | .empty | .anchor _ | .ahead .. | .behind .. => false
        | _ => true
      { around with flags }.complete? repeatable body cs
    | .ahead negated => around.complete? false (.ahead negated body) cs
    | .behind negated => around.complete? false (← behind? negated body) cs
    | .atomic => around.complete? true (.atomic body) cs
    | .condition =>
      let condition := match body with
        | .again group => .entered group
        | body => body
      around.enter? (.choice condition) cs
    | .choice condition => around.complete? true (← choice? condition body) cs

def branch (r : Reader) : Reader :=
  let g := r.innermost
  { r with innermost :=
    { g with branches := sequence g.items.reverse :: g.branches, items := [] } }

def step? (r : Reader) : List Char → Option (Reader × List Char)
  | [] => none
  | '.' :: rest =>
    r.complete? true (.one false (if r.flags.dotAll then .everything else .noLineFeed)) rest
  | '^' :: rest =>
    r.complete? false (.anchor (if r.flags.lines then .lineStart else .textStart)) rest
  | '$' :: rest => r.complete? false (.anchor (if r.flags.lines then .lineEnd else .textEnd)) rest
  | '(' :: rest => r.group? rest
  | ')' :: rest => r.leave? rest
  | '|' :: rest => some (r.branch, rest)
  | '\\' :: rest => r.escape? rest
  | '[' :: rest => do
    let (text, rest) ← bracketText? rest
    r.complete? true (.one r.flags.anyCase (← r.set? text)) rest
  | c :: rest => if ['+', '*', '?'].contains c then none else r.complete? true (r.literal c) rest

def run? : Nat → Reader → List Char → Option Regex
  | 0, _, _ => none
  | fuel + 1, r, cs => do
    match (← r.skip? cs) with
    | [] => if r.outer.isEmpty then r.body? else none
    | cs =>
      let (r, cs) ← r.step? cs
      run? fuel r cs

end Reader

def parse? (text : String) : Option Regex := do
  let (wide, cs) ← Plain.settle (text.length + 1) text.toList
  let bytes := (String.ofList cs).utf8ByteSize
  let r : Reader := { wide, bytes, innermost := { kind := .atomic } }
  r.run? (2 * cs.length + 2) cs

end DocumentMigration.Regex
