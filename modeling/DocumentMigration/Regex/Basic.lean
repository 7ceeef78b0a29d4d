import DocumentMigration.Regex.CharSet

/-!
Regular expressions: sets of characters, sequences, alternatives and repetitions, and what looks at
the text around a place or at what a group has taken.
-/
namespace DocumentMigration

inductive Anchor where
  | textStart
  | textEnd
  | lineStart
  | lineEnd
  | wordBoundary
  | noWordBoundary
  | wordStart
  | wordEnd
  /-- No word character comes before. -/
  | wordStartHalf
  /-- No word character comes after. -/
  | wordEndHalf

inductive Regex where
  | empty
  | one (anyCase : Bool) (set : CharSet)
  | seq (a b : Regex)
  | either (a b : Regex)
  /-- A lazy repetition prefers fewer rounds. -/
  | times (r : Regex) (least : Nat) (most : Option Nat) (isLazy : Bool)
  | anchor (a : Anchor)
  | capture (group : Nat) (r : Regex)
  /-- The text of a group once more. -/
  | again (group : Nat)
  | ahead (negated : Bool) (r : Regex)
  /-- Looks at the `width` characters before a place. -/
  | behind (negated : Bool) (width : Nat) (r : Regex)
  /-- Settles for the preferred way to match. -/
  | atomic (r : Regex)
  /-- Whether a group has begun. -/
  | entered (group : Nat)
  /-- Takes a condition and then the first way, or the second way where the condition fails. -/
  | choice (condition yes no : Regex)

namespace Regex

/-- How many characters every match takes, where that is the same for all of them. -/
def width? : Regex → Option Nat
  | .empty | .anchor _ | .ahead .. | .behind .. | .entered _ => some 0
  | .one .. => some 1
  | .seq a b => do return (← width? a) + (← width? b)
  | .either a b => do
    let m ← width? a
    let n ← width? b
    if m = n then some m else none
  | .times r least most _ => do
    let n ← width? r
    if most = some least then some (least * n) else none
  | .capture _ r => width? r
  | .again _ => none
  | .atomic r => width? r
  | .choice condition yes no => do
    let m ← width? yes
    let n ← width? no
    let k ← width? condition
    if m = n then some (k + m) else none

def alternatives : Regex → List Regex
  | .either a b => a :: alternatives b
  | r => [r]

/-- An expression that does not show its alternatives to the one around it. -/
def enclosed : Regex → Regex
  | .either a b => .seq (.either a b) .empty
  | r => r

def sequence : List Regex → Regex
  | [] => .empty
  | [r] => r
  | r :: rest => .seq r (sequence rest)

/-- One of several branches; each of them stays one alternative. -/
def anyOf : List Regex → Regex
  | [] => .empty
  | [r] => r.enclosed
  | r :: rest => .either r.enclosed (anyOf rest)

def fixedBehind? (negated : Bool) (r : Regex) : Option Regex :=
  (width? r).map fun width => .behind negated width r

/-- Looking back needs a fixed width, of the whole or of each alternative by itself. -/
def behind? (negated : Bool) (r : Regex) : Option Regex :=
  match fixedBehind? negated r with
  | some r => some r
  | none =>
    if (alternatives r).length = 1 then none else do
      let parts ← (alternatives r).mapM (fixedBehind? negated)
      return enclosed (if negated then sequence parts else anyOf parts)

def references : Regex → List Nat
  | .empty | .one .. | .anchor _ => []
  | .seq a b | .either a b => references a ++ references b
  | .times r .. | .capture _ r | .ahead _ r | .behind _ _ r | .atomic r => references r
  | .again group | .entered group => [group]
  | .choice condition yes no => references condition ++ references yes ++ references no

/-- Keeps the groups of a list alone; the others have no influence. -/
def keepGroups (groups : List Nat) : Regex → Regex
  | .seq a b => .seq (keepGroups groups a) (keepGroups groups b)
  | .either a b => .either (keepGroups groups a) (keepGroups groups b)
  | .times r least most isLazy => .times (keepGroups groups r) least most isLazy
  | .capture group r =>
    if groups.contains group then .capture group (keepGroups groups r) else keepGroups groups r
  | .ahead negated r => .ahead negated (keepGroups groups r)
  | .behind negated width r => .behind negated width (keepGroups groups r)
  | .atomic r => .atomic (keepGroups groups r)
  | .choice condition yes no =>
    .choice (keepGroups groups condition) (keepGroups groups yes) (keepGroups groups no)
  | r => r

end Regex
end DocumentMigration
