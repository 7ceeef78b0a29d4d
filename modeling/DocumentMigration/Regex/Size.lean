import DocumentMigration.Regex.Basic
import DocumentMigration.Text.Changes

/-!
How many bytes an automaton for an expression takes. Expressions are spelled out: every round that a
repetition allows has states of its own, and a set takes states for the UTF-8 bytes of its members.
Parts that look around or refer to groups have no automaton; the parts beside and inside of them
have one each, unless something foreign comes after them.
-/
namespace DocumentMigration

open Text (Changes Property)

def Shorthand.changes : Shorthand → Changes
  | .digit => Property.ofCategories [.nd]
  | .blank => ((Property.ofName? "space").getD .any).changes
  | .word =>
    .union (.union (Property.ofCategories [.mn, .mc, .me, .nd, .pc]) Property.alphabetic.changes)
      (.ofRange 0x200C 0x200D)

namespace CharSet

def changes : CharSet → Changes
  | .empty => []
  | .range first last => .ofRange first.toNat last.toNat
  | .property p => p.changes
  | .wide shorthand => shorthand.changes
  | .union a b => .union (changes a) (changes b)
  | .combined operation a b => .combine operation.apply (changes a) (changes b)
  | .bracketed negated members => if negated then (changes members).complement else changes members

end CharSet

namespace Regex.Size

/-! Bytes of a state without its transitions, of a transition on a range of bytes, and of one on
nothing. -/

def state : Nat := 32

def transition : Nat := 8

def branch : Nat := 4

/-- One range of bytes for every byte of a character. -/
abbrev Piece := List (Nat × Nat)

/-- Where the code points behind the first may need a range of their own: where the number of bytes
grows, and where a range of trailing bytes is not full. -/
def cut? (first last : Nat) : Option Nat :=
  match [0x80, 0x800, 0x10000].find? fun m => first < m ∧ m ≤ last with
  | some m => some m
  | none =>
    if last < 0x80 then none else
      [0x40, 0x1000, 0x40000].findSome? fun unit =>
        if first / unit = last / unit then none
        else if first % unit ≠ 0 then some ((first / unit + 1) * unit)
        else if last % unit ≠ unit - 1 then some (last / unit * unit)
        else none

def bytes (n : Nat) : List Nat := (String.utf8EncodeChar (Char.ofNat n)).map UInt8.toNat

/-- The pieces of a range of code points, in ascending order. The fuel bounds how often the range is
cut. -/
def pieces : Nat → Nat → Nat → List Piece
  | 0, _, _ => []
  | fuel + 1, first, last =>
    if last < first then []
    else if first < 0xE000 ∧ 0xD7FF < last then
      pieces fuel first 0xD7FF ++ pieces fuel 0xE000 last
    else match cut? first last with
      | some m => pieces fuel first (m - 1) ++ pieces fuel m last
      | none => [(bytes first).zip (bytes last)]

def shared : Piece → Piece → Nat
  | a :: p, b :: q => if a = b then shared p q + 1 else 0
  | _, _ => 0

def states : Piece → List Piece → Nat
  | _, [] => 0
  | before, p :: rest => p.length - shared before p + states p rest

/-- A set in an automaton that reads backwards. Forwards the pieces share their ends as well, which
saves about half. -/
def set (backwards : Bool) (s : CharSet) : Nat :=
  let ranges := s.changes.ranges
  if ranges.all (·.2 < 0x80) then 2 * state + transition * ranges.length
  else
    let all := ranges.flatMap fun (first, last) => pieces 32 first last
    let size := 2 * state + branch * all.length + state * states [] all
    if backwards then size else size / 2

def single? : CharSet → Option Char
  | .bracketed false (.range first last) => if first = last then some first else none
  | _ => none

def one (backwards anyCase : Bool) (s : CharSet) : Nat :=
  match anyCase, single? s with
  | false, some c => state * c.utf8Size
  | _, _ => set backwards s

def joined? : Regex → Option CharSet
  | .one _ s => some s
  | .either a b => do return .union (← joined? a) (← joined? b)
  | _ => none

def rounds (size least : Nat) : Option Nat → Nat
  | none => max least 1 * size + state + 2 * branch
  | some most =>
    if least = most then max (least * size) state
    else state + least * size + (most - least) * (size + state + 2 * branch)

/-- The size of an expression in an automaton that reads forwards or backwards. Only forwards the
groups count. What takes no text is not repeated. -/
def of (backwards : Bool) : Regex → Nat
  | .one anyCase s => one backwards anyCase s
  | .seq a b => of backwards a + of backwards b
  | .either a b =>
    match joined? (.either a b) with
    | some s => set backwards s
    | none => 2 * state + 2 * branch + of backwards a + of backwards b
  | .times r least most _ =>
    if width? r = some 0 then rounds (of backwards r) (min least 1) (some 1)
    else rounds (of backwards r) least most
  | .capture _ r => of backwards r + if backwards then 0 else 2 * state
  | .empty | .anchor _ => state
  | .again _ | .ahead .. | .behind .. | .atomic _ | .entered _ | .choice .. => 0

def isSimple : Regex → Bool
  | .empty | .one .. | .anchor _ => true
  | .seq a b | .either a b => isSimple a && isSimple b
  | .times r .. | .capture _ r => isSimple r
  | .again _ | .ahead .. | .behind .. | .atomic _ | .entered _ | .choice .. => false

def fits (r : Regex) : Bool := max (of false r) (of true r) ≤ 10 * 2 ^ (20 : Nat)

end Size

/-- Whether all automata of the expression have a size that is fine. In front of something foreign,
only what has a fixed width at the beginning has an automaton. -/
def isCompact (inFront : Bool) (r : Regex) : Bool :=
  if !inFront && Size.isSimple r then Size.fits r else
    match r with
    | .seq a b =>
      if Size.isSimple a && (width? a).isSome then Size.fits a && isCompact inFront b
      else isCompact true a && isCompact inFront b
    | .either a b => isCompact inFront a && isCompact inFront b
    | .times r .. => isCompact true r
    | .capture _ r => isCompact inFront r
    | .ahead _ r | .behind _ _ r | .atomic r => isCompact false r
    | .choice condition yes no =>
      isCompact inFront condition && isCompact inFront yes && isCompact inFront no
    | .empty | .one .. | .anchor _ | .again _ | .entered _ => true

end Regex
end DocumentMigration
