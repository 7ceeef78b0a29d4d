import DocumentMigration.Text.Fold
import DocumentMigration.Text.Property

/-!
Sets of characters as classes write them: ranges, properties, unions, and operations between unions.
When case does not matter, a set holds every form of the letters in it. That closure is taken before
a set is negated and before an operation combines two sets.
-/
namespace DocumentMigration

open Text (Property)

inductive SetOperation where
  | intersection
  | difference
  | symmetricDifference

def SetOperation.apply : SetOperation → Bool → Bool → Bool
  | .intersection, a, b => a && b
  | .difference, a, b => a && !b
  | .symmetricDifference, a, b => a != b

/-- Sets that a backslash and a letter stand for. -/
inductive Shorthand where
  | digit
  | blank
  | word

inductive CharSet where
  | empty
  | range (first last : Char)
  | property (property : Property)
  /-- A shorthand over all of Unicode. -/
  | wide (shorthand : Shorthand)
  | union (a b : CharSet)
  | combined (operation : SetOperation) (a b : CharSet)
  | bracketed (negated : Bool) (members : CharSet)

namespace Shorthand

def contains : Shorthand → Char → Bool
  | .digit, c => Text.Category.of c = .nd
  | .blank, c => Text.isBlank c
  | .word, c => Text.isWordChar c

end Shorthand

namespace CharSet

def single (c : Char) : CharSet := .range c c

def ofRanges (ranges : List (Char × Char)) : CharSet :=
  ranges.foldl (fun s (first, last) => .union s (.range first last)) .empty

/-- The characters that count as `c`. -/
def forms (anyCase : Bool) (c : Char) : List Char := if anyCase then Text.caseForms c else [c]

def contains (anyCase : Bool) : CharSet → Char → Bool
  | .empty, _ => false
  | .range first last, c => first ≤ c && c ≤ last
  | .property p, c => p.contains c
  | .wide shorthand, c => shorthand.contains c
  | .union a b, c => contains anyCase a c || contains anyCase b c
  | .combined operation a b, c =>
    operation.apply ((forms anyCase c).any (contains anyCase a))
      ((forms anyCase c).any (contains anyCase b))
  | .bracketed negated members, c => negated != (forms anyCase c).any (contains anyCase members)

/-- Shorthands over ASCII alone, apart from a few more blanks. -/
def narrow : Shorthand → CharSet
  | .digit => .range '0' '9'
  | .blank => ofRanges [('\t', '\r'), (' ', ' '), ('\u00a0', '\u00a0'), ('\u2003', '\u2003'),
      ('\u2029', '\u2029'), ('\ufeff', '\ufeff')]
  | .word => ofRanges [('0', '9'), ('A', 'Z'), ('_', '_'), ('a', 'z')]

def ofShorthand (wide : Bool) (shorthand : Shorthand) (negated : Bool) : CharSet :=
  .bracketed negated (if wide then .wide shorthand else narrow shorthand)

/-- The ASCII classes with a name of their own. -/
def ofAsciiName? (name : String) : Option CharSet :=
  match name with
  | "alnum" => some (ofRanges [('0', '9'), ('A', 'Z'), ('a', 'z')])
  | "alpha" => some (ofRanges [('A', 'Z'), ('a', 'z')])
  | "ascii" => some (.range '\x00' '\x7f')
  | "blank" => some (ofRanges [('\t', '\t'), (' ', ' ')])
  | "cntrl" => some (ofRanges [('\x00', '\x1f'), ('\x7f', '\x7f')])
  | "digit" => some (.range '0' '9')
  | "graph" => some (.range '!' '~')
  | "lower" => some (.range 'a' 'z')
  | "print" => some (.range ' ' '~')
  | "punct" => some (ofRanges [('!', '/'), (':', '@'), ('[', '\x60'), ('\x7b', '~')])
  | "space" => some (ofRanges [('\t', '\r'), (' ', ' ')])
  | "upper" => some (.range 'A' 'Z')
  | "word" => some (ofRanges [('0', '9'), ('A', 'Z'), ('_', '_'), ('a', 'z')])
  | "xdigit" => some (ofRanges [('0', '9'), ('A', 'F'), ('a', 'f')])
  | _ => none

/-- Any character but a line feed. -/
def noLineFeed : CharSet := .bracketed true (single '\n')

def everything : CharSet := .bracketed true .empty

end CharSet
end DocumentMigration
