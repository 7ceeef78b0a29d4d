import DocumentMigration.Decimal.Shortest

/-!
JSON numbers: integers of up to 64 bits, signed or unsigned, kept apart from 64-bit floats. The
spelling of a literal decides which of the two it denotes.
-/
namespace DocumentMigration.Json

inductive Number where
  | integer (value : Int) (range : -2 ^ (63 : Nat) ≤ value ∧ value < 2 ^ (64 : Nat))
  | float (value : Binary64)
deriving DecidableEq

namespace Number

def ofNat (n : Nat) (h : n < 2 ^ (64 : Nat) := by decide) : Number := .integer n (by omega)

def ofInt? (i : Int) : Option Number :=
  if h : -2 ^ (63 : Nat) ≤ i ∧ i < 2 ^ (64 : Nat) then some (.integer i h) else none

/-- An integer never equals a float, and the two float zeros are equal. -/
def equal : Number → Number → Bool
  | .integer a _, .integer b _ => a = b
  | .float a, .float b => a.equal b
  | _, _ => false

def text : Number → List Char
  | .integer (.ofNat n) _ => Nat.toDigits 10 n
  | .integer (.negSucc n) _ => '-' :: Nat.toDigits 10 (n + 1)
  | .float x => x.text

/-- A literal split at its marks; an absent fraction or exponent differs from an empty one. -/
structure Literal where
  negative : Bool
  whole : List Char
  fraction : Option (List Char)
  exponent : Option (Bool × List Char)

/-- The digits without the point. -/
def Literal.digits (l : Literal) : List Char := l.whole ++ l.fraction.getD []

def digitsValue (digits : List Char) : Nat :=
  digits.foldl (fun n c => 10 * n + (c.toNat - '0'.toNat)) 0

def Literal.exponentValue (l : Literal) : Int :=
  match l.exponent with
  | none => 0
  | some (true, e) => -(digitsValue e : Int)
  | some (false, e) => digitsValue e

end Number

/-- How a literal that is no integer is read as a float. A reader may round more than once on the
way, and it may refuse the literal. -/
class FloatReader where
  read : Number.Literal → Option Binary64

/-- Reads the float that is nearest; none when that overflows. -/
@[reducible]
def FloatReader.exact : FloatReader where
  read l := Binary64.ofDecimal l.negative (Number.digitsValue l.digits)
    (l.exponentValue - (l.fraction.getD []).length)

namespace Number

/-- A literal with neither fraction nor exponent that fits 64 bits is an integer, except `-0`. Every
other one is a float. -/
def ofLiteral [FloatReader] (l : Literal) : Option Number :=
  let whole := digitsValue l.whole
  let integer := match l.fraction, l.exponent with
    | none, none =>
      if l.negative then (if whole = 0 then none else ofInt? (-(whole : Int)))
      else ofInt? whole
    | _, _ => none
  match integer with
  | some n => some n
  | none => (FloatReader.read l).map .float

/-- Numerator and denominator of the value, so that integers and floats can be compared. -/
def ratio : Number → Int × Nat
  | .integer i _ => (i, 1)
  | .float x =>
    let (num, den) := x.ratio
    (if x.negative then -(num : Int) else num, den)

/-- Order by mathematical value. -/
def le (a b : Number) : Bool :=
  let (n, d) := a.ratio
  let (m, e) := b.ratio
  n * e ≤ m * d

def lt (a b : Number) : Bool := !le b a

def sameValue (a b : Number) : Bool := le a b && le b a

/-- Whether the mathematical value is whole, as that of `1.0` is. -/
def isWhole (a : Number) : Bool :=
  let (n, d) := a.ratio
  n % d = 0

end Number
end DocumentMigration.Json
