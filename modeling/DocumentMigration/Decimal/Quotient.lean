import DocumentMigration.Json.Number

/-!
Comparing numbers as 64-bit floats do it: whether one divides another, and whether two are near. The
quotient by a divisor that is not whole is rounded first, and what is left of it behind the point
decides. A negative rest always passes.
-/
namespace DocumentMigration.Binary64

open Json

def ofNumber : Number → Binary64
  | .float x => x
  | .integer i _ =>
    let magnitude := magnitudeOfRatio i.natAbs 1
    if h : magnitude < infinity then ⟨i < 0, magnitude, h⟩ else zero

def isWhole (x : Binary64) : Bool := x.ratio.1 % x.ratio.2 = 0

/-- The rounded quotient of the absolute values; none when it is not finite. -/
def quotient? (x y : Binary64) : Option Binary64 :=
  if y.isZero then none else
    let (a, b) := x.ratio
    let (c, d) := y.ratio
    let magnitude := magnitudeOfRatio (a * d) (b * c)
    if h : magnitude < infinity then some ⟨x.negative != y.negative, magnitude, h⟩ else none

def decimalMultiple (x y : Binary64) : Bool :=
  let a := x.shortest
  let b := y.shortest
  let shift := a.exponent - b.exponent
  (a.digits * 10 ^ shift.toNat) % (b.digits * 10 ^ (-shift).toNat) = 0

def wholeMultiple (x divisor : Binary64) : Bool :=
  x.isWhole && (x.ratio.1 * divisor.ratio.2) % (divisor.ratio.1 * x.ratio.2) = 0

def isNear (x y : Binary64) : Bool :=
  let (a, b) := x.ratio
  let (c, d) := y.ratio
  let left : Int := (a * d : Nat)
  let right : Int := (c * b : Nat)
  let distance := if x.negative = y.negative then left - right else left + right
  magnitudeOfRatio distance.natAbs (b * d) < 971 * 2 ^ (52 : Nat)

/-- Divisibility by any divisor: the rest of the rounded quotient lies below the unit in the last
place of one. -/
def floatMultiple (x divisor : Binary64) : Bool :=
  match quotient? x divisor with
  | none => decimalMultiple x divisor
  | some q =>
    let (num, den) := q.ratio
    let rest := num % den
    rest = 0 || q.negative || rest * 2 ^ (52 : Nat) < den

/-- All digits in front of the point and behind it, without an exponent or an empty fraction. -/
def plainText (x : Binary64) : List Char :=
  if x.isZero then ['0'] else
    let (digits, point) := x.shortest.normal
    let body :=
      if point ≤ 0 then '0' :: '.' :: (List.replicate (-point).toNat '0' ++ digits)
      else if digits.length ≤ point.toNat then
        digits ++ List.replicate (point.toNat - digits.length) '0'
      else digits.take point.toNat ++ '.' :: digits.drop point.toNat
    if x.negative then '-' :: body else body

end DocumentMigration.Binary64
