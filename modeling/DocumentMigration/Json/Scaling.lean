import DocumentMigration.Decimal.Quotient

/-!
Reading floats without their exact value. As many digits as fit 64 bits are rounded to a float,
which is multiplied with a power of ten or divided by one. Each of these steps rounds again, so that
a decimal may be read as a neighbour of the nearest float.
-/
namespace DocumentMigration

namespace Binary64

def product? (x y : Binary64) : Option Binary64 :=
  let (a, b) := x.ratio
  let (c, d) := y.ratio
  let magnitude := magnitudeOfRatio (a * c) (b * d)
  if h : magnitude < infinity then some ⟨x.negative != y.negative, magnitude, h⟩ else none

def powerOfTen? (k : Nat) : Option Binary64 := ofDecimal false 1 k

def timesPower? (x : Binary64) (k : Nat) : Option Binary64 :=
  if x.isZero then some x else powerOfTen? k >>= x.product?

/-- A power that is no float is divided by in several steps. -/
def overPower? (x : Binary64) (k : Nat) : Option Binary64 :=
  if k ≤ 308 then powerOfTen? k >>= x.quotient?
  else if x.isZero then some x
  else powerOfTen? 308 >>= x.quotient? >>= (overPower? · (k - 308))
termination_by k
decreasing_by omega

end Binary64

namespace Json

open Number

/-- Takes digits as long as the number fits 64 bits; what is left over are those after it. -/
def takeDigits (n : Nat) : List Char → Nat × List Char
  | [] => (n, [])
  | c :: rest =>
    let next := 10 * n + (c.toNat - '0'.toNat)
    if next < 2 ^ (64 : Nat) then takeDigits next rest else (n, c :: rest)

/-- Digits that are left over in front of the point count as zeros. -/
@[reducible]
def FloatReader.scaling : FloatReader where
  read l :=
    let fraction := l.fraction.getD []
    let (whole, dropped) := takeDigits 0 l.whole
    let (significand, unread) := takeDigits whole fraction
    let exponent := l.exponentValue + dropped.length - (fraction.length - unread.length : Nat)
    do
      let x ← Binary64.ofDecimal l.negative significand 0
      if 0 ≤ exponent then x.timesPower? exponent.toNat else x.overPower? (-exponent).toNat

end Json
end DocumentMigration
