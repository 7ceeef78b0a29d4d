/-!
Finite 64-bit binary floating-point numbers, held as a sign and the 63 bits below it. A decimal is
rounded to the nearest of them in exact natural-number arithmetic; no machine float is involved.
-/
namespace DocumentMigration

-- A power of naturals is the core library's in every module, also beside the algebraic hierarchy's
-- instances. Its exponent has to have a known type, or a default instance decides before this one.
attribute [scoped instance (high)] instPowNat

/-- The least magnitude that no longer denotes a finite number. -/
def Binary64.infinity : Nat := 2047 * 2 ^ (52 : Nat)

/-- The magnitude orders the absolute values: exponent field above, fraction below. -/
structure Binary64 where
  negative : Bool
  magnitude : Nat
  finite : magnitude < Binary64.infinity
deriving DecidableEq

namespace Binary64

def zero : Binary64 := ⟨false, 0, by decide⟩

def isZero (x : Binary64) : Bool := x.magnitude = 0

def significand (x : Binary64) : Nat :=
  if x.magnitude / 2 ^ (52 : Nat) = 0 then x.magnitude % 2 ^ (52 : Nat)
  else 2 ^ (52 : Nat) + x.magnitude % 2 ^ (52 : Nat)

def exponent (x : Binary64) : Int :=
  if x.magnitude / 2 ^ (52 : Nat) = 0 then -1074 else (x.magnitude / 2 ^ (52 : Nat) : Nat) - 1075

/-- The quotient rounded to the nearest integer, a half to the even neighbour. -/
def roundDiv (num den : Nat) : Nat :=
  let low := num / den
  let rest := num % den
  if 2 * rest < den then low
  else if den < 2 * rest then low + 1
  else low + low % 2

/-- The exponent at which `num / den` has a 53-bit significand, never below the subnormal one. -/
def scale (num den : Nat) : Int :=
  let guess : Int := (num.log2 : Int) - den.log2 - 52
  let fits := if 0 ≤ guess then den * 2 ^ (52 + guess.toNat) ≤ num
    else den * 2 ^ (52 : Nat) ≤ num * 2 ^ (-guess).toNat
  max (if fits then guess else guess - 1) (-1074)

/-- The magnitude nearest to `num / den`; from `infinity` on the quotient is too large. -/
def magnitudeOfRatio (num den : Nat) : Nat :=
  if num = 0 then 0 else
    let q := scale num den
    let significand := if 0 ≤ q then roundDiv num (den * 2 ^ q.toNat)
      else roundDiv (num * 2 ^ (-q).toNat) den
    (q + 1074).toNat * 2 ^ (52 : Nat) + significand

/-- The magnitude nearest to `digits * 10 ^ exponent`. Ten bits are more than three places and three
bits are less than one, so far beyond the range the answer is known without computing the power. -/
def magnitudeOfDecimal (digits : Nat) (exponent : Int) : Nat :=
  let bits := digits.log2
  if digits = 0 then 0
  else if 309 ≤ (3 * (bits / 10) : Nat) + exponent then infinity
  else if (bits / 3 + 1 : Nat) + exponent ≤ -325 then 0
  else if 0 ≤ exponent then magnitudeOfRatio (digits * 10 ^ exponent.toNat) 1
  else magnitudeOfRatio digits (10 ^ (-exponent).toNat)

def ofDecimal (negative : Bool) (digits : Nat) (exponent : Int) : Option Binary64 :=
  let magnitude := magnitudeOfDecimal digits exponent
  if h : magnitude < infinity then some ⟨negative, magnitude, h⟩ else none

def ratio (x : Binary64) : Nat × Nat :=
  if 0 ≤ x.exponent then (x.significand * 2 ^ x.exponent.toNat, 1)
  else (x.significand, 2 ^ (-x.exponent).toNat)

def equal (x y : Binary64) : Bool :=
  x.magnitude = y.magnitude && (x.negative = y.negative || x.magnitude = 0)

end Binary64
end DocumentMigration
