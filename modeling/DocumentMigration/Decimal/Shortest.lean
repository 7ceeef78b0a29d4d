import DocumentMigration.Decimal.Binary64

/-!
The shortest decimal that reads back as a given finite number, and its text. Every candidate is
checked by reading it, and the exact expansion stands behind the candidates, so the text always
reads back.
-/
namespace DocumentMigration.Binary64

def digitCount (n : Nat) : Nat := (Nat.toDigits 10 n).length

structure Decimal where
  digits : Nat
  exponent : Int
deriving DecidableEq

/-- The exact expansion: a power of two below the point is a power of five over one of ten. -/
def exactDecimal (x : Binary64) : Decimal :=
  if 0 ≤ x.exponent then ⟨x.significand * 2 ^ x.exponent.toNat, 0⟩
  else ⟨x.significand * 5 ^ (-x.exponent).toNat, x.exponent⟩

def Decimal.readsAs (d : Decimal) (x : Binary64) : Bool :=
  ofDecimal x.negative d.digits d.exponent = some x

/-- The neighbours of the exact expansion with `n` significant digits, the nearer one first and an
even last digit first on a tie. -/
def neighbours (exact : Decimal) (n : Nat) : List Decimal :=
  let drop := digitCount exact.digits - n
  let unit := 10 ^ drop
  let low := exact.digits / unit
  let rest := exact.digits % unit
  let scaled (d : Nat) : Decimal := ⟨d, exact.exponent + drop⟩
  if rest = 0 then [scaled low]
  else if 2 * rest < unit ∨ (2 * rest = unit ∧ low % 2 = 0) then [scaled low, scaled (low + 1)]
  else [scaled (low + 1), scaled low]

/-- The first width with a neighbour that reads back decides. -/
def shortest (x : Binary64) : Decimal :=
  let exact := x.exactDecimal
  let candidates := (List.range 17).flatMap fun n => neighbours exact (n + 1)
  (candidates.find? (·.readsAs x)).getD exact

/-- Digits without the zeros at the end, and the power of ten just above the first digit. -/
def Decimal.normal (d : Decimal) : List Char × Int :=
  let digits := Nat.toDigits 10 d.digits
  let kept := (digits.reverse.dropWhile (· = '0')).reverse
  (kept, digits.length + d.exponent)

/-- Positional from a decimal exponent of -5 up to 15, with at least one digit on each side of the
point; scientific elsewhere, with the sign of the exponent always written. -/
def layout (digits : List Char) (point : Int) : List Char :=
  if point - 1 < -5 ∨ 16 ≤ point - 1 then
    let mantissa := match digits with
      | [] => ['0']
      | [d] => [d]
      | d :: rest => d :: '.' :: rest
    let sign := if point - 1 < 0 then '-' else '+'
    mantissa ++ 'e' :: sign :: Nat.toDigits 10 (point - 1).natAbs
  else if point ≤ 0 then
    '0' :: '.' :: (List.replicate (-point).toNat '0' ++ digits)
  else if digits.length ≤ point.toNat then
    digits ++ List.replicate (point.toNat - digits.length) '0' ++ ['.', '0']
  else
    digits.take point.toNat ++ '.' :: digits.drop point.toNat

def text (x : Binary64) : List Char :=
  let body := if x.isZero then ['0', '.', '0'] else
    let (digits, point) := x.shortest.normal
    layout digits point
  if x.negative then '-' :: body else body

end DocumentMigration.Binary64
