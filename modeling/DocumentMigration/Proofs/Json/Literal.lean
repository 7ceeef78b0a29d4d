import DocumentMigration.Json.Token
import Mathlib.Data.List.TakeDrop

/-! Number literals: the digits of a number give its value, and the text of a literal is read as
that literal wherever no further character of a number follows. -/
namespace DocumentMigration.Json

namespace Number

variable {xs ys : List Char}

theorem digitsValue_eq (digits : List Char) : digitsValue digits = Nat.ofDigitChars 10 digits 0 :=
  Nat.ofDigitChars_eq_foldl.symm

theorem digitsValue_append :
    digitsValue (xs ++ ys) = digitsValue xs * 10 ^ ys.length + digitsValue ys := by
  simp only [digitsValue_eq, Nat.ofDigitChars_append]
  rw [Nat.ofDigitChars_eq_ofDigitChars_zero, Nat.mul_comm]

@[simp] theorem digitsValue_zeros (n : Nat) : digitsValue (List.replicate n '0') = 0 := by
  simp [digitsValue_eq]

@[simp] theorem digitsValue_toDigits (n : Nat) : digitsValue (Nat.toDigits 10 n) = n := by
  simp [digitsValue_eq]

theorem isDigit_of_mem_toDigits {n : Nat} {c : Char} (member : c ∈ Nat.toDigits 10 n) : c.isDigit :=
  Nat.isDigit_of_mem_toDigits (by decide) (Nat.le_refl 10) member

/-- The digits of a number do not begin with a zero, except those of zero. -/
theorem head?_toDigits_ne {n : Nat} (nonzero : n ≠ 0) : (Nat.toDigits 10 n).head? ≠ some '0' := by
  induction n using Nat.base_induction 10 (by decide) with
  | single m small =>
    rw [Nat.toDigits_of_lt_base small]
    simpa using nonzero
  | digit m k small pos ih =>
    rw [← Nat.toDigits_append_toDigits (by decide) pos small, List.head?_append]
    have first := ih (Nat.ne_of_gt pos)
    cases head : (Nat.toDigits 10 m).head? with
    | none => simp [Nat.toDigits_ne_nil] at head
    | some c => rwa [head] at first

namespace Literal

/-- What may stand after the first digit of a number. -/
def isPart (c : Char) : Bool := c.isDigit || c = '.' || c = 'e' || c = 'E'

/-- No further character of a number follows. -/
def Ends (rest : List Char) : Prop := ∀ c ∈ rest.head?, isPart c = false

theorem Ends.isDigit_eq_false {rest : List Char} {c : Char} (ends : Ends rest)
    (first : c ∈ rest.head?) : c.isDigit = false := by
  have last := ends c first
  simp only [isPart, Bool.or_eq_false_iff] at last
  exact last.1.1.1

def AreDigits (ds : List Char) : Prop := ds ≠ [] ∧ ∀ c ∈ ds, c.isDigit

structure WellFormed (l : Literal) : Prop where
  whole : AreDigits l.whole
  leading : l.whole = ['0'] ∨ l.whole.head? ≠ some '0'
  fraction : ∀ ds ∈ l.fraction, AreDigits ds
  exponent : ∀ e ∈ l.exponent, AreDigits e.2

def signText (negative : Bool) : List Char := if negative then ['-'] else []

def fractionText : Option (List Char) → List Char
  | none => []
  | some ds => '.' :: ds

/-- The sign of an exponent is always written. -/
def exponentText : Option (Bool × List Char) → List Char
  | none => []
  | some (negative, ds) => 'e' :: (if negative then '-' else '+') :: ds

def text (l : Literal) : List Char :=
  signText l.negative ++ (l.whole ++ (fractionText l.fraction ++ exponentText l.exponent))

/-- A literal with a point or an exponent is left to the reader of floats. -/
theorem ofLiteral_of_mark [FloatReader] {l : Literal}
    (mark : l.fraction.isSome ∨ l.exponent.isSome) :
    ofLiteral l = (FloatReader.read l).map .float := by
  obtain ⟨negative, whole, fraction, exponent⟩ := l
  cases fraction with
  | some ds => rfl
  | none =>
    cases exponent with
    | some e => rfl
    | none => simp at mark

end Literal

end Number

namespace Token

open Number.Literal

variable {ds rest : List Char}

theorem digits?_append (digits : AreDigits ds) (stops : ∀ c ∈ rest.head?, c.isDigit = false) :
    digits? (ds ++ rest) = some (ds, rest) := by
  have taken : rest.takeWhile Char.isDigit = [] := by
    cases rest with
    | nil => rfl
    | cons c rest => simp [stops c rfl]
  have all : rest.dropWhile Char.isDigit = rest := by
    cases rest with
    | nil => rfl
    | cons c rest => simp [stops c rfl]
  have split : (ds ++ rest).span Char.isDigit = (ds, rest) := by
    rw [List.span_eq_takeWhile_dropWhile, List.takeWhile_append_of_pos digits.2,
      List.dropWhile_append_of_pos digits.2, taken, all, List.append_nil]
  cases ds with
  | nil => exact (digits.1 rfl).elim
  | cons d ds => rw [digits?, split]

theorem whole?_append (digits : AreDigits ds) (leading : ds = ['0'] ∨ ds.head? ≠ some '0')
    (stops : ∀ c ∈ rest.head?, c.isDigit = false) : whole? (ds ++ rest) = some (ds, rest) := by
  rcases leading with rfl | leading
  · rfl
  · rw [whole?, digits?_append digits stops]
    rintro tail split
    cases ds with
    | nil => exact digits.1 rfl
    | cons d ds =>
      obtain ⟨rfl, -⟩ := List.cons.inj split
      exact leading rfl

theorem fraction?_append {f : Option (List Char)} (digits : ∀ ds ∈ f, AreDigits ds)
    (stops : ∀ c ∈ rest.head?, c.isDigit = false ∧ c ≠ '.') :
    fraction? (fractionText f ++ rest) = some (f, rest) := by
  cases f with
  | some ds =>
    have read := digits?_append (digits ds rfl) fun c first => (stops c first).1
    simp [fractionText, fraction?, read]
  | none =>
    rw [fractionText, List.nil_append, fraction?]
    rintro tail rfl
    exact (stops '.' rfl).2 rfl

theorem exponent?_append {e : Option (Bool × List Char)} (digits : ∀ d ∈ e, AreDigits d.2)
    (ends : Ends rest) : exponent? (exponentText e ++ rest) = some (e, rest) := by
  rcases e with _ | ⟨negative, ds⟩
  · cases rest with
    | nil => rfl
    | cons c rest =>
      have last := ends c rfl
      simp only [isPart, Bool.or_eq_false_iff, decide_eq_false_iff_not] at last
      simp [exponentText, exponent?, last]
  · have read := digits?_append (digits _ rfl) fun c first => ends.isDigit_eq_false first
    cases negative <;> simp [exponentText, exponent?, read]

theorem stops_exponentText {e : Option (Bool × List Char)} (ends : Ends rest) :
    ∀ c ∈ (exponentText e ++ rest).head?, c.isDigit = false ∧ c ≠ '.' := by
  cases e with
  | some e => simp [exponentText]
  | none =>
    intro c first
    have last := ends c first
    simp only [isPart, Bool.or_eq_false_iff, decide_eq_false_iff_not] at last
    exact last.1.1

theorem stops_fractionText {f : Option (List Char)}
    (stops : ∀ c ∈ rest.head?, c.isDigit = false ∧ c ≠ '.') :
    ∀ c ∈ (fractionText f ++ rest).head?, c.isDigit = false := by
  cases f with
  | some ds => simp [fractionText]
  | none => exact fun c first => (stops c first).1

/-- The text of a literal is read as the literal. -/
theorem number?_text [FloatReader] {l : Number.Literal} (formed : l.WellFormed) (ends : Ends rest) :
    number? (l.text ++ rest) = (Number.ofLiteral l).map (·, rest) := by
  obtain ⟨negative, whole, fraction, exponent⟩ := l
  have stops := stops_exponentText (e := exponent) ends
  have readWhole :
      whole? (whole ++ (fractionText fraction ++ (exponentText exponent ++ rest))) = _ :=
    whole?_append formed.whole formed.leading (stops_fractionText stops)
  have readFraction : fraction? (fractionText fraction ++ (exponentText exponent ++ rest)) = _ :=
    fraction?_append formed.fraction stops
  have readExponent : exponent? (exponentText exponent ++ rest) = _ :=
    exponent?_append formed.exponent ends
  have unsigned : unsigned? negative
      (whole ++ (fractionText fraction ++ (exponentText exponent ++ rest))) =
      (Number.ofLiteral ⟨negative, whole, fraction, exponent⟩).map (·, rest) := by
    simp only [unsigned?, readWhole, readFraction, readExponent, Option.bind_eq_bind,
      Option.bind_some, Option.map_eq_bind]
    rfl
  cases negative with
  | true => simpa [text, signText, number?] using unsigned
  | false =>
    rw [← unsigned, text, signText, if_neg Bool.false_ne_true, List.nil_append, List.append_assoc,
      List.append_assoc, number?]
    -- A digit is no sign.
    intro tail signed
    cases whole with
    | nil => exact formed.whole.1 rfl
    | cons d ds =>
      obtain ⟨rfl, -⟩ := List.cons.inj signed
      exact absurd (formed.whole.2 '-' List.mem_cons_self) (by decide)

theorem number?_text_alone [FloatReader] {l : Number.Literal} (formed : l.WellFormed) :
    number? l.text = (Number.ofLiteral l).map (·, []) := by
  have ends : Ends [] := nofun
  simpa using number?_text formed ends

end Token

end DocumentMigration.Json
