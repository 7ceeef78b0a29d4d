import DocumentMigration.Json.Printer
import DocumentMigration.Proofs.Json.Number

/-! The compact text of a value has no control characters. -/
namespace DocumentMigration.Json

/-- No control characters. -/
def Printable (cs : List Char) : Prop := ∀ c ∈ cs, 32 ≤ c.toNat

section Printable

variable {cs ds : List Char} {c : Char}

@[simp] theorem printable_nil : Printable [] := nofun

@[simp] theorem printable_cons : Printable (c :: cs) ↔ 32 ≤ c.toNat ∧ Printable cs :=
  List.forall_mem_cons

@[simp] theorem printable_append : Printable (cs ++ ds) ↔ Printable cs ∧ Printable ds :=
  List.forall_mem_append

theorem printable_digits (digits : Number.Literal.AreDigits ds) : Printable ds := by
  intro c member
  have digit := digits.2 c member
  rw [Char.isDigit, Bool.and_eq_true, decide_eq_true_iff, decide_eq_true_iff] at digit
  have low : '0'.toNat ≤ c.toNat := digit.1
  exact le_trans (by decide) low

theorem printable_hexDigit {n : Nat} (small : n < 16) : 32 ≤ (hexDigit n).toNat := by
  have all : ∀ n < 16, 32 ≤ (hexDigit n).toNat := by decide
  exact all n small

theorem printable_escapeChar (c : Char) : Printable (escapeChar c) := by
  unfold escapeChar
  split_ifs
  all_goals simp only [printable_cons, printable_nil, and_true]
  any_goals decide
  -- Left are the control characters without a short escape, and those that are not escaped.
  · exact ⟨by decide, by decide, by decide, by decide, printable_hexDigit (by omega),
      printable_hexDigit (by omega)⟩
  · omega

theorem printable_quote (s : String) : Printable (quote s) := by
  have escaped : Printable (s.toList.flatMap escapeChar) := by
    intro c member
    obtain ⟨d, -, inEscape⟩ := List.mem_flatMap.mp member
    exact printable_escapeChar d c inEscape
  simp [quote, escaped]

theorem printable_text {l : Number.Literal} (formed : l.WellFormed) : Printable l.text := by
  obtain ⟨negative, whole, fraction, exponent⟩ := l
  have sign : Printable (Number.Literal.signText negative) := by
    cases negative <;> simp [Number.Literal.signText]
  have places : Printable (Number.Literal.fractionText fraction) := by
    cases fraction with
    | none => exact printable_nil
    | some ds => simp [Number.Literal.fractionText, printable_digits (formed.fraction ds rfl)]
  have power : Printable (Number.Literal.exponentText exponent) := by
    rcases exponent with _ | ⟨_ | _, ds⟩
    · exact printable_nil
    all_goals simp [Number.Literal.exponentText, printable_digits (formed.exponent _ rfl)]
  simp [Number.Literal.text, sign, printable_digits formed.whole, places, power]

theorem printable_number (n : Number) : Printable n.text := by
  obtain ⟨l, formed, text⟩ := n.exists_literal
  rw [← text]
  exact printable_text formed

end Printable

namespace Value

mutual
theorem printable_compact : (v : Value) → Printable (compactChars v)
  | .null => by simp [compactChars]
  | .bool true => by simp [compactChars]
  | .bool false => by simp [compactChars]
  | .number n => printable_number n
  | .string s => printable_quote s
  | .array [] => by simp [compactChars]
  | .array (x :: xs) => by simp [compactChars, printable_compact x, printable_compactItems xs]
  | .object [] => by simp [compactChars]
  | .object ((k, x) :: ms) => by
    simp [compactChars, printable_quote k, printable_compact x, printable_compactMembers ms]

theorem printable_compactItems : (xs : List Value) → Printable (compactItems xs)
  | [] => by simp [compactItems]
  | x :: xs => by simp [compactItems, printable_compact x, printable_compactItems xs]

theorem printable_compactMembers : (ms : List (String × Value)) → Printable (compactMembers ms)
  | [] => by simp [compactMembers]
  | (k, x) :: ms => by
    simp [compactMembers, printable_quote k, printable_compact x, printable_compactMembers ms]
end

end Value

end DocumentMigration.Json
