import DocumentMigration.Json.Scaling
import DocumentMigration.Proofs.Decimal.Shortest
import DocumentMigration.Proofs.Json.Literal
import Mathlib.Data.List.DropRight

/-! The text of a number is a literal that denotes this number. -/
namespace DocumentMigration.Json.Number

open Literal Binary64

variable {ds : List Char} {negative : Bool} {v : ℚ} {n : Nat}

theorem areDigits_toDigits (n : Nat) : AreDigits (Nat.toDigits 10 n) :=
  ⟨Nat.toDigits_ne_nil, fun _ => isDigit_of_mem_toDigits⟩

theorem isDigit_of_mem_zeros {c : Char} (member : c ∈ List.replicate n '0') : c.isDigit := by
  rw [List.eq_of_mem_replicate member]
  rfl

namespace Literal

theorem AreDigits.append_zeros (digits : AreDigits ds) (n : Nat) :
    AreDigits (ds ++ List.replicate n '0') :=
  ⟨by simp [digits.1], fun c member =>
    (List.mem_append.mp member).elim (digits.2 c) isDigit_of_mem_zeros⟩

theorem AreDigits.zeros_append (digits : AreDigits ds) (n : Nat) :
    AreDigits (List.replicate n '0' ++ ds) :=
  ⟨by simp [digits.1], fun c member =>
    (List.mem_append.mp member).elim isDigit_of_mem_zeros (digits.2 c)⟩

/-- A literal that is marked as a float and has this value. -/
structure Spells (l : Literal) (negative : Bool) (v : ℚ) : Prop where
  formed : l.WellFormed
  mark : l.fraction.isSome ∨ l.exponent.isSome
  sign : l.negative = negative
  value : (digitsValue l.digits : ℚ) * 10 ^ (l.exponentValue - (l.fraction.getD []).length) = v

theorem spells_scientific {d : Char} {rest : List Char} (digits : AreDigits (d :: rest))
    (leading : d ≠ '0') (negative : Bool) (power : Int) :
    Spells ⟨negative, [d], if rest = [] then none else some rest,
      some (power < 0, Nat.toDigits 10 power.natAbs)⟩ negative
      (digitsValue (d :: rest) * 10 ^ (power - rest.length)) := by
  have fraction : (if rest = [] then none else some rest).getD [] = rest := by
    split
    · next empty => exact empty.symm
    · rfl
  have exponent : exponentValue ⟨negative, [d], if rest = [] then none else some rest,
      some (power < 0, Nat.toDigits 10 power.natAbs)⟩ = power := by
    by_cases below : power < 0
    · simp only [exponentValue, below, decide_true, digitsValue_toDigits]
      omega
    · simp only [exponentValue, below, decide_false, digitsValue_toDigits]
      omega
  refine ⟨⟨?_, ?_, ?_, ?_⟩, .inr rfl, rfl, ?_⟩
  · exact ⟨List.cons_ne_nil _ _, by simpa using digits.2 d List.mem_cons_self⟩
  · exact .inr (by simpa using leading)
  · intro ds present
    split at present
    · cases present
    · next nonempty =>
      cases present
      exact ⟨nonempty, fun c member => digits.2 c (List.mem_cons_of_mem d member)⟩
  · rintro _ ⟨⟩
    exact areDigits_toDigits _
  · rw [exponent, Literal.digits, fraction]
    rfl

theorem spells_small (digits : AreDigits ds) (negative : Bool) (n : Nat) :
    Spells ⟨negative, ['0'], some (List.replicate n '0' ++ ds), none⟩ negative
      (digitsValue ds * 10 ^ (-(n + ds.length : Nat) : Int)) := by
  refine ⟨⟨?_, .inl rfl, ?_, nofun⟩, .inl rfl, rfl, ?_⟩
  · exact ⟨List.cons_ne_nil _ _, by simp⟩
  · rintro _ ⟨⟩
    exact digits.zeros_append n
  · have same : digitsValue (['0'] ++ (List.replicate n '0' ++ ds)) = digitsValue ds := by
      rw [digitsValue_append, digitsValue_append, digitsValue_zeros]
      simp [digitsValue]
    have power : (0 : Int) - (List.replicate n '0' ++ ds).length = -(n + ds.length : Nat) := by
      rw [List.length_append, List.length_replicate, zero_sub]
    simp only [Literal.digits, Option.getD_some, exponentValue, same, power]

theorem spells_whole (digits : AreDigits ds) (leading : ds.head? ≠ some '0') (negative : Bool)
    (n : Nat) : Spells ⟨negative, ds ++ List.replicate n '0', some ['0'], none⟩ negative
      (digitsValue ds * 10 ^ (n : Int)) := by
  refine ⟨⟨digits.append_zeros n, .inr ?_, ?_, nofun⟩, .inl rfl, rfl, ?_⟩
  · rw [List.head?_append]
    cases ds with
    | nil => exact (digits.1 rfl).elim
    | cons d ds => exact leading
  · rintro _ ⟨⟩
    exact ⟨List.cons_ne_nil _ _, by simp⟩
  · have same :
        digitsValue (ds ++ List.replicate n '0' ++ ['0']) = digitsValue ds * 10 ^ n * 10 := by
      rw [digitsValue_append, digitsValue_append, digitsValue_zeros]
      simp [digitsValue]
    simp only [Literal.digits, Option.getD_some, exponentValue, same]
    push_cast
    rw [zpow_natCast, List.length_singleton, Nat.cast_one, zero_sub, zpow_neg_one,
      mul_inv_cancel_right₀ (by norm_num)]

theorem spells_split (digits : AreDigits ds) (leading : ds.head? ≠ some '0') (negative : Bool)
    (pos : 0 < n) (less : n < ds.length) :
    Spells ⟨negative, ds.take n, some (ds.drop n), none⟩ negative
      (digitsValue ds * 10 ^ (n - ds.length : Int)) := by
  refine ⟨⟨⟨?_, fun c member => ?_⟩, .inr ?_, ?_, nofun⟩, .inl rfl, rfl, ?_⟩
  · simp [pos.ne', digits.1]
  · exact digits.2 c (List.mem_of_mem_take member)
  · rwa [List.head?_take, if_neg pos.ne']
  · rintro _ ⟨⟩
    exact ⟨by simpa using less, fun c member => digits.2 c (List.mem_of_mem_drop member)⟩
  · have rest : (0 : Int) - (ds.length - n : Nat) = n - ds.length := by omega
    simp only [Literal.digits, Option.getD_some, List.take_append_drop, exponentValue,
      List.length_drop, rest]

/-- Every layout of some digits is a literal of the same value. -/
theorem exists_layout (digits : AreDigits ds) (leading : ds.head? ≠ some '0') (negative : Bool)
    (point : Int) :
    ∃ l : Literal, l.text = signText negative ++ layout ds point ∧
      Spells l negative (digitsValue ds * 10 ^ (point - ds.length)) := by
  unfold layout
  split
  · cases ds with
    | nil => exact (digits.1 rfl).elim
    | cons d rest =>
      have first : d ≠ '0' := by simpa using leading
      have power : point - (d :: rest).length = point - 1 - rest.length := by
        rw [List.length_cons]
        omega
      rw [power]
      refine ⟨_, ?_, spells_scientific digits first negative (point - 1)⟩
      cases rest <;> simp [text, fractionText, exponentText]
  · split
    · next small =>
      have power : point - ds.length = -((-point).toNat + ds.length : Nat) := by omega
      rw [power]
      exact ⟨_, by simp [text, fractionText, exponentText], spells_small digits negative _⟩
    · split
      · next whole =>
        have power : (digitsValue ds : ℚ) * 10 ^ (point - ds.length : Int) =
            digitsValue ds * 10 ^ ((point.toNat - ds.length : Nat) : Int) := by
          congr 2
          omega
        rw [power]
        refine ⟨_, ?_, spells_whole digits leading negative _⟩
        simp [text, fractionText, exponentText]
      · next large inner =>
        have power : point - ds.length = point.toNat - ds.length := by omega
        rw [power]
        refine ⟨_, ?_, spells_split digits leading negative (by omega) (by omega)⟩
        simp [text, fractionText, exponentText]

end Literal

theorem exact_read_of_spells {l : Literal} {x : Binary64} (spells : Spells l x.negative v)
    (rounds : nearest v = x.magnitude) : FloatReader.exact.read l = some x := by
  show ofDecimal _ _ _ = some x
  rw [ofDecimal_eq_some_iff, spells.value]
  exact ⟨spells.sign.symm, rounds⟩

/-- The digits of a decimal are those that are kept with zeros behind them. -/
theorem exists_toDigits_eq_normal (d : Decimal) :
    ∃ n : Nat, Nat.toDigits 10 d.digits = d.normal.1 ++ List.replicate n '0' ∧
      d.normal.2 = d.normal.1.length + n + d.exponent := by
  let zeros := (Nat.toDigits 10 d.digits).rtakeWhile (· = '0')
  have split : d.normal.1 ++ zeros = Nat.toDigits 10 d.digits :=
    List.rdropWhile_append_rtakeWhile ..
  have all : zeros = List.replicate zeros.length '0' := by
    refine List.eq_replicate_of_mem fun c member => ?_
    have zero := List.mem_rtakeWhile_imp member
    exact of_decide_eq_true zero
  refine ⟨zeros.length, ?_, ?_⟩
  · rw [← all, split]
  · have length := congrArg List.length split
    rw [List.length_append] at length
    rw [← Nat.cast_add, length]
    rfl

/-- What is left of the digits of a decimal that is not zero has its value. -/
theorem normal_spec (d : Decimal) (nonzero : d.digits ≠ 0) :
    AreDigits d.normal.1 ∧ d.normal.1.head? ≠ some '0' ∧
      (digitsValue d.normal.1 * 10 ^ (d.normal.2 - d.normal.1.length) : ℚ) = d.value := by
  obtain ⟨n, digits, point⟩ := exists_toDigits_eq_normal d
  have value : d.digits = digitsValue d.normal.1 * 10 ^ n := by
    rw [← digitsValue_toDigits d.digits, digits, digitsValue_append, digitsValue_zeros,
      List.length_replicate, Nat.add_zero]
  have nonempty : d.normal.1 ≠ [] := by
    intro empty
    rw [empty] at value
    exact nonzero (by rw [value]; exact Nat.zero_mul _)
  refine ⟨⟨nonempty, fun c member => ?_⟩, ?_, ?_⟩
  · have inDigits : c ∈ Nat.toDigits 10 d.digits := by
      rw [digits]
      exact List.mem_append_left _ member
    exact isDigit_of_mem_toDigits inDigits
  · have leading := head?_toDigits_ne nonzero
    rwa [digits, List.head?_append_of_ne_nil _ nonempty] at leading
  · have power : d.normal.2 - d.normal.1.length = n + d.exponent := by omega
    rw [power, Decimal.value, value, zpow_add₀ (by norm_num), zpow_natCast]
    push_cast
    ring

/-- The text of a float is a literal that is read as the float, if it is read exactly. -/
theorem exists_literal_float (x : Binary64) :
    ∃ l : Literal, l.WellFormed ∧ l.text = x.text ∧ (l.fraction.isSome ∨ l.exponent.isSome) ∧
      FloatReader.exact.read l = some x := by
  unfold Binary64.text
  cases zero : x.isZero with
  | true =>
    have digits : AreDigits ['0'] := ⟨List.cons_ne_nil _ _, by simp⟩
    have spells := spells_small digits x.negative 0
    refine ⟨_, spells.formed, ?_, spells.mark, exact_read_of_spells spells ?_⟩
    · cases x.negative <;> rfl
    · have magnitude : x.magnitude = 0 := by simpa [isZero] using zero
      simp [magnitude, nearest, digitsValue]
  | false =>
    obtain ⟨digits, leading, value⟩ := normal_spec x.shortest (shortest_digits_ne_zero zero)
    obtain ⟨l, text, spells⟩ := exists_layout digits leading x.negative x.shortest.normal.2
    rw [value] at spells
    refine ⟨l, spells.formed, ?_, spells.mark,
      exact_read_of_spells spells (readsAs_iff.mp x.shortest_readsAs)⟩
    rw [text]
    cases x.negative <;> rfl

theorem ofInt?_eq_some {i : Int} (range : -2 ^ (63 : Nat) ≤ i ∧ i < 2 ^ (64 : Nat)) :
    ofInt? i = some (.integer i range) := dif_pos range

theorem ofLiteral_whole [FloatReader] {number : Number}
    (found : (if negative then
        (if digitsValue ds = 0 then none else ofInt? (-(digitsValue ds : Int)))
      else ofInt? (digitsValue ds)) = some number) :
    ofLiteral ⟨negative, ds, none, none⟩ = some number := by
  unfold ofLiteral
  dsimp only
  rw [found]

theorem exists_literal_integer [FloatReader] (i : Int)
    (range : -2 ^ (63 : Nat) ≤ i ∧ i < 2 ^ (64 : Nat)) :
    ∃ l : Literal, l.WellFormed ∧ l.text = (Number.integer i range).text ∧
      ofLiteral l = some (.integer i range) := by
  have leading (n : Nat) : Nat.toDigits 10 n = ['0'] ∨ (Nat.toDigits 10 n).head? ≠ some '0' := by
    by_cases zero : n = 0
    · exact .inl (by rw [zero, Nat.toDigits_zero])
    · exact .inr (head?_toDigits_ne zero)
  cases i with
  | ofNat n =>
    refine ⟨⟨false, Nat.toDigits 10 n, none, none⟩,
      ⟨areDigits_toDigits n, leading n, by simp, by simp⟩, ?_, ?_⟩
    · simp [Literal.text, signText, fractionText, exponentText, Number.text]
    · refine ofLiteral_whole ?_
      rw [digitsValue_toDigits, if_neg Bool.false_ne_true]
      exact ofInt?_eq_some range
  | negSucc n =>
    refine ⟨⟨true, Nat.toDigits 10 (n + 1), none, none⟩,
      ⟨areDigits_toDigits (n + 1), leading (n + 1), by simp, by simp⟩, ?_, ?_⟩
    · simp [Literal.text, signText, fractionText, exponentText, Number.text]
    · refine ofLiteral_whole ?_
      rw [digitsValue_toDigits, if_pos rfl, if_neg n.add_one_ne_zero, Int.neg_ofNat_succ]
      exact ofInt?_eq_some range

/-- The text of a number is a literal. -/
theorem exists_literal (n : Number) : ∃ l : Literal, l.WellFormed ∧ l.text = n.text := by
  cases n with
  | integer i range =>
    obtain ⟨l, formed, text, -⟩ := @exists_literal_integer .exact i range
    exact ⟨l, formed, text⟩
  | float x =>
    obtain ⟨l, formed, text, -⟩ := exists_literal_float x
    exact ⟨l, formed, text⟩

/-! What is read where the text of a number stands. -/

section Reread

variable [FloatReader] {rest : List Char}

def reread (n : Number) : Option Number := (Token.number? n.text).map Prod.fst

theorem number?_append (n : Number) (ends : Ends rest) :
    Token.number? (n.text ++ rest) = n.reread.map (·, rest) := by
  obtain ⟨l, formed, text⟩ := exists_literal n
  rw [reread, ← text, Token.number?_text_alone formed, Token.number?_text formed ends]
  cases ofLiteral l <;> rfl

@[simp] theorem reread_integer (i : Int) (range : -2 ^ (63 : Nat) ≤ i ∧ i < 2 ^ (64 : Nat)) :
    (integer i range).reread = some (.integer i range) := by
  obtain ⟨l, formed, text, read⟩ := exists_literal_integer i range
  rw [reread, ← text, Token.number?_text_alone formed, read]
  rfl

theorem exists_reread_float (x : Binary64) :
    ∃ l : Literal, l.text = x.text ∧ FloatReader.exact.read l = some x ∧
      (float x).reread = (FloatReader.read l).map .float := by
  obtain ⟨l, formed, text, mark, exact⟩ := exists_literal_float x
  refine ⟨l, text, exact, ?_⟩
  rw [reread, Number.text, ← text, Token.number?_text_alone formed, ofLiteral_of_mark mark]
  cases FloatReader.read l <;> rfl

end Reread

end DocumentMigration.Json.Number

namespace DocumentMigration.Json

/-- Every float is read from its own text as it was. -/
def FloatReader.Faithful (reader : FloatReader) : Prop :=
  ∀ x : Binary64, (Number.float x).reread = some (.float x)

theorem FloatReader.faithful_exact : FloatReader.exact.Faithful := by
  intro x
  obtain ⟨l, -, exact, read⟩ := @Number.exists_reread_float .exact x
  rw [read, exact]
  rfl

/-- A float that is read as the next one when its digits are scaled. -/
def Sample.uneven : Binary64 := ⟨false, 4632409357216853856, by decide⟩

example : String.ofList Sample.uneven.text = "51.248178375505404" := by decide +kernel

theorem FloatReader.not_faithful_scaling : ¬FloatReader.scaling.Faithful := by
  intro faithful
  have read := faithful Sample.uneven
  revert read
  decide +kernel

end DocumentMigration.Json
