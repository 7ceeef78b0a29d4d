import DocumentMigration.Json.Printer
import DocumentMigration.Proofs.Json.Reread

/-! The compact text of a value is read as the tokens of this value, with floats as the reader takes
them. It is not read at all if there is a float that the reader refuses. -/
namespace DocumentMigration.Json

namespace Token

open Number Number.Literal

variable {cs rest : List Char} {t : Token} {ts : List Token}

section Strings

theorem hexValue?_hexDigit {n : Nat} (small : n < 16) : hexValue? (hexDigit n) = some n := by
  have all : ∀ n < 16, hexValue? (hexDigit n) = some n := by decide
  exact all n small

theorem unicodeEscape?_control {n : Nat} (small : n < 32) (rest : List Char) :
    unicodeEscape? ('0' :: '0' :: hexDigit (n / 16) :: hexDigit (n % 16) :: rest) =
      some (Char.ofNat n, rest) := by
  have high := hexValue?_hexDigit (n := n / 16) (by omega)
  have low := hexValue?_hexDigit (n := n % 16) (by omega)
  have zero : hexValue? '0' = some 0 := rfl
  have unit : hex4? ('0' :: '0' :: hexDigit (n / 16) :: hexDigit (n % 16) :: rest) =
      some (n, rest) := by
    simp [hex4?, zero, high, low]
    omega
  have plain : n < 0xD800 := by omega
  simp [unicodeEscape?, unit, plain]

/-- An escaped character is read as that character. -/
theorem stringChar?_escapeChar (c : Char) (rest : List Char) :
    stringChar? (escapeChar c ++ rest) = some (c, rest) := by
  unfold escapeChar
  split_ifs with quote backslash feed ret tab back form control
  · rw [quote]
    rfl
  · rw [backslash]
    rfl
  · rw [feed]
    rfl
  · rw [ret]
    rfl
  · rw [tab]
    rfl
  · rw [← Char.ofNat_toNat c, back]
    rfl
  · rw [← Char.ofNat_toNat c, form]
    rfl
  · have read := unicodeEscape?_control control rest
    rwa [Char.ofNat_toNat] at read
  · simp [stringChar?, backslash, control]

/-- An escaped string is read up to its closing quote. -/
theorem stringBody?_escaped {fuel : Nat} (enough : cs.length < fuel) (rest : List Char) :
    stringBody? fuel (cs.flatMap escapeChar ++ '"' :: rest) = some (cs, rest) := by
  induction cs generalizing fuel with
  | nil =>
    obtain ⟨fuel, rfl⟩ := Nat.exists_eq_add_one.mpr enough
    rfl
  | cons c cs ih =>
    obtain ⟨fuel, rfl⟩ := Nat.exists_eq_add_one.mpr (Nat.zero_lt_of_lt enough)
    have body := ih (Nat.lt_of_succ_lt_succ enough)
    have read := stringChar?_escapeChar c (cs.flatMap escapeChar ++ '"' :: rest)
    rw [List.flatMap_cons, List.append_assoc, stringBody?]
    · simp [read, body]
    · intro tail closed
      rw [closed] at read
      cases read

theorem length_le_escaped (cs : List Char) : cs.length ≤ (cs.flatMap escapeChar).length := by
  induction cs with
  | nil => rfl
  | cons c cs ih =>
    have nonempty : 1 ≤ (escapeChar c).length := by
      unfold escapeChar
      split_ifs <;> simp
    rw [List.flatMap_cons, List.length_append, List.length_cons]
    omega

theorem next?_quote [FloatReader] (s : String) (rest : List Char) :
    next? (quote s ++ rest) = some (.string s, rest) := by
  have enough : s.toList.length < (s.toList.flatMap escapeChar ++ '"' :: rest).length + 1 := by
    have := length_le_escaped s.toList
    rw [List.length_append]
    omega
  rw [quote, List.cons_append, List.append_assoc, List.singleton_append, next?,
    stringBody?_escaped enough, Option.map_some]
  dsimp only
  rw [String.ofList_toList]

end Strings

section Numbers

/-- A number begins with a digit or a sign. -/
theorem exists_text_eq_cons (n : Number) :
    ∃ c cs, n.text = c :: cs ∧ (c = '-' ∨ c.isDigit) := by
  obtain ⟨l, formed, text⟩ := exists_literal n
  rw [← text, Literal.text, signText]
  cases l.negative with
  | true => exact ⟨'-', _, rfl, .inl rfl⟩
  | false =>
    cases whole : l.whole with
    | nil => exact (formed.whole.1 whole).elim
    | cons d ds => exact ⟨d, _, rfl, .inr (formed.whole.2 d (by simp [whole]))⟩

theorem ne_of_first {c d : Char} (first : c = '-' ∨ c.isDigit) (unsigned : d ≠ '-')
    (letter : d.isDigit = false) : c ≠ d := by
  rintro rfl
  rcases first with rfl | digit
  · exact unsigned rfl
  · rw [letter] at digit
    cases digit

theorem next?_eq_number? [FloatReader] {c : Char} (first : c = '-' ∨ c.isDigit) (cs : List Char) :
    next? (c :: cs) = (number? (c :: cs)).map fun (n, rest) => (.number n, rest) := by
  unfold next?
  split
  case h_11 => rfl
  all_goals
    next _ same =>
      obtain ⟨same, -⟩ := List.cons.inj same
      exact absurd same (ne_of_first first (by decide) (by decide))

theorem next?_number [FloatReader] (n : Number) (ends : Ends rest) :
    next? (n.text ++ rest) = n.reread.map fun m => (.number m, rest) := by
  have read := number?_append n ends
  obtain ⟨c, cs, split, first⟩ := exists_text_eq_cons n
  rw [split] at read ⊢
  rw [List.cons_append, next?_eq_number? first, ← List.cons_append, read]
  cases n.reread <;> rfl

end Numbers

section Scans

variable [FloatReader]

/-- A text is read as these tokens, or none of it is. -/
inductive Scans : List Char → Option (List Token) → Prop where
  | nil : Scans [] (some [])
  | blank {c : Char} {cs : List Char} {ts : Option (List Token)} :
    isBlank c → Scans cs ts → Scans (c :: cs) ts
  | token {c : Char} {cs rest : List Char} {t : Token} {ts : Option (List Token)} :
    isBlank c = false → next? (c :: cs) = some (t, rest) → rest <:+ cs → Scans rest ts →
    Scans (c :: cs) (ts.map (t :: ·))
  | stuck {c : Char} {cs : List Char} :
    isBlank c = false → next? (c :: cs) = none → Scans (c :: cs) none

variable {ts : Option (List Token)}

theorem Scans.scan?_eq (scans : Scans cs ts) {fuel : Nat} (enough : cs.length < fuel) :
    scan? fuel cs = ts := by
  induction scans generalizing fuel with
  | nil =>
    obtain ⟨fuel, rfl⟩ := Nat.exists_eq_add_one.mpr enough
    rfl
  | blank blank scans ih =>
    obtain ⟨fuel, rfl⟩ := Nat.exists_eq_add_one.mpr (Nat.zero_lt_of_lt enough)
    rw [← ih (Nat.lt_of_succ_lt enough), scan?, scan?, List.dropWhile_cons_of_pos blank]
  | @token _ _ _ _ ts plain read shorter scans ih =>
    obtain ⟨fuel, rfl⟩ := Nat.exists_eq_add_one.mpr (Nat.zero_lt_of_lt enough)
    rw [List.length_cons] at enough
    have later := ih (lt_of_le_of_lt shorter.length_le (Nat.lt_of_succ_lt_succ enough))
    rw [scan?, List.dropWhile_cons_of_neg (by simp [plain])]
    cases ts <;> simp [read, later]
  | stuck plain unread =>
    obtain ⟨fuel, rfl⟩ := Nat.exists_eq_add_one.mpr (Nat.zero_lt_of_lt enough)
    rw [scan?, List.dropWhile_cons_of_neg (by simp [plain])]
    simp [unread]

theorem ofText?_eq {text : String} (scans : Scans text.toList ts) : ofText? text = ts :=
  scans.scan?_eq (Nat.lt_succ_self _)

/-- A token of one character. -/
theorem Scans.mark {c : Char} (plain : isBlank c = false)
    (read : next? (c :: rest) = some (t, rest)) (scans : Scans rest ts) :
    Scans (c :: rest) (ts.map (t :: ·)) :=
  .token plain read List.suffix_rfl scans

theorem Scans.number (n : Number) (ends : Ends rest) (scans : Scans rest ts) :
    Scans (n.text ++ rest) (n.reread.bind fun m => ts.map (.number m :: ·)) := by
  have read := next?_number n ends
  obtain ⟨c, cs, split, first⟩ := exists_text_eq_cons n
  have plain : isBlank c = false := by
    simp only [isBlank, Bool.or_eq_false_iff, decide_eq_false_iff_not]
    exact ⟨⟨⟨ne_of_first first (by decide) (by decide), ne_of_first first (by decide) (by decide)⟩,
      ne_of_first first (by decide) (by decide)⟩, ne_of_first first (by decide) (by decide)⟩
  rw [split, List.cons_append] at read ⊢
  cases reread : n.reread with
  | none =>
    rw [reread] at read
    exact .stuck plain read
  | some m =>
    rw [reread] at read
    exact .token plain read (List.suffix_append cs rest) scans

theorem Scans.quote (s : String) (scans : Scans rest ts) :
    Scans (quote s ++ rest) (ts.map (.string s :: ·)) :=
  .token rfl (next?_quote s rest) (List.suffix_append _ rest) scans

end Scans

end Token

namespace Value

open Token

mutual
/-- The tokens of the text of a value. -/
def tokens : Value → List Token
  | .null => [.null]
  | .bool b => [.bool b]
  | .number n => [.number n]
  | .string s => [.string s]
  | .array [] => [.openArray, .closeArray]
  | .array (x :: xs) => .openArray :: (tokens x ++ itemTokens xs)
  | .object [] => [.openObject, .closeObject]
  | .object ((k, x) :: ms) => .openObject :: .string k :: .colon :: (tokens x ++ memberTokens ms)

/-- The tokens of the items after the first. -/
def itemTokens : List Value → List Token
  | [] => [.closeArray]
  | x :: xs => .comma :: (tokens x ++ itemTokens xs)

def memberTokens : List (String × Value) → List Token
  | [] => [.closeObject]
  | (k, x) :: ms => .comma :: .string k :: .colon :: (tokens x ++ memberTokens ms)
end

theorem ends_compactItems (xs : List Value) (rest : List Char) :
    Number.Literal.Ends (compactItems xs ++ rest) := by
  cases xs <;> simp [compactItems, Number.Literal.Ends, Number.Literal.isPart]

theorem ends_compactMembers (ms : List (String × Value)) (rest : List Char) :
    Number.Literal.Ends (compactMembers ms ++ rest) := by
  rcases ms with _ | ⟨⟨k, x⟩, ms⟩ <;>
    simp [compactMembers, Number.Literal.Ends, Number.Literal.isPart]

section Reread

variable [FloatReader]

variable {ts : Option (List Token)}

/-- What is read of the text of a value with more text behind it. -/
def readTokens (v : Value) (ts : Option (List Token)) : Option (List Token) :=
  v.reread.bind fun w => ts.map (w.tokens ++ ·)

def readItemTokens (xs : List Value) (ts : Option (List Token)) : Option (List Token) :=
  (rereadItems xs).bind fun ys => ts.map (itemTokens ys ++ ·)

def readMemberTokens (ms : List (String × Value)) (ts : Option (List Token)) :
    Option (List Token) :=
  (rereadMembers ms).bind fun ns => ts.map (memberTokens ns ++ ·)

theorem readTokens_nil_array :
    readTokens (.array []) ts = (ts.map (.closeArray :: ·)).map (.openArray :: ·) := by
  cases ts <;> rfl

theorem readTokens_nil_object :
    readTokens (.object []) ts = (ts.map (.closeObject :: ·)).map (.openObject :: ·) := by
  cases ts <;> rfl

theorem readTokens_array (x : Value) (xs : List Value) :
    readTokens (.array (x :: xs)) ts =
      (readTokens x (readItemTokens xs ts)).map (.openArray :: ·) := by
  rw [readTokens, reread, rereadItems, readTokens, readItemTokens]
  cases x.reread <;> cases rereadItems xs <;> cases ts <;> simp [tokens]

theorem readTokens_object (k : String) (x : Value) (ms : List (String × Value)) :
    readTokens (.object ((k, x) :: ms)) ts =
      (((readTokens x (readMemberTokens ms ts)).map (.colon :: ·)).map (.string k :: ·)).map
        (.openObject :: ·) := by
  rw [readTokens, reread, rereadMembers, readTokens, readMemberTokens]
  cases x.reread <;> cases rereadMembers ms <;> cases ts <;> simp [tokens]

theorem readItemTokens_cons (x : Value) (xs : List Value) :
    readItemTokens (x :: xs) ts =
      (readTokens x (readItemTokens xs ts)).map (.comma :: ·) := by
  rw [readItemTokens, rereadItems, readTokens, readItemTokens]
  cases x.reread <;> cases rereadItems xs <;> cases ts <;> simp [itemTokens]

theorem readMemberTokens_cons (k : String) (x : Value) (ms : List (String × Value)) :
    readMemberTokens ((k, x) :: ms) ts =
      (((readTokens x (readMemberTokens ms ts)).map (.colon :: ·)).map (.string k :: ·)).map
        (.comma :: ·) := by
  rw [readMemberTokens, rereadMembers, readTokens, readMemberTokens]
  cases x.reread <;> cases rereadMembers ms <;> cases ts <;> simp [memberTokens]

theorem scans_number (n : Number) {rest : List Char} (ends : Number.Literal.Ends rest)
    (scans : Scans rest ts) : Scans (n.text ++ rest) (readTokens (.number n) ts) := by
  rw [readTokens, reread, Option.bind_map]
  exact scans.number n ends

mutual
/-- The compact text of a value is read as the tokens of what it is read as. -/
theorem scans_compact : (v : Value) → ∀ {rest ts}, Number.Literal.Ends rest → Scans rest ts →
    Scans (compactChars v ++ rest) (readTokens v ts)
  | .null, _, _, _, scans => .token rfl rfl (List.suffix_append ['u', 'l', 'l'] _) scans
  | .bool true, _, _, _, scans => .token rfl rfl (List.suffix_append ['r', 'u', 'e'] _) scans
  | .bool false, _, _, _, scans => .token rfl rfl (List.suffix_append ['a', 'l', 's', 'e'] _) scans
  | .number n, _, _, ends, scans => scans_number n ends scans
  | .string s, _, _, _, scans => scans.quote s
  | .array [], _, _, _, scans => by
    rw [readTokens_nil_array]
    exact .mark rfl rfl (.mark rfl rfl scans)
  | .array (x :: xs), rest, _, _, scans => by
    have items := scans_compact x (ends_compactItems xs rest) (scans_compactItems xs scans)
    simp only [compactChars, readTokens_array, List.cons_append, List.append_assoc]
    exact .mark rfl rfl items
  | .object [], _, _, _, scans => by
    rw [readTokens_nil_object]
    exact .mark rfl rfl (.mark rfl rfl scans)
  | .object ((k, x) :: ms), rest, _, _, scans => by
    have members := scans_compact x (ends_compactMembers ms rest) (scans_compactMembers ms scans)
    simp only [compactChars, readTokens_object, List.cons_append, List.append_assoc]
    exact .mark rfl rfl (.quote k (.mark rfl rfl members))

theorem scans_compactItems : (xs : List Value) → ∀ {rest ts}, Scans rest ts →
    Scans (compactItems xs ++ rest) (readItemTokens xs ts)
  | [], _, _, scans => .mark rfl rfl scans
  | x :: xs, rest, _, scans => by
    have items := scans_compact x (ends_compactItems xs rest) (scans_compactItems xs scans)
    simp only [compactItems, readItemTokens_cons, List.cons_append, List.append_assoc]
    exact .mark rfl rfl items

theorem scans_compactMembers : (ms : List (String × Value)) → ∀ {rest ts}, Scans rest ts →
    Scans (compactMembers ms ++ rest) (readMemberTokens ms ts)
  | [], _, _, scans => .mark rfl rfl scans
  | (k, x) :: ms, rest, _, scans => by
    have members := scans_compact x (ends_compactMembers ms rest) (scans_compactMembers ms scans)
    simp only [compactMembers, readMemberTokens_cons, List.cons_append, List.append_assoc]
    exact .mark rfl rfl (.quote k (.mark rfl rfl members))
end

theorem readTokens_alone (v : Value) : readTokens v (some []) = v.reread.map tokens := by
  rw [readTokens]
  cases v.reread <;> simp

theorem tokens_compact (v : Value) : Token.ofText? v.compact = v.reread.map tokens := by
  have scans : Scans (compactChars v ++ []) (readTokens v (some [])) := scans_compact v nofun .nil
  rw [List.append_nil, readTokens_alone] at scans
  refine Token.ofText?_eq ?_
  rwa [compact, String.toList_ofList]

end Reread

end Value

end DocumentMigration.Json
