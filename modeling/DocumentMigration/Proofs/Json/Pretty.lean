import DocumentMigration.Proofs.Json.Parser

/-! A text over several lines is read like the compact one: indentation makes no difference. -/
namespace DocumentMigration.Json

open Token

variable [FloatReader] {rest : List Char} {ts : Option (List Token)}

theorem Token.Scans.newline (level : Nat) (scans : Scans rest ts) :
    Scans (Value.newline level ++ rest) ts := by
  refine .blank rfl ?_
  induction 2 * level with
  | zero => exact scans
  | succ n ih => exact .blank rfl ih

namespace Value

omit [FloatReader] in
theorem ends_prettyItems (level : Nat) (xs : List Value) (rest : List Char) :
    Number.Literal.Ends (prettyItems level xs ++ rest) := by
  cases xs <;> simp [prettyItems, newline, Number.Literal.Ends, Number.Literal.isPart]

omit [FloatReader] in
theorem ends_prettyMembers (level : Nat) (ms : List (String × Value)) (rest : List Char) :
    Number.Literal.Ends (prettyMembers level ms ++ rest) := by
  rcases ms with _ | ⟨⟨k, x⟩, ms⟩ <;>
    simp [prettyMembers, newline, Number.Literal.Ends, Number.Literal.isPart]

mutual
/-- The text of a value over several lines is read as its tokens. -/
theorem scans_pretty : (v : Value) → ∀ {level rest ts}, Number.Literal.Ends rest → Scans rest ts →
    Scans (prettyChars level v ++ rest) (readTokens v ts)
  | .null, _, _, _, ends, scans => scans_compact .null ends scans
  | .bool b, _, _, _, ends, scans => scans_compact (.bool b) ends scans
  | .number n, _, _, _, ends, scans => scans_compact (.number n) ends scans
  | .string s, _, _, _, ends, scans => scans_compact (.string s) ends scans
  | .array [], _, _, _, ends, scans => scans_compact (.array []) ends scans
  | .array (x :: xs), level, rest, _, _, scans => by
    have items : Scans (prettyChars (level + 1) x ++ (prettyItems level xs ++ rest)) _ :=
      scans_pretty x (ends_prettyItems level xs rest) (scans_prettyItems xs scans)
    simp only [prettyChars, readTokens_array, List.cons_append, List.append_assoc]
    exact .mark rfl rfl (.newline _ items)
  | .object [], _, _, _, ends, scans => scans_compact (.object []) ends scans
  | .object ((k, x) :: ms), level, rest, _, _, scans => by
    have members : Scans (prettyChars (level + 1) x ++ (prettyMembers level ms ++ rest)) _ :=
      scans_pretty x (ends_prettyMembers level ms rest) (scans_prettyMembers ms scans)
    simp only [prettyChars, readTokens_object, List.cons_append, List.append_assoc]
    exact .mark rfl rfl (.newline _ (.quote k (.mark rfl rfl (.blank rfl members))))

theorem scans_prettyItems : (xs : List Value) → ∀ {level rest ts}, Scans rest ts →
    Scans (prettyItems level xs ++ rest) (readItemTokens xs ts)
  | [], level, _, _, scans => by
    simp only [prettyItems, List.append_assoc]
    exact .newline level (.mark rfl rfl scans)
  | x :: xs, level, rest, _, scans => by
    have items : Scans (prettyChars (level + 1) x ++ (prettyItems level xs ++ rest)) _ :=
      scans_pretty x (ends_prettyItems level xs rest) (scans_prettyItems xs scans)
    simp only [prettyItems, readItemTokens_cons, List.cons_append, List.append_assoc]
    exact .mark rfl rfl (.newline _ items)

theorem scans_prettyMembers : (ms : List (String × Value)) → ∀ {level rest ts}, Scans rest ts →
    Scans (prettyMembers level ms ++ rest) (readMemberTokens ms ts)
  | [], level, _, _, scans => by
    simp only [prettyMembers, List.append_assoc]
    exact .newline level (.mark rfl rfl scans)
  | (k, x) :: ms, level, rest, _, scans => by
    have members : Scans (prettyChars (level + 1) x ++ (prettyMembers level ms ++ rest)) _ :=
      scans_pretty x (ends_prettyMembers level ms rest) (scans_prettyMembers ms scans)
    simp only [prettyMembers, readMemberTokens_cons, List.cons_append, List.append_assoc]
    exact .mark rfl rfl (.newline _ (.quote k (.mark rfl rfl (.blank rfl members))))
end

theorem tokens_pretty (v : Value) : Token.ofText? v.pretty = v.reread.map tokens := by
  have scans : Scans (prettyChars 0 v ++ []) (readTokens v (some [])) :=
    scans_pretty v nofun .nil
  rw [List.append_nil, readTokens_alone] at scans
  refine Token.ofText?_eq ?_
  rwa [pretty, String.toList_ofList]

/-- The text of a value over several lines is read back as the value, but for its floats, unless it
is nested too deeply. -/
theorem ofText?_pretty (limit : Nat) {v : Value} (canonical : v.Canonical) :
    ofText? limit v.pretty = if v.depth ≤ limit then v.reread else none := by
  rw [ofText?_of_tokens limit v.tokens_pretty, map_sorted_reread canonical]

end Value

end DocumentMigration.Json
