import DocumentMigration.Json.Pointer
import Mathlib.Tactic.SplitIfs

/-!
The text of a pointer reads back as its segments, so that different places have different texts.
A place in a place is found in two steps.
-/
namespace DocumentMigration.Json.Pointer

theorem separator_not_mem_escapeChar (c : Char) : '/' ∉ escapeChar c := by
  unfold escapeChar
  split_ifs with tilde slash
  · decide
  · decide
  · simpa using Ne.symm slash

theorem separator_not_mem_escape (segment : String) : '/' ∉ (escape segment).toList := by
  rw [escape, String.toList_ofList]
  intro member
  obtain ⟨c, -, here⟩ := List.mem_flatMap.mp member
  exact separator_not_mem_escapeChar c here

theorem unescapeChars_escape (cs : List Char) : unescapeChars (cs.flatMap escapeChar) = cs := by
  induction cs with
  | nil => rfl
  | cons c cs ih =>
    rw [List.flatMap_cons, escapeChar]
    split_ifs with tilde slash
    · rw [tilde]
      exact congrArg _ ih
    · rw [slash]
      exact congrArg _ ih
    · rw [List.singleton_append, unescapeChars.eq_def]
      simp [ih, tilde]

theorem unescape_escape (segment : String) : unescape (escape segment) = segment := by
  simp [unescape, escape, unescapeChars_escape]

/-- Slashes stand between the segments, and one in front of the first. -/
theorem toList_text (first : String) (rest : List String) :
    (text (first :: rest)).toList =
      '/' :: ['/'].intercalate ((first :: rest).map fun s => (escape s).toList) := by
  induction rest generalizing first with
  | nil => simp [text]
  | cons second rest ih =>
    have tail := ih second
    simp only [text, List.map_cons, String.join_cons, String.toList_append] at tail ⊢
    rw [tail]
    simp [List.intercalate]

theorem segments?_text (segments : List String) : segments? (text segments) = some segments := by
  rcases segments with _ | ⟨first, rest⟩
  · rfl
  · have clear : ∀ cs ∈ (first :: rest).map fun s => (escape s).toList, '/' ∉ cs := by
      intro cs member
      obtain ⟨segment, -, rfl⟩ := List.mem_map.mp member
      exact separator_not_mem_escape segment
    have parts := List.splitOn_intercalate '/' clear (by simp)
    rw [segments?, toList_text]
    simp only [parts, List.map_map, Function.comp_def, String.ofList_toList, unescape_escape,
      List.map_id']

theorem text_injective {segments others : List String} (same : text segments = text others) :
    segments = others := by
  have read := segments?_text segments
  rw [same, segments?_text] at read
  exact (Option.some.inj read).symm

theorem lookup?_append (ps qs : List String) (v : Value) :
    lookup? (ps ++ qs) v = (lookup? ps v).bind (lookup? qs) := by
  induction ps generalizing v with
  | nil => rfl
  | cons p ps ih =>
    rw [List.cons_append, lookup?, lookup?, Option.bind_assoc]
    exact congrArg _ (funext ih)

end DocumentMigration.Json.Pointer
