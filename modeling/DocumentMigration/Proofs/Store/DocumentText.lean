import DocumentMigration.Store.Table
import DocumentMigration.Proofs.Json.Printer
import DocumentMigration.Proofs.Json.Reordered

/-! A stored text gives back the document that it was written for, up to the nesting limit and but
for floats that are not read as they were, and the column that it stands in keeps all of it. -/
namespace DocumentMigration

open Json

section Reading

variable [FloatReader] {data read : Object}

/-- What the text of a document is read as. -/
def readBack? (data : Object) : Option Object :=
  if (Value.object data).depth ≤ nestingLimit then Value.rereadMembers data else none

/-- A document in the order that every operation keeps, not nested too deeply to be read, and with
floats that are read as they are. -/
structure Storable (data : Object) : Prop where
  canonical : (Value.object data).Canonical
  shallow : (Value.object data).depth ≤ nestingLimit
  steady : (Value.object data).Steady

theorem rereadMembers_of_steady (steady : (Value.object data).Steady) :
    Value.rereadMembers data = some data := by
  obtain ⟨read, same, object⟩ := Option.map_eq_some_iff.mp steady
  rw [same, Value.object.inj object]

theorem Storable.readBack?_eq (storable : Storable data) : readBack? data = some data := by
  rw [readBack?, if_pos storable.shallow, rereadMembers_of_steady storable.steady]

theorem readBack?_of_deep (deep : 127 < (Value.object data).depth) : readBack? data = none :=
  if_neg (Nat.not_le_of_lt deep)

theorem canonical_of_readBack? (canonical : (Value.object data).Canonical)
    (found : readBack? data = some read) : (Value.object read).Canonical := by
  rw [readBack?] at found
  split at found
  · exact Value.canonical_of_reread _ canonical (Option.map_eq_some_iff.mpr ⟨read, found, rfl⟩)
  · cases found

theorem parseDocument_encodeDocument (collection id : String)
    (canonical : (Value.object data).Canonical) :
    parseDocument collection id (encodeDocument data) =
      (readBack? data).elim (.error (.invalidDocument collection id .malformed)) .ok := by
  rw [parseDocument, encodeDocument, Value.parse?, Value.ofText?_compact nestingLimit canonical,
    readBack?, Value.reread]
  by_cases shallow : (Value.object data).depth ≤ nestingLimit
  · rw [if_pos shallow, if_pos shallow]
    cases Value.rereadMembers data <;> rfl
  · rw [if_neg shallow, if_neg shallow]
    rfl

end Reading

theorem TableStore.columnText_eq_self {text : String} (plain : '\x00' ∉ text.toList) :
    columnText text = text := by
  have whole : text.toList.takeWhile (· ≠ '\x00') = text.toList := by
    rw [List.takeWhile_eq_self_iff]
    exact fun c member => decide_eq_true fun null => plain (null ▸ member)
  rw [columnText, whole, String.ofList_toList]

theorem columnText_encodeDocument (data : Object) :
    TableStore.columnText (encodeDocument data) = encodeDocument data := by
  refine TableStore.columnText_eq_self fun null => ?_
  rw [encodeDocument, Value.compact, String.toList_ofList] at null
  exact absurd (Value.printable_compact (.object data) _ null) (by decide)

/-- A body comes back from its text as it was where floats are read exactly, whatever the document
is called, and no two bodies share a text. The text of a body that is nested too deeply is refused.
-/
theorem encodeDocument_lossless [reader : FloatReader] {data : Object}
    (canonical : (Value.object data).Canonical) :
    (reader.Faithful → (Value.object data).depth ≤ 127 → ∀ collection id,
      parseDocument collection id (encodeDocument data) = .ok data) ∧
    (127 < (Value.object data).depth → ∀ collection id,
      parseDocument collection id (encodeDocument data) =
        .error (.invalidDocument collection id .malformed)) ∧
    ∀ other : Object, (Value.object other).Canonical →
      encodeDocument other = encodeDocument data → other = data := by
  refine ⟨?_, ?_, ?_⟩
  · intro faithful shallow collection id
    have storable : Storable data := ⟨canonical, shallow, Value.steady_of_faithful faithful _⟩
    rw [parseDocument_encodeDocument collection id canonical, storable.readBack?_eq]
    rfl
  · intro deep collection id
    rw [parseDocument_encodeDocument collection id canonical, readBack?_of_deep deep]
    rfl
  · intro other ordered same
    exact Value.object.inj (Value.compact_injective ordered canonical same)

namespace Sample

attribute [local instance] FloatReader.exact

/-- So many objects inside one another, around a null. -/
def nested : Nat → Value
  | 0 => .null
  | levels + 1 => .object [("k", nested levels)]

theorem depth_nested (levels : Nat) : (nested levels).depth = levels := by
  induction levels with
  | zero => rfl
  | succ levels ih => simp [nested, Value.depth, Value.membersDepth, ih]

theorem canonical_nested (levels : Nat) : (nested levels).Canonical := by
  induction levels with
  | zero => trivial
  | succ levels ih => exact ⟨List.pairwise_singleton _ _, ih, trivial⟩

/-- Extreme integers, a negative zero beside the integer, the least float, and keys that need
escapes. -/
def ledger : Object :=
  [("", .null),
    ("\n\"", .array [.number (.integer (-2 ^ (63 : Nat)) (by decide)), .array [], .object []]),
    ("balance", .number (.float ⟨true, 0, Binary64.zero.finite⟩)), ("count", .number (.ofNat 0)),
    ("least", .number (.float ⟨false, 1, by decide⟩)),
    ("most", .number (.ofNat (2 ^ (64 : Nat) - 1))), ("über", .string "a\x00\\/😀")]

theorem canonical_ledger : (Value.object ledger).Canonical := by
  refine ⟨?_, ?_⟩
  · show ["", "\n\"", "balance", "count", "least", "most", "über"].Pairwise (· < ·)
    decide +kernel
  · simp [ledger, Value.CanonicalMembers, Value.Canonical, Value.CanonicalItems, Object.Sorted,
      Object.keys]

theorem encodeDocument_lossless_on_ledger :
    parseDocument "ledgers" "l1" (encodeDocument ledger) = .ok ledger ∧
      parseDocument "ledgers" "l2" (encodeDocument [("k", nested 127)]) =
        .error (.invalidDocument "ledgers" "l2" .malformed) := by
  have shallow : (Value.object ledger).depth ≤ 127 := by decide
  have deep : 127 < (Value.object [("k", nested 127)]).depth := by
    show 127 < (nested 128).depth
    rw [depth_nested]
    decide
  have faithful := FloatReader.faithful_exact
  exact ⟨(encodeDocument_lossless canonical_ledger).1 faithful shallow "ledgers" "l1",
    (encodeDocument_lossless (canonical_nested 128)).2.1 deep "ledgers" "l2"⟩

end Sample

end DocumentMigration
