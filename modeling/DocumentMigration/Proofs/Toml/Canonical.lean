import DocumentMigration.Toml.Parser
import DocumentMigration.Proofs.Json.Parser

/-!
A TOML document is read as an object with the members of every table in the order of their keys,
whatever order its lines have.
-/
namespace DocumentMigration

open Json

/-! What readers answer. -/

/-- A reading that came to nothing or to something good. -/
def Yields {α : Type} (good : α → Prop) (read : Option α) : Prop := ∀ a, read = some a → good a

namespace Yields

variable {α β : Type} {good : α → Prop} {fine : β → Prop} {read other : Option α} {a : α}

theorem nothing : Yields good none := nofun

theorem just (h : good a) : Yields good (some a) := by
  rintro _ ⟨⟩
  exact h

theorem or (first : Yields good read) (second : Yields good other) :
    Yields good (read.or other) := by
  intro a answered
  rcases Option.or_eq_some_iff.mp answered with found | ⟨-, found⟩
  · exact first a found
  · exact second a found

theorem map {f : α → β} (first : Yields good read) (last : ∀ a, good a → fine (f a)) :
    Yields fine (read.map f) := by
  intro b answered
  obtain ⟨a, found, rfl⟩ := Option.map_eq_some_iff.mp answered
  exact last a (first a found)

theorem bind {f : α → Option β} (first : Yields good read)
    (last : ∀ a, good a → Yields fine (f a)) : Yields fine (read >>= f) := by
  intro b answered
  obtain ⟨a, found, rest⟩ := Option.bind_eq_some_iff.mp answered
  exact last a (first a found) b rest

/-- Whatever was read first, it is followed by something good. -/
theorem after {f : α → Option β} (last : ∀ a, Yields fine (f a)) : Yields fine (read >>= f) :=
  fun _ answered =>
    let ⟨a, _, rest⟩ := Option.bind_eq_some_iff.mp answered
    last a _ rest

theorem of_forall {f : α → β} (last : ∀ a, fine (f a)) : Yields fine (read.map f) :=
  fun _ answered =>
    let ⟨a, _, same⟩ := Option.map_eq_some_iff.mp answered
    same ▸ last a

end Yields

namespace Toml

/-! Nodes. -/

namespace Node

mutual
/-- Every value in a node has its members in order. -/
def Canonical : Node → Prop
  | .value v => v.Canonical
  | .table _ _ entries => CanonicalEntries entries
  | .tables latest earlier => CanonicalEntries latest ∧ CanonicalTables earlier

def CanonicalEntries : List (String × Node) → Prop
  | [] => True
  | (_, n) :: rest => Canonical n ∧ CanonicalEntries rest

def CanonicalTables : List (List (String × Node)) → Prop
  | [] => True
  | entries :: rest => CanonicalEntries entries ∧ CanonicalTables rest
end

theorem canonicalEntries_iff {entries : List (String × Node)} :
    CanonicalEntries entries ↔ ∀ e ∈ entries, e.2.Canonical := by
  induction entries with
  | nil => simp [CanonicalEntries]
  | cons e rest ih => simp only [CanonicalEntries, ih, List.forall_mem_cons]

mutual
theorem canonical_toValue : (n : Node) → n.Canonical → n.toValue.Canonical
  | .value _, canonical => canonical
  | .table _ _ entries, canonical => .ofList (canonical_entryValues entries canonical)
  | .tables latest earlier, canonical => by
    rw [toValue]
    refine Value.canonicalItems_iff.mpr fun v member => ?_
    rcases List.mem_append.mp member with member | member
    · exact Value.canonicalItems_iff.mp (canonical_tableValues earlier canonical.2) v member
    · cases List.mem_singleton.mp member
      exact .ofList (canonical_entryValues latest canonical.1)

theorem canonical_entryValues : (entries : List (String × Node)) → CanonicalEntries entries →
    Value.CanonicalMembers (entryValues entries)
  | [], _ => trivial
  | (_, n) :: rest, canonical =>
    ⟨canonical_toValue n canonical.1, canonical_entryValues rest canonical.2⟩

theorem canonical_tableValues : (tables : List (List (String × Node))) → CanonicalTables tables →
    Value.CanonicalItems (tableValues tables)
  | [], _ => trivial
  | entries :: rest, canonical => by
    rw [tableValues]
    refine Value.canonicalItems_iff.mpr fun v member => ?_
    rcases List.mem_append.mp member with member | member
    · exact Value.canonicalItems_iff.mp (canonical_tableValues rest canonical.2) v member
    · cases List.mem_singleton.mp member
      exact .ofList (canonical_entryValues entries canonical.1)
end

end Node

namespace Entries

variable {entries : Entries} {key : String} {node : Node}

def Canonical (entries : Entries) : Prop := Node.CanonicalEntries entries

theorem canonical_nil : Canonical [] := trivial

theorem Canonical.of_find? (canonical : entries.Canonical) (found : entries.find? key = some node) :
    node.Canonical := by
  obtain ⟨l₁, l₂, rfl, -⟩ := List.lookup_eq_some_iff.mp found
  exact Node.canonicalEntries_iff.mp canonical (key, node) (by simp)

theorem Canonical.put (canonical : entries.Canonical) (new : node.Canonical) :
    (entries.put key node).Canonical := by
  induction entries with
  | nil => exact ⟨new, trivial⟩
  | cons e rest ih =>
    obtain ⟨k, n⟩ := e
    rw [Entries.put]
    split
    · exact ⟨new, canonical.2⟩
    · exact ⟨canonical.1, ih canonical.2⟩

theorem Canonical.erase (canonical : entries.Canonical) : (entries.erase key).Canonical :=
  Node.canonicalEntries_iff.mpr fun e member =>
    Node.canonicalEntries_iff.mp canonical e (List.mem_filter.mp member).1

theorem Canonical.editAt {dotted : Bool} {edit : Bool → Entries → Option Entries}
    (edits : ∀ b {entries}, Canonical entries → Yields Canonical (edit b entries))
    {path : List String} {isDotted : Bool} (canonical : entries.Canonical) :
    Yields Canonical (Entries.editAt dotted edit path isDotted entries) := by
  induction path generalizing isDotted entries with
  | nil => exact edits isDotted canonical
  | cons key path ih =>
    rw [Entries.editAt]
    split
    · exact (ih canonical_nil).bind fun inner made => .just (canonical.put made)
    · exact .nothing
    · next latest earlier found =>
      have tables := canonical.of_find? found
      exact (ih tables.1).bind fun inner made => .just (canonical.put ⟨made, tables.2⟩)
    · next implicit wasDotted inner found =>
      have table := canonical.of_find? found
      split
      · exact .nothing
      · exact (ih table).bind fun inner made => .just (canonical.put made)

theorem Canonical.insertKey {path : List String} {v : Value} (canonical : entries.Canonical)
    (new : v.Canonical) : Yields Canonical (entries.insertKey path v) := by
  refine canonical.editAt fun b entries before => ?_
  split
  · exact .nothing
  · exact .just (before.put new)

end Entries

/-! Drafts. -/

namespace Draft

variable {d : Draft}

structure Canonical (d : Draft) : Prop where
  root : d.root.Canonical
  current : d.current.Canonical

theorem Canonical.close (canonical : d.Canonical) : Yields Entries.Canonical d.close := by
  unfold Draft.close
  split
  · exact .just canonical.current
  · refine canonical.root.editAt fun b parent before => ?_
    split
    · split
      · exact .just (before.put ⟨canonical.current, trivial⟩)
      · next latest earlier found =>
        have tables := before.of_find? found
        exact .just (before.put ⟨canonical.current, tables⟩)
      · exact .nothing
    · split
      · exact .just (before.put canonical.current)
      · exact .nothing

theorem canonical_of_walk {path : List String} {entries : Entries} {node : Node}
    (canonical : entries.Canonical) (found : lookAt.walk path entries = some (some node)) :
    node.Canonical := by
  fun_induction lookAt.walk path entries with
  | case1 => cases found
  | case2 entries key => exact canonical.of_find? (Option.some.inj found)
  | case3 => cases found
  | case4 => cases found
  | case5 entries key rest _ latest earlier here ih => exact ih (canonical.of_find? here).1 found
  | case6 entries key rest _ implicit dotted inner here ih =>
    exact ih (canonical.of_find? here) found

/-- If there is something at a path, it is canonical. -/
theorem canonical_lookAt {root : Entries} (canonical : root.Canonical) (path : List String) :
    Yields (∀ node ∈ ·, Node.Canonical node) (lookAt path root) := by
  rintro _ looked node rfl
  exact canonical_of_walk canonical looked

theorem Canonical.openTable (canonical : d.Canonical) (path : List String) :
    Yields Canonical (d.openTable path) := by
  refine canonical.close.bind fun root closed => ?_
  refine (canonical_lookAt closed path).bind fun place table => ?_
  split
  · exact .just ⟨closed, Entries.canonical_nil⟩
  · next entries =>
    refine Yields.bind (closed.editAt fun b parent before => ?_) fun root erased => ?_
    · exact .just before.erase
    · exact .just ⟨erased, table _ rfl⟩
  · exact .nothing

theorem Canonical.openElement (canonical : d.Canonical) (path : List String) :
    Yields Canonical (d.openElement path) := by
  refine canonical.close.bind fun root closed => .after fun place => ?_
  split
  · exact .just ⟨closed, Entries.canonical_nil⟩
  · exact .just ⟨closed, Entries.canonical_nil⟩
  · exact .nothing

theorem Canonical.insert {v : Value} (canonical : d.Canonical) (new : v.Canonical)
    (path : List String) : Yields Canonical (d.insert path v) :=
  (canonical.current.insertKey new).map fun _ inserted => ⟨canonical.root, inserted⟩

end Draft

/-! Values. -/

theorem canonical_integerValue? (i : Int) : Yields Value.Canonical (integerValue? i) := by
  unfold integerValue?
  split
  · exact .just trivial
  · exact .nothing

theorem canonical_decimalInteger? (token : List Char) :
    Yields Value.Canonical (decimalInteger? token) :=
  .after fun _ => canonical_integerValue? _

theorem canonical_radixInteger? (radix : Nat) (digits : List Char) :
    Yields Value.Canonical (radixInteger? radix digits) :=
  .after fun _ => canonical_integerValue? _

theorem canonical_float? (token : List Char) : Yields Value.Canonical (float? token) := by
  unfold float?
  dsimp only
  -- Whatever digits were read, a number comes of them or nothing does.
  repeat' first | refine .after fun _ => ?_ | split
  all_goals first | exact .nothing | exact .just trivial

theorem canonical_special? (token : List Char) : Yields Value.Canonical (special? token) := by
  unfold special?
  split
  · exact .just trivial
  · exact .just trivial
  · exact .nothing

theorem canonical_dateTimeValue (text : String) : (dateTimeValue text).Canonical :=
  ⟨List.pairwise_singleton _ _, trivial, trivial⟩

theorem canonical_scalar? (token : List Char) : Yields Value.Canonical (scalar? token) := by
  unfold scalar?
  split
  · exact .just trivial
  · exact .just trivial
  · exact canonical_radixInteger? _ _
  · exact canonical_radixInteger? _ _
  · exact canonical_radixInteger? _ _
  · exact .or (canonical_decimalInteger? token) (.or (canonical_float? token)
      (.or (canonical_special? token) (.of_forall canonical_dateTimeValue)))

/-- With some fuel, whatever is read has its members in order. -/
structure Orderly (fuel : Nat) : Prop where
  value : ∀ level cs, Yields (·.1.Canonical) (value? level fuel cs)
  items : ∀ level cs, Yields (fun r => ∀ x ∈ r.1, x.Canonical) (items? level fuel cs)
  pairs : ∀ level {entries : Entries}, entries.Canonical → ∀ cs,
    Yields (fun r => Entries.Canonical r.1) (pairs? level fuel entries cs)

namespace Orderly

variable {fuel : Nat} (inner : Orderly fuel) (level : Nat) (cs : List Char)
include inner

theorem array : Yields (·.1.Canonical)
    ((items? level fuel cs).map fun (xs, rest) => (Value.array xs, rest)) :=
  (inner.items level cs).map fun _ => Value.canonicalItems_iff.mpr

theorem inlineTable : Yields (·.1.Canonical)
    ((pairs? level fuel [] cs).map fun (entries, rest) => (Entries.toValue entries, rest)) :=
  (inner.pairs level Entries.canonical_nil cs).map fun (entries, _) entriesCanonical =>
    Node.canonical_toValue (.table false false entries) entriesCanonical

theorem value_succ : Yields (·.1.Canonical) (value? level (fuel + 1) cs) := by
  unfold value?
  split
  · split
    · exact inner.array (level + 1) _
    · exact .nothing
  · split
    · split
      · exact .just ⟨.nil, trivial⟩
      · exact inner.inlineTable (level + 1) _
    · exact .nothing
  · exact .of_forall fun _ => trivial
  · exact .of_forall fun _ => trivial
  · exact (canonical_scalar? _).map fun _ canonical => canonical

theorem items_succ : Yields (fun r => ∀ x ∈ r.1, x.Canonical) (items? level (fuel + 1) cs) := by
  unfold items?
  split
  · exact .nothing
  · exact .just nofun
  · next same _ =>
    cases same
    refine (inner.value level _).bind fun (x, rest) first => ?_
    dsimp only
    split
    · exact (inner.items level _).bind fun _ more => .just (List.forall_mem_cons.mpr ⟨first, more⟩)
    · exact .just (List.forall_mem_singleton.mpr first)
    · exact .nothing

theorem pairs_succ {entries : Entries} (canonical : entries.Canonical) :
    Yields (fun r => Entries.Canonical r.1) (pairs? level (fuel + 1) entries cs) := by
  unfold pairs?
  refine .after fun (key, rest) => ?_
  dsimp only
  split
  · refine (inner.value level _).bind fun (v, rest) first => ?_
    refine (canonical.insertKey first).bind fun entries more => ?_
    split
    · exact inner.pairs level more _
    · exact .just more
    · exact .nothing
  · exact .nothing

end Orderly

/-- Values, items and pairs call each other with less fuel, so they are treated together. -/
theorem orderly : ∀ fuel, Orderly fuel
  | 0 => ⟨fun _ _ => .nothing, fun _ _ => .nothing, fun _ _ _ _ => .nothing⟩
  | fuel + 1 =>
    have inner := orderly fuel
    ⟨inner.value_succ, inner.items_succ, fun level _ canonical cs =>
      inner.pairs_succ level cs canonical⟩

/-! Documents. -/

theorem canonical_line? (cs : List Char) {d : Draft} (canonical : d.Canonical) :
    Yields (·.1.Canonical) (line? cs d) := by
  unfold line?
  split
  iterate 4
    · exact .just canonical
  · refine .after fun (key, rest) => ?_
    dsimp only
    split
    · exact (canonical.openElement key).bind fun _ opened => .just opened
    · exact .nothing
  · refine .after fun (key, rest) => ?_
    exact (canonical.openTable key).bind fun _ opened => .just opened
  · refine .after fun (key, rest) => ?_
    dsimp only
    split
    · refine ((orderly _).value 0 _).bind fun (v, rest) new => ?_
      exact (canonical.insert new key).bind fun _ inserted => .just inserted
    · exact .nothing

theorem canonical_lines? (fuel : Nat) (cs : List Char) {d : Draft} (canonical : d.Canonical) :
    Yields Draft.Canonical (lines? fuel cs d) := by
  induction fuel generalizing cs d with
  | zero => exact .nothing
  | succ fuel ih =>
    cases cs with
    | nil => exact .just canonical
    | cons c cs =>
      exact (canonical_line? (c :: cs) canonical).bind fun (next, rest) line =>
        .after fun rest => ih rest line

theorem canonical_parse? (text : String) : Yields Value.Canonical (parse? text) := by
  have start : Draft.Canonical {} := ⟨Entries.canonical_nil, Entries.canonical_nil⟩
  refine (canonical_lines? _ _ start).bind fun d canonical => ?_
  exact canonical.close.bind fun entries closed =>
    .just (Node.canonical_toValue (.table false false entries) closed)

end Toml

end DocumentMigration
