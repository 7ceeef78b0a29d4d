import DocumentMigration.Proofs.Json.Literal
import DocumentMigration.Proofs.Json.Pointer
import DocumentMigration.Proofs.Schema.Following
import DocumentMigration.Schema.Collection

/-!
Checking a collection against an item schema. The schema of the collection has the item schema one
level down, which changes nothing for references that name an anchor or start from an identifier of
the item schema. What starts from the root of the document finds the collection's schema there.
-/
namespace DocumentMigration

open Json

namespace Asked

/-- What follows the number sign in the text of a reference. -/
def fragment (a : Asked) : List Char := (Uri.cut '#' a.text.toList).2.getD []

/-- A reference that leads to the root of the document, or from there to a place by a pointer. -/
def IsRooted (a : Asked) : Prop :=
  ∃ uri, a.scope.base.resolveText? a.text = some uri ∧ uri.withoutFragment = .unnamed ∧
    (a.fragment = [] ∨ a.fragment.head? = some '/')

/-- The member of the whole document that a pointer in a reference starts with. -/
def member? (a : Asked) : Option String := do
  let uri ← a.scope.base.resolveText? a.text
  if uri.withoutFragment = .unnamed then
    match a.fragment with
    | '/' :: pointer => do
      let text ← Pointer.percentDecode (String.ofList pointer)
      let segment ← (text.toList.splitOn '/').head?
      return Pointer.unescape (String.ofList segment)
    | _ => none
  else none

end Asked

/-- No reference leads to the root of the document, nor from there to a place by a pointer. -/
def CompiledSchema.Rootless (s : CompiledSchema) : Prop :=
  ∀ t, s.Reached t → ∀ a ∈ t.references, ¬a.IsRooted

section Entries

variable {item : Value} {entries : List Entry}

theorem ofSchema?_collectionSchema (item : Value) :
    Entry.ofSchema? .outermost (collectionSchema item) = Entry.ofSchema? .outermost item := by
  have here : Scope.outermost.inside? (Scope.textOf? · (collectionSchema item)) =
      some .outermost := rfl
  have kind : Schema.form "items" = .schema := rfl
  have other : Schema.form "type" = .assertion := rfl
  rw [collectionSchema] at here ⊢
  rw [Entry.ofSchema?, here]
  rcases own : Entry.ofSchema? .outermost item with _ | entries
  · simp [Entry.ofKeywords?, kind, own]
  · simp [Entry.ofKeywords?, kind, own, other, Entry.ofText?]

theorem resource?_ofRoot (root : Value) {uri : Uri} (named : uri ≠ .unnamed) :
    (Resources.ofRoot root entries).resource? uri = (⟨entries⟩ : Resources).resource? uri := by
  simp [Resources.resource?, named.symm]

theorem resource?_unnamed (root : Value) :
    (Resources.ofRoot root entries).resource? .unnamed = some root := by
  simp [Resources.resource?]

theorem anchor?_ofRoot (root : Value) (uri : Uri) (name : String) :
    (Resources.ofRoot root entries).anchor? uri name =
      (⟨entries⟩ : Resources).anchor? uri name := by
  simp [Resources.anchor?]

theorem named?_ofRoot (root root' : Value) (s : Scope) (name : String) :
    (Resources.ofRoot root entries).named? s name =
      (Resources.ofRoot root' entries).named? s name := by
  simp only [Resources.named?, anchor?_ofRoot]

theorem isSome_resource?_ofRoot (root root' : Value) (uri : Uri) :
    ((Resources.ofRoot root entries).resource? uri).isSome =
      ((Resources.ofRoot root' entries).resource? uri).isSome := by
  by_cases named : uri = .unnamed
  · rw [named, resource?_unnamed, resource?_unnamed]
    rfl
  · rw [resource?_ofRoot root named, resource?_ofRoot root' named]

/-- The identifiers and anchors in an item schema are those in the schema of the collection. -/
theorem resources_collectionSchema [Standards] {r : Resources}
    (own : Resources.ofValue? item = some r) :
    ∃ entries, r = .ofRoot item entries ∧ Resources.ofValue? (collectionSchema item) =
      some (.ofRoot (collectionSchema item) entries) := by
  rw [Resources.ofValue?] at own
  obtain ⟨entries, read, own⟩ := Option.bind_eq_some_iff.mp own
  obtain ⟨complete, same⟩ := Option.ite_none_right_eq_some.mp own
  refine ⟨entries ++ Standards.entries, (Option.some.inj same).symm, ?_⟩
  rw [Resources.ofValue?, ofSchema?_collectionSchema, read]
  refine if_pos ((congrArg entries.all (funext fun e => ?_)).trans complete)
  cases e with
  | external uri => exact isSome_resource?_ofRoot _ _ uri
  | _ => rfl

theorem place?_ofRoot {s : Scope} {fragment : List Char} (root root' : Value)
    (free : s.base = .unnamed → fragment ≠ [] ∧ fragment.head? ≠ some '/') :
    (Resources.ofRoot root entries).place? s fragment =
      (Resources.ofRoot root' entries).place? s fragment := by
  by_cases named : s.base = .unnamed
  · obtain ⟨nonempty, anchor⟩ := free named
    unfold Resources.place?
    split
    · exact absurd rfl nonempty
    · exact absurd rfl anchor
    · rw [named?_ofRoot]
  · simp only [Resources.place?, resource?_ofRoot _ named, named?_ofRoot root root']

theorem Asked.lookup?_eq (a : Asked) (r : Resources) : r.lookup? a.scope a.text =
    (a.scope.base.resolveText? a.text).bind fun uri =>
      r.place? (a.scope.enter uri.withoutFragment) a.fragment := rfl

/-- A reference that is not rooted leads to the same place whatever the whole document is. -/
theorem lookup?_of_not_isRooted {a : Asked} (free : ¬a.IsRooted) (root root' : Value) :
    (Resources.ofRoot root entries).lookup? a.scope a.text =
      (Resources.ofRoot root' entries).lookup? a.scope a.text := by
  rw [a.lookup?_eq, a.lookup?_eq]
  apply Option.bind_congr
  intro uri read
  apply place?_ofRoot
  intro unnamed
  rw [Scope.base_enter] at unnamed
  exact not_or.mp fun rooted => free ⟨uri, read, unnamed, rooted⟩

/-- The schema of a collection has just two members at its root. -/
theorem lookup?_of_member? {a : Asked} {name : String} (member : a.member? = some name)
    (items : name ≠ "items") (type : name ≠ "type") :
    (Resources.ofRoot (collectionSchema item) entries).lookup? a.scope a.text = none := by
  rw [Asked.member?] at member
  obtain ⟨uri, read, member⟩ := Option.bind_eq_some_iff.mp member
  obtain ⟨unnamed, member⟩ := Option.ite_none_right_eq_some.mp member
  rw [a.lookup?_eq, read, Option.bind_some, unnamed]
  split at member
  · next pointer fragment =>
    obtain ⟨text, decoded, member⟩ := Option.bind_eq_some_iff.mp member
    obtain ⟨segment, first, member⟩ := Option.bind_eq_some_iff.mp member
    cases member
    obtain ⟨rest, parts⟩ := List.head?_eq_some_iff.mp first
    have absent : Resources.child? (String.ofList segment) (collectionSchema item) = none := by
      simp [Resources.child?, collectionSchema, Object.get?, items.symm, type.symm]
    simp [fragment, Resources.place?, resource?_unnamed, decoded, parts, Resources.descend?, absent]
  · cases member

end Entries

/-- An array with items that pass. -/
def Check.collection (item : Value) (c : Check) : Check :=
  .object .draft2020 [("items", .one item c), ("type", .assertion (.type [.array]))]

/-- The place of an item in a collection, below the keyword for items. -/
def Place.item (i : Nat) : Place := ⟨["items"], [Pointer.indexText i]⟩

theorem Check.collection_array (item : Value) (c : Check) (xs : List Value) :
    Check.collection item c {} (.array xs) = xs.zipIdx.flatMap fun (x, i) => c (.item i) x := by
  have first : Siblings.prefixCount
      [("items", .one item c), ("type", .assertion (.type [.array]))] = 0 := rfl
  simp [collection, object, keyword, items, assertion, Assertion.holds, TypeName.admits, first,
    Place.keyword, Place.index, Place.member, Place.item]

section Linking

variable {item : Value} {schema : Schema}

theorem schema_collectionSchema (item : Value) : Schema.ofValue? (collectionSchema item) =
    (Schema.ofValue? item).map fun schema =>
      .object [("items", .one item schema), ("type", .assertion (.type [.array]))] := by
  have items : Schema.form "items" = .schema := rfl
  have type : Schema.form "type" = .assertion := rfl
  have array : Assertion.ofKeyword? "type" (.string "array") = some (.type [.array]) := rfl
  rcases read : Schema.ofValue? item with _ | schema <;>
    simp [collectionSchema, Schema.ofValue?, Schema.ofMembers?, items, type, read, array]

/-- The surroundings of a whole document are those inside the schema of a collection. -/
theorem inside?_collectionSchema (item : Value) (schema : Schema) :
    Scope.outermost.inside? (Schema.textOf?
      [("items", .one item schema), ("type", .assertion (.type [.array]))]) =
      some .outermost := rfl

/-- The schema of a collection means that the items pass the item schema, which is linked with the
same fuel. -/
theorem link_collectionSchema [Standards] (read : Schema.ofValue? item = some schema)
    (r : Resources) (f : Target → Check) (fuel : Nat) :
    Target.link r f (fuel + 1) ⟨collectionSchema item, .outermost⟩ =
      (do return .collection item (← Target.link r f (fuel + 1) ⟨item, .outermost⟩)) := by
  have here (α : Type) (a : α) : (liftM (some a) : Linking α) = pure a := rfl
  have items : Draft.reaches .draft2020 ["items", "type"] "items" = true := rfl
  have type : Draft.reaches .draft2020 ["items", "type"] "type" = true := rfl
  simp [Target.link, schema_collectionSchema, read, here, Schema.link,
    inside?_collectionSchema, Schema.linkKeywords, Schema.linkContent, items, type,
    Check.collection]

end Linking

namespace CompiledSchema

variable {item : Value} {s : CompiledSchema} {entries : List Entry}

/-- The schema of a collection, with the entries of its item schema. -/
abbrev collection (item : Value) (entries : List Entry) : CompiledSchema :=
  ⟨collectionSchema item, .ofRoot (collectionSchema item) entries⟩

theorem size_collectionSchema (item : Value) : size (collectionSchema item) = size item + 2 := by
  simp [collectionSchema, size, membersSize]

theorem places_collectionSchema [Standards] (item : Value) :
    places (collectionSchema item) = places item + 2 := by
  rw [places, size_collectionSchema, Nat.add_right_comm]
  rfl

theorem Rootless.agrees (rootless : s.Rootless) (own : s.resources = .ofRoot s.root entries)
    (root : Value) : s.Agrees (.ofRoot root entries) := by
  intro t reached a member
  rw [own]
  exact lookup?_of_not_isRooted (rootless t reached a member) root s.root

variable [Standards]

/-- What is read of a document that compiles. -/
theorem parts_of_ofValue? (compiles : ofValue? item = some s) :
    ∃ schema c, Schema.ofValue? item = some schema ∧ Resources.ofValue? item = some s.resources ∧
      s.root = item ∧ s.check? (fun _ => .pass) s.target = some c := by
  obtain ⟨schema, read, compiles⟩ := Option.bind_eq_some_iff.mp compiles
  obtain ⟨resources, own, compiles⟩ := Option.bind_eq_some_iff.mp compiles
  obtain ⟨c, linked, compiles⟩ := Option.bind_eq_some_iff.mp compiles
  cases compiles
  exact ⟨schema, c, read, own, rfl, linked⟩

/-- Linking the schema of a collection comes down to linking the item schema. -/
theorem check?_collectionSchema {schema : Schema} (read : Schema.ofValue? item = some schema)
    (r : Resources) (f : Target → Check) :
    check? ⟨collectionSchema item, r⟩ f (target ⟨collectionSchema item, r⟩) =
      (((Target.link r f (places item + 3) ⟨item, .outermost⟩).run []).map (·.1)).map
        (.collection item) := by
  rw [check?, target, places_collectionSchema, link_collectionSchema read, StateT.run_bind]
  rcases (Target.link r f (places item + 3) ⟨item, .outermost⟩).run [] with _ | ⟨c, met⟩ <;> rfl

/-- The schema of a collection compiles if no reference in the item schema starts from the root. -/
theorem ofValue?_collectionSchema (compiles : ofValue? item = some s) (rootless : s.Rootless) :
    ∃ entries, s.resources = .ofRoot item entries ∧
      ofValue? (collectionSchema item) = some (collection item entries) := by
  obtain ⟨schema, c, read, own, rfl, linked⟩ := parts_of_ofValue? compiles
  obtain ⟨entries, resources, resources'⟩ := resources_collectionSchema own
  refine ⟨entries, resources, ?_⟩
  obtain ⟨⟨_, met⟩, built, rfl⟩ := Option.map_eq_some_iff.mp linked
  obtain ⟨c', built'⟩ : ∃ c', (Target.link (.ofRoot (collectionSchema s.root) entries)
      (fun _ => .pass) (places s.root + 3) s.target).run [] = some (c', met) :=
    link_of_agrees (rootless.agrees resources _) (by omega) built
  have linked' := check?_collectionSchema read (.ofRoot (collectionSchema s.root) entries)
    fun _ => .pass
  rw [target] at built'
  rw [built'] at linked'
  rw [ofValue?, schema_collectionSchema, read, resources']
  simp only [Option.map_some, Option.bind_eq_bind, Option.bind_some, linked']
  rfl

/-- One step of following finds the faults of the items under the item schema. -/
theorem follow_collection {schema : Schema} (read : Schema.ofValue? item = some schema)
    (entries : List Entry) (more : Nat) (xs : List Value) :
    (collection item entries).follow (more + 1) (collection item entries).target {} (.array xs) =
      xs.zipIdx.flatMap fun (x, i) =>
        (collection item entries).resources.follow (places item + 3) (more + 1)
          ⟨item, .outermost⟩ (.item i) x := by
  have fuel : places (collection item entries).root + 1 = places item + 3 :=
    congrArg (· + 1) (places_collectionSchema item)
  rw [follow, check?_collectionSchema read, follow_eq, fuel]
  simp only [Resources.follow]
  rcases (Target.link _ _ (places item + 3) ⟨item, .outermost⟩).run [] with _ | ⟨c, met⟩
  · exact (List.flatMap_eq_nil_iff.mpr fun _ _ => rfl).symm
  · exact Check.collection_array item c xs

/-- The faults of a collection are those of its items under the item schema, each found below its
index. -/
theorem faults_collection {schema : Schema} (read : Schema.ofValue? s.root = some schema)
    (rootless : s.Rootless) (grounded : s.Grounded) (own : s.resources = .ofRoot s.root entries)
    (xs : List Value) :
    (collection s.root entries).faults (.array xs) =
      xs.zipIdx.flatMap fun (x, i) => (s.faults x).map (Fault.under (.item i)) := by
  have whole : places (collection s.root entries).root = places s.root + 2 :=
    places_collectionSchema s.root
  obtain ⟨more, fuel⟩ : ∃ more, ((Value.array xs).depth + 2) * (places s.root + 3) = more + 1 :=
    Nat.exists_eq_succ_of_ne_zero (by simp)
  rw [faults, whole, fuel, follow_collection read]
  apply List.flatMap_congr
  rintro ⟨x, i⟩ member
  have within : x.depth ≤ Value.itemsDepth xs :=
    Value.itemsDepth_le_iff.mp le_rfl _ (List.fst_mem_of_mem_zipIdx member)
  have lasting : (x.depth + 2) * (places s.root + 1) ≤ more + 1 := by
    rw [← fuel, Value.depth]
    exact Nat.mul_le_mul (by omega) (by omega)
  exact grounded.faults_under (rootless.agrees own _) _ (by omega) lasting

end CompiledSchema

theorem CompiledSchema.rootless_of_references_eq_nil {s : CompiledSchema}
    (unasked : s.target.references = []) : s.Rootless := by
  intro t reached a member
  rw [reached.eq_target unasked, unasked] at member
  cases member

theorem indexText_injective {i j : Nat} (same : Pointer.indexText i = Pointer.indexText j) :
    i = j := by
  have digits : Nat.toDigits 10 i = Nat.toDigits 10 j := String.ofList_injective same
  rw [← Number.digitsValue_toDigits i, digits, Number.digitsValue_toDigits]

theorem instancePath_ofFault (schema : Value) (f : Fault) (i : Nat) :
    (Violation.ofFault schema (f.under (.item i))).instancePath =
      Pointer.text (Pointer.indexText i :: f.place.instancePath) := rfl

section Validate

variable [Standards] {item : Value} {s : CompiledSchema}

theorem validateCollection_eq_ok (documents : List Snapshot) {whole : CompiledSchema}
    (compiles : CompiledSchema.ofValue? (collectionSchema item) = some whole) :
    validateCollection item documents = .ok
      ((whole.faults (.array (documents.map fun d => .object d.data))).map
        (Violation.ofFault (collectionSchema item))) := by
  rw [validateCollection, compiles]

theorem validateCollection_eq_error (documents : List Snapshot)
    (invalid : CompiledSchema.ofValue? (collectionSchema item) = none) :
    validateCollection item documents = .error .invalidSchema := by
  rw [validateCollection, invalid]

/-- The violations of a collection are the faults of its documents under the item schema, reported
below the index of each. -/
theorem validateCollection_of_grounded (compiles : CompiledSchema.ofValue? item = some s)
    (rootless : s.Rootless) (grounded : s.Grounded) (documents : List Snapshot) :
    validateCollection item documents = .ok (documents.zipIdx.flatMap fun (d, i) =>
      (s.faults (.object d.data)).map fun f =>
        Violation.ofFault (collectionSchema item) (f.under (.item i))) := by
  obtain ⟨schema, c, read, own, rfl, linked⟩ := CompiledSchema.parts_of_ofValue? compiles
  obtain ⟨entries, resources, compiles'⟩ :=
    CompiledSchema.ofValue?_collectionSchema compiles rootless
  rw [validateCollection_eq_ok documents compiles',
    CompiledSchema.faults_collection read rootless grounded resources]
  simp only [List.map_flatMap, List.zipIdx_map, List.flatMap_map, List.map_map]
  rfl

/-- The violations of a collection by the document that each of them stands in. -/
theorem mem_reports {documents : List Snapshot} {v : Violation} :
    v ∈ (documents.zipIdx.flatMap fun (d, i) => (s.faults (.object d.data)).map fun f =>
      Violation.ofFault (collectionSchema item) (f.under (.item i))) ↔
    ∃ i d f, documents[i]? = some d ∧ f ∈ s.faults (.object d.data) ∧
      Violation.ofFault (collectionSchema item) (f.under (.item i)) = v := by
  constructor
  · intro member
    obtain ⟨⟨d, i⟩, indexed, reported⟩ := List.mem_flatMap.mp member
    obtain ⟨f, fault, same⟩ := List.mem_map.mp reported
    exact ⟨i, d, f, List.mem_zipIdx_iff_getElem?.mp indexed, fault, same⟩
  · rintro ⟨i, d, f, found, fault, same⟩
    refine List.mem_flatMap.mpr ⟨(d, i), List.mem_zipIdx_iff_getElem?.mpr found, ?_⟩
    exact List.mem_map.mpr ⟨f, fault, same⟩

/-- A pointer from the root to a member that a collection's schema does not have leads nowhere. -/
theorem ofValue?_collectionSchema_eq_none (compiles : CompiledSchema.ofValue? item = some s)
    {a : Asked} (asked : a ∈ s.target.references) {name : String} (member : a.member? = some name)
    (items : name ≠ "items") (type : name ≠ "type") :
    CompiledSchema.ofValue? (collectionSchema item) = none := by
  apply Option.eq_none_iff_forall_ne_some.mpr
  intro whole compiles'
  obtain ⟨schema, c, read, own, rfl, -⟩ := CompiledSchema.parts_of_ofValue? compiles
  obtain ⟨_, c', -, own', root, linked⟩ := CompiledSchema.parts_of_ofValue? compiles'
  obtain ⟨entries, -, resources⟩ := resources_collectionSchema own
  obtain ⟨whole, r⟩ := whole
  obtain rfl : whole = collectionSchema s.root := root
  obtain rfl : .ofRoot (collectionSchema s.root) entries = r :=
    Option.some.inj (resources.symm.trans own')
  rw [CompiledSchema.check?_collectionSchema read] at linked
  obtain ⟨c, linked, -⟩ := Option.map_eq_some_iff.mp linked
  obtain ⟨⟨_, met⟩, built, -⟩ := Option.map_eq_some_iff.mp linked
  obtain ⟨target, found⟩ := Target.resolves_of_link built a asked
  rw [lookup?_of_member? member items type] at found
  cases found

/-- An item schema with a keyword that is not of the form of the latest edition makes a collection
that cannot be checked, whatever edition it names. Every other item schema that compiles means the
same in the schema of a collection, unless its references start from the root: the collection can be
checked, and a violation stands in a document just when the document has a fault under the item
schema alone. All violations stand in documents. An item schema without references is always of this
kind. If the item schema asks for a place by a pointer from the root that starts with a member of
its own, the collection cannot be checked. -/
theorem validateCollection_reports_faults (item : Value) (documents : List Snapshot) :
    (Schema.ofValue? item = none → validateCollection item documents = .error .invalidSchema) ∧
    ∀ s, CompiledSchema.ofValue? item = some s →
      (s.Rootless → ∃ violations, validateCollection item documents = .ok violations ∧
        (s.Grounded →
          (∀ i d, documents[i]? = some d →
            ((∃ v ∈ violations, ∃ rest,
                v.instancePath = Pointer.text (Pointer.indexText i :: rest)) ↔
              s.faults (.object d.data) ≠ [])) ∧
          ∀ v ∈ violations, ∃ i < documents.length, ∃ rest,
            v.instancePath = Pointer.text (Pointer.indexText i :: rest))) ∧
      (s.target.references = [] → s.Rootless ∧ s.Grounded) ∧
      (∀ a ∈ s.target.references, ∀ name, a.member? = some name → name ≠ "items" → name ≠ "type" →
        validateCollection item documents = .error .invalidSchema) := by
  refine ⟨fun unreadable => ?_, fun s compiles => ⟨?_, ?_, ?_⟩⟩
  · apply validateCollection_eq_error
    rw [CompiledSchema.ofValue?, schema_collectionSchema, unreadable]
    rfl
  · intro rootless
    obtain ⟨entries, -, compiles'⟩ := CompiledSchema.ofValue?_collectionSchema compiles rootless
    have checked := validateCollection_eq_ok documents compiles'
    refine ⟨_, checked, ?_⟩
    intro grounded
    rw [validateCollection_of_grounded compiles rootless grounded] at checked
    rw [← Except.ok.inj checked]
    constructor
    · intro i d found
      constructor
      · rintro ⟨v, member, rest, path⟩
        obtain ⟨j, d', f, found', fault, rfl⟩ := mem_reports.mp member
        rw [instancePath_ofFault] at path
        obtain ⟨index, -⟩ := List.cons.inj (Pointer.text_injective path)
        rw [indexText_injective index, found] at found'
        cases found'
        exact List.ne_nil_of_mem fault
      · intro faulty
        obtain ⟨f, fault⟩ := List.exists_mem_of_ne_nil _ faulty
        exact ⟨_, mem_reports.mpr ⟨i, d, f, found, fault, rfl⟩, _, instancePath_ofFault _ f i⟩
    · intro v member
      obtain ⟨i, d, f, found, -, rfl⟩ := mem_reports.mp member
      obtain ⟨within, -⟩ := List.getElem?_eq_some_iff.mp found
      exact ⟨i, within, _, instancePath_ofFault _ f i⟩
  · intro unasked
    exact ⟨CompiledSchema.rootless_of_references_eq_nil unasked,
      CompiledSchema.grounded_of_references_eq_nil unasked⟩
  · intro a asked name member items type
    exact validateCollection_eq_error documents
      (ofValue?_collectionSchema_eq_none compiles asked member items type)

end Validate

namespace Sample

attribute [local instance] Standards.bare

/-- A person has a name, and friends who are persons. -/
def person : Value := .object
  [("$anchor", .string "person"),
    ("properties", .object
      [("friend", .object [("$ref", .string "#person")]),
        ("name", .object [("type", .string "string")])]),
    ("type", .string "object")]

/-- An attendee is a person, found by the anchor. -/
def attendee : Value :=
  .object [("$defs", .object [("person", person)]), ("$ref", .string "#person")]

/-- The same by a pointer. -/
def pointedAttendee : Value := .object
  [("$defs", .object [("person", person)]), ("$ref", .string "#/$defs/person")]

/-- A row with a schema for each of its seats, as older editions have it. -/
def seatRow : Value := .object
  [("$schema", .string "http://json-schema.org/draft-07/schema#"),
    ("properties", .object
      [("seats", .object [("items", .array [.object [("type", .string "string")], .bool true])])])]

/-- The friend of the second attendee has no text as a name. -/
def attendees : List Snapshot :=
  [⟨"g1", [("friend", .object [("name", .string "Bob")]), ("name", .string "Ada")]⟩,
    ⟨"g2", [("friend", .object [("name", .null)]), ("name", .string "Eve")]⟩]

variable {s : CompiledSchema}

theorem references_attendee (compiles : CompiledSchema.ofValue? attendee = some s) :
    s.target.references = [⟨.outermost, "#person", false⟩] := by
  obtain ⟨schema, c, -, -, root, -⟩ := CompiledSchema.parts_of_ofValue? compiles
  have asked : Target.references ⟨attendee, .outermost⟩ = [⟨.outermost, "#person", false⟩] := by
    decide +kernel
  rwa [← root] at asked

theorem references_person (compiles : CompiledSchema.ofValue? attendee = some s) {t : Target}
    (found : s.resources.lookup? .outermost "#person" = some t) :
    t.references = [⟨.outermost, "#person", true⟩] := by
  obtain ⟨schema, c, -, own, -, -⟩ := CompiledSchema.parts_of_ofValue? compiles
  have behind : ((Resources.ofValue? attendee).bind fun r =>
      (r.lookup? .outermost "#person").map Target.references) =
      some [⟨.outermost, "#person", true⟩] := by
    decide +kernel
  rw [own, Option.bind_some, found] at behind
  exact Option.some.inj behind

/-- The anchor is asked for the attendee, and from there on for each friend. -/
theorem references_reached (compiles : CompiledSchema.ofValue? attendee = some s) {t : Target}
    (reached : s.Reached t) : ∃ inside, t.references = [⟨.outermost, "#person", inside⟩] := by
  induction reached with
  | target => exact ⟨false, references_attendee compiles⟩
  | next _ member found ih =>
    obtain ⟨inside, asked⟩ := ih
    rw [asked] at member
    obtain rfl := List.mem_singleton.mp member
    exact ⟨true, references_person compiles found⟩

theorem rootless_attendee (compiles : CompiledSchema.ofValue? attendee = some s) : s.Rootless := by
  intro t reached a member
  obtain ⟨inside, asked⟩ := references_reached compiles reached
  rw [asked] at member
  obtain rfl := List.mem_singleton.mp member
  rintro ⟨uri, -, -, root | pointer⟩
  · exact absurd root (by cases inside <;> decide)
  · exact absurd pointer (by cases inside <;> decide)

theorem grounded_attendee (compiles : CompiledSchema.ofValue? attendee = some s) : s.Grounded := by
  have positive : 1 ≤ CompiledSchema.size s.root := by
    obtain ⟨schema, c, -, -, root, -⟩ := CompiledSchema.parts_of_ofValue? compiles
    rw [root]
    decide
  refine ⟨(Uri.unnamed.resolveText? "#person").toList,
    fun t => if t.references = [⟨.outermost, "#person", false⟩] then 1 else 0, ?_, ?_, ?_, ?_⟩
  · intro t reached a member uri named
    obtain ⟨inside, asked⟩ := references_reached compiles reached
    rw [asked] at member
    obtain rfl := List.mem_singleton.mp member
    rw [named]
    exact List.mem_singleton_self uri
  · exact le_trans (by cases Uri.unnamed.resolveText? "#person" <;> simp) positive
  · intro t _
    split
    · exact positive
    · exact Nat.zero_le _
  · intro t reached a member here t' found
    obtain ⟨inside, asked⟩ := references_reached compiles reached
    rw [asked] at member
    obtain rfl := List.mem_singleton.mp member
    have behind := references_person compiles found
    cases here
    simp [asked, behind]

theorem validateCollection_reports_attendees : ∃ s, CompiledSchema.ofValue? attendee = some s ∧
    s.Rootless ∧ s.Grounded ∧
    (∃ violations, validateCollection attendee attendees = .ok violations ∧
      (¬∃ v ∈ violations, ∃ rest, v.instancePath = Pointer.text (Pointer.indexText 0 :: rest)) ∧
      ∃ v ∈ violations, ∃ rest, v.instancePath = Pointer.text (Pointer.indexText 1 :: rest)) ∧
    validateCollection pointedAttendee attendees = .error .invalidSchema ∧
    validateCollection seatRow attendees = .error .invalidSchema := by
  obtain ⟨s, compiles⟩ := Option.isSome_iff_exists.mp
    (show (CompiledSchema.ofValue? attendee).isSome by decide +kernel)
  obtain ⟨pointed, compiles'⟩ := Option.isSome_iff_exists.mp
    (show (CompiledSchema.ofValue? pointedAttendee).isSome by decide +kernel)
  have rootless := rootless_attendee compiles
  have grounded := grounded_attendee compiles
  refine ⟨s, compiles, rootless, grounded, ?_, ?_, ?_⟩
  · obtain ⟨violations, checked, reports⟩ :=
      ((validateCollection_reports_faults attendee attendees).2 s compiles).1 rootless
    have counts : ((CompiledSchema.ofValue? attendee).map fun s =>
        attendees.map fun d => (s.faults (.object d.data)).length) = some [0, 1] := by
      decide +kernel
    rw [compiles] at counts
    obtain ⟨first, counts⟩ := List.cons.inj (Option.some.inj counts)
    obtain ⟨second, -⟩ := List.cons.inj counts
    obtain ⟨iff, -⟩ := reports grounded
    refine ⟨violations, checked, ?_, ?_⟩
    · rw [iff 0 _ rfl, not_not]
      exact List.length_eq_zero_iff.mp first
    · rw [iff 1 _ rfl]
      exact List.ne_nil_of_length_eq_add_one second
  · have asked : ⟨.outermost, "#/$defs/person", false⟩ ∈ pointed.target.references := by
      obtain ⟨schema, c, -, -, root, -⟩ := CompiledSchema.parts_of_ofValue? compiles'
      have here : ⟨.outermost, "#/$defs/person", false⟩ ∈
          Target.references ⟨pointedAttendee, .outermost⟩ := by
        decide +kernel
      rwa [← root] at here
    exact ((validateCollection_reports_faults pointedAttendee attendees).2 pointed compiles').2.2
      _ asked "$defs" (by decide +kernel) (by decide) (by decide)
  · have older : (Schema.ofValue? seatRow).isNone := by decide +kernel
    exact (validateCollection_reports_faults seatRow attendees).1
      (Option.isNone_iff_eq_none.mp older)

/-- A pointer into the definitions of the item schema is lost. -/
theorem pointedAttendee_not_checked : ¬∀ item s documents, CompiledSchema.ofValue? item = some s →
    ∃ violations, validateCollection item documents = .ok violations ∧
      ∀ i d, documents[i]? = some d →
        ((∃ v ∈ violations, ∃ rest, v.instancePath = Pointer.text (Pointer.indexText i :: rest)) ↔
          s.faults (.object d.data) ≠ []) := by
  intro claim
  obtain ⟨pointed, compiles⟩ := Option.isSome_iff_exists.mp
    (show (CompiledSchema.ofValue? pointedAttendee).isSome by decide +kernel)
  obtain ⟨violations, checked, -⟩ := claim pointedAttendee pointed attendees compiles
  have lost : (CompiledSchema.ofValue? (collectionSchema pointedAttendee)).isNone := by
    decide +kernel
  rw [validateCollection_eq_error attendees (Option.isNone_iff_eq_none.mp lost)] at checked
  cases checked

end Sample

end DocumentMigration
