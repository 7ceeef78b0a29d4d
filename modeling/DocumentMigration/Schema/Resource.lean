import DocumentMigration.Json.Pointer
import DocumentMigration.Schema.Basic
import DocumentMigration.Schema.Draft
import DocumentMigration.Uri.Resolve

/-!
What references can lead to: the schemas that have an identifier of their own, in a document or
elsewhere, and the places in them that have a name. A place is given by a pointer from the root of
its schema, or by its name there.
-/
namespace DocumentMigration

open Json

/-- What surrounds a schema: the identifier that references in it start from, the edition, and the
identifiers further outside, from the inside out. -/
structure Scope where
  base : Uri
  draft : Draft
  around : List Uri := []

structure Target where
  contents : Value
  scope : Scope

/-- The identifier of a document without one. -/
def Uri.unnamed : Uri where
  scheme := some "json-schema".toList
  authority := some []
  path := ['/']

/-- What is known from elsewhere. Formats, encodings and media types have rules for texts, which are
told by the edition, the keyword, and the texts of the schema under its keywords. The editions have
schemas of their own, and other schemas may be had by their identifiers. -/
class Standards where
  fits : Draft → (keyword : String) → (texts : String → Option String) → String → Bool
  schemas : List (Uri × Value)

/-- Without rules every text is right, and there are no other schemas. -/
@[reducible]
def Standards.bare : Standards where
  fits _ _ _ _ := true
  schemas := []

namespace Scope

/-- The surroundings of a whole document, which is of the latest edition if it does not say. -/
abbrev outermost : Scope := { base := .unnamed, draft := .draft2020 }

def enter (s : Scope) (base : Uri) : Scope :=
  if base = s.base then s else { s with base, around := s.base :: s.around }

def textOf? (key : String) : Value → Option String
  | .object ms =>
    match Object.get? key ms with
    | some (.string text) => some text
    | _ => none
  | _ => none

/-- The surroundings inside a schema with these texts under its keywords; none if its identifier is
not readable. -/
def inside? (s : Scope) (text? : String → Option String) : Option Scope :=
  let s := { s with draft := ((text? "$schema").bind Draft.ofIdentifier?).getD s.draft }
  match s.draft.identifier? text? with
  | some id =>
    let id := String.ofList (id.toList.reverse.dropWhile (· = '#')).reverse
    (s.base.resolveText? id).map s.enter
  | none => some s

@[simp] theorem base_enter (s : Scope) (base : Uri) : (s.enter base).base = base := by
  unfold enter
  split
  · next same => exact same.symm
  · rfl

theorem inside?_eq_self {s : Scope} {text? : String → Option String}
    (latest : s.draft = .draft2020) (unnamed : text? "$id" = none)
    (edition : ((text? "$schema").bind Draft.ofIdentifier?).getD .draft2020 = .draft2020) :
    s.inside? text? = some s := by
  obtain ⟨base, draft, around⟩ := s
  obtain rfl : draft = .draft2020 := latest
  have alone : Draft.draft2020.referenceStandsAlone = false := rfl
  simp [Scope.inside?, edition, Draft.identifier?, alone, unnamed]

end Scope

/-- What is said about identifiers at one place of a document. -/
inductive Entry where
  | resource (uri : Uri) (contents : Value)
  | anchor (uri : Uri) (name : String) (dynamic : Bool) (contents : Value)
  | external (uri : Uri)

namespace Entry

/-- What a reference out of the document needs; none where it is not readable. -/
def ofReference? (base : Uri) (text : String) : Option (List Entry) :=
  if text.toList.head? = some '#' || Draft.isOwnIdentifier text
      || base.scheme = some "urn".toList then some []
  else (base.resolveText? text).map fun uri => [.external uri.withoutFragment]

def ofText? (s : Scope) (contents : Value) (keyword text : String) : Option (List Entry) :=
  if keyword = (if s.draft = .draft4 then "id" else "$id") then
    if (s.draft.identifier? (Scope.textOf? · contents)).isSome then
      some [.resource s.base contents]
    else match text.toList with
      | '#' :: name => some [.anchor s.base (String.ofList name) false contents]
      | _ => some []
  else if keyword = "$anchor" then some [.anchor s.base text false contents]
  else if keyword = "$dynamicAnchor" then some [.anchor s.base text true contents]
  else if keyword = "$ref" ∨ keyword = "$schema" then ofReference? s.base text
  else some []

mutual
def ofSchema? (s : Scope) : Value → Option (List Entry)
  | .object ms => do
    let s ← s.inside? (Scope.textOf? · (.object ms))
    ofKeywords? s (.object ms) ms
  | _ => some []

def ofKeywords? (s : Scope) (contents : Value) : List (String × Value) → Option (List Entry)
  | [] => some []
  | (keyword, v) :: rest => do
    let own ← if s.draft.knows keyword then
        match Schema.form keyword, v with
        | .schema, v => ofSchema? s v
        | .schemas, .array xs => ofItems? s xs
        | .namedSchemas, .object ms | .patternedSchemas, .object ms | .dependencies, .object ms =>
          ofMembers? s ms
        | _, .string text => ofText? s contents keyword text
        | _, _ => some []
      else some []
    return own ++ (← ofKeywords? s contents rest)

def ofItems? (s : Scope) : List Value → Option (List Entry)
  | [] => some []
  | x :: xs => do return (← ofSchema? s x) ++ (← ofItems? s xs)

def ofMembers? (s : Scope) : List (String × Value) → Option (List Entry)
  | [] => some []
  | (_, x) :: ms => do return (← ofSchema? s x) ++ (← ofMembers? s ms)
end

end Entry

def Standards.entries [Standards] : List Entry :=
  Standards.schemas.flatMap fun (uri, contents) =>
    .resource uri contents :: (Entry.ofSchema? ⟨uri, .draft2020, []⟩ contents).getD []

structure Resources where
  entries : List Entry

namespace Resources

def resource? (r : Resources) (uri : Uri) : Option Value :=
  r.entries.findSome? fun
    | .resource u contents => if u = uri then some contents else none
    | _ => none

/-- What has a name in a resource, and whether the name is dynamic. -/
def anchor? (r : Resources) (uri : Uri) (name : String) : Option (Bool × Value) :=
  r.entries.findSome? fun
    | .anchor u n dynamic contents => if u = uri ∧ n = name then some (dynamic, contents) else none
    | _ => none

/-- What a name stands for. A dynamic one stands for what has it furthest outside. -/
def named? (r : Resources) (s : Scope) (name : String) : Option Value :=
  match r.anchor? s.base name with
  | some (true, own) =>
    let outer := s.around.filterMap fun uri =>
      ((r.anchor? uri name).filter fun found => found.1).map (·.2)
    some (outer.getLastD own)
  | found => found.map (·.2)

abbrev ofRoot (root : Value) (entries : List Entry) : Resources :=
  ⟨.resource .unnamed root :: entries⟩

/-- The resources of a document with those from elsewhere; none when it refers to one that is not
there. -/
def ofValue? [Standards] (root : Value) : Option Resources := do
  let entries ← Entry.ofSchema? .outermost root
  let r : Resources := .ofRoot root (entries ++ Standards.entries)
  let known := entries.all fun
    | .external uri => (r.resource? uri).isSome
    | _ => true
  if known then some r else none

/-- An index in decimal digits, with a plus sign or zeros in front of it as well. -/
def index? (segment : String) : Option Nat :=
  let digits := match segment.toList with
    | '+' :: rest => rest
    | rest => rest
  if digits.isEmpty || !digits.all Char.isDigit then none else some (Number.digitsValue digits)

def child? (segment : String) : Value → Option Value
  | .object ms => Object.get? (Pointer.unescape segment) ms
  | .array xs => (index? segment).bind (xs[·]?)
  | _ => none

def descend? (s : Scope) (contents : Value) : List String → Option Target
  | [] => some ⟨contents, s⟩
  | segment :: rest => do
    let next ← child? segment contents
    let scope ← if rest.isEmpty then some s else s.inside? (Scope.textOf? · next)
    descend? scope next rest

/-- The place in a resource that the fragment of a reference names. -/
def place? (r : Resources) (s : Scope) (fragment : List Char) : Option Target :=
  match fragment with
  | [] => (r.resource? s.base).map (⟨·, s⟩)
  | '/' :: pointer => do
    let contents ← r.resource? s.base
    let text ← Pointer.percentDecode (String.ofList pointer)
    descend? s contents ((text.toList.splitOn '/').map String.ofList)
  | name => (r.named? s (String.ofList name)).map (⟨·, s⟩)

def lookup? (r : Resources) (s : Scope) (text : String) : Option Target := do
  let uri ← s.base.resolveText? text
  let (_, fragment) := Uri.cut '#' text.toList
  r.place? (s.enter uri.withoutFragment) (fragment.getD [])

end Resources
end DocumentMigration
