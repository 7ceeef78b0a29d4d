import DocumentMigration.Change.Basic
import DocumentMigration.Schema.Assertion
import DocumentMigration.Schema.Error

/-!
The schema that sample documents suggest. All documents are folded into one shape: the types seen at
each place, the members of objects with how often each was there, and the shape of array items.
-/
namespace DocumentMigration

open Json

inductive Shape where
  /-- Types in the order in which they were first seen, members by key, the number of objects seen,
  and the shape of items once there was one. -/
  | seen (types : List TypeName) (members : List (String × Nat × Shape)) (objects : Nat)
      (items : Option Shape)

namespace Shape

def blank : Shape := .seen [] [] 0 none

/-- The type of a value; a float is a number even when it is whole. -/
def typeOf : Value → TypeName
  | .null => .null
  | .bool _ => .boolean
  | .number (.integer ..) => .integer
  | .number (.float _) => .number
  | .string _ => .string
  | .array _ => .array
  | .object _ => .object

/-- A number takes the place of an integer and keeps later integers out. -/
def noteType (t : TypeName) (types : List TypeName) : List TypeName :=
  if types.contains t then types
  else if t = .integer ∧ types.contains .number then types
  else if t = .number then types.filter (· ≠ .integer) ++ [t]
  else types ++ [t]

/-- Counts a member and lets its shape observe the value. -/
def observeMember (key : String) (observe : Shape → Shape) :
    List (String × Nat × Shape) → List (String × Nat × Shape)
  | [] => [(key, 1, observe blank)]
  | (k, n, s) :: rest =>
    if key = k then (k, n + 1, observe s) :: rest
    else if key < k then (key, 1, observe blank) :: (k, n, s) :: rest
    else (k, n, s) :: observeMember key observe rest

mutual
def observe : Value → Shape → Shape
  | .array xs, .seen types members objects items =>
    .seen (noteType .array types) members objects (observeItems xs items)
  | .object ms, .seen types members objects items =>
    .seen (noteType .object types) (observeMembers ms members) (objects + 1) items
  | v, .seen types members objects items => .seen (noteType (typeOf v) types) members objects items

def observeItems : List Value → Option Shape → Option Shape
  | [], items => items
  | x :: xs, items => observeItems xs (some (observe x (items.getD blank)))

def observeMembers :
    List (String × Value) → List (String × Nat × Shape) → List (String × Nat × Shape)
  | [], members => members
  | (k, x) :: ms, members => observeMembers ms (observeMember k (observe x) members)
end

def typeValue : List TypeName → Option Value
  | [] => none
  | [t] => some (.string t.name)
  | many => some (.ofStrings (many.map TypeName.name))

/-- The keys that every object had. -/
def requiredKeys (objects : Nat) (members : List (String × Nat × Shape)) : List String :=
  (members.filter fun m => m.2.1 = objects).map (·.1)

mutual
def toSchema : Shape → Value
  | .seen types members objects items =>
    let isObject := types.contains .object
    let required := requiredKeys objects members
    .object (Object.ofOptions
      [("items", itemsSchema items),
        ("properties", if isObject then some (.object (memberSchemas members)) else none),
        ("required", if isObject && !required.isEmpty then some (.ofStrings required) else none),
        ("type", typeValue types)])

def itemsSchema : Option Shape → Option Value
  | none => none
  | some s => some (toSchema s)

def memberSchemas : List (String × Nat × Shape) → List (String × Value)
  | [] => []
  | (k, _, s) :: rest => (k, toSchema s) :: memberSchemas rest
end

/-- The shape of documents, one after another. -/
def ofDocuments (documents : List Snapshot) : Shape :=
  documents.foldl (fun shape s => observe (.object s.data) shape) blank

end Shape

/-- The schema of one document of a collection, from all of its documents. -/
def inferItemSchema (collection : String) (documents : List Snapshot) : Except SchemaError Value :=
  if documents.isEmpty then .error (.emptyCollection collection)
  else .ok (Shape.ofDocuments documents).toSchema

end DocumentMigration
