import DocumentMigration.Json.Pointer
import DocumentMigration.Schema.Assertion

/-!
JSON Schemas as data. Reading a schema checks the value of every keyword that the latest edition
defines; a value of the wrong form anywhere makes the whole schema unreadable, also inside a schema
that names an older edition. Unknown keywords say nothing. What patterns and references mean is not
looked at here.
-/
namespace DocumentMigration

open Json

mutual
inductive Schema where
  | always
  | never
  /-- Keywords in the order of their names. -/
  | object (keywords : List (String × Keyword))

/-- What a keyword holds. A single schema keeps its source, which texts repeat. -/
inductive Keyword where
  | one (source : Value) (schema : Schema)
  /-- Schemas by their names or indexes. -/
  | many (schemas : List (String × Schema))
  /-- Schemas by the text of a regular expression. -/
  | patterned (schemas : List (String × Schema))
  | assertion (assertion : Assertion)
  | pattern (source : String)
  | limit (count : Nat)
  | reference (text : String)
  | text (text : String)
  | inert
end

namespace Schema

/-- The form of the value that a keyword takes. -/
inductive Form where
  | schema
  | schemas
  | namedSchemas
  | patternedSchemas
  /-- Each a schema or a list of names. -/
  | dependencies
  | assertion
  | pattern
  | limit
  | reference
  | text
  | identifier
  | plain (test : Value → Bool)

def isFlag : Value → Bool
  | .bool _ => true
  | _ => false

def isArray : Value → Bool
  | .array _ => true
  | _ => false

/-- A name that begins with a letter or an underscore. -/
def isAnchor : Value → Bool
  | .string s =>
    match s.toList with
    | c :: rest => (c.isAlpha || c = '_')
        && rest.all fun d => d.isAlphanum || d = '-' || d = '.' || d = '_'
    | [] => false
  | _ => false

/-- An identifier without a fragment, though it may end in an empty one. -/
def isIdentifier (text : String) : Bool := !(text.toList.reverse.drop 1).contains '#'

def isFlagTable : Value → Bool
  | .object ms => ms.all fun m => isFlag m.2
  | _ => false

def form (keyword : String) : Form :=
  if ["additionalProperties", "contains", "contentSchema", "else", "if", "items", "not",
      "propertyNames", "then", "unevaluatedItems", "unevaluatedProperties"].contains keyword
  then .schema
  else if ["allOf", "anyOf", "oneOf", "prefixItems"].contains keyword then .schemas
  else if ["$defs", "definitions", "dependentSchemas", "properties"].contains keyword
  then .namedSchemas
  else if keyword = "patternProperties" then .patternedSchemas
  else if Assertion.keywords.contains keyword then .assertion
  else if keyword = "pattern" then .pattern
  else if keyword = "minContains" ∨ keyword = "maxContains" then .limit
  else if ["$dynamicRef", "$recursiveRef", "$ref"].contains keyword then .reference
  else if keyword = "dependencies" then .dependencies
  else if ["$comment", "$schema", "contentEncoding", "contentMediaType", "description", "format",
      "title"].contains keyword then .text
  else if ["deprecated", "readOnly", "writeOnly"].contains keyword then .plain isFlag
  else if ["$anchor", "$dynamicAnchor", "$recursiveAnchor"].contains keyword then .plain isAnchor
  else if keyword = "$id" then .identifier
  else if keyword = "$vocabulary" then .plain isFlagTable
  else if keyword = "examples" then .plain isArray
  else .plain fun _ => true

/-- A keyword that asks for nothing may hold a text that is of use elsewhere. -/
def plainKeyword : Value → Keyword
  | .string text => .text text
  | _ => .inert

mutual
def ofValue? : Value → Option Schema
  | .bool true => some .always
  | .bool false => some .never
  | .object members => (ofMembers? members).map .object
  | _ => none

/-- The names and schemas of `dependencies` count as keywords, each by itself. -/
def ofMembers? : List (String × Value) → Option (List (String × Keyword))
  | [] => some []
  | (keyword, v) :: rest => do
    let own ← match form keyword, v with
      | .schema, v => (ofValue? v).map fun schema => [(keyword, .one v schema)]
      | .schemas, .array xs =>
        if xs.isEmpty then none
        else (ofItems? 0 xs).map fun schemas => [(keyword, .many schemas)]
      | .namedSchemas, .object ms => (ofNamed? ms).map fun schemas => [(keyword, .many schemas)]
      | .patternedSchemas, .object ms =>
        (ofNamed? ms).map fun schemas => [(keyword, .patterned schemas)]
      | .dependencies, .object ms => ofDependencies? ms
      | .assertion, v => (Assertion.ofKeyword? keyword v).map fun a => [(keyword, .assertion a)]
      | .limit, v => (Assertion.limit? v).map fun n => [(keyword, .limit n)]
      | .pattern, .string source => some [(keyword, .pattern source)]
      | .reference, .string text => some [(keyword, .reference text)]
      | .text, .string text => some [(keyword, .text text)]
      | .identifier, .string text =>
        if isIdentifier text then some [(keyword, .text text)] else none
      | .plain test, v => if test v then some [(keyword, plainKeyword v)] else none
      | _, _ => none
    return own ++ (← ofMembers? rest)

def ofItems? (i : Nat) : List Value → Option (List (String × Schema))
  | [] => some []
  | x :: xs => do
    let schema ← ofValue? x
    return (Pointer.indexText i, schema) :: (← ofItems? (i + 1) xs)

def ofNamed? : List (String × Value) → Option (List (String × Schema))
  | [] => some []
  | (name, x) :: rest => do
    let schema ← ofValue? x
    return (name, schema) :: (← ofNamed? rest)

def ofDependencies? : List (String × Value) → Option (List (String × Keyword))
  | [] => some []
  | (key, .array names) :: rest => do
    let names ← Assertion.distinctStrings? (.array names)
    return ("dependencies", .assertion (.dependencies [(key, names)])) :: (← ofDependencies? rest)
  | (key, x) :: rest => do
    let schema ← ofValue? x
    return ("dependencies", .many [(key, schema)]) :: (← ofDependencies? rest)
end

end Schema

def Keyword.text? : Keyword → Option String
  | .text t | .reference t => some t
  | _ => none

/-- The text under a keyword. -/
def Schema.textOf? (keywords : List (String × Keyword)) (name : String) : Option String :=
  (keywords.lookup name).bind Keyword.text?

end DocumentMigration
