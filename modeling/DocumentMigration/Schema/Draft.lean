/-!
The editions of JSON Schema: how a schema names its own, and which keywords each of them knows.
-/
namespace DocumentMigration

inductive Draft where
  | draft4 | draft6 | draft7 | draft2019 | draft2020
deriving DecidableEq

namespace Draft

/-- The edition with an identifier, which may end in an empty fragment. -/
def ofIdentifier? (text : String) : Option Draft :=
  let name := String.ofList (text.toList.reverse.dropWhile (· = '#')).reverse
  if name = "http://json-schema.org/draft-04/schema" then some .draft4
  else if name = "http://json-schema.org/draft-06/schema" then some .draft6
  else if name = "http://json-schema.org/draft-07/schema" then some .draft7
  else if name = "https://json-schema.org/draft/2019-09/schema" then some .draft2019
  else if name = "https://json-schema.org/draft/2020-12/schema" then some .draft2020
  else none

/-- Identifiers under which the editions and their parts are found. -/
def isOwnIdentifier (text : String) : Bool :=
  "https://json-schema.org/draft/".isPrefixOf text
    || "http://json-schema.org/draft-".isPrefixOf text

def number : Draft → Nat
  | .draft4 => 4
  | .draft6 => 6
  | .draft7 => 7
  | .draft2019 => 8
  | .draft2020 => 9

/-- The first edition with a keyword. -/
def origin (keyword : String) : Draft :=
  if ["$id", "const", "contains", "exclusiveMaximum", "exclusiveMinimum", "propertyNames"].contains
    keyword
  then .draft6
  else if keyword = "if" then .draft7
  else if ["$anchor", "$defs", "dependentRequired", "dependentSchemas", "maxContains",
      "minContains", "unevaluatedItems", "unevaluatedProperties"].contains keyword
  then .draft2019
  else if ["$dynamicAnchor", "$dynamicRef", "prefixItems"].contains keyword then .draft2020
  else .draft4

def knows (d : Draft) (keyword : String) : Bool := (origin keyword).number ≤ d.number

/-- Up to the seventh edition a reference hides the keywords beside it. -/
def referenceStandsAlone (d : Draft) : Bool := d.number ≤ 7

def judgesText (d : Draft) (keyword : String) : Bool :=
  match keyword with
  | "format" => d.number ≤ 7
  | "contentEncoding" | "contentMediaType" => d = .draft6 || d = .draft7
  | _ => false

/-- The identifier that a schema with these texts gives itself. In older editions it is hidden by a
reference, and a fragment alone is a name. -/
def identifier? (d : Draft) (text? : String → Option String) : Option String :=
  if d.referenceStandsAlone then
    if (text? "$ref").isSome then none
    else (text? (if d = .draft4 then "id" else "$id")).filter fun id => id.toList.head? ≠ some '#'
  else text? "$id"

@[simp] theorem knows_latest (keyword : String) : knows .draft2020 keyword = true := by
  unfold knows
  cases origin keyword <;> decide

end Draft

end DocumentMigration
