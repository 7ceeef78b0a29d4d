import DocumentMigration.Decimal.Quotient
import DocumentMigration.Json.Printer
import DocumentMigration.Regex.Matching
import DocumentMigration.Regex.Parser
import DocumentMigration.Regex.Size
import DocumentMigration.Schema.Draft

/-!
Schema keywords that judge a value by itself, without a schema inside them. Numbers are compared by
their mathematical value, also deep inside other values.
-/
namespace DocumentMigration

open Json

/-- Types of values in the alphabetical order of their names. -/
inductive TypeName where
  | array | boolean | integer | null | number | object | string
deriving DecidableEq

namespace TypeName

def all : List TypeName := [.array, .boolean, .integer, .null, .number, .object, .string]

def name : TypeName → String
  | .array => "array"
  | .boolean => "boolean"
  | .integer => "integer"
  | .null => "null"
  | .number => "number"
  | .object => "object"
  | .string => "string"

def ofName? (text : String) : Option TypeName := all.find? (·.name = text)

/-- A whole number is an integer however it is written. -/
def admits : TypeName → Value → Bool
  | .array, .array _ => true
  | .boolean, .bool _ => true
  | .integer, .number n => n.isWhole
  | .null, .null => true
  | .number, .number _ => true
  | .object, .object _ => true
  | .string, .string _ => true
  | _, _ => false

/-- Only what is written as an integer is one. -/
def admitsWritten : TypeName → Value → Bool
  | .integer, .number (.integer ..) => true
  | .integer, _ => false
  | t, v => t.admits v

end TypeName

/-- Numbers are compared by their mathematical values. -/
def Json.Value.sameValue : Value → Value → Bool := equalBy Number.sameValue

/-- A regular expression with the text that it was read from. -/
structure Pattern where
  source : String
  regex : Regex

namespace Pattern

/-- None when the text is no regular expression, or one of too large a size. -/
def ofText? (source : String) : Option Pattern := do
  let regex ← Regex.parse? source
  if regex.isCompact false then some ⟨source, regex⟩ else none

/-- Whether a text holds a match, wherever it stands. -/
def fits (p : Pattern) (text : String) : Bool := p.regex.occursIn text

end Pattern

inductive Assertion where
  | type (names : List TypeName)
  | writtenType (names : List TypeName)
  | enum (values : List Value)
  | const (value : Value)
  | minimum (limit : Number)
  | maximum (limit : Number)
  | exclusiveMinimum (limit : Number)
  | exclusiveMaximum (limit : Number)
  | multipleOf (divisor : Number)
  | minLength (limit : Nat)
  | maxLength (limit : Nat)
  | pattern (pattern : Pattern)
  | minItems (limit : Nat)
  | maxItems (limit : Nat)
  | uniqueItems (wanted : Bool)
  | minProperties (limit : Nat)
  | maxProperties (limit : Nat)
  | required (names : List String)
  | dependentRequired (names : List (String × List String))
  /-- The same under the keyword that it had before. -/
  | dependencies (names : List (String × List String))
  | textRule (keyword name : String) (fits : String → Bool)

namespace Assertion

/-- The keyword that makes an assertion. -/
def keyword : Assertion → String
  | .type _ | .writtenType _ => "type"
  | .enum _ => "enum"
  | .const _ => "const"
  | .minimum _ => "minimum"
  | .maximum _ => "maximum"
  | .exclusiveMinimum _ => "exclusiveMinimum"
  | .exclusiveMaximum _ => "exclusiveMaximum"
  | .multipleOf _ => "multipleOf"
  | .minLength _ => "minLength"
  | .maxLength _ => "maxLength"
  | .pattern _ => "pattern"
  | .minItems _ => "minItems"
  | .maxItems _ => "maxItems"
  | .uniqueItems _ => "uniqueItems"
  | .minProperties _ => "minProperties"
  | .maxProperties _ => "maxProperties"
  | .required _ => "required"
  | .dependentRequired _ => "dependentRequired"
  | .dependencies _ => "dependencies"
  | .textRule keyword _ _ => keyword

/-! Reading the value of a keyword; none when it is not of the form that the keyword takes. -/

def strings? : Value → Option (List String)
  | .array xs => xs.mapM fun
    | .string s => some s
    | _ => none
  | _ => none

def distinctStrings? (v : Value) : Option (List String) := do
  let names ← strings? v
  if names.eraseDups.length = names.length then some names else none

def namedStrings? (m : String × Value) : Option (String × List String) :=
  (distinctStrings? m.2).map (m.1, ·)

def typeNames? : Value → Option (List TypeName)
  | .string s => (TypeName.ofName? s).map ([·])
  | v => do
    let names ← distinctStrings? v
    if names.isEmpty then none
    names.mapM TypeName.ofName?

def number? : Value → Option Number
  | .number n => some n
  | _ => none

/-- The greatest limit; every larger number counts as this one. -/
def greatestLimit : Nat := 2 ^ (64 : Nat) - 1

/-- A whole number from zero on, also when it is written as a float. -/
def limit? : Value → Option Nat
  | .number n =>
    let (num, den) := n.ratio
    if num % den = 0 ∧ 0 ≤ num then some (min (num / den).toNat greatestLimit) else none
  | _ => none

def bool? : Value → Option Bool
  | .bool b => some b
  | _ => none

def positive? (v : Value) : Option Number := do
  let n ← number? v
  if 0 < n.ratio.1 then some n else none

def ofKeyword? (keyword : String) (v : Value) : Option Assertion :=
  match keyword with
  | "type" => (typeNames? v).map .type
  | "enum" => match v with
    | .array xs => some (.enum xs)
    | _ => none
  | "const" => some (.const v)
  | "minimum" => (number? v).map .minimum
  | "maximum" => (number? v).map .maximum
  | "exclusiveMinimum" => (number? v).map .exclusiveMinimum
  | "exclusiveMaximum" => (number? v).map .exclusiveMaximum
  | "multipleOf" => (positive? v).map .multipleOf
  | "minLength" => (limit? v).map .minLength
  | "maxLength" => (limit? v).map .maxLength
  | "minItems" => (limit? v).map .minItems
  | "maxItems" => (limit? v).map .maxItems
  | "uniqueItems" => (bool? v).map .uniqueItems
  | "minProperties" => (limit? v).map .minProperties
  | "maxProperties" => (limit? v).map .maxProperties
  | "required" => (distinctStrings? v).map .required
  | "dependentRequired" => match v with
    | .object ms => (ms.mapM namedStrings?).map .dependentRequired
    | _ => none
  | _ => none

/-- What an assertion means in an edition. The fourth one knows integers by how they are written. -/
def inDraft : Draft → Assertion → Assertion
  | .draft4, .type names => .writtenType names
  | _, a => a

@[simp] theorem inDraft_latest (a : Assertion) : a.inDraft .draft2020 = a := by
  cases a <;> rfl

def keywords : List String :=
  ["type", "enum", "const", "minimum", "maximum", "exclusiveMinimum", "exclusiveMaximum",
    "multipleOf", "minLength", "maxLength", "minItems", "maxItems", "uniqueItems",
    "minProperties", "maxProperties", "required", "dependentRequired"]

/-! Judging a value. A keyword for another kind of value passes. -/

def judgeNumber (test : Number → Bool) : Value → Bool
  | .number n => test n
  | _ => true

def judgeString (test : String → Bool) : Value → Bool
  | .string s => test s
  | _ => true

def judgeItems (test : List Value → Bool) : Value → Bool
  | .array xs => test xs
  | _ => true

def judgeMembers (test : Object → Bool) : Value → Bool
  | .object ms => test ms
  | _ => true

def distinctBy (same : Value → Value → Bool) : List Value → Bool
  | [] => true
  | x :: xs => !xs.any (same x ·) && distinctBy same xs

/-- From sixteen items on, numbers have to be of the same kind to be equal, so that texts decide. -/
def distinct (xs : List Value) : Bool :=
  if xs.length ≤ 15 then distinctBy Value.sameValue xs
  else
    let texts := xs.map Value.compact
    texts.eraseDups.length = texts.length

def isMultiple (divisor n : Number) : Bool :=
  let x := Binary64.ofNumber n
  let y := Binary64.ofNumber divisor
  if y.isWhole then x.wholeMultiple y else x.floatMultiple y

/-- A number equals a constant as a float, up to a distance below the unit in the last place of one.
Numbers inside of other values have to be equal. -/
def isConstant : Value → Value → Bool
  | .number a, .number b => (Binary64.ofNumber a).isNear (Binary64.ofNumber b)
  | a, b => a.sameValue b

/-- The names that are listed and missing, in their listed order. -/
def missing (ms : Object) (names : List String) : List String :=
  names.filter fun name => !ms.contains name

/-- The members that are missing beside the ones that ask for them. -/
def missingBeside (ms : Object) (names : List (String × List String)) : List String :=
  names.flatMap fun (k, needed) => if ms.contains k then missing ms needed else []

/-- The members that an assertion asks for and a value lacks. -/
def lacking : Assertion → Value → List String
  | .required names, .object ms => missing ms names
  | .dependentRequired names, .object ms | .dependencies names, .object ms =>
    missingBeside ms names
  | _, _ => []

/-- Whether a value passes. -/
def holds : Assertion → Value → Bool
  | .type names, v => names.any (·.admits v)
  | .writtenType names, v => names.any (·.admitsWritten v)
  | .enum values, v => values.any (·.sameValue v)
  | .const value, v => isConstant value v
  | .minimum limit, v => judgeNumber (limit.le ·) v
  | .maximum limit, v => judgeNumber (Number.le · limit) v
  | .exclusiveMinimum limit, v => judgeNumber (limit.lt ·) v
  | .exclusiveMaximum limit, v => judgeNumber (Number.lt · limit) v
  | .multipleOf divisor, v => judgeNumber (isMultiple divisor) v
  | .minLength limit, v => judgeString (limit ≤ ·.length) v
  | .maxLength limit, v => judgeString (·.length ≤ limit) v
  | .pattern p, v => judgeString p.fits v
  | .minItems limit, v => judgeItems (limit ≤ ·.length) v
  | .maxItems limit, v => judgeItems (·.length ≤ limit) v
  | .uniqueItems wanted, v => !wanted || judgeItems distinct v
  | .minProperties limit, v => judgeMembers (limit ≤ ·.length) v
  | .maxProperties limit, v => judgeMembers (·.length ≤ limit) v
  | .textRule _ _ fits, v => judgeString fits v
  | .required names, v => ((required names).lacking v).isEmpty
  | .dependentRequired names, v => ((dependentRequired names).lacking v).isEmpty
  | .dependencies names, v => ((dependencies names).lacking v).isEmpty

def counted (n : Nat) (noun plural : String) : String :=
  String.ofList (Nat.toDigits 10 n) ++ " " ++ (if n = 1 then noun else plural)

def numberText (n : Number) : String := String.ofList n.text

/-- How the failure of a value reads; the value comes first. -/
def failure (a : Assertion) (v : Value) : String :=
  let subject := v.compact
  match a with
  | .type [name] | .writtenType [name] =>
    subject ++ " is not of type " ++ (Value.string name.name).compact
  | .type names | .writtenType names =>
    let sorted := TypeName.all.filter names.contains
    subject ++ " is not of types "
      ++ String.intercalate ", " (sorted.map fun n => (Value.string n.name).compact)
  | .enum values => subject ++ " is not one of " ++ (Value.array values).compact
  | .const value => value.compact ++ " was expected"
  | .minimum limit => subject ++ " is less than the minimum of " ++ numberText limit
  | .maximum limit => subject ++ " is greater than the maximum of " ++ numberText limit
  | .exclusiveMinimum limit =>
    subject ++ " is less than or equal to the minimum of " ++ numberText limit
  | .exclusiveMaximum limit =>
    subject ++ " is greater than or equal to the maximum of " ++ numberText limit
  | .multipleOf divisor =>
    subject ++ " is not a multiple of " ++ String.ofList (Binary64.ofNumber divisor).plainText
  | .minLength limit => subject ++ " is shorter than " ++ counted limit "character" "characters"
  | .maxLength limit => subject ++ " is longer than " ++ counted limit "character" "characters"
  | .pattern p => subject ++ " does not match " ++ (Value.string p.source).compact
  | .minItems limit => subject ++ " has less than " ++ counted limit "item" "items"
  | .maxItems limit => subject ++ " has more than " ++ counted limit "item" "items"
  | .uniqueItems _ => subject ++ " has non-unique elements"
  | .minProperties limit => subject ++ " has less than " ++ counted limit "property" "properties"
  | .maxProperties limit => subject ++ " has more than " ++ counted limit "property" "properties"
  | .textRule "contentEncoding" name _ =>
    subject ++ " is not compliant with " ++ (Value.string name).compact ++ " content encoding"
  | .textRule "contentMediaType" name _ =>
    subject ++ " is not compliant with " ++ (Value.string name).compact ++ " media type"
  | .textRule _ name _ => subject ++ " is not a " ++ (Value.string name).compact
  | .required _ | .dependentRequired _ | .dependencies _ =>
    subject ++ " lacks a required property"

end Assertion
end DocumentMigration
