import DocumentMigration.Schema.Basic
import DocumentMigration.Schema.Fault

/-!
The faults of a value under a schema, all of them and in a fixed order: keyword by keyword in the
order of their names. A schema means a check; the checks of the schemas inside a keyword are
combined here without regard to how they came about. References are left to the caller. Beside its
faults a check tells which members and items it has looked at, for the keywords that look at the
rest.
-/
namespace DocumentMigration

open Json

abbrev Report := Place → Value → List Fault

structure Check where
  report : Report
  /-- Whether it looks at the member or the item with a key. The key of an item is its index. -/
  covers : Value → String → Bool

namespace Check

instance : CoeFun Check fun _ => Report := ⟨report⟩

def pass : Check := ⟨fun _ _ => [], fun _ _ => false⟩

def fail : Check := ⟨fun place v => [⟨place, .falseSchema v⟩], fun _ _ => false⟩

def passes (c : Check) (v : Value) : Bool := (c {} v).isEmpty

/-- A keyword with the meaning of the schemas inside it. -/
inductive Meaning where
  | one (source : Value) (check : Check)
  | many (checks : List (String × Check))
  | patterned (checks : List (Pattern × Check))
  | assertion (assertion : Assertion)
  | limit (count : Nat)
  | reference (check : Check)
  | inert

/-- The keywords of one schema object. -/
abbrev Siblings := List (String × Meaning)

namespace Siblings

def many? (keyword : String) (s : Siblings) : Option (List (String × Check)) :=
  match s.lookup keyword with
  | some (.many checks) => some checks
  | _ => none

def patterned? (s : Siblings) : Option (List (Pattern × Check)) :=
  match s.lookup "patternProperties" with
  | some (.patterned checks) => some checks
  | _ => none

def one? (keyword : String) (s : Siblings) : Option Check :=
  match s.lookup keyword with
  | some (.one _ check) => some check
  | _ => none

def limit? (keyword : String) (s : Siblings) : Option Nat :=
  match s.lookup keyword with
  | some (.limit n) => some n
  | _ => none

/-- How many items `prefixItems` takes. -/
def prefixCount (s : Siblings) : Nat := ((s.many? "prefixItems").getD []).length

/-- Whether `additionalProperties` looks after the other members as well. -/
def closed (s : Siblings) : Bool :=
  match s.lookup "additionalProperties" with
  | some (.one (.bool true) _) => false
  | some (.one _ _) => true
  | _ => false

end Siblings

def assertion (a : Assertion) : Report := fun place v =>
  if a.holds v then [] else
    match a.lacking v with
    | [] => [⟨place.keyword a.keyword, .assertion a v⟩]
    | names => names.map fun name => ⟨place.keyword a.keyword, .missing name⟩

def allOf (checks : List (String × Check)) : Report := fun place v =>
  checks.flatMap fun (index, c) => c (place.keyword index) v

def anyOf (checks : List (String × Check)) : Report := fun place v =>
  if checks.any (·.2.passes v) then [] else [⟨place, .noneOf "anyOf" v⟩]

def oneOf (checks : List (String × Check)) : Report := fun place v =>
  match checks.countP (·.2.passes v) with
  | 0 => [⟨place, .noneOf "oneOf" v⟩]
  | 1 => []
  | _ => [⟨place, .severalOf v⟩]

def negation (source : Value) (c : Check) : Report := fun place v =>
  if c.passes v then [⟨place, .forbidden source v⟩] else []

/-- Checks every item behind the first `skip`. -/
def items (skip : Nat) (c : Check) : Report := fun place v =>
  match v with
  | .array xs => (xs.zipIdx.drop skip).flatMap fun (x, i) => c (place.index i) x
  | _ => []

def prefixItems (checks : List (String × Check)) : Report := fun place v =>
  match v with
  | .array xs => (checks.zip xs).flatMap fun ((index, c), x) =>
      c ((place.keyword index).member index) x
  | _ => []

def properties (checks : List (String × Check)) : Report := fun place v =>
  match v with
  | .object ms => checks.flatMap fun (name, c) =>
      match Object.get? name ms with
      | some x => c ((place.keyword name).member name) x
      | none => []
  | _ => []

/-- Checks the whole object under the schema of every member that it has. -/
def dependentSchemas (checks : List (String × Check)) : Report := fun place v =>
  match v with
  | .object ms => checks.flatMap fun (name, c) =>
      if Object.contains name ms then c (place.keyword name) v else []
  | _ => []

def patternProperties (checks : List (Pattern × Check)) : Report := fun place v =>
  match v with
  | .object ms => checks.flatMap fun (p, c) => ms.flatMap fun (key, x) =>
      if p.fits key then c ((place.keyword p.source).member key) x else []
  | _ => []

/-- The faults of one member under the named schema and the patterns that fit it; none when neither
is there for it. -/
def knownMember? (place : Place) (named : List (String × Check)) (patterns : List (Pattern × Check))
    (key : String) (x : Value) : Option (List Fault) :=
  let fitting := patterns.filter fun (p, _) => p.fits key
  let byPattern := fitting.flatMap fun (p, c) =>
    c (((place.keyword "patternProperties").keyword p.source).member key) x
  match named.lookup key with
  | some c => some (c (((place.keyword "properties").keyword key).member key) x ++ byPattern)
  | none => if fitting.isEmpty then none else some byPattern

/-- Members one by one: known ones under their own schemas, the others under `c`. When no other may
be there, their names make one fault at the end. -/
def additionalProperties (siblings : Siblings) (source : Value) (c : Check) : Report :=
  fun place v =>
    let here := place.keyword "additionalProperties"
    let named := siblings.many? "properties"
    let patterns := siblings.patterned?
    let known? := knownMember? place (named.getD []) (patterns.getD [])
    match source, v with
    | .bool true, _ => []
    | .bool false, .object ms =>
      if named.isNone && patterns.isNone then
        match ms with
        | [] => []
        | (_, x) :: _ => [⟨here, .falseSchema x⟩]
      else
        let unexpected := (ms.filter fun (key, x) => (known? key x).isNone).map (·.1)
        (ms.flatMap fun (key, x) => (known? key x).getD [])
          ++ (if unexpected.isEmpty then [] else [⟨here, .unexpected unexpected⟩])
    | _, .object ms => ms.flatMap fun (key, x) => (known? key x).getD (c (here.member key) x)
    | _, _ => []

/-- Keys are checked as strings that stand where the object stands. -/
def propertyNames (source : Value) (c : Check) : Report := fun place v =>
  match source, v with
  | .bool false, .object ms => if ms.isEmpty then [] else [⟨place, .falseSchema v⟩]
  | _, .object ms => ms.flatMap fun (key, _) => c place (.string key)
  | _, _ => []

/-- The keyword that goes on after a condition. -/
def branch (c : Check) (v : Value) : String := if c.passes v then "then" else "else"

def conditional (siblings : Siblings) (c : Check) : Report := fun place v =>
  (siblings.one? (branch c v)).getD pass (place.keyword (branch c v)) v

/-- Counts the items that pass. Only a lower bound alone lets an array without any of them pass. -/
def contains (siblings : Siblings) (c : Check) : Report := fun place v =>
  match v with
  | .array xs =>
    let count := xs.countP (c.passes ·)
    let fault (keyword : String) : List Fault := [⟨place.keyword keyword, .notContained v⟩]
    match siblings.limit? "minContains", siblings.limit? "maxContains" with
    | none, none => if count = 0 then fault "contains" else []
    | some least, none => if count < least then fault "minContains" else []
    | none, some most => if count = 0 ∨ most < count then fault "maxContains" else []
    | some least, some most =>
      if most < count then fault "maxContains"
      else if count < least then fault "minContains" else []
  | _ => []

/-! What the keywords look at. -/

/-- Whether a keyword looks at the member or the item with a key, other than by schemas for the
value itself and for all that is left. -/
def looksAt (d : Draft) (name : String) (m : Meaning) (v : Value) (key : String) : Bool :=
  match m, v with
  | .many checks, .object _ => name = "properties" && checks.any (·.1 = key)
  | .patterned checks, .object _ => checks.any (·.1.fits key)
  | .one _ _, .object _ => name = "additionalProperties"
  | .many checks, .array _ => name = "prefixItems" && checks.any (·.1 = key)
  | .one _ c, .array xs =>
    name = "items" || (name = "contains" && d = .draft2020
      && xs.zipIdx.any fun (x, i) => Pointer.indexText i = key && c.passes x)
  | _, _ => false

/-- Whether a schema that a keyword has for the value itself looks there. -/
def handsOn (siblings : Siblings) (name : String) (m : Meaning) (v : Value) (key : String) : Bool :=
  match m with
  | .reference c => c.covers v key
  | .many checks =>
    if ["allOf", "anyOf", "oneOf"].contains name then
      checks.any fun (_, c) => c.passes v && c.covers v key
    else name = "dependentSchemas"
      && checks.any fun (member, c) => v.toObject.contains member && c.covers v key
  | .one _ c => name = "if"
      && ((c.passes v && c.covers v key) || ((siblings.one? (branch c v)).getD pass).covers v key)
  | _ => false

/-- Whether some keyword looks there that is not for all that is left. -/
def Siblings.covers (d : Draft) (siblings : Siblings) (v : Value) (key : String) : Bool :=
  siblings.any fun (name, m) => looksAt d name m v key || handsOn siblings name m v key

/-- The members or items that a keyword for all that is left may look at, by their keys. -/
def restOf (name : String) (v : Value) : List (String × Value) :=
  match v with
  | .object ms => if name = "unevaluatedProperties" then ms else []
  | .array xs =>
    if name = "unevaluatedItems" then xs.zipIdx.map fun (x, i) => (Pointer.indexText i, x) else []
  | _ => []

/-- Checks what no other keyword has looked at. All that do not pass make one fault. -/
def unevaluated (d : Draft) (siblings : Siblings) (name : String) (c : Check) : Report :=
  fun place v =>
    let left := (restOf name v).filter fun (key, x) => !siblings.covers d v key && !c.passes x
    if left.isEmpty then []
    else if name = "unevaluatedItems" then
      [⟨place, .unevaluated "items" (left.map (·.2.compact))⟩]
    else [⟨place, .unevaluated "properties" (left.map (·.1))⟩]

/-! Schema objects. -/

/-- The check of one keyword among its siblings, at the place of the schema object. -/
def keyword (d : Draft) (siblings : Siblings) (name : String) (m : Meaning) : Report :=
  fun place v =>
    let here := place.keyword name
    match m with
    | .assertion a => assertion a place v
    | .reference c => c here v
    | .many checks =>
      if name = "allOf" then allOf checks here v
      else if name = "anyOf" then anyOf checks here v
      else if name = "oneOf" then oneOf checks here v
      else if name = "prefixItems" then prefixItems checks here v
      else if name = "dependentSchemas" ∨ name = "dependencies" then
        dependentSchemas checks here v
      else if name = "properties" ∧ !siblings.closed then properties checks here v else []
    | .patterned checks => if siblings.closed then [] else patternProperties checks here v
    | .one source c =>
      if name = "additionalProperties" then additionalProperties siblings source c place v
      else if name = "contains" then contains siblings c place v
      else if name = "if" then conditional siblings c place v
      else if name = "items" then items siblings.prefixCount c here v
      else if name = "not" then negation source c here v
      else if name = "propertyNames" then propertyNames source c here v
      else if name = "unevaluatedItems" ∨ name = "unevaluatedProperties" then
        unevaluated d siblings name c here v
      else []
    | .limit _ | .inert => []

/-- Whether a keyword for all that is left looks at the members or items of a value. -/
def Siblings.takesRest (siblings : Siblings) : Value → Bool
  | .object _ => (siblings.one? "unevaluatedProperties").isSome
  | .array _ => (siblings.one? "unevaluatedItems").isSome
  | _ => false

def object (d : Draft) (siblings : Siblings) : Check where
  report place v := siblings.flatMap fun (name, m) => keyword d siblings name m place v
  covers v key := siblings.takesRest v || siblings.covers d v key

end Check

end DocumentMigration
