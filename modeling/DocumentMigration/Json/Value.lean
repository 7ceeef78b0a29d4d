import DocumentMigration.Json.Number

/-!
JSON values. An object is a list of members that the operations of this library keep sorted by key,
so that equal objects are equal lists.
-/
namespace DocumentMigration.Json

inductive Value where
  | null
  | bool (b : Bool)
  | number (n : Number)
  | string (s : String)
  | array (items : List Value)
  | object (members : List (String × Value))
deriving Inhabited

abbrev Object := List (String × Value)

namespace Value

def nat (n : Nat) : Value := ((Number.ofInt? n).map .number).getD .null

theorem exists_nat_eq {n : Nat} (small : n < 2 ^ (64 : Nat)) :
    ∃ range, nat n = .number (.integer n range) := by
  refine ⟨by omega, ?_⟩
  rw [nat, Number.ofInt?, dif_pos]
  rfl

section Equality

variable (same : Number → Number → Bool)

mutual
/-- Equality of documents, whose numbers are compared as it is said. -/
def equalBy : Value → Value → Bool
  | .null, .null => true
  | .bool a, .bool b => a == b
  | .number a, .number b => same a b
  | .string a, .string b => a == b
  | .array xs, .array ys => equalItemsBy xs ys
  | .object ms, .object ns => equalMembersBy ms ns
  | _, _ => false

def equalItemsBy : List Value → List Value → Bool
  | [], [] => true
  | x :: xs, y :: ys => equalBy x y && equalItemsBy xs ys
  | _, _ => false

def equalMembersBy : List (String × Value) → List (String × Value) → Bool
  | [], [] => true
  | (k, x) :: ms, (l, y) :: ns => k == l && equalBy x y && equalMembersBy ms ns
  | _, _ => false
end

end Equality

/-- Float zeros are equal, integers and floats never are. -/
def equal : Value → Value → Bool := equalBy Number.equal

mutual
/-- The greatest number of arrays and objects around one place, the value itself included. -/
def depth : Value → Nat
  | .array xs => itemsDepth xs + 1
  | .object ms => membersDepth ms + 1
  | _ => 0

def itemsDepth : List Value → Nat
  | [] => 0
  | x :: xs => max (depth x) (itemsDepth xs)

def membersDepth : List (String × Value) → Nat
  | [] => 0
  | (_, x) :: ms => max (depth x) (membersDepth ms)
end

/-- The kind of a value as error texts name it. -/
def kindName : Value → String
  | .null => "null"
  | .bool _ => "boolean"
  | .number _ => "number"
  | .string _ => "string"
  | .array _ => "array"
  | .object _ => "object"

def isContainer : Value → Bool
  | .array _ | .object _ => true
  | _ => false

/-- The members of an object; any other value counts as the empty document. -/
def toObject : Value → Object
  | .object ms => ms
  | _ => []

def ofStrings (texts : List String) : Value := .array (texts.map .string)

end Value
end DocumentMigration.Json
