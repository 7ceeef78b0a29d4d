import DocumentMigration.Json.Object

/-!
Reading records from JSON values. A record is an object with its fields as members, or an array of
its fields in declaration order. Faults are found member by member in key order; only then are
missing fields reported, in declaration order.
-/
namespace DocumentMigration.Record

open Json

inductive DecodeError where
  | missingField (field : String)
  | duplicateField (field : String)
  | unknownVariant (found : String) (known : List String)
  | wrongType (found expected : String)
  | wrongValue (found expected : String)
  | wrongLength (found : Nat) (expected : String)

/-- A character as it stands between quotes in an error text. -/
def quotedChar (c : Char) : List Char :=
  if c = '"' ∨ c = '\\' then ['\\', c]
  else if c = '\n' then ['\\', 'n']
  else if c = '\r' then ['\\', 'r']
  else if c = '\t' then ['\\', 't']
  else if c.toNat = 0 then ['\\', '0']
  else if c.toNat < 32 ∨ (127 ≤ c.toNat ∧ c.toNat < 160) then
    '\\' :: 'u' :: '\x7b' :: (Nat.toDigits 16 c.toNat ++ ['\x7d'])
  else [c]

/-- A value as an error text names it. -/
def describe : Value → String
  | .null => "null"
  | .bool b => "boolean `" ++ (if b then "true" else "false") ++ "`"
  | .number (.integer i h) => "integer `" ++ String.ofList (Number.text (.integer i h)) ++ "`"
  | .number (.float x) => "floating point `" ++ String.ofList x.text ++ "`"
  | .string s => "string \"" ++ String.ofList (s.toList.flatMap quotedChar) ++ "\""
  | .array _ => "sequence"
  | .object _ => "map"

def ticked (name : String) : String := "`" ++ name ++ "`"

def DecodeError.message : DecodeError → String
  | .missingField f => "missing field " ++ ticked f
  | .duplicateField f => "duplicate field " ++ ticked f
  | .unknownVariant found known =>
    "unknown variant " ++ ticked found ++ ", expected one of "
      ++ String.intercalate ", " (known.map ticked)
  | .wrongType found expected => "invalid type: " ++ found ++ ", expected " ++ expected
  | .wrongValue found expected => "invalid value: " ++ found ++ ", expected " ++ expected
  | .wrongLength found expected =>
    "invalid length " ++ String.ofList (Nat.toDigits 10 found) ++ ", expected " ++ expected

abbrev Decoded := Except DecodeError

def text : Value → Decoded String
  | .string s => .ok s
  | v => .error (.wrongType (describe v) "a string")

def boolean : Value → Decoded Bool
  | .bool b => .ok b
  | v => .error (.wrongType (describe v) "a boolean")

/-- A whole number from zero on. -/
def count : Value → Decoded Nat
  | .number (.integer (.ofNat n) _) => .ok n
  | .number (.integer i h) =>
    .error (.wrongValue (describe (.number (.integer i h))) "a whole number")
  | v => .error (.wrongType (describe v) "a whole number")

def document : Value → Decoded Object
  | .object ms => .ok ms
  | v => .error (.wrongType (describe v) "a map")

def any (v : Value) : Decoded Value := .ok v

def each (item : Value → Decoded α) : Value → Decoded (List α)
  | .array xs => xs.mapM item
  | v => .error (.wrongType (describe v) "a sequence")

/-- Null stands for an absent value. -/
def nullable (item : Value → Decoded α) : Value → Decoded (Option α)
  | .null => .ok none
  | v => (item v).map some

/-- One of the named constants, as a string or as an object with that one key and a null. -/
def variant (known : List (String × α)) : Value → Decoded α
  | .string s => pick s
  | .object [(k, v)] => do
    let found ← pick k
    match v with
    | .null => return found
    | v => throw (.wrongType (describe v) "unit")
  | .object _ => .error (.wrongValue "map" "map with a single key")
  | v => .error (.wrongType (describe v) "string or map")
where
  pick (s : String) : Decoded α :=
    match known.lookup s with
    | some a => .ok a
    | none => .error (.unknownVariant s (known.map (·.1)))

/-- The member of a field, decoded if it is there. -/
def member (ms : Object) (field : String) (item : Value → Decoded α) : Decoded (Option α) :=
  match ms.get? field with
  | some v => (item v).map some
  | none => .ok none

def required (field : String) : Option α → Decoded α
  | some a => .ok a
  | none => .error (.missingField field)

/-- The items of a record written as an array: those still unread, and how many were read. -/
structure Items where
  rest : List Value
  taken : Nat

abbrev ItemReader := StateT Items Decoded

/-- The next item, which must be there. -/
def nextItem (expected : String) (item : Value → Decoded α) : ItemReader α := do
  match (← get) with
  | ⟨[], taken⟩ => throw (.wrongLength taken expected)
  | ⟨v :: rest, taken⟩ =>
    let a ← item v
    set (Items.mk rest (taken + 1))
    return a

/-- The next item, or a default behind the end. -/
def nextItemOr (default : α) (item : Value → Decoded α) : ItemReader α := do
  match (← get) with
  | ⟨[], _⟩ => return default
  | ⟨v :: rest, taken⟩ =>
    let a ← item v
    set (Items.mk rest (taken + 1))
    return a

/-- A record in either of its two forms; an array may not be longer than the record. -/
def record (name : String) (members : Object → Decoded α) (items : ItemReader α) :
    Value → Decoded α
  | .object ms => members ms
  | .array xs => do
    let (a, left) ← items.run ⟨xs, 0⟩
    if left.rest.isEmpty then return a
    else throw (.wrongLength xs.length "fewer elements in array")
  | v => .error (.wrongType (describe v) ("struct " ++ name))

/-- The text that a short array is measured against. -/
def sized (name : String) (fields : Nat) : String :=
  "struct " ++ name ++ " with " ++ String.ofList (Nat.toDigits 10 fields) ++ " elements"

end DocumentMigration.Record
