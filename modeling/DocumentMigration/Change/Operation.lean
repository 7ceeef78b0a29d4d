import DocumentMigration.Text.Blank

/-!
The three operations of change templates and change records.
-/
namespace DocumentMigration

inductive Operation where
  | create
  | update
  | delete
deriving DecidableEq, Repr

/-- A text that names no operation. -/
structure UnknownOperation where
  text : String

def UnknownOperation.message (e : UnknownOperation) : String :=
  "Invalid operation type: " ++ e.text

namespace Operation

def all : List Operation := [.create, .update, .delete]

def name : Operation → String
  | .create => "create"
  | .update => "update"
  | .delete => "delete"

def ofName? (text : String) : Option Operation := all.find? (·.name = text)

/-- Reads a name in any case of its ASCII letters, with blanks around it. -/
def parse (text : String) : Except UnknownOperation Operation :=
  match ofName? (Text.lowerAscii (Text.trim text)) with
  | some operation => .ok operation
  | none => .error ⟨text⟩

def readsOldValue : Operation → Bool
  | .create => false
  | _ => true

def writesNewValue : Operation → Bool
  | .delete => false
  | _ => true

@[simp] theorem ofName?_name (o : Operation) : ofName? o.name = some o := by cases o <;> decide

end Operation
end DocumentMigration
