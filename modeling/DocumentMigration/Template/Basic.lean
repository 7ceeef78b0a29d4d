import DocumentMigration.Change.Basic
import DocumentMigration.Path.Basic

/-!
Change templates: one operation on one collection, before and after its contract has been checked.
Values and filters are functions of the document.
-/
namespace DocumentMigration

open Json

/-- Where a new value comes from; a computed one may fail with a text. -/
inductive ValueSource where
  | literal (value : Value)
  | computed (compute : Object → Except String Value)

def ValueSource.resolve (document : Object) : ValueSource → Except String Value
  | .literal value => .ok value
  | .computed compute => compute document

/-- The value at another path of the document, or null. -/
def ValueSource.copyFrom (path : String) : ValueSource :=
  .computed fun document => .ok ((Path.read? document path).getD .null)

structure AttributeTemplate where
  path : String
  operation : Operation
  /-- A missing value writes null. -/
  value : Option ValueSource := none

structure Template where
  operation : Operation
  collection : String
  /-- No filter lets every document pass. -/
  filter : Option (Object → Bool) := none
  changes : Option (List AttributeTemplate) := none

/-- A template that keeps its contract: paths are valid, a delete has no attributes, and a create
has only create attributes. -/
structure CompiledTemplate where
  operation : Operation
  collection : String
  filter : Option (Object → Bool)
  attributes : List AttributeTemplate

def CompiledTemplate.accepts (t : CompiledTemplate) (document : Object) : Bool :=
  match t.filter with
  | some passes => passes document
  | none => true

end DocumentMigration
