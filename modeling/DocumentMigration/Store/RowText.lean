import DocumentMigration.Json.Parser
import DocumentMigration.Json.Printer
import DocumentMigration.Store.Table

/-!
The rows of a store as text: a line for each row, a list of the collection, the id and the body.
-/
namespace DocumentMigration.Row

open Json

def encode (r : Row) : Value := .ofStrings [r.collection, r.id, r.body]

def decode? : Value → Option Row
  | .array [.string collection, .string id, .string body] => some ⟨collection, id, body⟩
  | _ => none

def textOf (rows : List Row) : String := String.join (rows.map fun r => r.encode.compact ++ "\n")

def ofText? [FloatReader] (text : String) : Option (List Row) :=
  ((text.toList.splitOn '\n').filter fun l => !l.isEmpty).mapM fun line =>
    (Value.parse? (String.ofList line)).bind decode?

end DocumentMigration.Row
