import DocumentMigration.Json.Printer
import DocumentMigration.Output.Table
import DocumentMigration.Schema.Merge

/-!
Answers as text: JSON over several lines, JSON on one line, or a table. JSON keeps the order of
members, a table sorts its columns.
-/
namespace DocumentMigration

open Json

inductive OutputFormat where
  | json
  | table
  | raw
deriving DecidableEq

namespace OutputFormat

def all : List OutputFormat := [.json, .table, .raw]

def name : OutputFormat → String
  | .json => "json"
  | .table => "table"
  | .raw => "raw"

def ofName? (text : String) : Option OutputFormat := all.find? fun f => f.name = text

end OutputFormat

namespace Json.Value

def isScalar : Value → Bool
  | .array _ | .object _ => false
  | _ => true

def scalarCell : Value → String
  | .string s => s
  | v => v.compact

/-- The text of a cell. A list of scalars is joined with commas, what is nested is JSON. -/
def cell : Value → String
  | .array items =>
    if items.all isScalar then String.intercalate ", " (items.map scalarCell)
    else (Value.array items).compact
  | v => scalarCell v

def members? : Value → Option Object
  | .object ms => some ms
  | _ => none

/-- Objects become rows with a column for every key that one of them has; other items have a single
column. -/
def itemsTable (style : Table.Style) (items : List Value) : String :=
  if items.isEmpty then "(no rows)" else
    match items.mapM members? with
    | none => Table.render ["value"] (items.map fun v => [v.cell]) style
    | some rows =>
      let headers := Object.keys (Object.ofList rows.flatten)
      let row (ms : Object) := headers.map fun k => ((Object.get? k ms).map cell).getD "-"
      if headers.isEmpty then "(no columns)" else Table.render headers (rows.map row) style

def table (style : Table.Style) (v : Value) : String :=
  match v.sorted with
  | .array items => itemsTable style items
  | .object ms => Table.render ["key", "value"] (ms.map fun m => [m.1, m.2.cell]) style
  | scalar => Table.render ["value"] [[scalar.cell]] style

end Json.Value

def render (format : OutputFormat) (v : Value) (style : Table.Style := {}) : String :=
  match format with
  | .json => v.pretty
  | .table => v.table style
  | .raw => v.compact

end DocumentMigration
