import DocumentMigration.Files.Tree
import DocumentMigration.Json.Parser
import DocumentMigration.Json.Printer
import DocumentMigration.Record.Violation
import DocumentMigration.Schema.Error
import DocumentMigration.Schema.Merge

/-!
Files that hold schemas and violations. A location that is a directory stands for one file per
collection in it; any other location is a single file.
-/
namespace DocumentMigration

open Json

namespace SchemaFiles

def collectionFile (t : FileTree) (base collection : String) : String :=
  if t.isDirectory base then Location.join base (collection ++ ".json") else base

def requireFolder (t : FileTree) (location : String) (collections : List String)
    (purpose : String) : Except SchemaError Unit :=
  if 1 < collections.length && !t.isDirectory location then
    .error (.invalidPath location ("must be a folder when " ++ purpose ++ " multiple collections"))
  else .ok ()

def read [FloatReader] (t : FileTree) (location : String) : Except SchemaError Value :=
  if !t.contains location then .error (.missingFile location) else
    match t.readText location with
    | .error _ => .error (.inaccessible location)
    | .ok text =>
      match Value.parse? text with
      | some v => .ok v
      | none => .error (.malformed location)

def write (location : String) (v : Value) : Action FileTree SchemaError Unit := fun t =>
  match (do FileTree.makeParents location; FileTree.writeText location v.pretty :
      Action FileTree FileFault Unit).run t with
  | (.ok (), t) => (.ok (), t)
  | (.error _, t) => (.error (.inaccessible location), t)

/-- The text of some violations; a summary merges those of one rule. -/
def report (summary : Bool) (violations : List Violation) : Value :=
  if summary then .array ((mergeViolations violations).map MergedViolation.encode)
  else .array (violations.map Violation.encode)

/-- One file for each collection that has violations; answers the files in order. -/
def writeEach (folder : String) (summary : Bool) :
    List (String × List Violation) → Action FileTree SchemaError (List String)
  | [] => return []
  | (collection, violations) :: rest => do
    if violations.isEmpty then writeEach folder summary rest
    else
      let file := collectionFile (← get) folder collection
      write file (report summary violations)
      return file :: (← writeEach folder summary rest)

/-- Writes the violations of several collections and answers the files. A directory gets a file for
each collection that has any, a single file all of them. -/
def writeViolations (output : String) (violations : List (String × List Violation))
    (summary : Bool) : Action FileTree SchemaError (List String) := do
  if (← get).isDirectory output then writeEach output summary violations
  else
    write output (report summary (violations.flatMap (·.2)))
    return [output]

end SchemaFiles
end DocumentMigration
