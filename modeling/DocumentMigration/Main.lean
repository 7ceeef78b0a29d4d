import DocumentMigration.Command.Locations
import DocumentMigration.Json.Scaling
import DocumentMigration.Store.RowText

/-!
The program. It reads the files that a run may look at into a tree, runs the command on the tree,
asks its question, and writes back what has changed.
-/
namespace DocumentMigration.Program

open Json

-- What formats and encodings ask of a text is left to other specifications, and no schema is
-- fetched.
attribute [local instance] FloatReader.scaling Standards.bare

def locationOf (place : List String) : String := "/" ++ String.intercalate "/" place

/-- What stands at a place on disk. -/
def probe (place : List String) : IO (Option FileEntry) := do
  try
    return some (.text (← IO.FS.readFile (locationOf place)))
  catch
    | .noFileOrDirectory .. => return none
    | .inappropriateType .. => return some .directory
    | _ => return some .binary

/-- Adds the places on a way, up to the first that is no directory. -/
def gather (files : FileTree) : List (List String) → IO FileTree
  | [] => return files
  | place :: rest => do
    match files.entry? place with
    | some .directory => gather files rest
    | some _ => return files
    | none =>
      match ← probe place with
      | none => return files
      | some .directory => gather (files.put place .directory) rest
      | some entry => return files.put place entry

def gatherLocation (files : FileTree) (location : String) : IO FileTree :=
  gather files (waypoints (files.start location) (Location.steps location))

/-- The rows of the store in place of their text. -/
def withRows (files : FileTree) (location : String) : FileTree :=
  match files.place? location, files.at? location with
  | some place, some (.text content) =>
    match Row.ofText? content with
    | some rows => files.put place (.table rows)
    | none => files
  | _, _ => files

def write (place : List String) : FileEntry → IO Unit
  | .directory => IO.FS.createDirAll (locationOf place)
  | .text content => IO.FS.writeFile (locationOf place) content
  | .table rows => IO.FS.writeFile (locationOf place) (Row.textOf rows)
  | .binary => return

/-- Writes what differs from the tree before. Directories come before the files in them. -/
def writeBack (before after : FileTree) : IO Unit :=
  for (place, entry) in after.entries do
    match entry, before.entry? place with
    | .directory, some .directory | .binary, _ => pure ()
    | .text new, some (.text old) => if new ≠ old then write place entry
    | .table new, some (.table old) => if new ≠ old then write place entry
    | _, _ => write place entry

def environment : IO Environment := do
  let bytes ← IO.FS.readBinFile "/proc/self/environ"
  let text := (String.fromUTF8? bytes).getD ""
  return ((text.toList.splitOn '\x00').filter fun v => !v.isEmpty).map fun v =>
    let (name, value) := v.span (· ≠ '=')
    (String.ofList name, String.ofList (value.drop 1))

def freshIds : IO IdSource := do
  let bytes ← IO.getRandomBytes 10
  return ⟨bytes.data.foldl (fun n b => 256 * n + b.toNat) 0⟩

def display (prints : List Print) : IO Unit := do
  let out ← IO.getStdout
  let aside ← IO.getStderr
  for p in prints do
    match p with
    | .out text => out.putStr text; out.flush
    | .aside text => aside.putStr text; aside.flush

def usage : String :=
  "Usage: docmig [-f FORMAT] [-q] [-v] [-s STORE] COMMAND\n\n" ++
  "  migrate --script FILE [--summarize] [--yes] [--dry-run]\n" ++
  "  schema export -c NAMES -o PATH\n" ++
  "  schema validate -c NAMES --schema PATH [-o PATH] [--summarize]\n" ++
  "  schema show [NAME]"

def refuse : UsageError → IO UInt32
  | .help => do IO.println usage; return 0
  | .version => do IO.println "docmig 0.1.0"; return 0
  | _ => do IO.eprintln usage; return 2

def run (inv : Invocation) : IO UInt32 := do
  let env ← environment
  let here := Location.steps (toString (← IO.currentDir))
  let files ← gather { here } (waypoints [] here)
  let files ← (Config.places here env).foldlM (fun t place => gather t (waypoints [] place)) files
  let store? := inv.storeLocation? files env
  let files ← (store?.toList ++ inv.request.locations).foldlM gatherLocation files
  let files := match store? with
    | some location => withRows files location
    | none => files
  let terminal ← (← IO.getStdout).isTty
  let stage := inv.start { files, environment := env, ids := ← freshIds, terminal }
  let report ← match stage with
    | .done report => pure report
    | .asks prints resume => do
      display prints
      pure (resume (← (← IO.getStdin).getLine))
  display report.prints
  writeBack files report.files
  match report.result with
  | .ok () => return 0
  | .error e => IO.eprintln ("docmig error: " ++ e.message); return 1

end DocumentMigration.Program

def main (args : List String) : IO UInt32 :=
  match DocumentMigration.Invocation.ofArguments args with
  | .error e => DocumentMigration.Program.refuse e
  | .ok inv => DocumentMigration.Program.run inv
