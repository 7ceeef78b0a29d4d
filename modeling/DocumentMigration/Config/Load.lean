import DocumentMigration.Config.VariableFile
import DocumentMigration.Files.Tree
import DocumentMigration.Toml.Parser

/-!
Loading the settings. Four layers, each over the one before it: the defaults, the file of the
user, the file of the working directory, and the environment, which a file of variables may have
extended.
-/
namespace DocumentMigration.Config

open Json

def ancestors (t : FileTree) : List (List String) :=
  (List.range (t.here.length + 1)).map fun n => t.here.take (t.here.length - n)

/-- The first file of some name in the working directory or above it. -/
def findUpwards (t : FileTree) (name : List String) : Option FileEntry :=
  (ancestors t).findSome? fun folder =>
    match t.entry? (folder ++ name) with
    | some .directory => none
    | found => found

/-- The layer of a file. One that is missing sets nothing. -/
def layerOf : Option FileEntry → Except ConfigError Object
  | none | some .directory => .ok []
  | some (.text content) =>
    match Toml.parse? content with
    | some (.object layer) => .ok layer
    | _ => .error (.wrongValue [])
  | some _ => .error (.wrongValue [])

def userLocation? (env : Environment) : Option String :=
  let folder := match env.find? "XDG_CONFIG_HOME" with
    | some folder => if Location.isAbsolute folder then some folder else none
    | none => none
  let home := match env.find? "HOME" with
    | some home => if home.isEmpty then none else some (Location.join home ".config")
    | none => none
  (folder.or home).map fun folder => Location.join folder "docmig/config.toml"

def localLocation : String := ".docmig/config.toml"

/-- The file of the working directory. A directory of its name lets the search go on above. -/
def localEntry (files : FileTree) : Option FileEntry :=
  if files.contains localLocation then findUpwards files (Location.steps localLocation) else none

def layers (files : FileTree) (env : Environment) : Except ConfigError (List Object) := do
  let user ← layerOf ((userLocation? env).bind files.at?)
  let here ← layerOf (localEntry files)
  return [user, here, ofEnvironment env]

def load (files : FileTree) (env : Environment) : Except ConfigError Config := do
  let config ← (ofLayer (merged (← layers files env))).mapError .wrongValue
  config.check
  return config

/-- The environment after the nearest file of variables, if there is one. -/
def extended (files : FileTree) (env : Environment) : Except ConfigError Environment :=
  match findUpwards files [".env"] with
  | none => .ok env
  | some (.text content) =>
    match VariableFile.read? env content with
    | some env => .ok env
    | none => .error .malformedVariables
  | some _ => .error .malformedVariables

def loadExtended (files : FileTree) (env : Environment) :
    Except ConfigError (Config × Environment) := do
  let env ← extended files env
  return (← load files env, env)

end DocumentMigration.Config
