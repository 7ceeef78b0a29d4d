import DocumentMigration.Migration.Basic
import DocumentMigration.Output.Render

/-!
The settings of the program, their defaults and their ranges.
-/
namespace DocumentMigration

structure StoreSettings where
  /-- A file, or `:memory:` for a store that is gone afterwards. -/
  path : String := ".docmig/documents.db"
  url : String := ""
  authToken : String := ""
deriving DecidableEq

/-- A remote store needs an address and a token. -/
def StoreSettings.isRemote (s : StoreSettings) : Bool := !s.url.isEmpty && !s.authToken.isEmpty

def StoreSettings.isInMemory (s : StoreSettings) : Bool := s.path = ":memory:"

structure MigrateSettings where
  maxBatchSize : Nat := batchSizeLimit
  summarize : Bool := false
  assumeYes : Bool := false
deriving DecidableEq

structure GeneralSettings where
  /-- The output format when none is asked for. -/
  defaultFormat : String := OutputFormat.table.name
deriving DecidableEq

structure Config where
  store : StoreSettings := {}
  migrate : MigrateSettings := {}
  general : GeneralSettings := {}
deriving DecidableEq

inductive ConfigError where
  /-- A value of the wrong kind under these keys; no key at all stands for a file that cannot be
  read. -/
  | wrongValue (keys : List String)
  /-- The file of variables cannot be read. -/
  | malformedVariables
  | outOfRange (field reason : String)
deriving DecidableEq

def ConfigError.message : ConfigError → String
  | .wrongValue keys => "Configuration error: " ++ String.intercalate "." keys
  | .malformedVariables => "Failed to load .env"
  | .outOfRange field reason => "Invalid configuration value for '" ++ field ++ "': " ++ reason

/-- The batch size is looked at before the format. -/
def Config.check (c : Config) : Except ConfigError Unit :=
  let size := c.migrate.maxBatchSize
  let format := c.general.defaultFormat
  if size = 0 ∨ batchSizeLimit < size then
    .error (.outOfRange "migrate.max_batch_size"
      ("must be between 1 and " ++ toString batchSizeLimit ++ ", got " ++ toString size))
  else if (OutputFormat.ofName? format).isNone then
    .error (.outOfRange "general.default_format" ("unknown format '" ++ format ++ "'"))
  else .ok ()

end DocumentMigration
