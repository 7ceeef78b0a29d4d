import DocumentMigration.Output.Render

/-!
What a command line asks for, and the ways that it fails to ask for anything.
-/
namespace DocumentMigration

/-- The switches that every command takes. -/
structure CommonSwitches where
  format : Option OutputFormat := none
  quiet : Bool := false
  verbose : Bool := false
  /-- A store file in place of the configured store. -/
  store : Option String := none
deriving DecidableEq

inductive Request where
  | migrate (script : String) (summarize yes dryRun : Bool)
  | exportSchemas (collections : List String) (output : String)
  | validate (collections : List String) (schema : String) (output : Option String)
      (summarize : Bool)
  | show (name : Option String)
deriving DecidableEq

structure Invocation where
  request : Request
  switches : CommonSwitches
deriving DecidableEq

inductive UsageError where
  /-- A value that a switch does not take, or none where it takes one. -/
  | invalidValue
  | unknownArgument
  | invalidSubcommand
  | missingRequired
  /-- A switch given twice. -/
  | conflict
  /-- A value for a switch that takes none. -/
  | unneededValue
  | missingSubcommand
  | help
  | version
  /-- Nothing given at all where a subcommand has to be. -/
  | helpOnMissing
deriving DecidableEq

namespace CommonSwitches

/-- The format that holds, given the configured one. The case of the configured name does not
matter; the failure is the name itself. -/
def effectiveFormat (s : CommonSwitches) (configured : String) : Except String OutputFormat :=
  match s.format, OutputFormat.ofName? (Text.lowerAscii configured) with
  | some format, _ => .ok format
  | none, some format => .ok format
  | none, none => .error configured

end CommonSwitches
end DocumentMigration
