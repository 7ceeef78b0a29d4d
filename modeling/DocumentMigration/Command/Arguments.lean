import DocumentMigration.Command.Invocation
import DocumentMigration.Path.Basic

/-!
Reading the arguments of a command line. Each subcommand opens a level of its own, with its own
switches. A switch may wait for its value, which is judged only when the next argument of the same
level, or the end of the level, settles it; inner levels are settled before outer ones.
-/
namespace DocumentMigration.Arguments

inductive Takes where
  | nothing
  | text
  /-- A location, which is never empty. -/
  | location
  | format
  /-- Values with commas between them; the switch may be given again. -/
  | list
  | help
  | version
deriving DecidableEq

structure Switch where
  name : String
  short : Option Char := none
  takes : Takes
deriving DecidableEq

inductive Command where
  | root
  | schema
  | migrate
  | exportSchemas
  | validate
  | show
deriving DecidableEq

namespace Command

def common : List Switch :=
  [⟨"format", some 'f', .format⟩, ⟨"quiet", some 'q', .nothing⟩, ⟨"verbose", some 'v', .nothing⟩,
    ⟨"store", some 's', .text⟩, ⟨"help", some 'h', .help⟩]

def switches : Command → List Switch
  | .root => ⟨"version", some 'V', .version⟩ :: common
  | .schema | .show => common
  | .migrate => common ++ [⟨"script", none, .location⟩, ⟨"summarize", none, .nothing⟩,
      ⟨"yes", some 'y', .nothing⟩, ⟨"dry-run", none, .nothing⟩]
  | .exportSchemas => common ++ [⟨"collections", some 'c', .list⟩, ⟨"output", some 'o', .location⟩]
  | .validate => common ++ [⟨"collections", some 'c', .list⟩, ⟨"schema", none, .location⟩,
      ⟨"output", some 'o', .location⟩, ⟨"summarize", none, .nothing⟩]

def required : Command → List String
  | .migrate => ["script"]
  | .exportSchemas => ["collections", "output"]
  | .validate => ["collections", "schema"]
  | _ => []

def subcommands : Command → List (String × Command)
  | .root => [("migrate", .migrate), ("schema", .schema)]
  | .schema => [("export", .exportSchemas), ("validate", .validate), ("show", .show)]
  | _ => []

def hasSubcommands (c : Command) : Bool := !c.subcommands.isEmpty

/-- Whether an argument is the name of a subcommand. Help is one wherever there are others. -/
def isSubcommand (c : Command) (arg : String) : Bool :=
  (c.subcommands.lookup arg).isSome || (c.hasSubcommands && arg = "help")

/-- The one command that takes a word of its own. -/
def takesWord (c : Command) : Bool := c = .show

end Command

structure Level where
  command : Command
  /-- The switches that are settled, with their values. -/
  given : List (String × List String) := []
  /-- A switch that is not settled yet, with the value that it has got. -/
  pending : Option (Switch × Option String) := none
  word : Option String := none
  /-- Whether the next argument may be the value of the pending switch. -/
  waits : Bool := false
  /-- Whether two dashes have ended the switches. -/
  wordsOnly : Bool := false

namespace Level

def isGiven (l : Level) (name : String) : Bool := (l.given.lookup name).isSome

def values (l : Level) (name : String) : List String := (l.given.lookup name).getD []

/-- Adds values of a switch behind those that it has. -/
def add (name : String) (vs : List String) (l : Level) : Level :=
  if l.isGiven name then
    { l with given := l.given.map fun g => if g.1 = name then (name, g.2 ++ vs) else g }
  else { l with given := l.given ++ [(name, vs)] }

def pieces (text : String) : List String := (text.toList.splitOn ',').map String.ofList

/-- Settles a switch. Only a list may be given again, and that is looked at before the value. -/
def settle (s : Switch) (value : String) (l : Level) : Except UsageError Level :=
  match s.takes with
  | .help => .error .help
  | .version => .error .version
  | .list => .ok (l.add s.name (pieces value))
  | takes =>
    if l.isGiven s.name then .error .conflict
    else if takes = .location ∧ value.isEmpty then .error .invalidValue
    else if takes = .format ∧ (OutputFormat.ofName? value).isNone then .error .invalidValue
    else .ok (l.add s.name (if takes = .nothing then [] else [value]))

/-- Settles the switch that is pending. One that got no value fails. -/
def settlePending (l : Level) : Except UsageError Level :=
  match l.pending with
  | none => .ok { l with waits := false }
  | some (_, none) => .error .invalidValue
  | some (s, some value) => { l with pending := none, waits := false }.settle s value

def takesValue (s : Switch) : Bool :=
  s.takes = .text || s.takes = .location || s.takes = .format || s.takes = .list

/-- A switch with the value attached to it, if there is one. -/
def give (s : Switch) (attached : Option String) (l : Level) : Except UsageError Level :=
  match takesValue s, attached with
  | true, none => do
    let l ← l.settlePending
    return { l with pending := some (s, none), waits := true }
  | true, some value => do (← l.settlePending).settle s value
  | false, none => do (← l.settlePending).settle s ""
  | false, some _ => .error .unneededValue

/-- An argument that begins with two dashes; a value may follow an equals sign. -/
def long (body : List Char) (l : Level) : Except UsageError Level :=
  let (name, rest) := body.span (· ≠ '=')
  let attached := match rest with
    | _ :: value => some (String.ofList value)
    | [] => none
  match l.command.switches.find? fun s => s.name = String.ofList name with
  | some s => l.give s attached
  | none => .error .unknownArgument

/-- The letters behind a single dash. What follows a switch with a value is its value. -/
def short (l : Level) : List Char → Except UsageError Level
  | [] => .ok l
  | c :: rest =>
    match l.command.switches.find? fun s => s.short = some c with
    | none => .error .unknownArgument
    | some s =>
      if takesValue s then
        match rest with
        | [] => l.give s none
        | '=' :: value => l.give s (some (String.ofList value))
        | value => l.give s (some (String.ofList value))
      else do (← l.give s none).short rest

def takeWord (arg : String) (l : Level) : Except UsageError Level := do
  if l.command.takesWord && l.word.isNone then
    let l ← l.settlePending
    return { l with word := some arg }
  else if l.wordsOnly && l.command.isSubcommand arg then throw .unknownArgument
  else if l.command.hasSubcommands then throw .invalidSubcommand
  else throw .unknownArgument

def check (innermost : Bool) (l : Level) : Except UsageError Level := do
  let l ← l.settlePending
  if innermost && l.command.hasSubcommands then
    throw (if l.given.isEmpty then .helpOnMissing else .missingSubcommand)
  if l.command.required.all l.isGiven then return l else throw .missingRequired

end Level

/-- Whether the words behind `help` name a command. -/
def helpFor : Command → List String → UsageError
  | _, [] => .help
  | c, word :: rest =>
    match c.subcommands.lookup word with
    | some sub => helpFor sub rest
    | none =>
      if c.hasSubcommands && word = "help" && rest.isEmpty then .help else .invalidSubcommand

/-- Reads arguments into the levels that they open, innermost first. -/
def read (outer : List Level) (l : Level) : List String → Except UsageError (List Level)
  | [] => .ok (l :: outer)
  | arg :: rest =>
    if l.wordsOnly then do read outer (← l.takeWord arg) rest
    else if !l.waits && l.command.isSubcommand arg then
      match l.command.subcommands.lookup arg with
      | some sub => read (l :: outer) { command := sub } rest
      | none => .error (helpFor l.command rest)
    else
      match arg.toList with
      | ['-', '-'] => read outer { l with wordsOnly := true } rest
      | '-' :: '-' :: body => do read outer (← l.long body) rest
      | '-' :: c :: body => do read outer (← l.short (c :: body)) rest
      | _ =>
        match l.waits, l.pending with
        | true, some (s, _) =>
          read outer { l with pending := some (s, some arg), waits := false } rest
        | _, _ => do read outer (← l.takeWord arg) rest

def checkAll (innermost : Bool) : List Level → Except UsageError (List Level)
  | [] => .ok []
  | l :: outer => do
    let l ← l.check innermost
    return l :: (← checkAll false outer)

/-- A value counts from the innermost level that has one. -/
def value? (levels : List Level) (name : String) : Option String :=
  levels.findSome? fun l => (l.values name).head?

def common (levels : List Level) : CommonSwitches where
  format := (value? levels "format").bind OutputFormat.ofName?
  quiet := levels.any (·.isGiven "quiet")
  verbose := levels.any (·.isGiven "verbose")
  store := value? levels "store"

def request? (l : Level) : Option Request :=
  let text (name : String) := ((l.values name).head?).getD ""
  match l.command with
  | .migrate => some (.migrate (text "script") (l.isGiven "summarize") (l.isGiven "yes")
      (l.isGiven "dry-run"))
  | .exportSchemas => some (.exportSchemas (l.values "collections") (text "output"))
  | .validate => some (.validate (l.values "collections") (text "schema")
      (l.values "output").head? (l.isGiven "summarize"))
  | .show => some (.show l.word)
  | .root | .schema => none

end Arguments

open Arguments in
/-- Reads a command line, without the name of the program. -/
def Invocation.ofArguments (args : List String) : Except UsageError Invocation := do
  let levels ← checkAll true (← read [] { command := .root } args)
  match levels.head?.bind request? with
  | some request => return ⟨request, common levels⟩
  | none => throw .missingSubcommand

end DocumentMigration
