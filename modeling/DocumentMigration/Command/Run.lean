import DocumentMigration.Command.Arguments
import DocumentMigration.Command.Migrate
import DocumentMigration.Command.Schemas
import DocumentMigration.Config.Load
import DocumentMigration.Store.File

/-!
A whole run of the program: settings, store, command. A run that asks stops at its question and
goes on with the answer.
-/
namespace DocumentMigration

open Json

structure Surroundings where
  files : FileTree
  environment : Environment := []
  ids : IdSource
  /-- Whether the output goes to a terminal. -/
  terminal : Bool := false

structure RunReport where
  files : FileTree
  ids : IdSource
  prints : List Print := []
  result : Except CommandError Unit

inductive Stage where
  | done (report : RunReport)
  /-- The run has printed something and waits for a line; the rest of it prints what follows. -/
  | asks (prints : List Print) (resume : String → RunReport)

def Stage.finish (line : String) : Stage → RunReport
  | .done report => report
  | .asks prints resume =>
    let report := resume line
    { report with prints := prints ++ report.prints }

namespace Manner

/-- Lines are as wide as the terminal is said to be; fewer than forty columns do not count. -/
def widthOf (env : Environment) : Option Nat :=
  match (env.find? "COLUMNS").bind Path.index? with
  | some width => if width < 40 then none else some width
  | none => none

def ofSwitches (s : CommonSwitches) (format : OutputFormat) (terminal : Bool) (env : Environment) :
    Manner where
  format := format
  quiet := s.quiet
  verbose := s.verbose
  style :=
    { maxWidth := widthOf env
      color := terminal && format = .table && !s.quiet && (env.find? "NO_COLOR").isNone }

end Manner

/-- A store named on the command line is always a file; else the settings say where the store is. -/
def storeLocation (s : CommonSwitches) (c : Config) : String :=
  match s.store with
  | some location => location
  | none => if c.store.isRemote then c.store.url else c.store.path

def runMigrate [FloatReader] [Standards] (script : String) (plan : Plan) (manner : Manner)
    (opened : OpenStore) : Stage :=
  match loadScript opened.files script with
  | .error e =>
    .done ⟨opened.files, opened.store.ids, [], .error (.scriptNotLoaded script e)⟩
  | .ok templates =>
    let migration := Migration.ofTemplates templates
    let report (seen : Nat) (run : Run TableStore) : RunReport :=
      ⟨opened.saved run.store, run.store.ids, manner.prints seen run,
        (run.result.map fun _ => ()).mapError .runFailed⟩
    match plan.prepare migration opened.store with
    | .finished run => .done (report 0 run)
    | .question count store notices =>
      let shown := notices ++ [.asked count]
      .asks (shown.filterMap manner.notice?) fun line =>
        report shown.length
          (plan.resume migration count store notices (.ok (Question.agrees line)))

def runWork (work : Work TableStore Unit) (opened : OpenStore) : Stage :=
  match work.run { files := opened.files, store := opened.store } with
  | (result, desk) => .done ⟨desk.files, desk.store.ids, desk.prints, result⟩

def Request.run [FloatReader] [Standards] (config : Config) (manner : Manner) (opened : OpenStore) :
    Request → Stage
  | .migrate script summarize yes dryRun =>
    runMigrate script (.ofSettings summarize yes dryRun config.migrate) manner opened
  | .exportSchemas collections output =>
    runWork (do
      let exported ← exportCollections collections output
      Work.answer manner (.array (exported.map ExportedSchema.encode))) opened
  | .validate collections schemas output summary =>
    runWork (do
      let validation ← validateCollections collections schemas output summary manner
      for file in validation.written do
        Work.note manner ("Errors written to " ++ file)
      Work.answer manner (.array (validation.reports.map CollectionReport.encode))) opened
  | .show name =>
    runWork (do
      let shown ← ExceptT.mk (pure (shownSchema name))
      Work.answer manner shown) opened

/-- Runs an invocation up to its question or its end. Showing a schema needs no store. What `stock`
does to the store comes before the command. -/
def Invocation.start [FloatReader] [Standards] (inv : Invocation) (s : Surroundings)
    (stock : TableStore → TableStore := id) : Stage :=
  let failed (files : FileTree) (e : CommandError) : Stage := .done ⟨files, s.ids, [], .error e⟩
  match Config.loadExtended s.files s.environment with
  | .error e => failed s.files (.settings e)
  | .ok (config, env) =>
    match inv.switches.effectiveFormat config.general.defaultFormat with
    | .error name => failed s.files (.unknownFormat name)
    | .ok format =>
      let manner := Manner.ofSwitches inv.switches format s.terminal env
      match inv.request with
      | .show name => (Request.show name).run config manner ⟨{ ids := s.ids }, s.files, none⟩
      | request =>
        let location := storeLocation inv.switches config
        match OpenStore.ofLocation location s.ids s.files with
        | (files, .error e) => failed files (.storeNotOpened location e)
        | (_, .ok opened) =>
          let store := stock opened.store
          request.run config manner { opened with store, files := opened.saved store }

/-- Runs an invocation with some input, of which at most the first line is read. -/
def Invocation.run [FloatReader] [Standards] (inv : Invocation) (s : Surroundings) (input : String)
    (stock : TableStore → TableStore := id) : RunReport :=
  (inv.start s stock).finish (String.ofList (Text.splitLine input.toList).1)

end DocumentMigration
