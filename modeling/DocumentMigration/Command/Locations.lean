import DocumentMigration.Command.Run

/-!
The locations that a run may look at, so that a tree which holds them is as good as all files.
-/
namespace DocumentMigration

namespace Config

def places (here : List String) (env : Environment) : List (List String) :=
  let above := (List.range (here.length + 1)).map fun n => here.take n
  let user := match userLocation? env with
    | some location => [Location.steps location]
    | none => []
  user ++ above.flatMap fun folder => [folder ++ [".env"], folder ++ Location.steps localLocation]

end Config

/-- The locations that a request names. A folder also stands for a file per collection. -/
def Request.locations : Request → List String
  | .migrate script _ _ _ => [script]
  | .exportSchemas collections output =>
    output :: collections.map fun c => Location.join output (c ++ ".json")
  | .validate collections schemas output _ =>
    (schemas :: output.toList).flatMap fun base =>
      base :: collections.map fun c => Location.join base (c ++ ".json")
  | .show _ => []

def Invocation.storeLocation? (inv : Invocation) (files : FileTree) (env : Environment) :
    Option String :=
  match Config.loadExtended files env with
  | .ok (config, _) => some (storeLocation inv.switches config)
  | .error _ => none

/-- The parts of a location as places on the way, each with the names before it. -/
def waypoints (place : List String) : List String → List (List String)
  | [] => []
  | step :: rest =>
    let next := if step = ".." then place.dropLast else place ++ [step]
    next :: waypoints next rest

end DocumentMigration
