import DocumentMigration.Config.Basic
import DocumentMigration.Json.Object

/-!
Settings come in layers, each an object of sections. A later layer overrides an earlier one key by
key, and only the merged object is read as settings, so a wrong value counts only where nothing
overrides it.
-/
namespace DocumentMigration.Config

open Json

mutual
/-- A value laid over one that may be there: objects are merged, all else is replaced. -/
def overlay : Option Value → Value → Value
  | some (.object below), .object above => .object (overlayMembers below above)
  | _, v => v

def overlayMembers (below : Object) : List (String × Value) → Object
  | [] => below
  | (k, v) :: rest => overlayMembers (Object.insert k (overlay (Object.get? k below) v) below) rest
end

/-- All layers as one object, later ones on top. -/
def merged (layers : List Object) : Object := layers.foldl overlayMembers []

/-- A value and the keys that lead to it. -/
structure Setting where
  keys : List String
  value : Value

/-- What is read from settings; a failure names the keys of the wrong value. -/
abbrev Reading := Except (List String)

namespace Setting

def text (s : Setting) : Reading String :=
  match s.value with
  | .string t => .ok t
  | _ => .error s.keys

def flag (s : Setting) : Reading Bool :=
  match s.value with
  | .bool b => .ok b
  | _ => .error s.keys

def count (s : Setting) : Reading Nat :=
  match s.value with
  | .number (.integer (.ofNat n) _) => .ok n
  | _ => .error s.keys

end Setting

/-- The fields of a section, in the order of their keys. A list gives them in the order of their
declaration. -/
def fields (name : String) (declared : List String) : Option Value →
    Reading (List (String × Setting))
  | none => .ok []
  | some (.object ms) =>
    .ok ((ms.filter fun m => declared.contains m.1).map fun (k, v) => (k, ⟨[name, k], v⟩))
  | some (.array items) =>
    .ok ((declared.zip items).zipIdx.map fun ((k, v), i) => (k, ⟨[name, toString i], v⟩))
  | some _ => .error [name]

def readSection (name : String) (declared : List String)
    (assign : α → String → Setting → Reading α) (unset : α) (layer : Object) : Reading α := do
  let found ← fields name declared (Object.get? name layer)
  found.foldlM (fun settings (k, s) => assign settings k s) unset

def assignGeneral (g : GeneralSettings) (field : String) (s : Setting) : Reading GeneralSettings :=
  match field with
  | "default_format" => s.text.map fun t => { g with defaultFormat := t }
  | _ => .ok g

def assignMigrate (m : MigrateSettings) (field : String) (s : Setting) : Reading MigrateSettings :=
  match field with
  | "max_batch_size" => s.count.map fun n => { m with maxBatchSize := n }
  | "summarize" => s.flag.map fun b => { m with summarize := b }
  | "assume_yes" => s.flag.map fun b => { m with assumeYes := b }
  | _ => .ok m

def assignStore (st : StoreSettings) (field : String) (s : Setting) : Reading StoreSettings :=
  match field with
  | "path" => s.text.map fun t => { st with path := t }
  | "url" => s.text.map fun t => { st with url := t }
  | "auth_token" => s.text.map fun t => { st with authToken := t }
  | _ => .ok st

/-- Sections are read in the order of their names. Unknown keys are left aside. -/
def ofLayer (layer : Object) : Reading Config := do
  let general ← readSection "general" ["default_format"] assignGeneral {} layer
  let migrate ← readSection "migrate" ["max_batch_size", "summarize", "assume_yes"]
    assignMigrate {} layer
  let store ← readSection "store" ["path", "url", "auth_token"] assignStore {} layer
  return { store, migrate, general }

end DocumentMigration.Config
