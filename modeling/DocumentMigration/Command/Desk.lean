import DocumentMigration.Command.Error
import DocumentMigration.Command.Invocation
import DocumentMigration.Files.Tree
import DocumentMigration.Store.Basic

/-!
What a command works on: files, a store, and the texts that it has printed so far. Texts stay
printed when the command fails later on.
-/
namespace DocumentMigration

open Json

inductive Print where
  | out (text : String)
  /-- For the operator, beside the output. -/
  | aside (text : String)
deriving DecidableEq

structure Desk (σ : Type) where
  files : FileTree
  store : σ
  prints : List Print := []

/-- How a command shows its answers. -/
structure Manner where
  format : OutputFormat
  quiet : Bool := false
  verbose : Bool := false
  style : Table.Style := {}

abbrev Work (σ α : Type) := Action (Desk σ) CommandError α

namespace Work

variable {σ : Type}

def print (p : Print) : Work σ Unit :=
  modify fun d => { d with prints := d.prints ++ [p] }

/-- A line for the operator, unless the command is quiet. -/
def note (manner : Manner) (text : String) : Work σ Unit :=
  if manner.quiet then pure () else print (.aside (text ++ "\n"))

def answer (manner : Manner) (v : Value) : Work σ Unit :=
  print (.out (render manner.format v manner.style ++ "\n"))

def onStore (action : Action σ ε α) (error : ε → CommandError) : Work σ α := fun d =>
  match action.run d.store with
  | (.ok a, store) => (.ok a, { d with store })
  | (.error e, store) => (.error (error e), { d with store })

def onFiles (action : Action FileTree SchemaError α) : Work σ α := fun d =>
  match action.run d.files with
  | (.ok a, files) => (.ok a, { d with files })
  | (.error e, files) => (.error (.schemaFailed e), { d with files })

def orFail (result : Except SchemaError α) : Work σ α :=
  ExceptT.mk (pure (result.mapError .schemaFailed))

/-- The documents of a collection. -/
def documents [DocumentStore σ] (collection : String) : Work σ (List Snapshot) :=
  onStore (DocumentStore.list collection) (.collectionNotRead collection)

end Work
end DocumentMigration
