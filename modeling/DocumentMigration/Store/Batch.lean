import DocumentMigration.Change.Basic

/-!
Staged writes to one collection, committed together or not at all, and their division into batches
of a bounded size.
-/
namespace DocumentMigration

open Json

inductive Write where
  /-- Creates the document or replaces its body. -/
  | set (id : String) (data : Object)
  /-- Replaces the body of a document that has to be there. -/
  | update (id : String) (data : Object)
  /-- Removes the document if it is there. -/
  | delete (id : String)

def Write.id : Write → String
  | .set id _ | .update id _ | .delete id => id

structure Batch where
  collection : String
  writes : List Write := []

/-- Cuts a list into pieces of `size` items, the last one possibly shorter. The items of the piece
that is being filled are kept apart. -/
def pieces (size : Nat) (filling : List α) : List α → List (List α)
  | [] => if filling.isEmpty then [] else [filling]
  | x :: rest =>
    let filled := filling ++ [x]
    if filled.length = size then filled :: pieces size [] rest else pieces size filled rest

namespace Batch

def size (b : Batch) : Nat := b.writes.length

/-- Batches of at most `limit` writes, in order; a limit of zero counts as one. -/
def chunks (b : Batch) (limit : Nat) : List Batch :=
  (pieces (max limit 1) [] b.writes).map fun writes => { b with writes }

end Batch

theorem flatten_pieces (size : Nat) (filling xs : List α) :
    (pieces size filling xs).flatten = filling ++ xs := by
  induction xs generalizing filling with
  | nil =>
    simp only [pieces]
    split <;> simp_all
  | cons x rest ih =>
    simp only [pieces]
    split <;> simp [ih]

end DocumentMigration
