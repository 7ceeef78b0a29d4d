import DocumentMigration.Change.Basic

/-!
Groups of alike changes: one operation on one collection, with one list of changed paths. A group
stands where its first change stood and has the shape of that change.
-/
namespace DocumentMigration

namespace DocumentChange

def groupKey (c : DocumentChange) : String :=
  c.operation.name ++ "_" ++ c.collection ++ "_" ++ String.intercalate "," c.changedPaths

end DocumentChange

namespace ChangeGroup

def ofChange (c : DocumentChange) : ChangeGroup := ⟨c.collection, [c.documentId], c.shape⟩

/-- Puts a change into the group of its key, or into a new group at the end. -/
def add (c : DocumentChange) : List (String × ChangeGroup) → List (String × ChangeGroup)
  | [] => [(c.groupKey, ofChange c)]
  | (key, g) :: rest =>
    if key = c.groupKey then
      (key, { g with documentIds := g.documentIds ++ [c.documentId] }) :: rest
    else (key, g) :: add c rest

def keyed (changes : List DocumentChange) : List (String × ChangeGroup) :=
  changes.foldl (fun groups c => add c groups) []

end ChangeGroup

def summarize (changes : List DocumentChange) : List ChangeGroup :=
  (ChangeGroup.keyed changes).map (·.2)

end DocumentMigration
