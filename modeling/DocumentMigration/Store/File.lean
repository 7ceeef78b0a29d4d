import DocumentMigration.Files.Tree

/-!
Stores in files. A store that is opened has its file from then on; a store without a file is gone
with the command that opened it.
-/
namespace DocumentMigration

structure OpenStore where
  store : TableStore
  files : FileTree
  /-- Where the file is, if there is one. -/
  place : Option (List String)

namespace OpenStore

def hasNoFile (location : String) : Bool := location.isEmpty || location = ":memory:"

/-- Opens a store, empty if it is new. The directories of its file are made where they are missing.
-/
def ofLocation (location : String) (ids : IdSource) (files : FileTree) :
    FileTree × Except StoreError OpenStore :=
  if hasNoFile location then (files, .ok ⟨{ ids }, files, none⟩)
  else
    match (FileTree.makeParents location).run files with
    | (.error _, files) => (files, .error (.directoryNotMade location))
    | (.ok (), files) =>
      match files.target? location with
      | none => (files, .error (.fileNotOpened location))
      | some place =>
        let opened (rows : List Row) : FileTree × Except StoreError OpenStore :=
          let files := files.put place (.table rows)
          (files, .ok ⟨{ rows, ids }, files, some place⟩)
        match files.entry? place with
        | none => opened []
        | some (.table rows) => opened rows
        | some (.text content) =>
          if content.isEmpty then opened [] else (files, .error (.notAStore location))
        | some _ => (files, .error (.notAStore location))

/-- The files after the store has become `store`. -/
def saved (o : OpenStore) (store : TableStore) : FileTree :=
  match o.place with
  | none => o.files
  | some place => o.files.put place (.table store.rows)

end OpenStore
end DocumentMigration
