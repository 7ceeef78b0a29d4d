/-!
The ways a document store fails.
-/
namespace DocumentMigration

/-- Why a stored text is no document. -/
inductive DocumentFault where
  | malformed
  | notObject (kind : String)
deriving DecidableEq

def DocumentFault.message : DocumentFault → String
  | .malformed => "not a JSON text"
  | .notObject kind => "expected an object, found " ++ kind

inductive StoreError where
  /-- An update of a document that does not exist. -/
  | notFound (collection id : String)
  | invalidDocument (collection id : String) (fault : DocumentFault)
  /-- A batch refused as a whole. -/
  | batchRejected (collection reason : String)
  /-- A directory of a store file that cannot be made. -/
  | directoryNotMade (location : String)
  /-- A place where no store file can be. -/
  | fileNotOpened (location : String)
  /-- A file that holds something else. -/
  | notAStore (location : String)
deriving DecidableEq

def StoreError.message : StoreError → String
  | .notFound collection id => "Document not found: " ++ collection ++ "/" ++ id
  | .invalidDocument collection id fault =>
    "Invalid document " ++ collection ++ "/" ++ id ++ ": " ++ fault.message
  | .batchRejected collection reason => "Batch for '" ++ collection ++ "' rejected: " ++ reason
  | .directoryNotMade location => "Migration failed: create the directory of " ++ location
  | .fileNotOpened location => "Cannot open " ++ location
  | .notAStore location => "Migration failed: " ++ location ++ " is not a database"

end DocumentMigration
