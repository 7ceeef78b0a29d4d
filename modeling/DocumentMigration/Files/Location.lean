import DocumentMigration.Text.Blank

/-!
Locations of files as texts, with slashes between their parts. A part that is empty or a single dot
stays in place, two dots go up, and any other part is a name.
-/
namespace DocumentMigration.Location

def parts (location : String) : List String := (location.toList.splitOn '/').map String.ofList

def steps (location : String) : List String :=
  (parts location).filter fun part => part ≠ "" && part ≠ "."

def isAbsolute (location : String) : Bool := location.toList.head? = some '/'

/-- The name at the end, whatever dots and slashes follow it. -/
def name? (location : String) : Option String :=
  match (steps location).getLast? with
  | some ".." => none
  | last => last

/-- What follows the last dot of the name. A dot in front does not count. -/
def extension? (location : String) : Option String := do
  let reversed := (← name? location).toList.reverse
  match reversed.dropWhile (· ≠ '.') with
  | '.' :: _ :: _ => return String.ofList (reversed.takeWhile (· ≠ '.')).reverse
  | _ => none

/-- A location seen from a folder. An absolute one stays as it is. -/
def join (folder location : String) : String :=
  if isAbsolute location || folder.isEmpty then location
  else if folder.toList.getLast? = some '/' then folder ++ location
  else folder ++ "/" ++ location

end DocumentMigration.Location
