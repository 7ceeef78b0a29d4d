import DocumentMigration.Files.Location
import DocumentMigration.Store.Table

/-!
A tree of files and the working directory in it. The view of a tree is `entry?`: what stands under a
list of names. Every change is an `Action`, so a failure also says what it leaves behind.
-/
namespace DocumentMigration

inductive FileEntry where
  | directory
  | text (content : String)
  /-- Content that is no text. -/
  | binary
  /-- The rows of a document store. -/
  | table (rows : List Row)

inductive FileFault where
  | missing
  /-- The place is taken by something else, or a part on the way is no directory. -/
  | refused
deriving DecidableEq

structure FileTree where
  entries : List (List String × FileEntry) := []
  /-- The working directory. -/
  here : List String := []

namespace FileTree

/-- The root is a directory in every tree. -/
def entry? (t : FileTree) (place : List String) : Option FileEntry :=
  if place.isEmpty then some .directory else t.entries.lookup place

def isFolder (t : FileTree) (place : List String) : Bool :=
  match t.entry? place with
  | some .directory => true
  | _ => false

/-- Names that a directory can hold: at most 255 bytes and no null character. -/
def holdsName (name : String) : Bool := name.utf8ByteSize ≤ 255 && !name.toList.contains '\x00'

/-- Follows parts from a place. Whatever they leave has to be a directory. -/
def follow? (t : FileTree) (place : List String) : List String → Option (List String)
  | [] => some place
  | part :: rest =>
    if !t.isFolder place then none
    else if part = "" || part = "." then t.follow? place rest
    else if part = ".." then t.follow? place.dropLast rest
    else if (t.entry? (place ++ [part])).isSome then t.follow? (place ++ [part]) rest
    else none

def start (t : FileTree) (location : String) : List String :=
  if Location.isAbsolute location then [] else t.here

/-- Where a location leads; nowhere if nothing is there. The empty location leads nowhere. -/
def place? (t : FileTree) (location : String) : Option (List String) :=
  if location.isEmpty then none else t.follow? (t.start location) (Location.parts location)

def at? (t : FileTree) (location : String) : Option FileEntry :=
  (t.place? location).bind t.entry?

def contains (t : FileTree) (location : String) : Bool := (t.at? location).isSome

def isDirectory (t : FileTree) (location : String) : Bool :=
  match t.at? location with
  | some .directory => true
  | _ => false

def readText (t : FileTree) (location : String) : Except FileFault String :=
  match t.at? location with
  | some (.text content) => .ok content
  | some _ => .error .refused
  | none => .error .missing

/-- Puts an entry at a place, over one that may be there. -/
def put (t : FileTree) (place : List String) (entry : FileEntry) : FileTree :=
  if t.entries.any (·.1 = place) then
    { t with entries := t.entries.map fun e => if e.1 = place then (place, entry) else e }
  else { t with entries := t.entries ++ [(place, entry)] }

/-- The place of a file that may be written: its directory is there, and no directory is at the
place itself. -/
def target? (t : FileTree) (location : String) : Option (List String) :=
  let parts := Location.parts location
  match parts.getLast? with
  | none | some "" | some "." | some ".." => none
  | some name =>
    match t.follow? (t.start location) parts.dropLast with
    | none => none
    | some folder =>
      let place := folder ++ [name]
      if t.isFolder folder && !t.isFolder place && holdsName name then some place else none

def write (location : String) (entry : FileEntry) : Action FileTree FileFault Unit := do
  let t ← get
  match t.target? location with
  | some place => set (t.put place entry)
  | none => throw .refused

def writeText (location content : String) : Action FileTree FileFault Unit :=
  write location (.text content)

/-- Makes the directories along some steps from a place, where they are missing. -/
def makeDirectories (place : List String) : List String → Action FileTree FileFault Unit
  | [] => return
  | step :: rest => do
    let t ← get
    if step = ".." then makeDirectories place.dropLast rest
    else
      let next := place ++ [step]
      match t.entry? next with
      | some .directory => makeDirectories next rest
      | some _ => throw .refused
      | none =>
        if !holdsName step then throw .refused
        set (t.put next .directory)
        makeDirectories next rest

/-- A path that no part of the system takes, whatever is there. -/
def isUnusable (steps : List String) : Bool := steps.any (·.toList.contains '\x00')

/-- Makes the directories that a file at a location lies in. None is made when one of their names
holds a null character. -/
def makeParents (location : String) : Action FileTree FileFault Unit := do
  let steps := (Location.steps location).dropLast
  if isUnusable steps then throw .refused
  makeDirectories ((← get).start location) steps

/-- The texts under the working directory with their names from there. -/
def texts (t : FileTree) : List (String × String) :=
  t.entries.filterMap fun (place, entry) =>
    match entry with
    | .text content =>
      if t.here.isPrefixOf place then
        some (String.intercalate "/" (place.drop t.here.length), content)
      else none
    | _ => none

end FileTree
end DocumentMigration
