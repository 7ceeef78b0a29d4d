import DocumentMigration.Change.Basic
import DocumentMigration.Path.Basic

/-!
Applying attribute changes to a document. Absent members and scalars on the way become objects;
arrays stay arrays and grow with nulls. Every step answers with the value that it leaves behind,
also when it stops with an error.
-/
namespace DocumentMigration

open Json

inductive PathError where
  /-- An empty path, or one with an empty segment. -/
  | invalid (path : String)
  /-- A segment that is no index where the path meets an array. -/
  | arrayIndex (path segment : String)
deriving DecidableEq

def PathError.message : PathError → String
  | .invalid path => "Invalid attribute path: '" ++ path ++ "'"
  | .arrayIndex path segment =>
    "Cannot address array with '" ++ segment ++ "' in path '" ++ path ++ "'"

/-- A value as an edit left it, with the error that stopped the edit. -/
abbrev Edited := Value × Option PathError

namespace Change

/-- Scalars give way to an empty object. -/
def container (v : Value) : Value := if v.isContainer then v else .object []

def grow (items : List Value) (index : Nat) : List Value :=
  items ++ List.replicate (index + 1 - items.length) .null

def setLeaf (path leaf : String) (value : Value) : Value → Edited
  | .array items =>
    match Path.index? leaf with
    | some i => (.array ((grow items i).set i value), none)
    | none => (.array items, some (.arrayIndex path leaf))
  | .object members => (.object (Object.insert leaf value members), none)
  | _ => (.object [(leaf, value)], none)

/-- An array element is nulled in place, so the indexes after it keep their meaning. -/
def removeLeaf (path leaf : String) : Value → Edited
  | .array items =>
    match Path.index? leaf with
    | some i => (.array (items.set i .null), none)
    | none => (.array items, some (.arrayIndex path leaf))
  | .object members => (.object (Object.erase leaf members), none)
  | v => (v, none)

/-- Walks down to the parent of the leaf, making containers on the way, and edits it there. -/
def descend (path : String) (edit : Value → Edited) : List String → Value → Edited
  | [], v => edit v
  | segment :: rest, v =>
    match container v with
    | .array items =>
      match Path.index? segment with
      | none => (.array items, some (.arrayIndex path segment))
      | some i =>
        let grown := grow items i
        let (child, fault) := descend path edit rest (container (grown[i]?.getD .null))
        (.array (grown.set i child), fault)
    | .object members =>
      let below := (Object.get? segment members).getD .null
      let (child, fault) := descend path edit rest (container below)
      (.object (Object.insert segment child members), fault)
    | other => (other, some (.invalid path))

/-- A path that ends in an empty segment addresses nothing. -/
def applyOne (change : AttributeChange) (root : Value) : Edited :=
  let segments := Path.segments change.path
  let leaf := segments.getLastD ""
  if leaf.isEmpty then (root, none) else
    let edit := match change.operation with
      | .delete => removeLeaf change.path leaf
      | _ => setLeaf change.path leaf (change.newValue.getD .null)
    descend change.path edit segments.dropLast root

/-- The first change that fails ends the run. -/
def applyAll : List AttributeChange → Value → Edited
  | [], root => (root, none)
  | change :: rest, root =>
    match applyOne change root with
    | (root, none) => applyAll rest root
    | failed => failed

/-- Applies changes in order; what precedes a failure stays applied. -/
def apply (changes : List AttributeChange) (document : Object) : Object × Option PathError :=
  let (root, fault) := applyAll changes (.object document)
  (root.toObject, fault)

def applied (changes : List AttributeChange) (document : Object) : Except PathError Object :=
  match apply changes document with
  | (result, none) => .ok result
  | (_, some fault) => .error fault

def build (changes : List AttributeChange) : Except PathError Object :=
  applied (changes.filter (·.operation = .create)) []

theorem applyAll_append (a b : List AttributeChange) (root : Value) :
    applyAll (a ++ b) root =
      match applyAll a root with
      | (root, none) => applyAll b root
      | failed => failed := by
  induction a generalizing root with
  | nil => rfl
  | cons c rest ih =>
    simp only [List.cons_append, applyAll]
    split
    · exact ih _
    · rename_i h
      split
      · rename_i e; simp_all
      · rfl

end Change
end DocumentMigration
