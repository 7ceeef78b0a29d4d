import DocumentMigration.Json.Printer
import DocumentMigration.Schema.Violation

/-!
Merging violations of one rule. The merged record names every place; with a second place the paths
together stand as the path of the violation.
-/
namespace DocumentMigration

open Json

mutual
/-- A value with the members of every object in the order of their keys. -/
def Json.Value.sorted : Value → Value
  | .array xs => .array (sortedItems xs)
  | .object ms => .object (Object.ofList (sortedMembers ms))
  | v => v

def Json.Value.sortedItems : List Value → List Value
  | [] => []
  | x :: xs => sorted x :: sortedItems xs

def Json.Value.sortedMembers : List (String × Value) → List (String × Value)
  | [] => []
  | (k, x) :: ms => (k, sorted x) :: sortedMembers ms
end

namespace MergedViolation

/-- Same keyword, message and schema path, and the same parameters in whatever order of keys. -/
def sameRule (m : MergedViolation) (v : Violation) : Bool :=
  m.violation.keyword = v.keyword && m.violation.message = v.message
    && m.violation.schemaPath = v.schemaPath
    && m.violation.params.sorted.compact = v.params.sorted.compact

def ofViolation (v : Violation) : MergedViolation := ⟨v, [v.instancePath]⟩

def extend (m : MergedViolation) (v : Violation) : MergedViolation :=
  let paths := m.instancePaths ++ [v.instancePath]
  ⟨{ m.violation with instancePath := String.intercalate "," paths }, paths⟩

/-- Puts a violation into the first record of its rule, or into a new one at the end. -/
def add (v : Violation) : List MergedViolation → List MergedViolation
  | [] => [ofViolation v]
  | m :: rest => if m.sameRule v then m.extend v :: rest else m :: add v rest

end MergedViolation

def mergeViolations (violations : List Violation) : List MergedViolation :=
  violations.foldl (fun merged v => MergedViolation.add v merged) []

end DocumentMigration
