import DocumentMigration.Path.Basic

/-!
Conditions on documents, as the `where` clauses of scripts state them.
-/
namespace DocumentMigration

open Json

inductive Comparison where
  | eq
  | ne
  | exists
  | missing
deriving DecidableEq

namespace Comparison

def all : List Comparison := [.eq, .ne, .exists, .missing]

def name : Comparison → String
  | .eq => "eq"
  | .ne => "ne"
  | .exists => "exists"
  | .missing => "missing"

def takesValue : Comparison → Bool
  | .eq | .ne => true
  | _ => false

end Comparison

structure Condition where
  path : String
  comparison : Comparison
  value : Option Value := none

/-- What is not there equals nothing; an absent value compares as null. -/
def Condition.matches (c : Condition) (document : Object) : Bool :=
  let current := Path.read? document c.path
  let holds := (current.map (·.equal (c.value.getD .null))).getD false
  match c.comparison with
  | .eq => holds
  | .ne => !holds
  | .exists => current.isSome
  | .missing => current.isNone

end DocumentMigration
