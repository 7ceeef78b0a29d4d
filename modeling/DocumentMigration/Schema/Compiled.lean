import DocumentMigration.Schema.Link

/-!
A schema document that can be checked against: its keywords have values of the right form, all its
references lead to readable schemas, and its patterns are regular expressions.

The forms are those of the latest edition. The whole documents compiled here, which are the schemas
of collections and the registered ones, are of that edition, so that the schemas inside them are
held to its forms too. What a keyword of a schema asks of a value depends on the edition that the
schema itself names, which is found when it is linked.
-/
namespace DocumentMigration

open Json

structure CompiledSchema where
  root : Value
  resources : Resources

namespace CompiledSchema

mutual
def size : Value → Nat
  | .array xs => itemsSize xs + 1
  | .object ms => membersSize ms + 1
  | _ => 1

def itemsSize : List Value → Nat
  | [] => 0
  | x :: xs => size x + itemsSize xs

def membersSize : List (String × Value) → Nat
  | [] => 0
  | (_, x) :: ms => size x + membersSize ms
end

/-- The whole document as a target. -/
def target (s : CompiledSchema) : Target := ⟨s.root, .outermost⟩

variable [Standards]

/-- All places of a document and of the schemas from elsewhere. -/
def places (root : Value) : Nat := size root + itemsSize (Standards.schemas.map (·.2))

/-- The check of a target. Entering a schema takes a reference that has not been met, of which there
are fewer than there are places. -/
def check? (s : CompiledSchema) (follow : Target → Check) (t : Target) : Option Check :=
  ((t.link s.resources follow (places s.root + 1)).run []).map (·.1)

/-- None for a document that is not a valid schema. -/
def ofValue? (root : Value) : Option CompiledSchema := do
  let _ ← Schema.ofValue? root
  let s : CompiledSchema := ⟨root, ← Resources.ofValue? root⟩
  let _ ← s.check? (fun _ => .pass) s.target
  return s

/-- What a target means when so many more references may be followed. -/
def follow (s : CompiledSchema) : Nat → Target → Check
  | 0, _ => .pass
  | fuel + 1, t => (s.check? (s.follow fuel) t).getD .pass

/-- All faults of a value. At each level of the value no reference needs to be followed twice. -/
def faults (s : CompiledSchema) (v : Value) : List Fault :=
  s.follow ((v.depth + 2) * (places s.root + 1)) s.target {} v

end CompiledSchema
end DocumentMigration
