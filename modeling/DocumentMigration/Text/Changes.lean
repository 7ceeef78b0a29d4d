import DocumentMigration.Text.Property

/-!
Sets of code points by the places where membership changes, in ascending order. Nothing is in a set
before the first place, so that an odd number of changes comes up to each member.
-/
namespace DocumentMigration.Text

abbrev Changes := List Nat

namespace Changes

def ofRange (first last : Nat) : Changes := [first, last + 1]

def complement : Changes → Changes
  | 0 :: rest => rest
  | s => 0 :: s

/-- Combines two sets from a place on, with what holds of each just before it. An operation takes
what is in neither set to nothing. -/
def sweep (op : Bool → Bool → Bool) (p q : Bool) : Changes → Changes → Changes
  | [], [] => []
  | x :: s, [] => note x (op p q) (op (!p) q) ++ sweep op (!p) q s []
  | [], y :: t => note y (op p q) (op p (!q)) ++ sweep op p (!q) [] t
  | x :: s, y :: t =>
    if x < y then note x (op p q) (op (!p) q) ++ sweep op (!p) q s (y :: t)
    else if y < x then note y (op p q) (op p (!q)) ++ sweep op p (!q) (x :: s) t
    else note x (op p q) (op (!p) (!q)) ++ sweep op (!p) (!q) s t
termination_by s t => s.length + t.length
where
  note (place : Nat) (before after : Bool) : Changes := if before = after then [] else [place]

def combine (op : Bool → Bool → Bool) (s t : Changes) : Changes := sweep op false false s t

def union (s t : Changes) : Changes := combine (· || ·) s t

/-- The ranges of a set, each with its first and its last member. -/
def ranges : Changes → List (Nat × Nat)
  | first :: next :: rest => (first, next - 1) :: ranges rest
  | [first] => [(first, 0x10FFFF)]
  | [] => []

end Changes

/-- The changes of the characters in a table whose tag passes a test. -/
def Runs.changes {α : Type} (test : α → Bool) (place : Nat) (inside : Bool) : Runs α → Changes
  | [] => if inside then [place] else []
  | (length, tag) :: rest =>
    if test tag = inside then changes test (place + length) inside rest
    else place :: changes test (place + length) (test tag) rest

namespace Property

def ofCategories (members : List Category) : Changes :=
  Category.table.changes members.contains 0 false

def changes : Property → Changes
  | .categories members => ofCategories members
  | .script code => Script.table.changes (· = code) 0 false
  | .scriptUse code =>
    Changes.union (Script.table.changes (· = code) 0 false)
      (Script.sharedTable.changes (fun tag => (Script.codes tag.length tag.toList).contains code)
        0 false)
  | .marked base exceptions =>
    Changes.combine (· != ·) (ofCategories base) (exceptions.changes id 0 false)
  | .ascii => .ofRange 0 0x7F
  | .any => [0]

end Property

end DocumentMigration.Text
