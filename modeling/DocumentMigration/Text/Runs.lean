/-!
Tables of characters as runs of neighbours: each run has a length and a tag, and the first begins at
code point zero. Tables are written as lines of text, every length in digits before its tag.
-/
namespace DocumentMigration.Text

abbrev Runs (α : Type) := List (Nat × α)

namespace Runs

/-- The tag of a code point; none behind the last run. -/
def tag? {α : Type} : Runs α → Nat → Option α
  | [], _ => none
  | (length, tag) :: rest, n => if n < length then some tag else tag? rest (n - length)

/-- What has been read of a table: the runs so far, latest first, and the run at hand. -/
structure Reading where
  runs : List (Nat × String)
  length : Nat
  tag : List Char

def Reading.finish (r : Reading) : List (Nat × String) :=
  if r.tag.isEmpty then r.runs else (r.length, String.ofList r.tag.reverse) :: r.runs

def Reading.step (r : Reading) (c : Char) : Reading :=
  if c.isDigit then
    let digit := c.toNat - '0'.toNat
    if r.tag.isEmpty then { r with length := 10 * r.length + digit } else ⟨r.finish, digit, []⟩
  else { r with tag := c :: r.tag }

def readLine (line : String) : List (Nat × String) :=
  (line.toList.foldl Reading.step ⟨[], 0, []⟩).finish.reverse

/-- Reads the lines of a table; runs with an unknown tag are left out. -/
def read {α : Type} (tag? : String → Option α) (lines : List String) : Runs α :=
  (lines.flatMap readLine).filterMap fun (length, name) => (tag? name).map (length, ·)

/-- The tag of a set: plus for the characters that are in it. -/
def membership? : String → Option Bool
  | "+" => some true
  | "-" => some false
  | _ => none

end Runs
end DocumentMigration.Text
