import DocumentMigration.Text.Blank

/-!
Ids of new documents: hexadecimal numbers of at least twenty digits, taken in order from a starting
number that the caller draws at random. Different numbers have different ids.
-/
namespace DocumentMigration

/-- Where the next id comes from. -/
structure IdSource where
  next : Nat
deriving DecidableEq

namespace IdSource

def width : Nat := 20

def text (n : Nat) : String :=
  let digits := Nat.toDigits 16 n
  String.ofList (List.replicate (width - digits.length) '0' ++ digits)

/-- The first id from the source on that is not taken. One more try than there are taken ids is
enough, as the tried ids differ. -/
def search (taken : List String) : Nat → Nat → Nat
  | 0, n => n
  | tries + 1, n => if taken.contains (text n) then search taken tries (n + 1) else n

def draw (source : IdSource) (taken : List String) : String × IdSource :=
  let n := search taken taken.length source.next
  (text n, ⟨n + 1⟩)

end IdSource
end DocumentMigration
