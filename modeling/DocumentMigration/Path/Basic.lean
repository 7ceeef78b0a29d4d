import DocumentMigration.Json.Object

/-!
Dot paths into documents. A path is a list of segments; a segment names a member of an object or,
where it reads as a number, an element of an array. `Path.read?` is the only lookup that the rest of
the library uses.
-/
namespace DocumentMigration.Path

open Json

def segments (path : String) : List String := (path.toList.splitOn '.').map String.ofList

/-- No segment is empty, so the path itself is not. -/
def isValid (path : String) : Bool := (segments path).all fun s => !s.isEmpty

/-- Decimal digits after an optional plus sign, of a value below 2^64. Zeros may lead. -/
def index? (segment : String) : Option Nat :=
  let digits := match segment.toList with
    | '+' :: rest => rest
    | all => all
  let value := Number.digitsValue digits
  if digits ≠ [] ∧ digits.all Char.isDigit ∧ value < 2 ^ (64 : Nat) then some value else none

def child? (segment : String) : Value → Option Value
  | .object members => Object.get? segment members
  | .array items => (index? segment).bind (items[·]?)
  | _ => none

def follow? : List String → Value → Option Value
  | [], v => some v
  | segment :: rest, v => (child? segment v).bind (follow? rest)

/-- The value at a path; none when a segment is missing or a scalar stands in the way. -/
def read? (document : Object) (path : String) : Option Value :=
  follow? (segments path) (.object document)

/-- Two segments that address the same place, as texts or as indexes. -/
def sameSegment (a b : String) : Bool := a = b || ((index? a).isSome && index? a = index? b)

/-- One of two lists of segments leads to the place of the other or into it. -/
def overlapping : List String → List String → Bool
  | a :: p, b :: q => sameSegment a b && overlapping p q
  | _, _ => true

def overlap (p q : String) : Bool := overlapping (segments p) (segments q)

theorem sameSegment_comm (a b : String) : sameSegment a b = sameSegment b a := by
  by_cases same : a = b
  · rw [same]
  · cases ha : index? a <;> cases hb : index? b <;>
      simp [sameSegment, ha, hb, same, Ne.symm same, eq_comm]

/-- Which of two paths is asked about first does not matter. -/
theorem overlapping_comm (p q : List String) : overlapping p q = overlapping q p := by
  induction p generalizing q with
  | nil => cases q <;> rfl
  | cons a p ih =>
    cases q with
    | nil => rfl
    | cons b q => simp only [overlapping, sameSegment_comm a b, ih q]

@[simp] theorem follow?_nil (v : Value) : follow? [] v = some v := rfl

theorem follow?_append (a b : List String) (v : Value) :
    follow? (a ++ b) v = (follow? a v).bind (follow? b) := by
  induction a generalizing v with
  | nil => rfl
  | cons s rest ih =>
    simp only [List.cons_append, follow?]
    cases child? s v with
    | none => rfl
    | some w => simp [ih]

end DocumentMigration.Path
