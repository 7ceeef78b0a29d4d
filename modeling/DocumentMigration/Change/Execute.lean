import DocumentMigration.Change.Apply

/-!
Changes run with arrays of words and memory. Room for an element at some index is made by a length
of one more. One more than the last word is zero: that array is emptied, and the element is not in
it. An array longer than its capacity is not made at all. Either way the run breaks off with neither
a document nor an error.
-/
namespace DocumentMigration.Change

open Json

/-- The greatest length that an array can have. It takes a byte or more for each element, and less
than `2 ^ 63` of them. -/
structure Capacity where
  length : Nat
  small : length < 2 ^ (63 : Nat) := by decide

variable (capacity : Capacity)

def lengthFor (index : Nat) : UInt64 := UInt64.ofNat index + 1

def hasRoom (items : List Value) (index : Nat) : Bool :=
  let length := (lengthFor index).toNat
  index < items.length || (index < length && length ≤ capacity.length)

/-- Whether a value has room for a child. Only arrays may be without. -/
def hasRoomAt (segment : String) : Value → Bool
  | .array items => ((Path.index? segment).map (hasRoom capacity items)).getD true
  | _ => true

def findsRoom : List String → Value → Bool
  | [], _ => true
  | segment :: rest, v =>
    hasRoomAt capacity segment v && findsRoom rest ((Path.child? segment v).getD .null)

/-- The segments at which a change needs an element to be there. A delete does not need its leaf,
and a path that ends in an empty segment addresses nothing. -/
def needed (change : AttributeChange) : List String :=
  let segments := Path.segments change.path
  if (segments.getLastD "").isEmpty then [] else
    match change.operation with
    | .delete => segments.dropLast
    | _ => segments

/-- What `applyAll` leaves behind, unless the run breaks off. -/
def executeAll : List AttributeChange → Value → Option Edited
  | [], root => some (root, none)
  | change :: rest, root =>
    if findsRoom capacity (needed change) root then
      match applyOne change root with
      | (root, none) => executeAll rest root
      | failed => some failed
    else none

def execute (changes : List AttributeChange) (document : Object) :
    Option (Object × Option PathError) :=
  (executeAll capacity changes (.object document)).map fun (root, fault) => (root.toObject, fault)

theorem toNat_lengthFor (index : Nat) : (lengthFor index).toNat = (index + 1) % 2 ^ (64 : Nat) := by
  simp [lengthFor, UInt64.toNat_add]

theorem hasRoom_eq_false_iff {items : List Value} {index : Nat} :
    hasRoom capacity items index = false ↔ items.length ≤ index ∧ capacity.length ≤ index := by
  have small := capacity.small
  simp only [hasRoom, toNat_lengthFor, Bool.or_eq_false_iff, Bool.and_eq_false_iff,
    decide_eq_false_iff_not]
  omega

end DocumentMigration.Change
