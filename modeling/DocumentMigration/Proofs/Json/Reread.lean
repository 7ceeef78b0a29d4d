import DocumentMigration.Json.Object
import DocumentMigration.Proofs.Json.Number

/-! What a value comes to when its text is read. Floats are what the reader takes their texts for,
everything else stays, and one float that the reader refuses is enough for nothing to be read. -/
namespace DocumentMigration.Json.Value

variable [FloatReader] {v w x y : Value} {xs ys : List Value} {ms ns : Object} {k : String}

mutual
def reread : Value → Option Value
  | .number n => n.reread.map .number
  | .array xs => (rereadItems xs).map .array
  | .object ms => (rereadMembers ms).map .object
  | v => some v

def rereadItems : List Value → Option (List Value)
  | [] => some []
  | x :: xs => do return (← reread x) :: (← rereadItems xs)

def rereadMembers : List (String × Value) → Option (List (String × Value))
  | [] => some []
  | (k, x) :: ms => do return (k, ← reread x) :: (← rereadMembers ms)
end

@[simp] theorem rereadItems_cons_eq_some_iff : rereadItems (x :: xs) = some ys ↔
    ∃ y rest, ys = y :: rest ∧ x.reread = some y ∧ rereadItems xs = some rest := by
  rw [rereadItems]
  cases x.reread <;> cases rereadItems xs <;> simp [eq_comm]

@[simp] theorem rereadMembers_cons_eq_some_iff : rereadMembers ((k, x) :: ms) = some ns ↔
    ∃ y rest, ns = (k, y) :: rest ∧ x.reread = some y ∧ rereadMembers ms = some rest := by
  rw [rereadMembers]
  cases x.reread <;> cases rereadMembers ms <;> simp [eq_comm]

mutual
theorem depth_of_reread : (v : Value) → ∀ {w}, v.reread = some w → w.depth = v.depth
  | .null, _, read | .bool _, _, read | .string _, _, read => by
    cases read
    rfl
  | .number _, _, read => by
    obtain ⟨_, -, rfl⟩ := Option.map_eq_some_iff.mp read
    rfl
  | .array xs, _, read => by
    obtain ⟨ys, items, rfl⟩ := Option.map_eq_some_iff.mp read
    rw [depth, depth, itemsDepth_of_reread xs items]
  | .object ms, _, read => by
    obtain ⟨ns, members, rfl⟩ := Option.map_eq_some_iff.mp read
    rw [depth, depth, membersDepth_of_reread ms members]

theorem itemsDepth_of_reread : (xs : List Value) → ∀ {ys}, rereadItems xs = some ys →
    itemsDepth ys = itemsDepth xs
  | [], _, read => by
    cases read
    rfl
  | x :: xs, _, read => by
    obtain ⟨y, rest, rfl, first, later⟩ := rereadItems_cons_eq_some_iff.mp read
    rw [itemsDepth, itemsDepth, depth_of_reread x first, itemsDepth_of_reread xs later]

theorem membersDepth_of_reread : (ms : Object) → ∀ {ns}, rereadMembers ms = some ns →
    membersDepth ns = membersDepth ms
  | [], _, read => by
    cases read
    rfl
  | (k, x) :: ms, _, read => by
    obtain ⟨y, rest, rfl, first, later⟩ := rereadMembers_cons_eq_some_iff.mp read
    rw [membersDepth, membersDepth, depth_of_reread x first, membersDepth_of_reread ms later]
end

theorem keys_of_rereadMembers (read : rereadMembers ms = some ns) :
    Object.keys ns = Object.keys ms := by
  induction ms generalizing ns with
  | nil =>
    cases read
    rfl
  | cons m ms ih =>
    obtain ⟨y, rest, rfl, -, later⟩ := rereadMembers_cons_eq_some_iff.mp read
    exact congrArg (m.1 :: ·) (ih later)

/-- Every float in a value is read as it was. -/
def Steady (v : Value) : Prop := v.reread = some v

@[simp] theorem steady_null : Steady .null := rfl

@[simp] theorem steady_bool (b : Bool) : Steady (.bool b) := rfl

@[simp] theorem steady_string (s : String) : Steady (.string s) := rfl

@[simp] theorem steady_integer (i : Int) (range : -2 ^ (63 : Nat) ≤ i ∧ i < 2 ^ (64 : Nat)) :
    Steady (.number (.integer i range)) := by
  rw [Steady, reread, Number.reread_integer]
  rfl

theorem steady_array_iff : Steady (.array xs) ↔ ∀ x ∈ xs, x.Steady := by
  rw [Steady, reread, Option.map_eq_some_iff]
  simp only [array.injEq, exists_eq_right]
  induction xs with
  | nil => simp [rereadItems]
  | cons x xs ih => simp [Steady, ih]

theorem steady_ofStrings (texts : List String) : (ofStrings texts).Steady := by
  rw [ofStrings, steady_array_iff]
  intro v member
  obtain ⟨s, -, rfl⟩ := List.mem_map.mp member
  rfl

theorem steady_object_iff : Steady (.object ms) ↔ ∀ m ∈ ms, m.2.Steady := by
  rw [Steady, reread, Option.map_eq_some_iff]
  simp only [object.injEq, exists_eq_right]
  induction ms with
  | nil => simp [rereadMembers]
  | cons m ms ih =>
    obtain ⟨k, x⟩ := m
    simp [Steady, ih]

theorem steady_number (faithful : ‹FloatReader›.Faithful) (n : Number) : Steady (.number n) := by
  cases n with
  | integer i range => exact steady_integer i range
  | float x => rw [Steady, reread, faithful x, Option.map_some]

mutual
theorem steady_of_faithful (faithful : ‹FloatReader›.Faithful) : (v : Value) → v.Steady
  | .null | .bool _ | .string _ => rfl
  | .number n => steady_number faithful n
  | .array xs => steady_array_iff.mpr (steadyItems_of_faithful faithful xs)
  | .object ms => steady_object_iff.mpr (steadyMembers_of_faithful faithful ms)

theorem steadyItems_of_faithful (faithful : ‹FloatReader›.Faithful) :
    (xs : List Value) → ∀ x ∈ xs, x.Steady
  | [] => nofun
  | x :: xs => List.forall_mem_cons.mpr
    ⟨steady_of_faithful faithful x, steadyItems_of_faithful faithful xs⟩

theorem steadyMembers_of_faithful (faithful : ‹FloatReader›.Faithful) :
    (ms : Object) → ∀ m ∈ ms, m.2.Steady
  | [] => nofun
  | (_, x) :: ms => List.forall_mem_cons.mpr
    ⟨steady_of_faithful faithful x, steadyMembers_of_faithful faithful ms⟩
end

end DocumentMigration.Json.Value
