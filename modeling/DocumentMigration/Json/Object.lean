import DocumentMigration.Json.Value

/-!
Members of JSON objects, in strictly increasing order of their keys. Keys are compared by code
point, which is also the order of their UTF-8 bytes.
-/
namespace DocumentMigration.Json.Object

def get? (key : String) : Object → Option Value
  | [] => none
  | (k, v) :: rest => if k = key then some v else get? key rest

def contains (key : String) (ms : Object) : Bool := (ms.get? key).isSome

def keys (ms : Object) : List String := ms.map (·.1)

/-- Puts a member at its place, over one of the same key. -/
def insert (key : String) (value : Value) : Object → Object
  | [] => [(key, value)]
  | (k, v) :: rest =>
    if key = k then (key, value) :: rest
    else if key < k then (key, value) :: (k, v) :: rest
    else (k, v) :: insert key value rest

/-- Takes out the member of a key. -/
def erase (key : String) (ms : Object) : Object := ms.filter (·.1 ≠ key)

/-- Members in any order, the last of equal keys winning. -/
def ofList (members : List (String × Value)) : Object :=
  members.foldl (fun ms (k, v) => insert k v ms) []

/-- Leaves out the members that have no value. -/
def ofOptions (members : List (String × Option Value)) : Object :=
  ofList (members.filterMap fun (k, v) => v.map (k, ·))

/-- Members one after another in strictly increasing order of their keys. -/
def Sorted (ms : Object) : Prop := (keys ms).Pairwise (· < ·)

@[simp] theorem get?_nil (key : String) : get? key [] = none := rfl

theorem get?_insert_self (key : String) (value : Value) (ms : Object) :
    get? key (insert key value ms) = some value := by
  induction ms with
  | nil => simp [insert, get?]
  | cons m rest ih =>
    obtain ⟨k, v⟩ := m
    simp only [insert]
    split
    · simp [get?]
    · split
      · simp [get?]
      · rename_i h _
        simp [get?, Ne.symm h, ih]

theorem get?_insert_of_ne {key other : String} (value : Value) (ms : Object) (h : other ≠ key) :
    get? other (insert key value ms) = get? other ms := by
  induction ms with
  | nil => simp [insert, get?, Ne.symm h]
  | cons m rest ih =>
    obtain ⟨k, v⟩ := m
    simp only [insert]
    split
    · rename_i e
      subst e
      simp [get?, Ne.symm h]
    · split
      · simp [get?, Ne.symm h]
      · simp [get?, ih]

theorem get?_erase_self (key : String) (ms : Object) : get? key (erase key ms) = none := by
  induction ms with
  | nil => rfl
  | cons m rest ih =>
    obtain ⟨k, v⟩ := m
    by_cases h : k = key
    · simpa [erase, h] using ih
    · simpa [erase, get?, h] using ih

theorem get?_erase_of_ne {key other : String} (ms : Object) (h : other ≠ key) :
    get? other (erase key ms) = get? other ms := by
  induction ms with
  | nil => rfl
  | cons m rest ih =>
    obtain ⟨k, v⟩ := m
    by_cases hk : k = key
    · subst hk
      simpa [erase, get?, Ne.symm h] using ih
    · have step : erase key ((k, v) :: rest) = (k, v) :: erase key rest := by simp [erase, hk]
      rw [step, get?, get?, ih]

theorem insert_insert_self (key : String) (value old : Value) (ms : Object) :
    insert key value (insert key old ms) = insert key value ms := by
  induction ms with
  | nil => simp [insert]
  | cons m rest ih =>
    obtain ⟨k, v⟩ := m
    by_cases same : key = k
    · simp [insert, same]
    · by_cases less : key < k
      · simp [insert, same, less]
      · simp [insert, same, less, ih]

/-- A write changes nothing just when the member stands there behind smaller keys. -/
theorem insert_cons_eq_self_iff {key k : String} {value v : Value} {rest : Object} :
    insert key value ((k, v) :: rest) = (k, v) :: rest ↔
      (key = k ∧ value = v) ∨ (key ≠ k ∧ ¬ key < k ∧ insert key value rest = rest) := by
  by_cases same : key = k
  · simp [insert, same]
  · by_cases less : key < k
    · have longer : (key, value) :: (k, v) :: rest ≠ (k, v) :: rest := by
        intro equal
        have := congrArg List.length equal
        simp at this
      simp [insert, same, less, longer]
    · simp [insert, same, less]

theorem insert_insert_of_ne {key other : String} {value x : Value} {ms : Object} (h : key ≠ other)
    (settled : insert key value ms = ms) :
    insert key value (insert other x ms) = insert other x ms := by
  induction ms with
  | nil => simp [insert] at settled
  | cons m rest ih =>
    obtain ⟨k, v⟩ := m
    rcases insert_cons_eq_self_iff.mp settled with ⟨rfl, rfl⟩ | ⟨hk, notLess, tail⟩
    · by_cases less : other < key
      · simp [insert, h, Ne.symm h, less, String.lt_asymm less]
      · simp [insert, Ne.symm h, less]
    · by_cases same : other = k
      · subst same
        simp [insert, h, notLess, tail]
      · by_cases less : other < k
        · have above : ¬ key < other := fun below => notLess (String.lt_trans below less)
          simp [insert, h, hk, same, less, notLess, above, tail]
        · simp [insert, hk, same, less, notLess, ih tail]

theorem insert_erase_of_ne {key other : String} {value : Value} {ms : Object} (h : key ≠ other)
    (settled : insert key value ms = ms) : insert key value (erase other ms) = erase other ms := by
  induction ms with
  | nil => simp [insert] at settled
  | cons m rest ih =>
    obtain ⟨k, v⟩ := m
    rcases insert_cons_eq_self_iff.mp settled with ⟨rfl, rfl⟩ | ⟨hk, notLess, tail⟩
    · simp [erase, insert, h]
    · by_cases same : k = other
      · simpa [erase, same] using ih tail
      · have step : erase other ((k, v) :: rest) = (k, v) :: erase other rest := by
          simp [erase, same]
        rw [step, insert_cons_eq_self_iff]
        exact .inr ⟨hk, notLess, ih tail⟩

theorem mem_insert {key : String} {value : Value} {ms : Object} {m : String × Value}
    (member : m ∈ insert key value ms) : m = (key, value) ∨ m ∈ ms := by
  induction ms with
  | nil => simpa [insert] using member
  | cons head rest ih =>
    obtain ⟨k, v⟩ := head
    simp only [insert] at member
    split at member
    · simp only [List.mem_cons] at member ⊢
      rcases member with rfl | inRest
      · exact .inl rfl
      · exact .inr (.inr inRest)
    · split at member
      · exact List.mem_cons.mp member
      · rcases List.mem_cons.mp member with rfl | inRest
        · exact .inr List.mem_cons_self
        · exact (ih inRest).imp_right (List.mem_cons_of_mem _)

theorem erase_eq_self_iff {key : String} {ms : Object} :
    erase key ms = ms ↔ ∀ m ∈ ms, m.1 ≠ key := by
  simp [erase, List.filter_eq_self]

theorem erase_erase_self (key : String) (ms : Object) : erase key (erase key ms) = erase key ms :=
  erase_eq_self_iff.mpr fun m member => by simpa using (List.mem_filter.mp member).2

theorem erase_insert_of_ne {key other : String} {x : Value} {ms : Object} (h : key ≠ other)
    (settled : erase key ms = ms) : erase key (insert other x ms) = insert other x ms := by
  rw [erase_eq_self_iff] at settled ⊢
  intro m member
  rcases mem_insert member with rfl | old
  · exact Ne.symm h
  · exact settled m old

theorem erase_erase_of_settled {key other : String} {ms : Object} (settled : erase key ms = ms) :
    erase key (erase other ms) = erase other ms := by
  rw [erase_eq_self_iff] at settled ⊢
  exact fun m member => settled m (List.mem_filter.mp member).1

end DocumentMigration.Json.Object
