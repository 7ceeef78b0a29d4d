import DocumentMigration.Json.Parser
import DocumentMigration.Schema.Merge
import DocumentMigration.Proofs.Json.Object
import DocumentMigration.Proofs.Json.Token

/-! A value is read back from its text, up to the nesting limit and no further, with the members of
its objects in the order of their keys and its floats as the reader takes them. -/
namespace DocumentMigration.Json

namespace Value

mutual
/-- The members of every object in a value stand in the order of their keys. -/
def Canonical : Value → Prop
  | .array xs => CanonicalItems xs
  | .object ms => Object.Sorted ms ∧ CanonicalMembers ms
  | _ => True

def CanonicalItems : List Value → Prop
  | [] => True
  | x :: xs => Canonical x ∧ CanonicalItems xs

def CanonicalMembers : List (String × Value) → Prop
  | [] => True
  | (_, x) :: ms => Canonical x ∧ CanonicalMembers ms
end

section Canonical

variable {x : Value} {xs : List Value} {ms : Object} {key : String}

theorem canonicalItems_iff : CanonicalItems xs ↔ ∀ x ∈ xs, x.Canonical := by
  induction xs with
  | nil => simp [CanonicalItems]
  | cons x xs ih => simp only [CanonicalItems, ih, List.forall_mem_cons]

theorem canonicalMembers_iff : CanonicalMembers ms ↔ ∀ m ∈ ms, m.2.Canonical := by
  induction ms with
  | nil => simp [CanonicalMembers]
  | cons m ms ih => simp only [CanonicalMembers, ih, List.forall_mem_cons]

theorem Canonical.items (canonical : (Value.array xs).Canonical) (member : x ∈ xs) :
    x.Canonical := canonicalItems_iff.mp canonical x member

theorem Canonical.member (canonical : (Value.object ms).Canonical) (member : (key, x) ∈ ms) :
    x.Canonical := canonicalMembers_iff.mp canonical.2 (key, x) member

theorem Canonical.insert (canonical : (Value.object ms).Canonical) (new : x.Canonical) :
    (Value.object (Object.insert key x ms)).Canonical := by
  refine ⟨canonical.1.insert, canonicalMembers_iff.mpr ?_⟩
  rintro ⟨other, y⟩ member
  rcases Object.mem_insert member with same | old
  · cases same
    exact new
  · exact canonical.member old

theorem Canonical.erase (canonical : (Value.object ms).Canonical) :
    (Value.object (Object.erase key ms)).Canonical := by
  refine ⟨canonical.1.sublist (List.filter_sublist.map _), canonicalMembers_iff.mpr ?_⟩
  intro m member
  exact canonical.member (List.mem_filter.mp member).1

theorem Canonical.ofList {members : List (String × Value)} (canonical : CanonicalMembers members) :
    (Value.object (Object.ofList members)).Canonical :=
  ⟨Object.sorted_ofList members, canonicalMembers_iff.mpr fun m member =>
    canonicalMembers_iff.mp canonical m (Object.mem_ofList member)⟩

end Canonical

mutual
theorem sorted_eq_self : (v : Value) → v.Canonical → v.sorted = v
  | .null, _ | .bool _, _ | .number _, _ | .string _, _ => rfl
  | .array xs, canonical => by rw [sorted, sortedItems_eq_self xs canonical]
  | .object ms, canonical => by
    rw [sorted, sortedMembers_eq_self ms canonical.2, canonical.1.ofList]

theorem sortedItems_eq_self : (xs : List Value) → CanonicalItems xs → sortedItems xs = xs
  | [], _ => rfl
  | x :: xs, canonical => by
    rw [sortedItems, sorted_eq_self x canonical.1, sortedItems_eq_self xs canonical.2]

theorem sortedMembers_eq_self : (ms : List (String × Value)) → CanonicalMembers ms →
    sortedMembers ms = ms
  | [], _ => rfl
  | (k, x) :: ms, canonical => by
    rw [sortedMembers, sorted_eq_self x canonical.1, sortedMembers_eq_self ms canonical.2]
end

end Value

/-- Members put into an object one after another. -/
def Object.insertAll (members : List (String × Value)) (ms : Object) : Object :=
  members.foldl (fun ms (k, v) => Object.insert k v ms) ms

namespace Reader

variable {limit : Nat} {frames : List Frame} {ts : List Token}

theorem run_cons (t : Token) (r : Reader) :
    run limit (t :: ts) r = (step limit r t).bind (run limit ts) := rfl

theorem exists_tokens_eq_cons (v : Value) : ∃ t ts, v.tokens = t :: ts ∧ t ≠ .closeArray := by
  cases v with
  | array xs => cases xs <;> exact ⟨.openArray, _, rfl, nofun⟩
  | object ms => cases ms <;> exact ⟨.openObject, _, rfl, nofun⟩
  | null => exact ⟨.null, _, rfl, nofun⟩
  | bool b => exact ⟨.bool b, _, rfl, nofun⟩
  | number n => exact ⟨.number n, _, rfl, nofun⟩
  | string s => exact ⟨.string s, _, rfl, nofun⟩

/-- Where an array may be closed, a value may as well begin. -/
theorem run_valueOrClose (v : Value) :
    run limit (v.tokens ++ ts) ⟨frames, .valueOrClose⟩ =
      run limit (v.tokens ++ ts) ⟨frames, .value⟩ := by
  obtain ⟨t, us, split, opens⟩ := exists_tokens_eq_cons v
  have same : step limit ⟨frames, .valueOrClose⟩ t = step limit ⟨frames, .value⟩ t := by
    cases t with
    | closeArray => exact (opens rfl).elim
    | _ => rcases frames with _ | ⟨_ | _, _⟩ <;> rfl
  rw [split, List.cons_append, run_cons, run_cons, same]

section Steps

variable {read : List Value} {members : Object} {key k : String}

theorem run_openArray : run limit (.openArray :: ts) ⟨frames, .value⟩ =
    if frames.length < limit then run limit ts ⟨.array [] :: frames, .valueOrClose⟩ else none := by
  rw [run_cons]
  show Option.bind (if frames.length < limit then _ else none) _ = _
  split <;> rfl

theorem run_openObject : run limit (.openObject :: ts) ⟨frames, .value⟩ =
    if frames.length < limit then run limit ts ⟨frames, .keyOrClose []⟩ else none := by
  rw [run_cons]
  show Option.bind (if frames.length < limit then _ else none) _ = _
  split <;> rfl

theorem run_firstKey : run limit (.string k :: .colon :: ts) ⟨frames, .keyOrClose []⟩ =
    run limit ts ⟨.object [] k :: frames, .value⟩ := rfl

theorem run_nextItem : run limit (.comma :: ts) ⟨.array read :: frames, .separator⟩ =
    run limit ts ⟨.array read :: frames, .value⟩ := rfl

theorem run_nextKey :
    run limit (.comma :: .string k :: .colon :: ts) ⟨.object members key :: frames, .separator⟩ =
      run limit ts ⟨.object members k :: frames, .value⟩ := rfl

end Steps

/-- A bound on what is read now and one on what is read later make one bound. -/
theorem ite_bounds {now later all : Prop} [Decidable now] [Decidable later] [Decidable all]
    (both : all ↔ now ∧ later) (r : Option Reader) :
    (if now then if later then r else none else none) = if all then r else none := by
  rw [← ite_and]
  exact if_congr both.symm rfl rfl

mutual
/-- Reading the tokens of a value finishes the value with its members in order, unless it is nested
too deeply. -/
theorem run_tokens : (v : Value) → ∀ {frames ts}, frames.length ≤ limit →
    run limit (v.tokens ++ ts) ⟨frames, .value⟩ =
      if frames.length + v.depth ≤ limit then run limit ts (finish v.sorted frames) else none
  | .null, _, _, within => (if_pos within).symm
  | .bool _, _, _, within => (if_pos within).symm
  | .number _, _, _, within => (if_pos within).symm
  | .string _, _, _, within => (if_pos within).symm
  | .array [], _, _, _ => run_openArray
  | .array (x :: xs), frames, ts, _ => by
    rw [Value.tokens, List.cons_append, List.append_assoc, run_openArray, run_valueOrClose]
    by_cases room : frames.length < limit
    · have within : (Frame.array [] :: frames).length ≤ limit := room
      rw [if_pos room, run_tokens x within, finish, run_itemTokens xs [x.sorted] room]
      refine ite_bounds ?_ _
      rw [Value.depth, Value.itemsDepth, List.length_cons]
      omega
    · rw [if_neg room, if_neg]
      rw [Value.depth]
      omega
  | .object [], _, _, _ => run_openObject
  | .object ((k, x) :: ms), frames, ts, _ => by
    rw [Value.tokens, List.cons_append, List.cons_append, List.cons_append, List.append_assoc,
      run_openObject, run_firstKey]
    by_cases room : frames.length < limit
    · have within : (Frame.object [] k :: frames).length ≤ limit := room
      rw [if_pos room, run_tokens x within, finish, run_memberTokens ms _ k room]
      refine ite_bounds ?_ _
      rw [Value.depth, Value.membersDepth, List.length_cons]
      omega
    · rw [if_neg room, if_neg]
      rw [Value.depth]
      omega

theorem run_itemTokens : (xs : List Value) → ∀ {frames ts} (read : List Value),
    frames.length < limit →
    run limit (Value.itemTokens xs ++ ts) ⟨.array read :: frames, .separator⟩ =
      if frames.length + 1 + Value.itemsDepth xs ≤ limit then
        run limit ts (finish (.array (read.reverse ++ Value.sortedItems xs)) frames)
      else none
  | [], _, _, _, room => by
    rw [Value.itemsDepth, if_pos (by omega), Value.sortedItems, List.append_nil]
    rfl
  | x :: xs, frames, _, read, room => by
    have within : (Frame.array read :: frames).length ≤ limit := room
    rw [Value.itemTokens, List.cons_append, List.append_assoc, run_nextItem, run_tokens x within,
      finish, run_itemTokens xs (x.sorted :: read) room, List.reverse_cons, List.append_assoc,
      List.singleton_append, Value.sortedItems]
    refine ite_bounds ?_ _
    rw [Value.itemsDepth, List.length_cons]
    omega

theorem run_memberTokens : (ms : List (String × Value)) → ∀ {frames ts} (read : Object)
    (key : String), frames.length < limit →
    run limit (Value.memberTokens ms ++ ts) ⟨.object read key :: frames, .separator⟩ =
      if frames.length + 1 + Value.membersDepth ms ≤ limit then
        run limit ts (finish (.object (Object.insertAll (Value.sortedMembers ms) read)) frames)
      else none
  | [], _, _, _, _, room => by
    rw [Value.membersDepth, if_pos (by omega)]
    rfl
  | (k, x) :: ms, frames, _, read, _, room => by
    have within : (Frame.object read k :: frames).length ≤ limit := room
    rw [Value.memberTokens, List.cons_append, List.cons_append, List.cons_append, List.append_assoc,
      run_nextKey, run_tokens x within, finish,
      run_memberTokens ms (Object.insert k x.sorted read) k room]
    refine ite_bounds ?_ _
    rw [Value.membersDepth, List.length_cons]
    omega
end

end Reader

namespace Value

variable [FloatReader] {v w : Value} {text : String}

mutual
theorem canonical_of_reread : (v : Value) → v.Canonical → ∀ {w}, v.reread = some w → w.Canonical
  | .null, _, _, read | .bool _, _, _, read | .string _, _, _, read => by
    cases read
    trivial
  | .number _, _, _, read => by
    obtain ⟨_, -, rfl⟩ := Option.map_eq_some_iff.mp read
    trivial
  | .array xs, canonical, _, read => by
    obtain ⟨ys, items, rfl⟩ := Option.map_eq_some_iff.mp read
    exact canonicalItems_of_reread xs canonical items
  | .object ms, canonical, _, read => by
    obtain ⟨ns, members, rfl⟩ := Option.map_eq_some_iff.mp read
    refine ⟨?_, canonicalMembers_of_reread ms canonical.2 members⟩
    rw [Object.Sorted, keys_of_rereadMembers members]
    exact canonical.1

theorem canonicalItems_of_reread : (xs : List Value) → CanonicalItems xs → ∀ {ys},
    rereadItems xs = some ys → CanonicalItems ys
  | [], _, _, read => by
    cases read
    trivial
  | x :: xs, canonical, _, read => by
    obtain ⟨y, rest, rfl, first, later⟩ := rereadItems_cons_eq_some_iff.mp read
    exact ⟨canonical_of_reread x canonical.1 first, canonicalItems_of_reread xs canonical.2 later⟩

theorem canonicalMembers_of_reread : (ms : Object) → CanonicalMembers ms → ∀ {ns},
    rereadMembers ms = some ns → CanonicalMembers ns
  | [], _, _, read => by
    cases read
    trivial
  | (_, x) :: ms, canonical, _, read => by
    obtain ⟨y, rest, rfl, first, later⟩ := rereadMembers_cons_eq_some_iff.mp read
    exact ⟨canonical_of_reread x canonical.1 first,
      canonicalMembers_of_reread ms canonical.2 later⟩
end

/-- A text with the tokens of a value is read as the value with its members in order, unless that
is nested too deeply. -/
theorem ofText?_eq_sorted (limit : Nat) (scanned : Token.ofText? text = some v.tokens) :
    ofText? limit text = if v.depth ≤ limit then some v.sorted else none := by
  have read : Reader.run limit (v.tokens ++ []) Reader.start = _ :=
    Reader.run_tokens v (Nat.zero_le limit)
  rw [List.append_nil, List.length_nil, Nat.zero_add] at read
  rw [ofText?, scanned]
  simp only [Option.bind_eq_bind, Option.bind_some, read]
  split <;> rfl

/-- A text that is read as the tokens that the text of a value comes to. -/
theorem ofText?_of_tokens (limit : Nat) (scanned : Token.ofText? text = v.reread.map tokens) :
    ofText? limit text = if v.depth ≤ limit then v.reread.map sorted else none := by
  cases read : v.reread with
  | none =>
    rw [read] at scanned
    rw [ofText?, scanned]
    split <;> rfl
  | some w =>
    rw [read] at scanned
    rw [ofText?_eq_sorted limit scanned, depth_of_reread v read]
    rfl

theorem map_sorted_reread (canonical : v.Canonical) : v.reread.map sorted = v.reread := by
  cases read : v.reread with
  | none => rfl
  | some w => rw [Option.map_some, w.sorted_eq_self (canonical_of_reread v canonical read)]

/-- The text of a value is read back as the value, but for its floats, unless it is nested too
deeply. -/
theorem ofText?_compact (limit : Nat) (canonical : v.Canonical) :
    ofText? limit v.compact = if v.depth ≤ limit then v.reread else none := by
  rw [ofText?_of_tokens limit v.tokens_compact, map_sorted_reread canonical]

end Value

end DocumentMigration.Json
