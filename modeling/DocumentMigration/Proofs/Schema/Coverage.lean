import DocumentMigration.Proofs.Schema.Alike

/-!
Schema objects with keywords that are alike. They look at the same members and items, so that the
same ones are left for the keywords that look at the rest, and they find the same faults.
-/
namespace DocumentMigration

open Json

namespace Check

variable {depth : Nat} {c c' : Check} {siblings siblings' : Siblings} {name : String}
  {m m' : Meaning} {v : Value}

/-- Keys of checks, or what the keys tell, are the same on both sides. -/
theorem any_key {α : Type} {cs cs' : List (α × Check)} (h : NamedAlike depth cs cs')
    (test : α → Bool) : cs'.any (test ·.1) = cs.any (test ·.1) :=
  any_eq_of_forall₂ h fun _ _ alike => by rw [alike.1]

theorem any_item_passes (inside : Alike (depth - 1) c c') {xs : List Value}
    (bound : (Value.array xs).depth < depth) (key : String) :
    xs.zipIdx.any (fun (x, i) => Pointer.indexText i = key && c'.passes x) =
      xs.zipIdx.any fun (x, i) => Pointer.indexText i = key && c.passes x := by
  rw [Bool.eq_iff_iff, List.any_eq_true, List.any_eq_true]
  refine exists_congr fun p => and_congr_right fun member => ?_
  have among : p.1 ∈ xs := List.fst_mem_of_mem_zipIdx member
  simp only [inside.passes (Value.depth_lt_of_item bound among)]

theorem looksAt_eq (d : Draft) (inside : m.Alike name depth m') (bound : v.depth < depth)
    (key : String) : looksAt d name m' v key = looksAt d name m v key := by
  cases inside with
  | many inside => cases v <;> simp only [looksAt, any_key inside (· = key)]
  | patterned inside => cases v <;> simp only [looksAt, any_key inside (·.fits key)]
  | one inside =>
    cases v with
    | array xs =>
      by_cases contained : name = "contains"
      · subst contained
        simp only [looksAt, any_item_passes inside bound]
      · simp [looksAt, contained]
    | _ => rfl
  | _ => rfl

/-- Checks for the value itself hand on the same, as far as they are asked. -/
theorem any_covers {cs cs' : List (String × Check)} (h : NamedAlike depth cs cs')
    (bound : v.depth < depth) (key : String) (asked : String → Check → Bool)
    (same : ∀ member c c', Alike depth c c' → asked member c' = asked member c) :
    cs'.any (fun (member, c) => asked member c && c.covers v key) =
      cs.any fun (member, c) => asked member c && c.covers v key := by
  refine any_eq_of_forall₂ h ?_
  rintro ⟨member, c⟩ ⟨-, c'⟩ ⟨rfl, alike⟩
  have looks : c'.covers v = c.covers v := alike.covers v bound
  simp only [same member c c' alike, looks]

theorem handsOn_eq (h : siblings.Alike depth siblings') (inside : m.Alike name depth m')
    (bound : v.depth < depth) (key : String) :
    handsOn siblings' name m' v key = handsOn siblings name m v key := by
  cases inside with
  | reference inside => simp only [handsOn, inside.covers v bound]
  | many inside =>
    simp only [handsOn]
    by_cases several : ["allOf", "anyOf", "oneOf"].contains name
    · have beside : depthIn name depth = depth := by
        simp only [List.contains_iff_mem, List.mem_cons, List.not_mem_nil, or_false] at several
        rcases several with rfl | rfl | rfl <;> rfl
      rw [beside] at inside
      simp only [several, if_true]
      exact any_covers inside bound key (fun _ c => c.passes v) fun _ _ _ alike =>
        alike.passes bound
    · simp only [several, Bool.false_eq_true, if_false]
      by_cases dependent : name = "dependentSchemas"
      · subst dependent
        have same := any_covers inside bound key (fun member _ => v.toObject.contains member)
          fun _ _ _ _ => rfl
        simp only [same]
      · simp [dependent]
  | @one source c c' inside =>
    by_cases condition : name = "if"
    · subst condition
      have after := (alike_branch h c v).covers v bound
      simp only [handsOn, branch_eq inside bound, inside.passes bound, inside.covers v bound,
        after]
    · simp [handsOn, condition]
  | _ => rfl

theorem Siblings.Alike.covers (h : siblings.Alike depth siblings') (d : Draft)
    (bound : v.depth < depth) (key : String) :
    siblings'.covers d v key = siblings.covers d v key := by
  refine any_eq_of_forall₂ h ?_
  rintro ⟨name, m⟩ ⟨-, m'⟩ ⟨rfl, inside⟩
  simp only [looksAt_eq d inside bound, handsOn_eq h inside bound]

theorem Siblings.Alike.takesRest (h : siblings.Alike depth siblings') (v : Value) :
    siblings'.takesRest v = siblings.takesRest v := by
  have isSome (keyword : String) :
      (siblings'.one? keyword).isSome = (siblings.one? keyword).isSome := by
    have found := h.one? keyword
    generalize siblings.one? keyword = c, siblings'.one? keyword = c' at found
    cases found <;> rfl
  cases v <;> simp only [Siblings.takesRest, isSome]

theorem depth_lt_of_restOf {p : String × Value} (bound : v.depth < depth)
    (member : p ∈ restOf name v) : p.2.depth < depth - 1 := by
  unfold restOf at member
  split at member
  · split at member
    · exact Value.depth_lt_of_member bound member
    · cases member
  · split at member
    · obtain ⟨⟨x, i⟩, listed, rfl⟩ := List.mem_map.mp member
      exact Value.depth_lt_of_item bound (List.fst_mem_of_mem_zipIdx listed)
    · cases member
  · cases member

theorem sameFaults_unevaluated (d : Draft) (h : siblings.Alike depth siblings') (name : String)
    (inside : Alike (depth - 1) c c') :
    SameFaults depth (unevaluated d siblings name c) (unevaluated d siblings' name c') := by
  intro outer place v bound
  have left (p) (member : p ∈ restOf name v) :
      (!siblings'.covers d v p.1 && !c'.passes p.2) =
        (!siblings.covers d v p.1 && !c.passes p.2) := by
    rw [h.covers d bound, inside.passes (depth_lt_of_restOf bound member)]
  unfold unevaluated
  rw [List.filter_congr left]
  dsimp only
  split_ifs <;> rfl

/-- One keyword among its siblings. -/
theorem sameFaults_keyword (d : Draft) (h : siblings.Alike depth siblings')
    (inside : m.Alike name depth m') :
    SameFaults depth (keyword d siblings name m) (keyword d siblings' name m') := by
  intro outer place v bound
  cases inside with
  | limit => rfl
  | inert => rfl
  | assertion => exact sameFaults_assertion _ outer place v bound
  | reference inside => simpa [keyword] using inside.faults outer (place.keyword name) v bound
  | many inside =>
    simp only [keyword, Place.under_keyword, h.closed]
    split_ifs with all any one front dependent members
    · subst all
      exact sameFaults_allOf inside outer _ v bound
    · subst any
      exact sameFaults_anyOf inside outer _ v bound
    · subst one
      exact sameFaults_oneOf inside outer _ v bound
    · subst front
      exact sameFaults_prefixItems inside outer _ v bound
    · have beside : depthIn name depth = depth := by rcases dependent with rfl | rfl <;> rfl
      rw [beside] at inside
      exact sameFaults_dependentSchemas inside outer _ v bound
    · rw [members.1] at inside ⊢
      exact sameFaults_properties inside outer _ v bound
    · rfl
  | patterned inside =>
    simp only [keyword, Place.under_keyword, h.closed]
    split
    · rfl
    · exact sameFaults_patternProperties inside outer _ v bound
  | @one source _ _ inside =>
    simp only [keyword, Place.under_keyword]
    split_ifs with additional contained condition every negated names rest
    · subst additional
      exact sameFaults_additionalProperties h source inside outer place v bound
    · subst contained
      exact sameFaults_contains h inside outer place v bound
    · subst condition
      exact sameFaults_conditional h inside outer place v bound
    · subst every
      rw [h.prefixCount]
      exact sameFaults_items _ inside outer _ v bound
    · subst negated
      exact sameFaults_negation source inside outer _ v bound
    · subst names
      exact sameFaults_propertyNames source inside outer _ v bound
    · have within : depthIn name depth = depth - 1 := by rcases rest with rfl | rfl <;> rfl
      rw [within] at inside
      exact sameFaults_unevaluated d h name inside outer _ v bound
    · rfl

/-- A schema object is alike when its keywords are. -/
theorem alike_object (d : Draft) (h : siblings.Alike depth siblings') :
    Alike depth (object d siblings) (object d siblings') := by
  constructor
  · intro outer place v bound
    apply Fault.flatMap_under h
    rintro ⟨name, m⟩ ⟨-, m'⟩ ⟨rfl, inside⟩
    exact sameFaults_keyword d h inside outer place v bound
  · intro v bound
    funext key
    simp only [object, h.takesRest, h.covers d bound]

end Check

end DocumentMigration
