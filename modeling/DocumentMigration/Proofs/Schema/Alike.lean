import DocumentMigration.Proofs.Json.Depth
import DocumentMigration.Proofs.Json.Object
import DocumentMigration.Schema.Check
import Mathlib.Data.List.Forall2

/-!
Checks that are alike: they find the same faults, wherever they are made, and look at the same
members and items. Two checks are compared on values up to a depth. Keywords for members and items
hand on something less deep than the value, so that less is asked of the schemas inside them; the
other keywords hand on the value itself.
-/
namespace DocumentMigration

open Json

namespace Json.Value

variable {depth : Nat}

theorem depth_lt_of_item {xs : List Value} {x : Value} (bound : (array xs).depth < depth)
    (member : x ∈ xs) : x.depth < depth - 1 :=
  Nat.lt_sub_of_add_lt (lt_of_le_of_lt (depth_lt_array member) bound)

theorem depth_lt_of_member {ms : List (String × Value)} {m : String × Value}
    (bound : (object ms).depth < depth) (member : m ∈ ms) : m.2.depth < depth - 1 :=
  Nat.lt_sub_of_add_lt (lt_of_le_of_lt (depth_lt_object member) bound)

theorem depth_key_lt {ms : List (String × Value)} (bound : (object ms).depth < depth)
    (key : String) : (string key).depth < depth - 1 := by
  simp only [Value.depth] at bound ⊢
  omega

end Json.Value

/-- A place that is seen from further outside. -/
def Place.under (outer place : Place) : Place :=
  ⟨outer.schemaPath ++ place.schemaPath, outer.instancePath ++ place.instancePath⟩

namespace Place

variable (outer place : Place)

@[simp] theorem under_keyword (name : String) :
    (outer.under place).keyword name = outer.under (place.keyword name) := by
  simp [under, keyword]

@[simp] theorem under_member (name : String) :
    (outer.under place).member name = outer.under (place.member name) := by
  simp [under, member]

@[simp] theorem under_index (i : Nat) :
    (outer.under place).index i = outer.under (place.index i) :=
  outer.under_member place _

@[simp] theorem under_here : outer.under {} = outer := by
  simp [under]

@[simp] theorem here_under : ({} : Place).under place = place := rfl

end Place

namespace Fault

def under (outer : Place) (f : Fault) : Fault := { f with place := outer.under f.place }

@[simp] theorem under_mk (outer place : Place) (cause : Cause) :
    under outer ⟨place, cause⟩ = ⟨outer.under place, cause⟩ := rfl

@[simp] theorem map_under_here (faults : List Fault) : faults.map (under {}) = faults :=
  List.map_id' faults

variable {α β : Type} {outer : Place}

theorem flatMap_under {related : α → β → Prop} {as : List α} {bs : List β}
    {f : α → List Fault} {g : β → List Fault} (lists : List.Forall₂ related as bs)
    (each : ∀ a b, related a b → g b = (f a).map (under outer)) :
    bs.flatMap g = (as.flatMap f).map (under outer) := by
  induction lists with
  | nil => rfl
  | cons head _ ih => simp [each _ _ head, ih]

theorem flatMap_under_of_mem {as : List α} {f g : α → List Fault}
    (each : ∀ a ∈ as, g a = (f a).map (under outer)) :
    as.flatMap g = (as.flatMap f).map (under outer) := by
  rw [List.map_flatMap]
  exact List.flatMap_congr each

end Fault

theorem any_eq_of_forall₂ {α β : Type} {related : α → β → Prop} {as : List α} {bs : List β}
    {p : α → Bool} {q : β → Bool} (lists : List.Forall₂ related as bs)
    (each : ∀ a b, related a b → q b = p a) : bs.any q = as.any p := by
  induction lists with
  | nil => rfl
  | cons head _ ih => rw [List.any_cons, List.any_cons, each _ _ head, ih]

/-- What stands under a key in the one list is related to what stands there in the other. -/
theorem rel_lookup {α β : Type} (related : String → α → β → Prop) {as : List (String × α)}
    {bs : List (String × β)}
    (lists : List.Forall₂ (fun p q => p.1 = q.1 ∧ related p.1 p.2 q.2) as bs) (key : String) :
    Option.Rel (related key) (as.lookup key) (bs.lookup key) := by
  induction lists with
  | nil => exact .none
  | @cons p q as bs head _ ih =>
    obtain ⟨name, a⟩ := p
    obtain ⟨other, b⟩ := q
    obtain ⟨rfl, here⟩ := head
    by_cases same : key = name
    · subst same
      rw [List.lookup_cons_self, List.lookup_cons_self]
      exact .some here
    · have other : (key == name) = false := beq_false_of_ne same
      simpa [List.lookup_cons, other] using ih

namespace Check

/-- The second report finds what the first one does in values that are less deep, and finds it seen
from further outside where it is made there. -/
def SameFaults (depth : Nat) (r r' : Report) : Prop :=
  ∀ outer place v, v.depth < depth → r' (outer.under place) v = (r place v).map (Fault.under outer)

structure Alike (depth : Nat) (c c' : Check) : Prop where
  faults : SameFaults depth c.report c'.report
  covers : ∀ v, v.depth < depth → c'.covers v = c.covers v

/-- The keywords whose schemas look at members and items. -/
def looksInside (keyword : String) : Bool :=
  ["additionalProperties", "contains", "items", "patternProperties", "prefixItems", "properties",
    "propertyNames", "unevaluatedItems", "unevaluatedProperties"].contains keyword

/-- The depth that is left for the schemas inside a keyword. -/
def depthIn (keyword : String) (depth : Nat) : Nat :=
  if looksInside keyword then depth - 1 else depth

/-- Named checks, alike under the same names. -/
abbrev NamedAlike {α : Type} (depth : Nat) : List (α × Check) → List (α × Check) → Prop :=
  List.Forall₂ fun p q => p.1 = q.1 ∧ p.2.Alike depth q.2

/-- Meanings of one keyword that differ in the checks inside them, which are alike. -/
inductive Meaning.Alike (keyword : String) (depth : Nat) : Meaning → Meaning → Prop
  | one {source c c'} (inside : c.Alike (depthIn keyword depth) c') :
    Alike keyword depth (.one source c) (.one source c')
  | many {cs cs'} (inside : NamedAlike (depthIn keyword depth) cs cs') :
    Alike keyword depth (.many cs) (.many cs')
  | patterned {cs cs'} (inside : NamedAlike (depth - 1) cs cs') :
    Alike keyword depth (.patterned cs) (.patterned cs')
  | assertion {a} : Alike keyword depth (.assertion a) (.assertion a)
  | limit {n} : Alike keyword depth (.limit n) (.limit n)
  | reference {c c'} (inside : c.Alike depth c') :
    Alike keyword depth (.reference c) (.reference c')
  | inert : Alike keyword depth .inert .inert

abbrev Siblings.Alike (depth : Nat) : Siblings → Siblings → Prop :=
  List.Forall₂ fun p q => p.1 = q.1 ∧ p.2.Alike p.1 depth q.2

variable {depth : Nat} {c c' c'' : Check} {outer place : Place} {v : Value}

namespace Alike

theorem zero (c c' : Check) : Alike 0 c c' where
  faults _ _ _ bound := absurd bound (Nat.not_lt_zero _)
  covers _ bound := absurd bound (Nat.not_lt_zero _)

theorem mono {less : Nat} (h : Alike depth c c') (le : less ≤ depth) : Alike less c c' where
  faults outer place v bound := h.faults outer place v (bound.trans_le le)
  covers v bound := h.covers v (bound.trans_le le)

theorem eq (h : Alike depth c c') (bound : v.depth < depth) : c' place v = c place v := by
  simpa using h.faults {} place v bound

theorem symm (h : Alike depth c c') : Alike depth c' c := by
  refine ⟨?_, fun v bound => (h.covers v bound).symm⟩
  intro outer place v bound
  rw [h.eq bound, ← h.eq bound]
  exact h.faults outer place v bound

theorem passes (h : Alike depth c c') (bound : v.depth < depth) : c'.passes v = c.passes v := by
  rw [Check.passes, h.eq bound, Check.passes]

end Alike

theorem alike_pass : Alike depth pass pass := ⟨fun _ _ _ _ => rfl, fun _ _ => rfl⟩

theorem alike_fail : Alike depth fail fail := ⟨fun _ _ _ _ => rfl, fun _ _ => rfl⟩

theorem sameFaults_assertion (a : Assertion) : SameFaults depth (assertion a) (assertion a) := by
  intro outer place v _
  unfold assertion
  split
  · rfl
  · split <;> simp [Function.comp_def]

section Many

variable {cs cs' : List (String × Check)}

theorem sameFaults_allOf (h : NamedAlike depth cs cs') :
    SameFaults depth (allOf cs) (allOf cs') := by
  intro outer place v bound
  apply Fault.flatMap_under h
  rintro ⟨index, c⟩ ⟨-, c'⟩ ⟨rfl, inside⟩
  simpa using inside.faults outer (place.keyword index) v bound

theorem any_passes (h : NamedAlike depth cs cs') (bound : v.depth < depth) :
    cs'.any (·.2.passes v) = cs.any (·.2.passes v) :=
  any_eq_of_forall₂ h fun _ _ alike => alike.2.passes bound

theorem sameFaults_anyOf (h : NamedAlike depth cs cs') :
    SameFaults depth (anyOf cs) (anyOf cs') := by
  intro outer place v bound
  rw [anyOf, any_passes h bound, anyOf]
  split <;> rfl

theorem sameFaults_oneOf (h : NamedAlike depth cs cs') :
    SameFaults depth (oneOf cs) (oneOf cs') := by
  intro outer place v bound
  have same : cs'.countP (·.2.passes v) = cs.countP (·.2.passes v) := by
    induction h with
    | nil => rfl
    | cons head _ ih => simp [List.countP_cons, head.2.passes bound, ih]
  unfold oneOf
  rw [same]
  split <;> rfl

theorem sameFaults_prefixItems (h : NamedAlike (depth - 1) cs cs') :
    SameFaults depth (prefixItems cs) (prefixItems cs') := by
  intro outer place v bound
  cases v with
  | array xs =>
    have pairs : List.Forall₂ (fun p q => (p.1.1 = q.1.1 ∧ p.1.2.Alike (depth - 1) q.1.2) ∧
        p.2 = q.2 ∧ p.2.depth < depth - 1) (cs.zip xs) (cs'.zip xs) := by
      have less x (member : x ∈ xs) := Value.depth_lt_of_item bound member
      clear bound
      induction h generalizing xs with
      | nil => exact .nil
      | cons head _ ih =>
        rcases xs with _ | ⟨x, xs⟩
        · exact .nil
        · refine .cons ⟨head, rfl, less x List.mem_cons_self⟩ (ih xs ?_)
          intro y member
          exact less y (List.mem_cons_of_mem x member)
    apply Fault.flatMap_under pairs
    rintro ⟨⟨index, c⟩, x⟩ ⟨⟨-, c'⟩, -⟩ ⟨⟨rfl, inside⟩, rfl, less⟩
    simpa using inside.faults outer ((place.keyword index).member index) x less
  | _ => rfl

end Many

section Named

variable {named named' : List (String × Check)} {patterns patterns' : List (Pattern × Check)}

theorem sameFaults_properties (h : NamedAlike (depth - 1) named named') :
    SameFaults depth (properties named) (properties named') := by
  intro outer place v bound
  cases v with
  | object ms =>
    apply Fault.flatMap_under h
    rintro ⟨name, c⟩ ⟨-, c'⟩ ⟨rfl, inside⟩
    rcases found : Object.get? name ms with _ | x
    · simp [found]
    · have less := Value.depth_lt_of_member bound (Object.mem_of_get? found)
      simpa [found] using inside.faults outer ((place.keyword name).member name) x less
  | _ => rfl

theorem sameFaults_dependentSchemas (h : NamedAlike depth named named') :
    SameFaults depth (dependentSchemas named) (dependentSchemas named') := by
  intro outer place v bound
  cases v with
  | object ms =>
    apply Fault.flatMap_under h
    rintro ⟨name, c⟩ ⟨-, c'⟩ ⟨rfl, inside⟩
    by_cases there : Object.contains name ms
    · simpa [there] using inside.faults outer (place.keyword name) (.object ms) bound
    · simp [there]
  | _ => rfl

theorem sameFaults_patternProperties (h : NamedAlike (depth - 1) patterns patterns') :
    SameFaults depth (patternProperties patterns) (patternProperties patterns') := by
  intro outer place v bound
  cases v with
  | object ms =>
    apply Fault.flatMap_under h
    rintro ⟨p, c⟩ ⟨-, c'⟩ ⟨rfl, inside⟩
    apply Fault.flatMap_under_of_mem
    rintro ⟨key, x⟩ member
    have less := Value.depth_lt_of_member bound member
    by_cases fits : p.fits key
    · simpa [fits] using inside.faults outer ((place.keyword p.source).member key) x less
    · simp [fits]
  | _ => rfl

/-- The faults of a member under patterns, all of which fit its key. -/
def patternFaults (place : Place) (patterns : List (Pattern × Check)) (key : String) (v : Value) :
    List Fault :=
  patterns.flatMap fun (p, c) =>
    c (((place.keyword "patternProperties").keyword p.source).member key) v

theorem patternFaults_under (h : NamedAlike depth patterns patterns') (key : String)
    (bound : v.depth < depth) :
    patternFaults (outer.under place) patterns' key v =
      (patternFaults place patterns key v).map (Fault.under outer) := by
  apply Fault.flatMap_under h
  rintro ⟨p, c⟩ ⟨-, c'⟩ ⟨rfl, inside⟩
  simpa using inside.faults outer _ v bound

theorem knownMember?_eq (place : Place) (named : List (String × Check))
    (patterns : List (Pattern × Check)) (key : String) (v : Value) :
    knownMember? place named patterns key v =
      let fitting := patterns.filter fun p => p.1.fits key
      match named.lookup key with
      | some c => some (c (((place.keyword "properties").keyword key).member key) v
          ++ patternFaults place fitting key v)
      | none => if fitting.isEmpty then none else some (patternFaults place fitting key v) :=
  rfl

/-- Members that are known to the one are known to the other, with the same faults. -/
theorem knownMember?_under (named_alike : NamedAlike depth named named')
    (patterns_alike : NamedAlike depth patterns patterns') (key : String)
    (bound : v.depth < depth) :
    knownMember? (outer.under place) named' patterns' key v =
      (knownMember? place named patterns key v).map (List.map (Fault.under outer)) := by
  have fitting : NamedAlike depth (patterns.filter fun p => p.1.fits key)
      (patterns'.filter fun p => p.1.fits key) := by
    induction patterns_alike with
    | nil => exact .nil
    | cons head _ ih =>
      rw [List.filter_cons, List.filter_cons, head.1]
      split
      · exact .cons head ih
      · exact ih
  have alone : (patterns'.filter fun p => p.1.fits key).isEmpty =
      (patterns.filter fun p => p.1.fits key).isEmpty := by
    generalize patterns.filter _ = fits, patterns'.filter _ = fits' at fitting
    cases fitting <;> rfl
  have byName := rel_lookup (fun _ => Alike depth) named_alike key
  rw [knownMember?_eq, knownMember?_eq]
  simp only [alone, patternFaults_under fitting key bound]
  generalize named.lookup key = known, named'.lookup key = known' at byName
  cases byName with
  | some inside => simp [inside.faults outer _ v bound]
  | none =>
    simp only [apply_ite (Option.map (List.map (Fault.under outer))), Option.map_none,
      Option.map_some]

end Named

section Siblings

variable {siblings siblings' : Siblings}

theorem Siblings.Alike.lookup (h : siblings.Alike depth siblings') (keyword : String) :
    Option.Rel (Meaning.Alike keyword depth) (siblings.lookup keyword)
      (siblings'.lookup keyword) :=
  rel_lookup (fun keyword => Meaning.Alike keyword depth) h keyword

/-- The schemas of a keyword for several, and none of them when it is missing. -/
theorem Siblings.Alike.many? (h : siblings.Alike depth siblings') (keyword : String) :
    (siblings'.many? keyword).isNone = (siblings.many? keyword).isNone ∧
      NamedAlike (depthIn keyword depth) ((siblings.many? keyword).getD [])
        ((siblings'.many? keyword).getD []) := by
  have found := h.lookup keyword
  unfold Siblings.many?
  generalize siblings.lookup _ = m, siblings'.lookup _ = m' at found
  cases found with
  | none => exact ⟨rfl, .nil⟩
  | some alike =>
    cases alike with
    | many inside => exact ⟨rfl, inside⟩
    | _ => exact ⟨rfl, .nil⟩

theorem Siblings.Alike.patternProperties (h : siblings.Alike depth siblings') :
    siblings'.patterned?.isNone = siblings.patterned?.isNone ∧
      NamedAlike (depth - 1) (siblings.patterned?.getD []) (siblings'.patterned?.getD []) := by
  have found := h.lookup "patternProperties"
  unfold Siblings.patterned?
  generalize siblings.lookup _ = m, siblings'.lookup _ = m' at found
  cases found with
  | none => exact ⟨rfl, .nil⟩
  | some alike =>
    cases alike with
    | patterned inside => exact ⟨rfl, inside⟩
    | _ => exact ⟨rfl, .nil⟩

theorem Siblings.Alike.one? (h : siblings.Alike depth siblings') (keyword : String) :
    (Option.Rel (Check.Alike (depthIn keyword depth)) (siblings.one? keyword)
      (siblings'.one? keyword)) := by
  have found := h.lookup keyword
  unfold Siblings.one?
  generalize siblings.lookup _ = m, siblings'.lookup _ = m' at found
  cases found with
  | none => exact .none
  | some alike =>
    cases alike with
    | one inside => exact .some inside
    | _ => exact .none

theorem Siblings.Alike.limit? (h : siblings.Alike depth siblings') (keyword : String) :
    siblings'.limit? keyword = siblings.limit? keyword := by
  have found := h.lookup keyword
  unfold Siblings.limit?
  generalize siblings.lookup _ = m, siblings'.lookup _ = m' at found
  cases found with
  | none => rfl
  | some alike => cases alike <;> rfl

theorem Siblings.Alike.prefixCount (h : siblings.Alike depth siblings') :
    siblings'.prefixCount = siblings.prefixCount :=
  (h.many? "prefixItems").2.length_eq.symm

theorem Siblings.Alike.closed (h : siblings.Alike depth siblings') :
    siblings'.closed = siblings.closed := by
  have found := h.lookup "additionalProperties"
  unfold Siblings.closed
  generalize siblings.lookup _ = m, siblings'.lookup _ = m' at found
  cases found with
  | none => rfl
  | some alike =>
    cases alike with
    | @one source c c' inside => rcases source with _ | ⟨_ | _⟩ | _ | _ | _ | _ <;> rfl
    | _ => rfl

theorem sameFaults_items (skip : Nat) (inside : Alike (depth - 1) c c') :
    SameFaults depth (items skip c) (items skip c') := by
  intro outer place v bound
  cases v with
  | array xs =>
    apply Fault.flatMap_under_of_mem
    rintro ⟨x, i⟩ member
    have among := List.fst_mem_of_mem_zipIdx (List.mem_of_mem_drop member)
    have less := Value.depth_lt_of_item bound among
    simpa using inside.faults outer (place.index i) x less
  | _ => rfl

theorem sameFaults_negation (source : Value) (inside : Alike depth c c') :
    SameFaults depth (negation source c) (negation source c') := by
  intro outer place v bound
  unfold negation
  rw [inside.passes bound]
  split <;> rfl

theorem sameFaults_propertyNames (source : Value) (inside : Alike (depth - 1) c c') :
    SameFaults depth (propertyNames source c) (propertyNames source c') := by
  intro outer place v bound
  cases v with
  | object ms =>
    have each : ms.flatMap (fun m => c' (outer.under place) (.string m.1)) =
        (ms.flatMap fun m => c place (.string m.1)).map (Fault.under outer) := by
      apply Fault.flatMap_under_of_mem
      rintro ⟨key, x⟩ -
      exact inside.faults outer place (.string key) (Value.depth_key_lt bound key)
    rcases source with _ | ⟨_ | _⟩ | _ | _ | _ | _
    case bool.false =>
      simp only [propertyNames]
      split <;> rfl
    all_goals exact each
  | _ => rcases source with _ | ⟨_ | _⟩ | _ | _ | _ | _ <;> rfl

theorem branch_eq (inside : Alike depth c c') (bound : v.depth < depth) :
    branch c' v = branch c v := by
  rw [branch, inside.passes bound, branch]

/-- The schema that is checked after a condition, if there is one. -/
theorem alike_branch (h : siblings.Alike depth siblings') (c : Check) (v : Value) :
    ((siblings.one? (branch c v)).getD pass).Alike depth
      ((siblings'.one? (branch c v)).getD pass) := by
  have found := h.one? (branch c v)
  have beside : looksInside (branch c v) = false := by
    unfold branch
    split <;> rfl
  rw [depthIn, beside] at found
  generalize siblings.one? _ = after, siblings'.one? _ = after' at found
  cases found with
  | none => exact alike_pass
  | some alike => exact alike

theorem sameFaults_conditional (h : siblings.Alike depth siblings') (inside : Alike depth c c') :
    SameFaults depth (conditional siblings c) (conditional siblings' c') := by
  intro outer place v bound
  rw [conditional, branch_eq inside bound, conditional]
  simpa using (alike_branch h c v).faults outer (place.keyword (branch c v)) v bound

theorem sameFaults_contains (h : siblings.Alike depth siblings') (inside : Alike (depth - 1) c c') :
    SameFaults depth (contains siblings c) (contains siblings' c') := by
  intro outer place v bound
  cases v with
  | array xs =>
    have count : xs.countP (c'.passes ·) = xs.countP (c.passes ·) := by
      apply List.countP_congr
      intro x member
      rw [inside.passes (Value.depth_lt_of_item bound member)]
    unfold contains
    simp only [count, h.limit?]
    split <;> split_ifs <;> simp
  | _ => rfl

section Known

variable {outer : Place} {ms : Object} {known? known' : String → Value → Option (List Fault)}

theorem filter_isNone_of_known (known : ∀ key x, (key, x) ∈ ms →
      known' key x = (known? key x).map (List.map (Fault.under outer))) :
    ms.filter (fun (key, x) => (known' key x).isNone) =
      ms.filter fun (key, x) => (known? key x).isNone := by
  apply List.filter_congr
  rintro ⟨key, x⟩ member
  simp [known key x member]

theorem flatMap_getD_of_known (known : ∀ key x, (key, x) ∈ ms →
      known' key x = (known? key x).map (List.map (Fault.under outer))) :
    ms.flatMap (fun (key, x) => (known' key x).getD []) =
      (ms.flatMap fun (key, x) => (known? key x).getD []).map (Fault.under outer) := by
  apply Fault.flatMap_under_of_mem
  rintro ⟨key, x⟩ member
  simp only [known key x member]
  exact Option.getD_map _ [] _

end Known

theorem sameFaults_additionalProperties (h : siblings.Alike depth siblings') (source : Value)
    (inside : Alike (depth - 1) c c') :
    SameFaults depth (additionalProperties siblings source c)
      (additionalProperties siblings' source c') := by
  intro outer place v bound
  cases v with
  | object ms =>
    obtain ⟨named_none, named_alike⟩ := h.many? "properties"
    obtain ⟨patterned_none, patterns_alike⟩ := h.patternProperties
    have known key x (member : (key, x) ∈ ms) :
        knownMember? (outer.under place) ((siblings'.many? "properties").getD [])
          (siblings'.patterned?.getD []) key x =
        (knownMember? place ((siblings.many? "properties").getD [])
          (siblings.patterned?.getD []) key x).map (List.map (Fault.under outer)) :=
      knownMember?_under named_alike patterns_alike key (Value.depth_lt_of_member bound member)
    have other key x (member : (key, x) ∈ ms) :
        c' (((outer.under place).keyword "additionalProperties").member key) x =
        (c ((place.keyword "additionalProperties").member key) x).map (Fault.under outer) := by
      simpa using inside.faults outer ((place.keyword "additionalProperties").member key) x
        (Value.depth_lt_of_member bound member)
    simp only [additionalProperties, named_none, patterned_none]
    generalize knownMember? (outer.under place) _ _ = known',
      knownMember? place _ _ = known? at known
    split
    · rfl
    · next ms' object =>
      cases object
      rw [filter_isNone_of_known known, flatMap_getD_of_known known]
      split
      · cases ms <;> simp
      · split <;> simp
    · next ms' _ _ object =>
      cases object
      apply Fault.flatMap_under_of_mem
      rintro ⟨key, x⟩ member
      simp only [known key x member, other key x member]
      exact Option.getD_map _ _ _
    · rfl
  | _ => rcases source with _ | ⟨_ | _⟩ | _ | _ | _ | _ <;> rfl

end Siblings

end Check

end DocumentMigration
