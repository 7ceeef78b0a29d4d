import DocumentMigration.Proofs.Schema.References
import DocumentMigration.Schema.Compiled

/-!
Causes and the keywords that bring them up. That a member is missing is found at a keyword that
lists members, and that others may not be there at the keyword for other members. So the place in a
schema tells whether a fault names members of the value.
-/
namespace DocumentMigration

open Json

/-- The keyword at the end of a place in a schema is one of some. -/
def Place.EndsIn (p : Place) (keywords : List String) : Prop :=
  ∃ k ∈ keywords, p.schemaPath.getLast? = some k

theorem Place.endsIn_keyword {p : Place} {keywords : List String} {name : String}
    (member : name ∈ keywords) : (p.keyword name).EndsIn keywords :=
  ⟨name, member, by simp [keyword]⟩

/-- A fault that names members of a value stands at a keyword for such faults. -/
def Fault.Telling (f : Fault) : Prop :=
  match f.cause with
  | .missing _ => f.place.EndsIn ["required", "dependentRequired", "dependencies"]
  | .unexpected _ => f.place.EndsIn ["additionalProperties"]
  | _ => True

/-- Faults that are all telling. -/
def Telling (faults : List Fault) : Prop := ∀ f ∈ faults, f.Telling

section Telling

variable {faults more : List Fault} {f : Fault}

theorem telling_nil : Telling [] := fun _ member => (List.not_mem_nil member).elim

theorem telling_singleton (h : f.Telling) : Telling [f] := List.forall_mem_singleton.mpr h

theorem Telling.append (h : Telling faults) (h' : Telling more) : Telling (faults ++ more) :=
  List.forall_mem_append.mpr ⟨h, h'⟩

theorem telling_flatMap {α : Type} {as : List α} {find : α → List Fault}
    (each : ∀ a ∈ as, Telling (find a)) : Telling (as.flatMap find) := by
  intro f member
  obtain ⟨a, listed, found⟩ := List.mem_flatMap.mp member
  exact each a listed f found

end Telling

namespace Assertion

/-- Only keywords for it ask for members. -/
theorem keyword_mem_of_lacking {a : Assertion} {v : Value} (lacking : a.lacking v ≠ []) :
    a.keyword ∈ ["required", "dependentRequired", "dependencies"] := by
  cases a
  case required => exact List.mem_cons_self
  case dependentRequired => exact List.mem_cons_of_mem _ List.mem_cons_self
  case dependencies => exact List.mem_cons_of_mem _ (List.mem_cons_of_mem _ List.mem_cons_self)
  all_goals exact absurd rfl lacking

end Assertion

namespace Check

/-- A report of telling faults only, wherever it is made. -/
def IsTelling (r : Report) : Prop := ∀ place v, Telling (r place v)

/-- Checks with something beside each of them. -/
abbrev AllTelling {α : Type} (checks : List (α × Check)) : Prop :=
  ∀ p ∈ checks, IsTelling p.2.report

/-- What a keyword means, with telling checks inside. -/
def Meaning.IsTelling : Meaning → Prop
  | .one _ c | .reference c => Check.IsTelling c.report
  | .many checks => AllTelling checks
  | .patterned checks => AllTelling checks
  | .assertion _ | .limit _ | .inert => True

def Siblings.IsTelling (siblings : Siblings) : Prop := ∀ p ∈ siblings, p.2.IsTelling

variable {c : Check} {place : Place} {v : Value} {name : String}

theorem isTelling_pass : IsTelling pass.report := fun _ _ => telling_nil

theorem isTelling_fail : IsTelling fail.report := fun _ _ => telling_singleton trivial

theorem isTelling_assertion (a : Assertion) : IsTelling (assertion a) := by
  intro place v
  unfold assertion
  split
  · exact telling_nil
  · split
    · exact telling_singleton trivial
    · next names lacking =>
      refine List.forall_mem_map.mpr fun property _ => ?_
      exact Place.endsIn_keyword (Assertion.keyword_mem_of_lacking lacking)

section Many

variable {checks : List (String × Check)}

theorem isTelling_allOf (h : AllTelling checks) : IsTelling (allOf checks) := by
  intro place v
  exact telling_flatMap fun p member => h p member _ v

theorem isTelling_anyOf (checks : List (String × Check)) : IsTelling (anyOf checks) := by
  intro place v
  unfold anyOf
  split
  · exact telling_nil
  · exact telling_singleton trivial

theorem isTelling_oneOf (checks : List (String × Check)) : IsTelling (oneOf checks) := by
  intro place v
  unfold oneOf
  split
  · exact telling_singleton trivial
  · exact telling_nil
  · exact telling_singleton trivial

theorem isTelling_prefixItems (h : AllTelling checks) : IsTelling (prefixItems checks) := by
  intro place v
  cases v
  case array xs =>
    apply telling_flatMap
    rintro ⟨p, x⟩ member
    exact h p (List.of_mem_zip member).1 _ x
  all_goals exact telling_nil

end Many

theorem isTelling_items (h : IsTelling c.report) (skip : Nat) : IsTelling (items skip c) := by
  intro place v
  cases v
  case array xs => exact telling_flatMap fun p _ => h _ p.1
  all_goals exact telling_nil

theorem isTelling_negation (source : Value) (c : Check) : IsTelling (negation source c) := by
  intro place v
  unfold negation
  split
  · exact telling_singleton trivial
  · exact telling_nil

theorem isTelling_propertyNames (h : IsTelling c.report) (source : Value) :
    IsTelling (propertyNames source c) := by
  intro place v
  unfold propertyNames
  split
  · split
    · exact telling_nil
    · exact telling_singleton trivial
  · exact telling_flatMap fun _ _ => h _ _
  · exact telling_nil

section Named

variable {checks : List (String × Check)} {patterns : List (Pattern × Check)}

theorem isTelling_properties (h : AllTelling checks) : IsTelling (properties checks) := by
  intro place v
  cases v
  case object ms =>
    apply telling_flatMap
    rintro ⟨name, c⟩ member
    dsimp only
    split
    · exact h _ member _ _
    · exact telling_nil
  all_goals exact telling_nil

theorem isTelling_dependentSchemas (h : AllTelling checks) :
    IsTelling (dependentSchemas checks) := by
  intro place v
  cases v
  case object ms =>
    apply telling_flatMap
    rintro ⟨name, c⟩ member
    dsimp only
    split
    · exact h _ member _ _
    · exact telling_nil
  all_goals exact telling_nil

theorem isTelling_patternProperties (h : AllTelling patterns) :
    IsTelling (patternProperties patterns) := by
  intro place v
  cases v
  case object ms =>
    apply telling_flatMap
    rintro ⟨p, c⟩ member
    apply telling_flatMap
    rintro ⟨key, x⟩ -
    dsimp only
    split
    · exact h _ member _ _
    · exact telling_nil
  all_goals exact telling_nil

theorem mem_of_lookup {α : Type} {as : List (String × α)} {key : String} {a : α}
    (found : as.lookup key = some a) : (key, a) ∈ as := by
  obtain ⟨before, after, rfl, -⟩ := List.lookup_eq_some_iff.mp found
  exact List.mem_append_right before List.mem_cons_self

theorem telling_knownMember? (named : AllTelling checks) (patterned : AllTelling patterns)
    (key : String) (x : Value) {others : List Fault} (rest : Telling others) :
    Telling ((knownMember? place checks patterns key x).getD others) := by
  have byPattern : Telling ((patterns.filter fun p => p.1.fits key).flatMap fun p =>
      p.2 (((place.keyword "patternProperties").keyword p.1.source).member key) x) :=
    telling_flatMap fun p member => patterned p (List.mem_filter.mp member).1 _ _
  unfold knownMember?
  dsimp only
  split
  · next c found => exact (named _ (mem_of_lookup found) _ _).append byPattern
  · split
    · exact rest
    · exact byPattern

end Named

section Siblings

variable {siblings : Siblings}

theorem Siblings.IsTelling.many? (h : siblings.IsTelling) (keyword : String) :
    AllTelling ((siblings.many? keyword).getD []) := by
  unfold Siblings.many?
  split
  · next checks found => exact h _ (mem_of_lookup found)
  · exact fun p member => (List.not_mem_nil member).elim

theorem Siblings.IsTelling.patterned? (h : siblings.IsTelling) :
    AllTelling (siblings.patterned?.getD []) := by
  unfold Siblings.patterned?
  split
  · next checks found => exact h _ (mem_of_lookup found)
  · exact fun p member => (List.not_mem_nil member).elim

theorem Siblings.IsTelling.one? (h : siblings.IsTelling) (keyword : String) :
    Check.IsTelling ((siblings.one? keyword).getD pass).report := by
  unfold Siblings.one?
  split
  · next source c found => exact h _ (mem_of_lookup found)
  · exact isTelling_pass

theorem isTelling_additionalProperties (h : siblings.IsTelling) (inside : IsTelling c.report)
    (source : Value) : IsTelling (additionalProperties siblings source c) := by
  intro place v
  have known (key : String) (x : Value) {others : List Fault} (rest : Telling others) :
      Telling ((knownMember? place ((siblings.many? "properties").getD [])
        (siblings.patterned?.getD []) key x).getD others) :=
    telling_knownMember? (h.many? _) h.patterned? key x rest
  unfold additionalProperties
  dsimp only
  split
  · exact telling_nil
  · split
    · split
      · exact telling_nil
      · exact telling_singleton trivial
    · refine (telling_flatMap fun p _ => known p.1 p.2 telling_nil).append ?_
      split
      · exact telling_nil
      · exact telling_singleton (Place.endsIn_keyword List.mem_cons_self)
  · exact telling_flatMap fun p _ => known p.1 p.2 (inside _ p.2)
  · exact telling_nil

theorem isTelling_conditional (h : siblings.IsTelling) (c : Check) :
    IsTelling (conditional siblings c) := fun _ v => h.one? _ _ v

theorem isTelling_contains (siblings : Siblings) (c : Check) :
    IsTelling (contains siblings c) := by
  intro place v
  have fault (keyword : String) : Telling [⟨place.keyword keyword, .notContained v⟩] :=
    telling_singleton trivial
  cases v
  case array xs =>
    unfold contains
    dsimp only
    split
    · split_ifs
      · exact fault _
      · exact telling_nil
    · split_ifs
      · exact fault _
      · exact telling_nil
    · split_ifs
      · exact fault _
      · exact telling_nil
    · split_ifs
      · exact fault _
      · exact fault _
      · exact telling_nil
  all_goals exact telling_nil

theorem isTelling_unevaluated (d : Draft) (siblings : Siblings) (name : String) (c : Check) :
    IsTelling (unevaluated d siblings name c) := by
  intro place v
  unfold unevaluated
  dsimp only
  split_ifs
  · exact telling_nil
  · exact telling_singleton trivial
  · exact telling_singleton trivial

theorem isTelling_keyword (d : Draft) (h : siblings.IsTelling) {m : Meaning} (here : m.IsTelling) :
    IsTelling (keyword d siblings name m) := by
  intro place v
  unfold keyword
  cases m with
  | assertion a => exact isTelling_assertion a place v
  | reference c => exact here _ v
  | many checks =>
    dsimp only
    split_ifs
    · exact isTelling_allOf here _ v
    · exact isTelling_anyOf checks _ v
    · exact isTelling_oneOf checks _ v
    · exact isTelling_prefixItems here _ v
    · exact isTelling_dependentSchemas here _ v
    · exact isTelling_properties here _ v
    · exact telling_nil
  | patterned checks =>
    dsimp only
    split_ifs
    · exact telling_nil
    · exact isTelling_patternProperties here _ v
  | one source c =>
    dsimp only
    split_ifs
    · exact isTelling_additionalProperties h here source place v
    · exact isTelling_contains siblings c place v
    · exact isTelling_conditional h c place v
    · exact isTelling_items here _ _ v
    · exact isTelling_negation source c _ v
    · exact isTelling_propertyNames here source _ v
    · exact isTelling_unevaluated d siblings name c _ v
    · exact telling_nil
  | limit n => exact telling_nil
  | inert => exact telling_nil

theorem isTelling_object (d : Draft) (h : siblings.IsTelling) :
    IsTelling (object d siblings).report := fun place v =>
  telling_flatMap fun p member => isTelling_keyword d h (h p member) place v

end Siblings

end Check

namespace Linking

variable {α β : Type} {good : α → Prop} {good' : β → Prop} {m : Linking α}

/-- What is built, where anything is, is good. -/
def BuildsOnly (m : Linking α) (good : α → Prop) : Prop :=
  ∀ seen a met, m.run seen = some (a, met) → good a

theorem buildsOnly_pure {a : α} (h : good a) : BuildsOnly (pure a) good := by
  intro seen _ _ built
  cases built
  exact h

theorem BuildsOnly.bind {f : α → Linking β} (first : m.BuildsOnly good)
    (next : ∀ a, good a → (f a).BuildsOnly good') : (m >>= f).BuildsOnly good' := by
  intro seen b last built
  obtain ⟨a, met, one, two⟩ := run_bind_eq_some.mp built
  exact next a (first seen a met one) met b last two

theorem buildsOnly_any (m : Linking α) : m.BuildsOnly fun _ => True := fun _ _ _ _ => trivial

end Linking

/-- A telling check, as it is built. -/
abbrev Linking.BuildsTelling (m : Linking Check) : Prop :=
  m.BuildsOnly fun c => Check.IsTelling c.report

/-- References are answered with telling checks. -/
structure Linker.IsTelling (k : Linker) : Prop where
  enter : ∀ t, (k.enter t).BuildsTelling
  follow : ∀ t, Check.IsTelling (k.follow t).report

namespace Schema

variable {k : Linker}

theorem buildsOnly_reference (telling : k.IsTelling) (s : Scope) (text : String) :
    (k.reference s text).BuildsOnly Check.Meaning.IsTelling := by
  refine (Linking.buildsOnly_any _).bind fun uri _ => ?_
  refine (Linking.buildsOnly_any _).bind fun target _ => ?_
  refine (Linking.buildsOnly_any _).bind fun seen _ => ?_
  split
  · split
    · exact Linking.buildsOnly_pure trivial
    · exact Linking.buildsOnly_pure (telling.follow target)
  · refine (Linking.buildsOnly_any _).bind fun _ _ => ?_
    exact (telling.enter target).bind fun c h => Linking.buildsOnly_pure h

variable [Standards]

mutual
/-- A schema means a telling check if its references do. -/
theorem buildsOnly_link (telling : k.IsTelling) (s : Scope) : (schema : Schema) →
    (link k s schema).BuildsTelling
  | .always => Linking.buildsOnly_pure Check.isTelling_pass
  | .never => Linking.buildsOnly_pure Check.isTelling_fail
  | .object keywords => by
    unfold link
    refine (Linking.buildsOnly_any _).bind fun inner _ => ?_
    refine (buildsOnly_linkKeywords telling inner _ _ keywords).bind fun siblings h => ?_
    exact Linking.buildsOnly_pure (Check.isTelling_object inner.draft h)

theorem buildsOnly_linkKeywords (telling : k.IsTelling) (s : Scope) (reaches : String → Bool)
    (rule? : String → String → Option Assertion) : (keywords : List (String × Keyword)) →
    (linkKeywords k s reaches rule? keywords).BuildsOnly Check.Siblings.IsTelling
  | [] => Linking.buildsOnly_pure fun _ member => (List.not_mem_nil member).elim
  | (name, content) :: rest => by
    unfold linkKeywords
    split
    · refine (buildsOnly_linkContent telling s (rule? name) content).bind fun meaning h => ?_
      refine (buildsOnly_linkKeywords telling s reaches rule? rest).bind fun others h' => ?_
      exact Linking.buildsOnly_pure (List.forall_mem_cons.mpr ⟨h, h'⟩)
    · exact buildsOnly_linkKeywords telling s reaches rule? rest

theorem buildsOnly_linkContent (telling : k.IsTelling) (s : Scope)
    (rule? : String → Option Assertion) : (content : Keyword) →
    (linkContent k s rule? content).BuildsOnly Check.Meaning.IsTelling
  | .one _ schema => (buildsOnly_link telling s schema).bind fun _ h => Linking.buildsOnly_pure h
  | .many schemas =>
    (buildsOnly_linkMany telling s schemas).bind fun _ h => Linking.buildsOnly_pure h
  | .patterned schemas => by
    refine (Linking.buildsOnly_any _).bind fun patterns _ => ?_
    refine (buildsOnly_linkMany telling s schemas).bind fun checks h => ?_
    refine Linking.buildsOnly_pure fun p member => ?_
    obtain ⟨named, listed, same⟩ := List.mem_map.mp (List.of_mem_zip member).2
    rw [← same]
    exact h named listed
  | .assertion _ => Linking.buildsOnly_pure trivial
  | .pattern _ => (Linking.buildsOnly_any _).bind fun _ _ => Linking.buildsOnly_pure trivial
  | .limit _ => Linking.buildsOnly_pure trivial
  | .reference text => buildsOnly_reference telling s text
  | .text text => by
    refine Linking.buildsOnly_pure ?_
    cases rule? text <;> trivial
  | .inert => Linking.buildsOnly_pure trivial

theorem buildsOnly_linkMany (telling : k.IsTelling) (s : Scope) :
    (schemas : List (String × Schema)) →
    (linkMany k s schemas).BuildsOnly Check.AllTelling
  | [] => Linking.buildsOnly_pure fun _ member => (List.not_mem_nil member).elim
  | (name, schema) :: rest => by
    refine (buildsOnly_link telling s schema).bind fun c h => ?_
    refine (buildsOnly_linkMany telling s rest).bind fun cs h' => ?_
    exact Linking.buildsOnly_pure (List.forall_mem_cons.mpr ⟨h, h'⟩)
end

end Schema

variable [Standards]

/-- A target means a telling check. -/
theorem Target.buildsOnly_link (resources : Resources) {follow : Target → Check}
    (telling : ∀ t, Check.IsTelling (follow t).report) (fuel : Nat) (t : Target) :
    (t.link resources follow fuel).BuildsTelling := by
  induction fuel generalizing t with
  | zero => exact fun _ _ _ built => nomatch built
  | succ fuel ih =>
    unfold Target.link
    refine (Linking.buildsOnly_any _).bind fun schema _ => ?_
    exact Schema.buildsOnly_link ⟨ih, telling⟩ t.scope schema

namespace CompiledSchema

variable (s : CompiledSchema)

theorem isTelling_follow (fuel : Nat) (t : Target) : Check.IsTelling (s.follow fuel t).report := by
  induction fuel generalizing t with
  | zero => exact Check.isTelling_pass
  | succ fuel ih =>
    rw [follow]
    rcases linked : s.check? (s.follow fuel) t with _ | check
    · exact Check.isTelling_pass
    · obtain ⟨⟨_, met⟩, built, rfl⟩ := Option.map_eq_some_iff.mp linked
      exact Target.buildsOnly_link s.resources ih _ t _ _ _ built

/-- The faults under a schema are telling, whatever the value. -/
theorem telling_faults (v : Value) : Telling (s.faults v) := s.isTelling_follow _ _ _ v

end CompiledSchema
end DocumentMigration
