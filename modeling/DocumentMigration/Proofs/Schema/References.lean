import DocumentMigration.Proofs.Schema.Coverage
import DocumentMigration.Schema.Link

/-!
The references that a schema asks while its check is built. Two ways of treating references that
answer these alike build checks that are alike, and the second succeeds where the first one does.
-/
namespace DocumentMigration

open Json

deriving instance DecidableEq for Scope

/-- A reference as it is asked: the surroundings, the text, and whether it is asked for a member or
an item of the value and not for the value itself. -/
structure Asked where
  scope : Scope
  text : String
  inside : Bool
deriving DecidableEq

namespace Asked

/-- The depth that is left for the schema behind a reference. -/
def depth (a : Asked) (depth : Nat) : Nat := if a.inside then depth - 1 else depth

/-- A reference in a schema that a keyword holds. -/
def behind (inside : Bool) (a : Asked) : Asked := { a with inside := inside || a.inside }

theorem depth_zero (a : Asked) : a.depth 0 = 0 := ite_self 0

theorem depth_le_behind (a : Asked) (keyword : String) (depth : Nat) :
    a.depth (Check.depthIn keyword depth) ≤ (a.behind (Check.looksInside keyword)).depth depth := by
  unfold Asked.depth behind Check.depthIn
  rcases Check.looksInside keyword with _ | _
  · exact le_rfl
  · simp only [if_true, Bool.true_or]
    split <;> omega

end Asked

namespace Schema

mutual
/-- The references of a schema that come to bear, in the order in which they are asked. -/
def references (s : Scope) : Schema → List Asked
  | .always | .never => []
  | .object keywords =>
    match s.inside? (textOf? keywords) with
    | some s => keywordReferences s (s.draft.reaches (keywords.map (·.1))) keywords
    | none => []

def keywordReferences (s : Scope) (reaches : String → Bool) : List (String × Keyword) → List Asked
  | [] => []
  | (name, content) :: rest =>
    (if reaches name then contentReferences s name content else [])
      ++ keywordReferences s reaches rest

def contentReferences (s : Scope) (name : String) : Keyword → List Asked
  | .one _ schema => (references s schema).map (.behind (Check.looksInside name))
  | .many schemas => (manyReferences s schemas).map (.behind (Check.looksInside name))
  | .patterned schemas => (manyReferences s schemas).map (.behind true)
  | .reference text => [⟨s, text, false⟩]
  | .assertion _ | .pattern _ | .limit _ | .text _ | .inert => []

def manyReferences (s : Scope) : List (String × Schema) → List Asked
  | [] => []
  | (_, schema) :: rest => references s schema ++ manyReferences s rest
end

end Schema

/-- The references of the schema that a target holds. -/
def Target.references (t : Target) : List Asked :=
  ((Schema.ofValue? t.contents).map (Schema.references t.scope)).getD []

namespace Linking

variable {α β γ δ : Type} {keeps : List Uri → Prop} {related : α → β → Prop}
  {related' : γ → δ → Prop} {m : Linking α} {m' : Linking β}

/-- Where the first builds something, the second meets the same references and builds something
related. Both keep a condition on the references that have been met. -/
def Refines (keeps : List Uri → Prop) (related : α → β → Prop) (m : Linking α) (m' : Linking β) :
    Prop :=
  ∀ seen a seen', keeps seen → m.run seen = some (a, seen') →
    keeps seen' ∧ ∃ b, m'.run seen = some (b, seen') ∧ related a b

theorem run_bind_eq_some {f : α → Linking γ} {seen last : List Uri} {c : γ} :
    (m >>= f).run seen = some (c, last) ↔
      ∃ a met, m.run seen = some (a, met) ∧ (f a).run met = some (c, last) := by
  rw [StateT.run_bind]
  constructor
  · intro built
    obtain ⟨⟨a, met⟩, first, next⟩ := Option.bind_eq_some_iff.mp built
    exact ⟨a, met, first, next⟩
  · rintro ⟨a, met, first, next⟩
    exact Option.bind_eq_some_iff.mpr ⟨(a, met), first, next⟩

theorem eq_some_of_run_lift {found : Option α} {seen met : List Uri} {a : α}
    (built : (liftM found : Linking α).run seen = some (a, met)) : found = some a := by
  rcases found with _ | b
  · cases built
  · cases built
    rfl

theorem refines_pure {a : α} {b : β} (h : related a b) :
    Refines keeps related (pure a) (pure b) := by
  rintro seen _ _ kept built
  cases built
  exact ⟨kept, b, rfl, h⟩

theorem Refines.bind {f : α → Linking γ} {g : β → Linking δ} (first : Refines keeps related m m')
    (next : ∀ a b, related a b → Refines keeps related' (f a) (g b)) :
    Refines keeps related' (m >>= f) (m' >>= g) := by
  intro seen c last kept built
  obtain ⟨a, met, one, two⟩ := run_bind_eq_some.mp built
  obtain ⟨kept, b, one', here⟩ := first seen a met kept one
  obtain ⟨kept, d, two', there⟩ := next a b here met c last kept two
  exact ⟨kept, d, run_bind_eq_some.mpr ⟨b, met, one', two'⟩, there⟩

/-- What looks at no reference builds the same. -/
theorem refines_lift (found : Option α) :
    Refines keeps (fun a b => found = some a ∧ a = b) (liftM found) (liftM found) := by
  rcases found with _ | a
  · intro seen _ _ _ built
    cases built
  · exact refines_pure ⟨rfl, rfl⟩

theorem Refines.imp {wider : α → β → Prop} (h : Refines keeps related m m')
    (imp : ∀ a b, related a b → wider a b) : Refines keeps wider m m' := by
  intro seen a met kept built
  obtain ⟨kept, b, built', here⟩ := h seen a met kept built
  exact ⟨kept, b, built', imp a b here⟩

end Linking

namespace Schema

/-- The answer to a reference: the schema behind it, or nothing where the reference is repeated. -/
inductive Answer (depth : Nat) : Check.Meaning → Check.Meaning → Prop
  | reference {c c'} (alike : Check.Alike depth c c') : Answer depth (.reference c) (.reference c')
  | inert : Answer depth .inert .inert

theorem Answer.alike {depth : Nat} {m m' : Check.Meaning} (h : Answer depth m m')
    (keyword : String) : m.Alike keyword depth m' := by
  cases h with
  | reference alike => exact .reference alike
  | inert => exact .inert

theorem Answer.mono {less depth : Nat} {m m' : Check.Meaning} (h : Answer depth m m')
    (le : less ≤ depth) : Answer less m m' := by
  cases h with
  | reference alike => exact .reference (alike.mono le)
  | inert => exact .inert

/-- References are answered alike, each up to the depth that is left where it is asked. -/
def Answered (keeps : List Uri → Prop) (k k' : Linker) (depth : Nat) (asked : List Asked) : Prop :=
  ∀ a ∈ asked, (k.reference a.scope a.text).Refines keeps (Answer (a.depth depth))
    (k'.reference a.scope a.text)

variable {keeps : List Uri → Prop} {k k' : Linker} {depth : Nat} {asked asked' : List Asked}

theorem answered_append : Answered keeps k k' depth (asked ++ asked') ↔
    Answered keeps k k' depth asked ∧ Answered keeps k k' depth asked' :=
  List.forall_mem_append

/-- What a keyword holds is answered up to the depth that is left in the keyword. -/
theorem Answered.of_behind (keyword : String)
    (h : Answered keeps k k' depth (asked.map (.behind (Check.looksInside keyword)))) :
    Answered keeps k k' (Check.depthIn keyword depth) asked := by
  intro a member
  have answered := h _ (List.mem_map_of_mem member)
  exact answered.imp fun _ _ answer => answer.mono (a.depth_le_behind keyword depth)

theorem Answered.of_inside (h : Answered keeps k k' depth (asked.map (.behind true))) :
    Answered keeps k k' (depth - 1) asked :=
  Answered.of_behind "items" h

/-- Checks that are alike stay so beside other keys. -/
theorem alike_zip {α : Type} {keys : List α} {cs cs' : List (String × Check)}
    (h : Check.NamedAlike depth cs cs') :
    Check.NamedAlike depth (keys.zip (cs.map (·.2))) (keys.zip (cs'.map (·.2))) := by
  induction h generalizing keys with
  | nil => simp
  | cons head _ ih =>
    cases keys with
    | nil => exact .nil
    | cons key keys => exact .cons ⟨rfl, head.2⟩ ih

variable [Standards]

mutual
/-- A schema is linked alike when its references are answered alike. -/
theorem link_alike (s : Scope) : (schema : Schema) → ∀ {depth},
    Answered keeps k k' depth (references s schema) →
    (link k s schema).Refines keeps (Check.Alike depth) (link k' s schema)
  | .always, _, _ => Linking.refines_pure Check.alike_pass
  | .never, _, _ => Linking.refines_pure Check.alike_fail
  | .object keywords, depth, answered => by
    unfold link
    apply (Linking.refines_lift _).bind
    rintro inner _ ⟨surroundings, rfl⟩
    rw [references, surroundings] at answered
    apply (linkKeywords_alike inner _ _ keywords answered).bind
    intro siblings siblings' alike
    exact Linking.refines_pure (Check.alike_object inner.draft alike)

theorem linkKeywords_alike (s : Scope) (reaches : String → Bool)
    (rule? : String → String → Option Assertion) : (keywords : List (String × Keyword)) → ∀ {depth},
    Answered keeps k k' depth (keywordReferences s reaches keywords) →
    (linkKeywords k s reaches rule? keywords).Refines keeps (Check.Siblings.Alike depth)
      (linkKeywords k' s reaches rule? keywords)
  | [], _, _ => Linking.refines_pure .nil
  | (name, content) :: rest, depth, answered => by
    obtain ⟨here, later⟩ := answered_append.mp answered
    unfold linkKeywords
    split
    · next reached =>
      rw [if_pos reached] at here
      apply (linkContent_alike s name (rule? name) content here).bind
      intro meaning meaning' alike
      apply (linkKeywords_alike s reaches rule? rest later).bind
      intro siblings siblings' others
      exact Linking.refines_pure (.cons ⟨rfl, alike⟩ others)
    · exact linkKeywords_alike s reaches rule? rest later

theorem linkContent_alike (s : Scope) (name : String) (rule? : String → Option Assertion) :
    (content : Keyword) → ∀ {depth},
    Answered keeps k k' depth (contentReferences s name content) →
    (linkContent k s rule? content).Refines keeps (Check.Meaning.Alike name depth)
      (linkContent k' s rule? content)
  | .one source schema, _, answered => by
    apply (link_alike s schema (answered.of_behind name)).bind
    intro c c' alike
    exact Linking.refines_pure (.one alike)
  | .many schemas, _, answered => by
    apply (linkMany_alike s schemas (answered.of_behind name)).bind
    intro cs cs' alike
    exact Linking.refines_pure (.many alike)
  | .patterned schemas, _, answered => by
    apply (Linking.refines_lift _).bind
    rintro patterns _ ⟨-, rfl⟩
    apply (linkMany_alike s schemas answered.of_inside).bind
    intro cs cs' alike
    exact Linking.refines_pure (.patterned (alike_zip alike))
  | .assertion a, _, _ => Linking.refines_pure .assertion
  | .pattern _, _, _ => by
    apply (Linking.refines_lift _).bind
    rintro p _ ⟨-, rfl⟩
    exact Linking.refines_pure .assertion
  | .limit n, _, _ => Linking.refines_pure .limit
  | .reference text, _, answered => by
    have answer := answered _ List.mem_cons_self
    exact answer.imp fun _ _ h => h.alike name
  | .text text, _, _ => by
    refine Linking.refines_pure ?_
    cases rule? text with
    | none => exact .inert
    | some a => exact .assertion
  | .inert, _, _ => Linking.refines_pure .inert

theorem linkMany_alike (s : Scope) : (schemas : List (String × Schema)) → ∀ {depth},
    Answered keeps k k' depth (manyReferences s schemas) →
    (linkMany k s schemas).Refines keeps (Check.NamedAlike depth) (linkMany k' s schemas)
  | [], _, _ => Linking.refines_pure .nil
  | (name, schema) :: rest, _, answered => by
    obtain ⟨here, later⟩ := answered_append.mp answered
    apply (link_alike s schema here).bind
    intro c c' alike
    apply (linkMany_alike s rest later).bind
    intro cs cs' others
    exact Linking.refines_pure (.cons ⟨rfl, alike⟩ others)
end

end Schema

namespace Linker

variable {k : Linker} {s : Scope} {text : String} {uri : Uri} {target : Target}

/-- A reference that has been met is followed later; any other one is entered. -/
theorem reference_run (named : s.base.resolveText? text = some uri)
    (leads : k.resources.lookup? s text = some target) (seen : List Uri) :
    (k.reference s text).run seen =
      if seen.contains uri then
        some (if Scope.textOf? "$ref" target.contents = some text then .inert
          else .reference (k.follow target), seen)
      else ((k.enter target).run (uri :: seen)).map fun p => (.reference p.1, p.2) := by
  have here (α : Type) (a : α) : (liftM (some a) : Linking α) = pure a := rfl
  unfold reference
  rw [named, leads, here, here, pure_bind, pure_bind, StateT.run_bind, StateT.run_get]
  simp only [Option.pure_def, Option.bind_eq_bind, Option.bind_some]
  split
  · split <;> rfl
  · rw [StateT.run_bind]
    rcases entered : (k.enter target).run (uri :: seen) with _ | p <;> simp [entered]

/-- A reference is answered only where it can be read and leads to something. -/
theorem leads_of_reference_run {seen met : List Uri} {m : Check.Meaning}
    (built : (k.reference s text).run seen = some (m, met)) :
    ∃ uri target, s.base.resolveText? text = some uri ∧
      k.resources.lookup? s text = some target := by
  obtain ⟨uri, _, read, built⟩ := Linking.run_bind_eq_some.mp built
  obtain ⟨target, _, found, -⟩ := Linking.run_bind_eq_some.mp built
  exact ⟨uri, target, Linking.eq_some_of_run_lift read, Linking.eq_some_of_run_lift found⟩

/-- All of some references lead to something. -/
def Resolves (k : Linker) (asked : List Asked) : Prop :=
  ∀ a ∈ asked, ∃ target, k.resources.lookup? a.scope a.text = some target

variable {asked asked' : List Asked}

theorem resolves_nil : k.Resolves [] := nofun

theorem Resolves.append (h : k.Resolves asked) (h' : k.Resolves asked') :
    k.Resolves (asked ++ asked') :=
  List.forall_mem_append.mpr ⟨h, h'⟩

theorem Resolves.behind (h : k.Resolves asked) (inside : Bool) :
    k.Resolves (asked.map (.behind inside)) := by
  intro a member
  obtain ⟨inner, within, rfl⟩ := List.mem_map.mp member
  exact h inner within

end Linker

namespace Schema

variable {k : Linker} [Standards]

mutual
/-- A schema is linked only when all its references lead to something. -/
theorem resolves_of_link (s : Scope) : (schema : Schema) → ∀ {seen c met},
    (link k s schema).run seen = some (c, met) → k.Resolves (references s schema)
  | .always, _, _, _, _ => Linker.resolves_nil
  | .never, _, _, _, _ => Linker.resolves_nil
  | .object keywords, seen, c, met, built => by
    obtain ⟨inner, _, read, built⟩ := Linking.run_bind_eq_some.mp built
    obtain ⟨siblings, _, built, -⟩ := Linking.run_bind_eq_some.mp built
    rw [references, Linking.eq_some_of_run_lift read]
    exact resolves_of_linkKeywords inner _ _ keywords built

theorem resolves_of_linkKeywords (s : Scope) (reaches : String → Bool)
    (rule? : String → String → Option Assertion) :
    (keywords : List (String × Keyword)) → ∀ {seen siblings met},
    (linkKeywords k s reaches rule? keywords).run seen = some (siblings, met) →
    k.Resolves (keywordReferences s reaches keywords)
  | [], _, _, _, _ => Linker.resolves_nil
  | (name, content) :: rest, seen, siblings, met, built => by
    unfold linkKeywords at built
    unfold keywordReferences
    split at built
    · next reached =>
      obtain ⟨meaning, _, first, built⟩ := Linking.run_bind_eq_some.mp built
      obtain ⟨others, _, later, -⟩ := Linking.run_bind_eq_some.mp built
      rw [if_pos reached]
      exact (resolves_of_linkContent s name (rule? name) content first).append
        (resolves_of_linkKeywords s reaches rule? rest later)
    · next aside =>
      rw [if_neg aside]
      exact resolves_of_linkKeywords s reaches rule? rest built

theorem resolves_of_linkContent (s : Scope) (name : String)
    (rule? : String → Option Assertion) : (content : Keyword) → ∀ {seen meaning met},
    (linkContent k s rule? content).run seen = some (meaning, met) →
    k.Resolves (contentReferences s name content)
  | .one source schema, _, _, _, built => by
    obtain ⟨c, _, built, -⟩ := Linking.run_bind_eq_some.mp built
    exact (resolves_of_link s schema built).behind _
  | .many schemas, _, _, _, built => by
    obtain ⟨cs, _, built, -⟩ := Linking.run_bind_eq_some.mp built
    exact (resolves_of_linkMany s schemas built).behind _
  | .patterned schemas, _, _, _, built => by
    obtain ⟨patterns, _, -, built⟩ := Linking.run_bind_eq_some.mp built
    obtain ⟨cs, _, built, -⟩ := Linking.run_bind_eq_some.mp built
    exact (resolves_of_linkMany s schemas built).behind _
  | .reference text, seen, meaning, met, built => by
    obtain ⟨uri, target, -, found⟩ := Linker.leads_of_reference_run built
    exact List.forall_mem_singleton.mpr ⟨target, found⟩
  | .assertion _, _, _, _, _ => Linker.resolves_nil
  | .pattern _, _, _, _, _ => Linker.resolves_nil
  | .limit _, _, _, _, _ => Linker.resolves_nil
  | .text _, _, _, _, _ => Linker.resolves_nil
  | .inert, _, _, _, _ => Linker.resolves_nil

theorem resolves_of_linkMany (s : Scope) : (schemas : List (String × Schema)) →
    ∀ {seen cs met}, (linkMany k s schemas).run seen = some (cs, met) →
    k.Resolves (manyReferences s schemas)
  | [], _, _, _, _ => Linker.resolves_nil
  | (_, schema) :: rest, _, _, _, built => by
    obtain ⟨c, _, first, built⟩ := Linking.run_bind_eq_some.mp built
    obtain ⟨cs, _, later, -⟩ := Linking.run_bind_eq_some.mp built
    exact (resolves_of_link s schema first).append (resolves_of_linkMany s rest later)
end

end Schema

/-- A target is linked only when all its references lead to something. -/
theorem Target.resolves_of_link [Standards] {t : Target} {r : Resources} {f : Target → Check}
    {fuel : Nat}
    {seen met : List Uri} {c : Check} (built : (t.link r f fuel).run seen = some (c, met)) :
    ∀ a ∈ t.references, ∃ target, r.lookup? a.scope a.text = some target := by
  rcases fuel with _ | fuel
  · cases built
  · obtain ⟨schema, _, read, built⟩ := Linking.run_bind_eq_some.mp built
    rw [Target.references, Linking.eq_some_of_run_lift read]
    exact Schema.resolves_of_link t.scope schema built

/-! Fuel for the schemas that are entered inside one another. -/

/-- How many of some references have not been met. -/
def left (uris seen : List Uri) : Nat := (uris.filter (· ∉ seen)).length

theorem left_cons_lt {uris seen : List Uri} {uri : Uri} (member : uri ∈ uris) (new : uri ∉ seen) :
    left uris (uri :: seen) < left uris seen := by
  have fewer : uris.filter (· ∉ uri :: seen) = (uris.filter (· ∉ seen)).filter (· ≠ uri) := by
    rw [List.filter_filter]
    apply List.filter_congr
    intro other _
    simp [not_or]
  rw [left, left, fewer]
  apply List.length_filter_lt_length_iff_exists.mpr
  exact ⟨uri, List.mem_filter.mpr ⟨member, by simpa using new⟩, by simp⟩

/-- Fuel that is enough in the place of another, or for all references that are still to be met. -/
def Lasts (complete : List Uri → Prop) (other fuel : Nat) (seen : List Uri) : Prop :=
  other ≤ fuel ∨ ∃ uris, complete uris ∧ left uris seen < fuel

/-- Two stocks of resources with two ways of following: from the targets that are claimed up to a
depth, references lead to the same targets, which are followed alike and claimed as well. -/
structure Corresponds (r r' : Resources) (f f' : Target → Check) (claimed : Nat → Target → Prop) :
    Prop where
  agrees : ∀ {depth t}, claimed depth t → ∀ a ∈ t.references,
    r'.lookup? a.scope a.text = r.lookup? a.scope a.text
  claims : ∀ {depth t}, claimed depth t → ∀ a ∈ t.references, ∀ t',
    r.lookup? a.scope a.text = some t' → claimed (a.depth depth) t'
  follows : ∀ {depth t}, claimed depth t → ∀ a ∈ t.references, ∀ t',
    r.lookup? a.scope a.text = some t' → (f t').Alike (a.depth depth) (f' t')

namespace Corresponds

variable {r r' : Resources} {f f' : Target → Check} {claimed : Nat → Target → Prop}

/-- Some references, among which are all that the claimed targets ask. -/
def Complete (claimed : Nat → Target → Prop) (uris : List Uri) : Prop :=
  ∀ {depth t}, claimed depth t → ∀ a ∈ t.references, ∀ uri,
    a.scope.base.resolveText? a.text = some uri → uri ∈ uris

/-- Entering the schema behind a new reference takes one unit of the fuel. -/
theorem lasts_enter {other fuel depth : Nat} {t : Target} {a : Asked} {uri : Uri}
    {seen : List Uri} (claim : claimed depth t) (member : a ∈ t.references)
    (named : a.scope.base.resolveText? a.text = some uri) (new : uri ∉ seen)
    (lasts : Lasts (Complete claimed) (other + 1) (fuel + 1) seen) :
    Lasts (Complete claimed) other fuel (uri :: seen) := by
  rcases lasts with le | ⟨uris, complete, enough⟩
  · exact .inl (Nat.le_of_succ_le_succ le)
  · have fewer := left_cons_lt (complete claim a member uri named) new
    exact .inr ⟨uris, complete, by omega⟩

theorem lasts_succ {other fuel : Nat} {seen : List Uri}
    (lasts : Lasts (Complete claimed) other fuel seen) :
    Lasts (Complete claimed) (other + 1) (fuel + 1) seen := by
  rcases lasts with le | ⟨uris, complete, enough⟩
  · exact .inl (Nat.succ_le_succ le)
  · exact .inr ⟨uris, complete, enough.trans (Nat.lt_succ_self fuel)⟩

/-- The references of a claimed target are answered alike when claimed targets are linked alike
with one unit of fuel less. -/
theorem reference_refines [Standards] (h : Corresponds r r' f f' claimed) {other fuel depth : Nat}
    {t : Target} (claim : claimed depth t)
    (entered : ∀ {depth t}, claimed depth t → (t.link r f other).Refines
      (Lasts (Complete claimed) other fuel) (Check.Alike depth) (t.link r' f' fuel)) :
    Schema.Answered (Lasts (Complete claimed) (other + 1) (fuel + 1))
      ⟨r, Target.link r f other, f⟩ ⟨r', Target.link r' f' fuel, f'⟩ depth t.references := by
  intro a member seen m met lasts built
  obtain ⟨uri, target, named, found⟩ := Linker.leads_of_reference_run built
  have run := Linker.reference_run (k := ⟨r, Target.link r f other, f⟩) named found seen
  have run' := Linker.reference_run (k := ⟨r', Target.link r' f' fuel, f'⟩) named
    ((h.agrees claim a member).trans found) seen
  rw [run] at built
  rw [run']
  split at built
  · next repeated =>
    rw [if_pos repeated]
    cases built
    refine ⟨lasts, _, rfl, ?_⟩
    split
    · exact .inert
    · exact .reference (h.follows claim a member target found)
  · next new =>
    rw [if_neg new]
    obtain ⟨⟨c, last⟩, entering, same⟩ := Option.map_eq_some_iff.mp built
    cases same
    have fresh : uri ∉ seen := by simpa using new
    obtain ⟨lasts, c', entering', alike⟩ := entered (h.claims claim a member target found) _ c last
      (lasts_enter claim member named fresh lasts) entering
    refine ⟨lasts_succ lasts, .reference c', ?_, .reference alike⟩
    rw [entering']
    rfl

/-- A claimed target is linked by the second where it is linked by the first, and means the same up
to its depth. The induction is on the fuel of the first. -/
theorem link_refines [Standards] (h : Corresponds r r' f f' claimed) : ∀ {other fuel depth t},
    claimed depth t → (t.link r f other).Refines (Lasts (Complete claimed) other fuel)
      (Check.Alike depth) (t.link r' f' fuel) := by
  intro other
  induction other with
  | zero =>
    intro fuel depth t _ seen c met _ built
    cases built
  | succ other ih =>
    intro fuel depth t claim seen c met lasts built
    rcases fuel with _ | fuel
    · rcases lasts with le | ⟨uris, -, enough⟩
      · cases le
      · cases enough
    · have answered : Schema.Answered _ _ ⟨r', Target.link r' f' fuel, f'⟩ depth t.references :=
        h.reference_refines claim ih
      refine Linking.Refines.bind (Linking.refines_lift _) ?_ seen c met lasts built
      rintro schema _ ⟨read, rfl⟩
      apply Schema.link_alike
      rwa [Target.references, read] at answered

theorem symm (h : Corresponds r r' f f' claimed) : Corresponds r' r f' f claimed := by
  constructor
  · intro depth t claim a member
    exact (h.agrees claim a member).symm
  · intro depth t claim a member t' found
    exact h.claims claim a member t' ((h.agrees claim a member).symm.trans found)
  · intro depth t claim a member t' found
    exact (h.follows claim a member t' ((h.agrees claim a member).symm.trans found)).symm

/-- Linked with enough fuel on both sides, a claimed target means the same to both. -/
theorem rel_link [Standards] (h : Corresponds r r' f f' claimed) {fuel fuel' depth : Nat}
    {t : Target} (claim : claimed depth t) (there : Lasts (Complete claimed) fuel fuel' [])
    (back : Lasts (Complete claimed) fuel' fuel []) :
    Option.Rel (Check.Alike depth) (((t.link r f fuel).run []).map (·.1))
      (((t.link r' f' fuel').run []).map (·.1)) := by
  rcases run : (t.link r f fuel).run [] with _ | ⟨c, met⟩
  · rcases run' : (t.link r' f' fuel').run [] with _ | ⟨c', met'⟩
    · exact .none
    · obtain ⟨-, c, built, -⟩ := h.symm.link_refines claim [] c' met' back run'
      rw [run] at built
      cases built
  · obtain ⟨-, c', built, alike⟩ := h.link_refines claim [] c met there run
    rw [built]
    exact .some alike

end Corresponds

end DocumentMigration
