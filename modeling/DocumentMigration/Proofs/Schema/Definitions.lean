import DocumentMigration.Proofs.Schema.Admits

/-!
Documents with definitions. A reference in such a document is a pointer from its root to one of the
definitions, and no definition refers back to itself, so a definition means what it says with the
meanings of those that it refers to put in.
-/
namespace DocumentMigration

open Json

/-- The segments of a pointer from the root of the document, where a reference is one. -/
def pointerOf? (text : String) : Option (List String) := do
  let uri ← Uri.unnamed.resolveText? text
  if uri.withoutFragment = .unnamed then
    match (Uri.cut '#' text.toList).2.getD [] with
    | '/' :: pointer => do
      let text ← Pointer.percentDecode (String.ofList pointer)
      return (text.toList.splitOn '/').map String.ofList
    | _ => none
  else none

section Pointers

variable {root : Value} {entries : List Entry} {text : String}

theorem lookup?_of_pointer {segments : List String} (pointer : pointerOf? text = some segments) :
    (Resources.ofRoot root entries).lookup? .outermost text =
      Resources.descend? .outermost root segments := by
  obtain ⟨uri, resolved, pointer⟩ := Option.bind_eq_some_iff.mp pointer
  obtain ⟨unnamed, pointer⟩ := Option.ite_none_right_eq_some.mp pointer
  have base : Scope.outermost.enter .unnamed = .outermost := rfl
  rw [Asked.lookup?_eq ⟨.outermost, text, false⟩, resolved, Option.bind_some, unnamed, base]
  split at pointer
  · next rest fragment =>
    obtain ⟨decoded, read, pointer⟩ := Option.bind_eq_some_iff.mp pointer
    cases pointer
    simp [Asked.fragment, fragment, Resources.place?, resource?_unnamed, read]
  · cases pointer

/-- A pointer to a definition leads there, as the object of the definitions names no edition and
has no identifier of its own. -/
theorem lookup?_definition {name : String} {members definitions : Object} {contents : Value}
    (pointer : pointerOf? text = some ["$defs", name]) (plain : Pointer.unescape name = name)
    (all : Object.get? "$defs" members = some (.object definitions))
    (found : Object.get? name definitions = some contents)
    (unnamed : Scope.textOf? "$id" (.object definitions) = none)
    (edition : Scope.textOf? "$schema" (.object definitions) = none) :
    (Resources.ofRoot (.object members) entries).lookup? .outermost text =
      some ⟨contents, .outermost⟩ := by
  have inside : Scope.outermost.inside? (Scope.textOf? · (.object definitions)) =
      some .outermost :=
    Scope.inside?_eq_self rfl unnamed (by rw [edition]; rfl)
  have key : Pointer.unescape "$defs" = "$defs" := by decide +kernel
  rw [lookup?_of_pointer pointer]
  simp [Resources.descend?, Resources.child?, key, plain, all, found, inside]

end Pointers

namespace Schema

/-- Definitions by the texts of the references to them, with what they ask of a value. -/
abbrev Definitions := List (String × (Value → Prop))

def asksOf (definitions : Definitions) : Asks := fun text v =>
  match definitions.lookup text with
  | some good => good v
  | none => False

/-- A plain schema that asks something of a value, with the definitions that it needs for it. -/
def Reads (contents : Value) (needs : Definitions) (good : Value → Prop) : Prop :=
  ∃ schema, ofValue? contents = some schema ∧ isPlainSchema schema ∧
    schema.askedTexts ⊆ needs.map (·.1) ∧ schema.Admits (asksOf needs) = good

/-- Definitions that the resources of a document have under the texts of references. Each needs
later ones of the list only. -/
inductive Defines (r : Resources) : Definitions → Prop
  | nil : Defines r []
  | cons {text contents needs good rest}
    (leads : r.lookup? .outermost text = some ⟨contents, .outermost⟩)
    (direct : Scope.textOf? "$ref" contents = none) (reads : Reads contents needs good)
    (known : needs ⊆ rest) (later : Defines r rest) : Defines r ((text, good) :: rest)

theorem asksOf_cons_self (text : String) (good : Value → Prop) (rest : Definitions) :
    asksOf ((text, good) :: rest) text = good := by
  funext v
  simp [asksOf]

theorem asksOf_cons_of_ne {text head : String} (other : text ≠ head) (good : Value → Prop)
    (rest : Definitions) : asksOf ((head, good) :: rest) text = asksOf rest text := by
  have differ : (text == head) = false := by simpa using other
  funext v
  simp [asksOf, List.lookup_cons, differ]

/-- A text of some definitions asks what one of them asks. -/
theorem asksOf_mem {definitions : Definitions} {text : String}
    (member : text ∈ definitions.map (·.1)) : (text, asksOf definitions text) ∈ definitions := by
  induction definitions with
  | nil => cases member
  | cons d rest ih =>
    obtain ⟨head, good⟩ := d
    by_cases first : text = head
    · rw [first, asksOf_cons_self]
      exact List.mem_cons_self
    · rw [asksOf_cons_of_ne first]
      exact List.mem_cons_of_mem _ (ih (by simpa [first] using member))

end Schema

namespace CompiledSchema

variable [Standards] {s : CompiledSchema} {t : Target} {enough fuel more : Nat}
  {good : Value → Prop}

/-- With enough fuel for linking and for following, a target means a check that judges. -/
def Judges (s : CompiledSchema) (enough : Nat) (t : Target) (good : Value → Prop) : Prop :=
  ∀ fuel more, enough ≤ fuel → enough ≤ more →
    (t.link s.resources (s.follow more) fuel).Builds fun c => Check.Judges c.report good

theorem Judges.mono {wider : Nat} (h : s.Judges enough t good) (le : enough ≤ wider) :
    s.Judges wider t good :=
  fun fuel more linked followed => h fuel more (le.trans linked) (le.trans followed)

theorem Judges.follow (h : s.Judges enough t good) (linked : enough ≤ places s.root + 1)
    (followed : enough + 1 ≤ more) : Check.Judges (s.follow more t).report good := by
  obtain ⟨more, rfl⟩ := Nat.exists_eq_add_of_le' followed
  obtain ⟨c, met, built, judged⟩ := h (places s.root + 1) (more + enough) linked (by omega) []
  intro place v
  have check : s.check? (s.follow (more + enough)) t = some c := by rw [check?, built]; rfl
  show s.follow (more + enough + 1) t place v = [] ↔ good v
  rw [CompiledSchema.follow, check]
  exact judged place v

/-- The text of a reference that leads to what means a check that judges. -/
def Answers (s : CompiledSchema) (enough : Nat) (text : String) (good : Value → Prop) : Prop :=
  ∃ contents, s.resources.lookup? .outermost text = some ⟨contents, .outermost⟩ ∧
    Scope.textOf? "$ref" contents = none ∧ s.Judges enough ⟨contents, .outermost⟩ good

/-- Met for the first time or not, a reference means what it leads to. -/
theorem Answers.reference {text : String} (h : s.Answers enough text good)
    (small : enough ≤ places s.root + 1) (linked : enough ≤ fuel) (followed : enough + 1 ≤ more) :
    (Linker.reference ⟨s.resources, Target.link s.resources (s.follow more) fuel, s.follow more⟩
      .outermost text).Builds fun m => ∃ c, m = .reference c ∧ Check.Judges c.report good := by
  obtain ⟨contents, found, direct, judged⟩ := h
  obtain ⟨uri, named, -⟩ := Option.bind_eq_some_iff.mp found
  intro seen
  have run := Linker.reference_run (k := ⟨s.resources, Target.link s.resources (s.follow more) fuel,
    s.follow more⟩) named found seen
  rw [run]
  split
  · have other : ¬Scope.textOf? "$ref" contents = some text := by simp [direct]
    rw [if_neg other]
    exact ⟨_, _, rfl, _, rfl, judged.follow small followed⟩
  · obtain ⟨c, met, built, judged⟩ := judged fuel more linked (by omega) (uri :: seen)
    exact ⟨.reference c, met, by rw [built]; rfl, c, rfl, judged⟩

/-- A schema means what it asks when the definitions that it needs mean what they ask. -/
theorem judges_of_reads {needs : Schema.Definitions} (reads : Schema.Reads t.contents needs good)
    (outermost : t.scope = .outermost) (answers : ∀ n ∈ needs, s.Answers enough n.1 n.2)
    (small : enough ≤ places s.root + 1) : s.Judges (enough + 1) t good := by
  obtain ⟨schema, read, plain, asked, rfl⟩ := reads
  intro fuel more linked followed
  obtain ⟨fuel, rfl⟩ := Nat.exists_eq_add_of_le' linked
  have here : (liftM (some schema) : Linking Schema) = pure schema := rfl
  rw [← Nat.add_assoc, Target.link, read, here, pure_bind, outermost]
  apply Schema.link_judges rfl schema plain
  intro text member
  have answered := answers _ (Schema.asksOf_mem (asked member))
  exact answered.reference small (by omega) followed

end CompiledSchema

variable [Standards] {s : CompiledSchema} {definitions needs : Schema.Definitions}
  {good : Value → Prop}

open CompiledSchema

/-- Each definition means what it asks, with fuel for as many definitions as there are. -/
theorem Schema.Defines.answers (defines : Defines s.resources definitions)
    (few : definitions.length ≤ places s.root + 1) :
    ∀ d ∈ definitions, s.Answers definitions.length d.1 d.2 := by
  induction defines with
  | nil => simp
  | @cons text contents needs good rest leads direct reads known later ih =>
    have fewer : rest.length ≤ places s.root + 1 := Nat.le_of_succ_le few
    have answers := ih fewer
    refine List.forall_mem_cons.mpr ⟨?_, ?_⟩
    · have judged : s.Judges (rest.length + 1) ⟨contents, .outermost⟩ good :=
        judges_of_reads reads rfl (fun n member => answers n (known member)) fewer
      exact ⟨contents, leads, direct, judged⟩
    · intro d member
      obtain ⟨contents, found, direct, judged⟩ := answers d member
      exact ⟨contents, found, direct, judged.mono (Nat.le_succ _)⟩

/-- A document of plain schemas compiles, and finds no fault just with the values that it asks
for. -/
theorem CompiledSchema.faults_eq_nil_iff_of_reads (reads : Schema.Reads s.root needs good)
    (known : needs ⊆ definitions) (defines : Schema.Defines s.resources definitions)
    (own : Resources.ofValue? s.root = some s.resources)
    (few : definitions.length ≤ places s.root) :
    ofValue? s.root = some s ∧ ∀ v, s.faults v = [] ↔ good v := by
  have answers := defines.answers (Nat.le_succ_of_le few)
  have judged : s.Judges (definitions.length + 1) s.target good :=
    judges_of_reads reads rfl (fun n member => answers n (known member)) (Nat.le_succ_of_le few)
  constructor
  · -- What references are followed with does not matter for whether the document compiles.
    obtain ⟨c, met, built, -⟩ := judged (places s.root + 1) (places s.root + 1)
      (Nat.succ_le_succ few) (Nat.succ_le_succ few) []
    obtain ⟨c', built'⟩ : ∃ c', (s.target.link s.resources (fun _ => .pass)
        (places s.root + 1)).run [] = some (c', met) :=
      link_of_agrees (fun _ _ _ _ => rfl) le_rfl built
    have check : s.check? (fun _ => .pass) s.target = some c' := by
      rw [check?, built']
      rfl
    obtain ⟨schema, read, -⟩ := reads
    simp [ofValue?, read, own, check]
  · intro v
    refine judged.follow (Nat.succ_le_succ few) ?_ {} v
    calc definitions.length + 1 + 1 ≤ 2 * (places s.root + 1) := by omega
      _ ≤ (v.depth + 2) * (places s.root + 1) := Nat.mul_le_mul_right _ (by omega)

end DocumentMigration
