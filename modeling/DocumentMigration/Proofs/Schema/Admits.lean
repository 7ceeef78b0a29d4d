import DocumentMigration.Proofs.Schema.Collection

/-!
What a schema asks of a value, for schemas whose keywords judge a value each by itself, also where
they refer to definitions of the document that do not refer back. The check that is built for such a
schema finds no fault just with the values that the schema admits.
-/
namespace DocumentMigration

open Json

namespace Check

/-- A report of no fault just where a condition holds. -/
def Judges (r : Report) (good : Value → Prop) : Prop := ∀ place v, r place v = [] ↔ good v

variable {c : Check} {good : Value → Prop}

theorem judges_pass : Judges pass.report fun _ => True := fun _ _ => iff_of_true rfl trivial

theorem judges_fail : Judges fail.report fun _ => False :=
  fun _ _ => iff_of_false (List.cons_ne_nil _ _) id

theorem judges_assertion (a : Assertion) : Judges (assertion a) fun v => a.holds v := by
  intro place v
  unfold assertion
  split
  · next holds => exact iff_of_true rfl holds
  · next broken =>
    refine iff_of_false ?_ broken
    split
    · exact List.cons_ne_nil _ _
    · next lacking => simpa using lacking

theorem judges_items (h : Judges c.report good) :
    Judges (items 0 c) fun v => ∀ xs, v = .array xs → ∀ x ∈ xs, good x := by
  intro place v
  cases v with
  | array xs =>
    simp only [Check.items, List.drop_zero, List.flatMap_eq_nil_iff, Value.array.injEq,
      forall_eq']
    constructor
    · intro clear x member
      obtain ⟨i, at_⟩ := List.mem_iff_getElem?.mp member
      exact (h _ x).mp (clear (x, i) (List.mem_zipIdx_iff_getElem?.mpr at_))
    · rintro each ⟨x, i⟩ member
      exact (h _ x).mpr (each x (List.fst_mem_of_mem_zipIdx member))
  | _ => simp [Check.items]

end Check

namespace Linking

variable {α β : Type} {holds : α → Prop} {holds' : β → Prop}

/-- Building succeeds whatever references have been met, with a result of one kind. -/
def Builds (m : Linking α) (holds : α → Prop) : Prop :=
  ∀ seen, ∃ a met, m.run seen = some (a, met) ∧ holds a

theorem builds_pure {a : α} (h : holds a) : Builds (pure a) holds := fun seen => ⟨a, seen, rfl, h⟩

theorem Builds.bind {m : Linking α} {f : α → Linking β} (first : Builds m holds)
    (next : ∀ a, holds a → Builds (f a) holds') : Builds (m >>= f) holds' := by
  intro seen
  obtain ⟨a, met, one, here⟩ := first seen
  obtain ⟨b, last, two, there⟩ := next a here met
  exact ⟨b, last, run_bind_eq_some.mpr ⟨a, met, one, two⟩, there⟩

theorem Builds.imp {m : Linking α} {wider : α → Prop} (h : Builds m holds)
    (imp : ∀ a, holds a → wider a) : Builds m wider := by
  intro seen
  obtain ⟨a, met, built, here⟩ := h seen
  exact ⟨a, met, built, imp a here⟩

end Linking

namespace Schema

/-- What references ask of a value, by their texts. -/
abbrev Asks := String → Value → Prop

section Admits

variable (asks : Asks)

mutual
/-- A value that a schema finds no fault with, keyword by keyword. -/
def Admits : Schema → Value → Prop
  | .always, _ => True
  | .never, _ => False
  | .object keywords, v => KeywordsAdmit keywords v

def KeywordsAdmit : List (String × Keyword) → Value → Prop
  | [], _ => True
  | (name, content) :: rest, v =>
    (Draft.isAside name = false → ContentAdmits content v) ∧ KeywordsAdmit rest v

def ContentAdmits : Keyword → Value → Prop
  | .assertion a, v => a.holds v
  | .reference text, v => asks text v
  | .one _ schema, v => ∀ xs, v = .array xs → ∀ x ∈ xs, Admits schema x
  | .many schemas, v => ∀ ms, v = .object ms → MembersAdmit schemas ms
  | _, _ => True

def MembersAdmit : List (String × Schema) → Object → Prop
  | [], _ => True
  | (name, schema) :: rest, ms =>
    (∀ x, Object.get? name ms = some x → Admits schema x) ∧ MembersAdmit rest ms
end

end Admits

mutual
/-- A schema of the latest edition with keywords that each judge a value by itself: assertions,
references, members by their names and items. -/
def isPlainSchema : Schema → Bool
  | .always | .never => true
  | .object keywords => arePlainKeywords keywords

def arePlainKeywords : List (String × Keyword) → Bool
  | [] => true
  | (name, content) :: rest =>
    !(["if", "then", "else", "$recursiveRef"].contains name) && isPlainText name content
      && (Draft.isAside name || isPlainContent name content) && arePlainKeywords rest

def isPlainContent (name : String) : Keyword → Bool
  | .one _ schema => name = "items" && isPlainSchema schema
  | .many schemas => name = "properties" && arePlainMembers schemas
  | .patterned _ | .pattern _ => false
  | _ => true

def arePlainMembers : List (String × Schema) → Bool
  | [] => true
  | (_, schema) :: rest => isPlainSchema schema && arePlainMembers rest

/-- A text that changes nothing of what surrounds a schema of the latest edition. -/
def isPlainText (name : String) : Keyword → Bool
  | .text text | .reference text =>
    name ≠ "$id" && (name ≠ "$schema" || Draft.ofIdentifier? text = some .draft2020)
  | _ => true
end

/-- Checks of members by name that judge what the schemas of these names admit. -/
abbrev MembersJudged (asks : Asks) (checks : List (String × Check))
    (schemas : List (String × Schema)) : Prop :=
  List.Forall₂ (fun c s => c.1 = s.1 ∧ Check.Judges c.2.report (Admits asks s.2)) checks schemas

/-- What a keyword means, as the check of one that judges a value by itself. -/
inductive Judged (asks : Asks) : String → Check.Meaning → Keyword → Prop
  | assertion {name} (a : Assertion) : Judged asks name (.assertion a) (.assertion a)
  | reference {name c text} (h : Check.Judges c.report (asks text)) :
    Judged asks name (.reference c) (.reference text)
  | items {c schema} (source : Value) (h : Check.Judges c.report (Admits asks schema)) :
    Judged asks "items" (.one source c) (.one source schema)
  | properties {checks schemas} (h : MembersJudged asks checks schemas) :
    Judged asks "properties" (.many checks) (.many schemas)
  | limit {name} (n : Nat) : Judged asks name (.limit n) (.limit n)
  | text {name} (text : String) : Judged asks name .inert (.text text)
  | inert {name} : Judged asks name .inert .inert

/-- The keywords of a schema that come to bear, each with its meaning. -/
inductive KeywordsJudged (asks : Asks) : Check.Siblings → List (String × Keyword) → Prop
  | nil : KeywordsJudged asks [] []
  | cons {name m content siblings keywords} (reached : Draft.isAside name = false)
    (head : Judged asks name m content) (rest : KeywordsJudged asks siblings keywords) :
    KeywordsJudged asks ((name, m) :: siblings) ((name, content) :: keywords)
  | aside {name content siblings keywords} (aside : Draft.isAside name = true)
    (rest : KeywordsJudged asks siblings keywords) :
    KeywordsJudged asks siblings ((name, content) :: keywords)

mutual
/-- The texts of the references in a plain schema that come to bear. -/
def askedTexts : Schema → List String
  | .always | .never => []
  | .object keywords => keywordTexts keywords

def keywordTexts : List (String × Keyword) → List String
  | [] => []
  | (name, content) :: rest =>
    (if Draft.isAside name then [] else contentTexts content) ++ keywordTexts rest

def contentTexts : Keyword → List String
  | .one _ schema => askedTexts schema
  | .many schemas => namedTexts schemas
  | .reference text => [text]
  | _ => []

def namedTexts : List (String × Schema) → List String
  | [] => []
  | (_, schema) :: rest => askedTexts schema ++ namedTexts rest
end

variable {asks : Asks} {name : String} {m : Check.Meaning} {content : Keyword}
  {siblings all : Check.Siblings} {keywords : List (String × Keyword)}

theorem KeywordsJudged.of_mem (h : KeywordsJudged asks siblings keywords) :
    ∀ s ∈ siblings, ∃ content, Judged asks s.1 s.2 content := by
  induction h with
  | nil => simp
  | cons _ head _ ih => exact List.forall_mem_cons.mpr ⟨⟨_, head⟩, ih⟩
  | aside _ _ ih => exact ih

theorem KeywordsJudged.of_lookup (h : KeywordsJudged asks siblings keywords)
    (found : siblings.lookup name = some m) : ∃ content, Judged asks name m content := by
  obtain ⟨before, after, rfl, -⟩ := List.lookup_eq_some_iff.mp found
  exact h.of_mem (name, m) (by simp)

theorem Judged.eq_properties {checks : List (String × Check)}
    (h : Judged asks name (.many checks) content) : name = "properties" := by
  cases h
  rfl

theorem Judged.eq_items {source : Value} {c : Check}
    (h : Judged asks name (.one source c) content) : name = "items" := by
  cases h
  rfl

/-- No keyword here takes items or members away from the others. -/
theorem KeywordsJudged.prefixCount (h : KeywordsJudged asks siblings keywords) :
    siblings.prefixCount = 0 := by
  unfold Check.Siblings.prefixCount Check.Siblings.many?
  split
  · next checks found =>
    obtain ⟨_, judged⟩ := h.of_lookup found
    exact absurd judged.eq_properties (by decide)
  · rfl

theorem KeywordsJudged.closed (h : KeywordsJudged asks siblings keywords) :
    siblings.closed = false := by
  unfold Check.Siblings.closed
  split
  · rfl
  · next found =>
    obtain ⟨_, judged⟩ := h.of_lookup found
    exact absurd judged.eq_items (by decide)
  · rfl

theorem judges_properties {checks : List (String × Check)} {schemas : List (String × Schema)}
    (h : MembersJudged asks checks schemas) :
    Check.Judges (Check.properties checks) fun v => ∀ ms, v = .object ms →
      MembersAdmit asks schemas ms := by
  intro place v
  cases v with
  | object ms =>
    simp only [Check.properties, Value.object.injEq, forall_eq']
    induction h with
    | nil => exact iff_of_true rfl trivial
    | @cons c s checks schemas head _ ih =>
      obtain ⟨same, judged⟩ := head
      rw [List.flatMap_cons, List.append_eq_nil_iff, ih, MembersAdmit, ← same]
      refine and_congr_left fun _ => ?_
      cases Object.get? c.1 ms with
      | none => simp
      | some x => simpa using judged _ x
  | _ => simp [Check.properties]

theorem Judged.keyword (h : Judged asks name m content) (unprefixed : all.prefixCount = 0)
    (open_ : all.closed = false) :
    Check.Judges (Check.keyword .draft2020 all name m) (ContentAdmits asks content) := by
  intro place v
  cases h with
  | assertion a => exact Check.judges_assertion a place v
  | reference h => exact h _ v
  | items source h =>
    have items := Check.judges_items h (place.keyword "items") v
    simpa [Check.keyword, unprefixed, ContentAdmits] using items
  | properties h =>
    have properties := judges_properties h (place.keyword "properties") v
    simpa [Check.keyword, open_, ContentAdmits] using properties
  | _ => exact iff_of_true rfl trivial

/-- Keywords among all the siblings of their schema, of which they may be a part. -/
theorem KeywordsJudged.among (h : KeywordsJudged asks siblings keywords)
    (unprefixed : all.prefixCount = 0) (open_ : all.closed = false) (place : Place) (v : Value) :
    (siblings.flatMap fun (name, m) => Check.keyword .draft2020 all name m place v) = [] ↔
      KeywordsAdmit asks keywords v := by
  induction h with
  | nil => exact iff_of_true rfl trivial
  | cons reached head _ ih =>
    rw [List.flatMap_cons, List.append_eq_nil_iff, ih, KeywordsAdmit,
      head.keyword unprefixed open_ place v]
    simp [reached]
  | aside aside _ ih =>
    rw [ih, KeywordsAdmit]
    simp [aside]

/-- The check of a schema object finds no fault just with what its keywords admit. -/
theorem KeywordsJudged.object (h : KeywordsJudged asks siblings keywords) :
    Check.Judges (Check.object .draft2020 siblings).report (Admits asks (.object keywords)) :=
  h.among h.prefixCount h.closed

section Link

variable {k : Linker} {s : Scope}

/-- References that are answered by checks that judge what is asked. -/
def AnsweredBy (k : Linker) (s : Scope) (asks : Asks) (texts : List String) : Prop :=
  ∀ text ∈ texts, (k.reference s text).Builds fun m =>
    ∃ c, m = .reference c ∧ Check.Judges c.report (asks text)

theorem answeredBy_append {texts texts' : List String} : AnsweredBy k s asks (texts ++ texts') ↔
    AnsweredBy k s asks texts ∧ AnsweredBy k s asks texts' :=
  List.forall_mem_append

theorem plain_cons (plain : arePlainKeywords ((name, content) :: keywords)) :
    ["if", "then", "else", "$recursiveRef"].contains name = false ∧ isPlainText name content ∧
      (Draft.isAside name = false → isPlainContent name content) ∧ arePlainKeywords keywords := by
  simp only [arePlainKeywords, Bool.and_eq_true, Bool.not_eq_true', Bool.or_eq_true] at plain
  obtain ⟨⟨⟨branch, text⟩, bears⟩, rest⟩ := plain
  refine ⟨branch, text, fun reached => ?_, rest⟩
  rcases bears with aside | bears
  · rw [reached] at aside
    cases aside
  · exact bears

theorem textOf?_cons_of_ne {key : String} (other : key ≠ name) :
    textOf? ((name, content) :: keywords) key = textOf? keywords key := by
  have differ : (key == name) = false := beq_false_of_ne other
  simp [textOf?, List.lookup_cons, differ]

/-- A text of plain keywords is no identifier, and names no other edition. -/
theorem text_of_plain (plain : arePlainKeywords keywords) {key text : String}
    (found : textOf? keywords key = some text) :
    key ≠ "$id" ∧ (key = "$schema" → Draft.ofIdentifier? text = some .draft2020) := by
  induction keywords with
  | nil => cases found
  | cons keyword keywords ih =>
    obtain ⟨name, content⟩ := keyword
    obtain ⟨-, silent, -, rest⟩ := plain_cons plain
    by_cases here : key = name
    · subst here
      simp only [textOf?, List.lookup_cons_self, Option.bind_some] at found
      cases content with
      | text _ | reference _ =>
        cases found
        simpa [isPlainText, or_iff_not_imp_left] using silent
      | _ => cases found
    · rw [textOf?_cons_of_ne here] at found
      exact ih rest found

/-- Texts that change nothing leave a schema the surroundings of its place. -/
theorem inside?_of_plain (latest : s.draft = .draft2020) (plain : arePlainKeywords keywords) :
    s.inside? (textOf? keywords) = some s := by
  apply Scope.inside?_eq_self latest
  · refine Option.eq_none_iff_forall_ne_some.mpr fun text found => ?_
    exact (text_of_plain plain found).1 rfl
  · rcases found : textOf? keywords "$schema" with _ | text
    · rfl
    · simp [(text_of_plain plain found).2 rfl]

theorem reaches_of_plain (branch : ["if", "then", "else", "$recursiveRef"].contains name = false)
    (names : List String) : Draft.reaches .draft2020 names name = !Draft.isAside name := by
  simp only [List.contains_cons, List.contains_nil, Bool.or_false, Bool.or_eq_false_iff,
    beq_eq_false_iff_ne] at branch
  obtain ⟨notIf, notThen, notElse, notOlder⟩ := branch
  have alone : Draft.draft2020.referenceStandsAlone = false := rfl
  simp [Draft.reaches, alone, notIf, notThen, notElse, notOlder]

/-- No text names a rule in the latest edition. -/
theorem textRule?_latest [Standards] (texts : String → Option String) (name text : String) :
    textRule? .draft2020 texts name text = none := by
  have silent : Draft.draft2020.judgesText name = false := by
    unfold Draft.judgesText
    split <;> rfl
  rw [textRule?, silent]
  rfl

variable [Standards]

mutual
/-- The check that is built for a plain schema judges what the schema admits. -/
theorem link_judges (latest : s.draft = .draft2020) : (schema : Schema) → isPlainSchema schema →
    AnsweredBy k s asks (askedTexts schema) →
    (link k s schema).Builds fun c => Check.Judges c.report (Admits asks schema)
  | .always, _, _ => Linking.builds_pure Check.judges_pass
  | .never, _, _ => Linking.builds_pure Check.judges_fail
  | .object keywords, plain, answered => by
    have surroundings := inside?_of_plain latest plain
    have here : (liftM (some s) : Linking Scope) = pure s := rfl
    unfold link
    rw [surroundings, here, pure_bind]
    apply (linkKeywords_judges latest _ _ (fun name text => ?_) keywords plain answered).bind
    · intro siblings judged
      rw [latest]
      exact Linking.builds_pure judged.object
    · rw [latest]
      exact textRule?_latest _ name text

theorem linkKeywords_judges (latest : s.draft = .draft2020) (names : List String)
    (rule? : String → String → Option Assertion) (silent : ∀ name text, rule? name text = none) :
    (keywords : List (String × Keyword)) → arePlainKeywords keywords →
    AnsweredBy k s asks (keywordTexts keywords) →
    (linkKeywords k s (s.draft.reaches names) rule? keywords).Builds fun siblings =>
      KeywordsJudged asks siblings keywords
  | [], _, _ => Linking.builds_pure .nil
  | (name, content) :: rest, plain, answered => by
    obtain ⟨here, later⟩ := answeredBy_append.mp answered
    obtain ⟨branch, -, bears, plainRest⟩ := plain_cons plain
    have reaches := reaches_of_plain branch names
    have others := linkKeywords_judges latest names rule? silent rest plainRest later
    unfold linkKeywords
    cases aside : Draft.isAside name with
    | true =>
      rw [latest, reaches, aside, if_neg (by decide), ← latest]
      exact others.imp fun _ judged => .aside aside judged
    | false =>
      rw [if_neg (by simp [aside])] at here
      rw [latest, reaches, aside, if_pos (by decide), ← latest]
      apply (linkContent_judges latest name (rule? name) (silent name) content (bears aside)
        here).bind
      intro meaning judged
      apply others.bind
      intro siblings judgedRest
      exact Linking.builds_pure (.cons aside judged judgedRest)

theorem linkContent_judges (latest : s.draft = .draft2020) (name : String)
    (rule? : String → Option Assertion) (silent : ∀ text, rule? text = none) :
    (content : Keyword) → isPlainContent name content →
    AnsweredBy k s asks (contentTexts content) →
    (linkContent k s rule? content).Builds fun m => Judged asks name m content
  | .one source schema, plain, answered => by
    simp only [isPlainContent, Bool.and_eq_true, decide_eq_true_eq] at plain
    obtain ⟨rfl, plain⟩ := plain
    apply (link_judges latest schema plain answered).bind
    intro c judged
    exact Linking.builds_pure (.items source judged)
  | .many schemas, plain, answered => by
    simp only [isPlainContent, Bool.and_eq_true, decide_eq_true_eq] at plain
    obtain ⟨rfl, plain⟩ := plain
    apply (linkMany_judges latest schemas plain answered).bind
    intro checks judged
    exact Linking.builds_pure (.properties judged)
  | .assertion a, _, _ => by
    unfold linkContent
    rw [latest, Assertion.inDraft_latest]
    exact Linking.builds_pure (.assertion a)
  | .limit n, _, _ => Linking.builds_pure (.limit n)
  | .reference text, _, answered => by
    refine (answered _ List.mem_cons_self).imp ?_
    rintro _ ⟨c, rfl, judged⟩
    exact .reference judged
  | .text t, _, _ => by
    unfold linkContent
    rw [silent]
    exact Linking.builds_pure (.text t)
  | .inert, _, _ => Linking.builds_pure .inert
  | .patterned _, plain, _ | .pattern _, plain, _ => by cases plain

theorem linkMany_judges (latest : s.draft = .draft2020) : (schemas : List (String × Schema)) →
    arePlainMembers schemas → AnsweredBy k s asks (namedTexts schemas) →
    (linkMany k s schemas).Builds fun checks => MembersJudged asks checks schemas
  | [], _, _ => Linking.builds_pure .nil
  | (name, schema) :: rest, plain, answered => by
    simp only [arePlainMembers, Bool.and_eq_true] at plain
    obtain ⟨here, later⟩ := answeredBy_append.mp answered
    apply (link_judges latest schema plain.1 here).bind
    intro c judged
    apply (linkMany_judges latest rest plain.2 later).bind
    intro checks judgedRest
    exact Linking.builds_pure (.cons ⟨rfl, judged⟩ judgedRest)
end

end Link

end Schema

end DocumentMigration
