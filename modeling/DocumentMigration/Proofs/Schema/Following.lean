import DocumentMigration.Proofs.Schema.References
import DocumentMigration.Schema.Compiled

/-!
How long references have to be followed. Where no reference leads back to itself at one value, the
fuel of a compiled schema is enough: more of it finds no other faults, and neither do other
resources in which the references lead to the same places.
-/
namespace DocumentMigration

open Json

/-- What a target means when so many more references may be followed, with the fuel for linking
given apart. -/
def Resources.follow [Standards] (r : Resources) (fuel : Nat) : Nat → Target → Check
  | 0, _ => .pass
  | more + 1, t => (((t.link r (r.follow fuel more) fuel).run []).map (·.1)).getD .pass

namespace CompiledSchema

/-- The targets that references lead to, one after another, from the whole document on. -/
inductive Reached (s : CompiledSchema) : Target → Prop
  | target : Reached s s.target
  | next {t a t'} (before : Reached s t) (member : a ∈ t.references)
    (found : s.resources.lookup? a.scope a.text = some t') : Reached s t'

/-- Ranks of the targets that references lead to. A reference asked for the value itself leads to a
lower rank, so that it does not come back before the value is left for its members or items. There
are no more ranks, and no more different references, than there are places. -/
structure Ranked [Standards] (s : CompiledSchema) (uris : List Uri) (rank : Target → Nat) :
    Prop where
  complete : ∀ t, s.Reached t → ∀ a ∈ t.references, ∀ uri,
    a.scope.base.resolveText? a.text = some uri → uri ∈ uris
  few : uris.length ≤ places s.root
  low : ∀ t, s.Reached t → rank t ≤ places s.root
  falls : ∀ t, s.Reached t → ∀ a ∈ t.references, a.inside = false → ∀ t',
    s.resources.lookup? a.scope a.text = some t' → rank t' < rank t

/-- No reference leads back to itself at one value. -/
def Grounded [Standards] (s : CompiledSchema) : Prop := ∃ uris rank, s.Ranked uris rank

/-- Other resources in which all references lead where they lead in the schema. -/
def Agrees (s : CompiledSchema) (r : Resources) : Prop :=
  ∀ t, s.Reached t → ∀ a ∈ t.references,
    r.lookup? a.scope a.text = s.resources.lookup? a.scope a.text

variable {s : CompiledSchema} {r : Resources}

/-- Without references only the document itself is reached. -/
theorem Reached.eq_target (unasked : s.target.references = []) {t : Target}
    (reached : s.Reached t) : t = s.target := by
  induction reached with
  | target => rfl
  | next _ member _ ih =>
    rw [ih, unasked] at member
    cases member

theorem grounded_of_references_eq_nil [Standards] (unasked : s.target.references = []) :
    s.Grounded := by
  have each (t : Target) (reached : s.Reached t) : t.references = [] := by
    rw [reached.eq_target unasked, unasked]
  refine ⟨[], fun _ => 0, ?_, Nat.zero_le _, fun _ _ => Nat.zero_le _, ?_⟩
  · intro t reached a member
    rw [each t reached] at member
    cases member
  · intro t reached a member
    rw [each t reached] at member
    cases member

theorem follow_eq [Standards] (s : CompiledSchema) (more : Nat) :
    s.follow more = s.resources.follow (places s.root + 1) more := by
  induction more with
  | zero => rfl
  | succ more ih =>
    funext t
    rw [follow, ih]
    rfl

/-- Where the schema compiles, it does with other resources and more fuel as well. -/
theorem link_of_agrees [Standards] (agrees : s.Agrees r) {f f' : Target → Check} {fuel fuel' : Nat}
    (le : fuel ≤ fuel') {c : Check} {met : List Uri}
    (built : (s.target.link s.resources f fuel).run [] = some (c, met)) :
    ∃ c', (s.target.link r f' fuel').run [] = some (c', met) := by
  have corresponds : Corresponds s.resources r f f' fun depth t => depth = 0 ∧ s.Reached t := by
    constructor
    · rintro _ t ⟨rfl, reached⟩
      exact agrees t reached
    · rintro _ t ⟨rfl, reached⟩ a member t' found
      exact ⟨a.depth_zero, reached.next member found⟩
    · rintro _ t ⟨rfl, -⟩ a _ t' _
      rw [Asked.depth_zero]
      exact Check.Alike.zero _ _
  obtain ⟨-, c', built', -⟩ := corresponds.link_refines ⟨rfl, .target⟩ [] c met (.inl le) built
  exact ⟨c', built'⟩

namespace Ranked

variable [Standards] {uris : List Uri} {rank : Target → Nat}

/-- What a level of the value and the ranks below it may take. -/
abbrev cost (s : CompiledSchema) (rank : Target → Nat) (depth : Nat) (t : Target) : Nat :=
  depth * (places s.root + 1) + rank t

/-- Behind a reference there is less to do: it leads to a lower rank or deeper into the value. -/
theorem cost_lt (ranked : s.Ranked uris rank) {t t' : Target} (reached : s.Reached t) {a : Asked}
    (member : a ∈ t.references) (found : s.resources.lookup? a.scope a.text = some t')
    (depth : Nat) : a.depth depth = 0 ∨ cost s rank (a.depth depth) t' < cost s rank depth t := by
  rcases inside : a.inside with _ | _
  · have lower := ranked.falls t reached a member inside t' found
    simp only [Asked.depth, inside, cost, Bool.false_eq_true, if_false]
    exact .inr (by omega)
  · have low := ranked.low t' (reached.next member found)
    simp only [Asked.depth, inside, cost, if_true]
    rcases depth with _ | depth
    · exact .inl rfl
    · rw [Nat.succ_mul, Nat.add_sub_cancel]
      exact .inr (by omega)

/-- All references can be met with the fuel for linking. -/
theorem lasts (ranked : s.Ranked uris rank) {claimed : Nat → Target → Prop}
    (reaches : ∀ {depth t}, claimed depth t → s.Reached t) (other : Nat) {fuel : Nat}
    (enough : places s.root < fuel) : Lasts (Corresponds.Complete claimed) other fuel [] := by
  refine .inr ⟨uris, ?_, ?_⟩
  · intro depth t claim
    exact ranked.complete t (reaches claim)
  · have few := ranked.few
    have all := List.length_filter_le (· ∉ ([] : List Uri)) uris
    unfold left
    omega

/-- The targets that some fuel is enough for, up to a depth. -/
def Within (s : CompiledSchema) (rank : Target → Nat) (more depth : Nat) (t : Target) : Prop :=
  s.Reached t ∧ (depth = 0 ∨ cost s rank depth t ≤ more)

/-- References are followed to the end when the fuel is enough for every level of the value and for
the ranks at each of them. -/
theorem follow_alike (ranked : s.Ranked uris rank) (agrees : s.Agrees r)
    {fuel fuel' : Nat} (enough : places s.root < fuel) (enough' : places s.root < fuel') :
    ∀ {more more' depth t}, s.Reached t → cost s rank depth t < more →
    cost s rank depth t < more' →
    (s.resources.follow fuel more t).Alike depth (r.follow fuel' more' t) := by
  intro more
  induction more with
  | zero =>
    intro more' depth t _ bound
    cases bound
  | succ more ih =>
    intro more' depth t reached bound bound'
    rcases more' with _ | more'
    · cases bound'
    have corresponds : Corresponds s.resources r (s.resources.follow fuel more)
        (r.follow fuel' more') (Within s rank (min more more')) := by
      constructor
      · intro depth t claim
        exact agrees t claim.1
      · rintro depth t ⟨reached, bound⟩ a member t' found
        refine ⟨reached.next member found, ?_⟩
        rcases ranked.cost_lt reached member found depth with idle | less
        · exact .inl idle
        · rcases bound with rfl | bound
          · exact .inl a.depth_zero
          · exact .inr (less.le.trans bound)
      · rintro depth t ⟨reached, bound⟩ a member t' found
        rcases ranked.cost_lt reached member found depth with idle | less
        · rw [idle]
          exact Check.Alike.zero _ _
        · rcases bound with rfl | bound
          · rw [Asked.depth_zero]
            exact Check.Alike.zero _ _
          · have strict := less.trans_le bound
            exact ih (reached.next member found) (strict.trans_le (min_le_left _ _))
              (strict.trans_le (min_le_right _ _))
    have claim : Within s rank (min more more') depth t :=
      ⟨reached, .inr (le_min (Nat.le_of_lt_succ bound) (Nat.le_of_lt_succ bound'))⟩
    have related := corresponds.rel_link claim (ranked.lasts (·.1) fuel enough')
      (ranked.lasts (·.1) fuel' enough)
    simp only [Resources.follow]
    generalize ((t.link s.resources _ fuel).run []).map (·.1) = c,
      ((t.link r _ fuel').run []).map (·.1) = c' at related
    cases related with
    | none => exact Check.alike_pass
    | some alike => exact alike

end Ranked

/-- The faults of a value are those that are found with any more fuel, also with other resources. -/
theorem Grounded.faults_under [Standards] (grounded : s.Grounded) (agrees : s.Agrees r)
    (outer : Place) {v : Value} {fuel more : Nat} (enough : places s.root < fuel)
    (lasting : (v.depth + 2) * (places s.root + 1) ≤ more) :
    r.follow fuel more s.target outer v = (s.faults v).map (Fault.under outer) := by
  obtain ⟨uris, rank, ranked⟩ := grounded
  have low := ranked.low s.target .target
  have cost : Ranked.cost s rank (v.depth + 1) s.target < (v.depth + 2) * (places s.root + 1) := by
    rw [Ranked.cost, Nat.succ_mul (v.depth + 1)]
    omega
  have alike := ranked.follow_alike agrees (Nat.lt_succ_self (places s.root)) enough .target cost
    (cost.trans_le lasting)
  rw [faults, follow_eq]
  simpa using alike.faults outer {} v (Nat.lt_succ_self v.depth)

end CompiledSchema

end DocumentMigration
