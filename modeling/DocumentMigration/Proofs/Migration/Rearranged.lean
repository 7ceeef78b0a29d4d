import DocumentMigration.Migration.Basic
import DocumentMigration.Proofs.Change.Permuted
import DocumentMigration.Proofs.Template.Canonical
import DocumentMigration.Store.Memory

/-! Attributes declared in another order. The values of an update are all evaluated at the document
as it was, so that attributes whose paths are apart from each other make the same document of it in
every order. -/
namespace DocumentMigration

open Json

namespace Except

variable {ε α β : Type} {f g : α → Except ε β}

theorem mapM_perm {as as' : List α} {bs : List β} (perm : as.Perm as')
    (done : as.mapM f = .ok bs) : ∃ bs', as'.mapM f = .ok bs' ∧ bs.Perm bs' := by
  obtain ⟨bs', each, same⟩ := List.perm_comp_forall₂ perm.symm (mapM_eq_ok_iff.mp done)
  exact ⟨bs', mapM_eq_ok_iff.mpr each, same.symm⟩

theorem mapM_related {r : β → β → Prop} {as : List α} {bs : List β}
    (each : ∀ a ∈ as, ∀ b, f a = .ok b → ∃ b', g a = .ok b' ∧ r b b')
    (done : as.mapM f = .ok bs) : ∃ bs', as.mapM g = .ok bs' ∧ List.Forall₂ r bs bs' := by
  induction as generalizing bs with
  | nil =>
    cases done
    exact ⟨[], rfl, .nil⟩
  | cons a as ih =>
    obtain ⟨first, later⟩ := List.forall_mem_cons.mp each
    obtain ⟨b, rest, rfl, here, done⟩ := mapM_cons_eq_ok_iff.mp done
    obtain ⟨b', there, same⟩ := first b here
    obtain ⟨rest', again, sameRest⟩ := ih later done
    exact ⟨b' :: rest', mapM_cons_eq_ok_iff.mpr ⟨b', rest', rfl, there, again⟩, .cons same sameRest⟩

end Except

/-- The same row with its changes in another order. -/
def DocumentChange.Rearranged (row row' : DocumentChange) : Prop :=
  ∃ changes, row.changes.Perm changes ∧ row' = { row with changes }

namespace CompiledTemplate

variable {t : CompiledTemplate} {attributes : List AttributeTemplate} {document after : Object}
  {changes : List AttributeChange} {d : Snapshot} {row : DocumentChange}

/-- The paths of all attributes are apart from each other. -/
def Separate (t : CompiledTemplate) : Prop :=
  t.attributes.Pairwise fun a b => Path.overlap a.path b.path = false

theorem separate_of_evaluate (separate : t.Separate)
    (evaluated : t.evaluate document = .ok changes) : Change.Separate changes := by
  have paths : changes.map (·.path) = t.attributes.map (·.path) := by
    have each := (evaluated_of_evaluate evaluated).imp fun _ _ made => made.path.symm
    rw [← List.forall₂_map_right_iff, ← List.forall₂_map_left_iff, List.forall₂_eq_eq_eq] at each
    exact each.symm
  have apart : (changes.map (·.path)).Pairwise fun p q => Path.overlap p q = false := by
    rw [paths]
    exact List.pairwise_map.mpr separate
  exact List.pairwise_map.mp apart

theorem previewOne_of_delete (delete : t.operation = .delete) :
    t.previewOne d = .ok { operation := .delete, documentId := d.id, collection := t.collection
                           before := some d.data } := by
  simp only [previewOne, delete]

theorem previewOne_create_eq_ok_iff (create : t.operation = .create) :
    t.previewOne d = .ok row ↔ ∃ changes after, t.transform d.data = .ok (changes, after) ∧
      row = { operation := .create, documentId := d.id, collection := t.collection
              after := some after, changes } := by
  simp only [previewOne, create, Except.map_eq_ok_iff, Prod.exists]

section Rearranged

variable (perm : t.attributes.Perm attributes) (separate : t.Separate)
  (writes : t.WritesCanonical)
include perm separate writes

theorem transform_rearranged (canonical : (Value.object document).Canonical)
    (made : t.transform document = .ok (changes, after)) :
    ∃ changes', { t with attributes }.transform document = .ok (changes', after) ∧
      changes.Perm changes' := by
  obtain ⟨evaluated, applied⟩ := transform_eq_ok_iff.mp made
  obtain ⟨changes', again, same⟩ := Except.mapM_perm perm evaluated
  refine ⟨changes', transform_eq_ok_iff.mpr ⟨again, ?_⟩, same⟩
  rw [Change.applied_eq_ok_iff] at applied ⊢
  exact (Change.applyAll_perm same (separate_of_evaluate separate evaluated)
    (writesCanonical_of_evaluate writes canonical evaluated) rfl canonical).mp applied

theorem previewOne_rearranged (canonical : (Value.object d.data).Canonical)
    (shown : t.previewOne d = .ok row) :
    ∃ row', { t with attributes }.previewOne d = .ok row' ∧ row.Rearranged row' := by
  have kinds : t.operation = .delete ∨ t.operation = .update ∨ t.operation = .create := by
    cases t.operation <;> simp
  rcases kinds with kind | kind | kind
  · rw [previewOne_of_delete kind, Except.ok.injEq] at shown
    subst shown
    exact ⟨_, previewOne_of_delete (t := { t with attributes }) kind, [], .refl _, rfl⟩
  · obtain ⟨changes, after, made, rfl⟩ := (previewOne_update_eq_ok_iff kind).mp shown
    obtain ⟨changes', again, same⟩ := transform_rearranged perm separate writes canonical made
    refine ⟨_, (previewOne_update_eq_ok_iff (t := { t with attributes }) kind).mpr ?_,
      changes', same, rfl⟩
    exact ⟨changes', after, again, rfl⟩
  · obtain ⟨changes, after, made, rfl⟩ := (previewOne_create_eq_ok_iff kind).mp shown
    obtain ⟨changes', again, same⟩ := transform_rearranged perm separate writes canonical made
    refine ⟨_, (previewOne_create_eq_ok_iff (t := { t with attributes }) kind).mpr ?_,
      changes', same, rfl⟩
    exact ⟨changes', after, again, rfl⟩

/-- Every document that a template matches has the same row when the attributes of the template
are declared in another order. -/
theorem preview_rearranged {σ : Type} [DocumentStore σ] {s s' : σ} {rows : List DocumentChange}
    (canonical : ∀ documents next, t.accepted.run s = (.ok documents, next) →
      ∀ d ∈ documents, (Value.object d.data).Canonical)
    (previewed : t.preview.run s = (.ok rows, s')) :
    ∃ rows', { t with attributes }.preview.run s = (.ok rows', s') ∧
      List.Forall₂ DocumentChange.Rearranged rows rows' := by
  obtain ⟨documents, next, listed, shown⟩ := Action.run_bind_eq_ok_iff.mp previewed
  rw [Action.run_mk_pure, Prod.mk.injEq] at shown
  obtain ⟨shown, rfl⟩ := shown
  have canonical := canonical documents next listed
  obtain ⟨rows', again, same⟩ := Except.mapM_related (fun d member row here =>
    previewOne_rearranged perm separate writes (canonical d member) here) shown
  refine ⟨rows', Action.run_bind_eq_ok_iff.mpr ⟨documents, next, listed, ?_⟩, same⟩
  rw [Action.run_mk_pure, again]

end Rearranged

end CompiledTemplate

/-- Changes at paths apart from each other succeed in every order if they do in one, and make the
same document. They break off in every order or in none. So an update with such attributes shows
the same documents, whatever order its attributes are declared in. -/
theorem independent_changes_commute :
    (∀ {changes changes' : List AttributeChange} {document : Object},
      changes.Perm changes' → Change.Separate changes →
      (∀ c ∈ changes, Change.WritesCanonical c) → (Value.object document).Canonical →
      ((Change.apply changes document).2 = none ↔ (Change.apply changes' document).2 = none) ∧
        ((Change.apply changes document).2 = none →
          (Change.apply changes' document).1 = (Change.apply changes document).1) ∧
        ∀ capacity, (Change.apply changes document).2 = none →
          (Change.execute capacity changes document = none ↔
            Change.execute capacity changes' document = none)) ∧
    (∀ {σ : Type} [DocumentStore σ] {t : CompiledTemplate} {attributes : List AttributeTemplate}
      {s s' : σ} {rows : List DocumentChange},
      t.attributes.Perm attributes → t.Separate → t.WritesCanonical →
      (∀ documents next, t.accepted.run s = (.ok documents, next) →
        ∀ d ∈ documents, (Value.object d.data).Canonical) →
      t.preview.run s = (.ok rows, s') →
      ∃ rows', { t with attributes }.preview.run s = (.ok rows', s') ∧
        List.Forall₂ DocumentChange.Rearranged rows rows') := by
  constructor
  · intro changes changes' document perm separate writes canonical
    have either (result : Object) :
        Change.apply changes document = (result, none) ↔
          Change.apply changes' document = (result, none) :=
      Change.apply_perm perm separate writes canonical
    refine ⟨⟨fun done => ?_, fun done => ?_⟩, fun done => ?_, fun capacity done =>
      Change.execute_eq_none_iff_of_perm perm separate writes canonical done⟩
    · rw [(either _).mp (Prod.ext rfl done)]
    · rw [(either _).mpr (Prod.ext rfl done)]
    · rw [(either _).mp (Prod.ext rfl done)]
  · exact fun perm separate writes canonical shown =>
      CompiledTemplate.preview_rearranged perm separate writes canonical shown

namespace Sample

def route : Object := [("stops", .array [.string "a"]), ("weight", .bool true)]

def routes : MemoryStore := .ofCollection "routes" [⟨"r1", route⟩] ⟨0⟩

/-- Drops the first stop, fills the stops up to the third, and makes an object of the weight. -/
def reroute : CompiledTemplate where
  operation := .update
  collection := "routes"
  filter := none
  attributes :=
    [{ path := "stops.0", operation := .delete },
      { path := "stops.+2.name", operation := .create, value := some (.literal (.string "x")) },
      { path := "weight.kg", operation := .update }]

def rerouted : Object :=
  [("stops", .array [.null, .null, .object [("name", .string "x")]]),
    ("weight", .object [("kg", .null)])]

def detours : List AttributeChange :=
  [{ path := "stops.0", operation := .delete, oldValue := some (.string "a") },
    { path := "stops.+2.name", operation := .create, newValue := some (.string "x") },
    { path := "weight.kg", operation := .update, newValue := some .null }]

def rerouting : DocumentChange :=
  { operation := .update, documentId := "r1", collection := "routes", before := some route
    after := some rerouted, changes := detours }

theorem canonical_route : (Value.object route).Canonical := by
  refine ⟨?_, ⟨trivial, trivial⟩, trivial, trivial⟩
  show ["stops", "weight"].Pairwise (· < ·)
  decide +kernel

theorem independent_changes_commute_on_routes :
    Change.Separate detours ∧ Change.apply detours.reverse route = (rerouted, none) ∧
      reroute.Separate ∧
      reroute.preview.run routes = (.ok [rerouting], { routes with reads := 1 }) ∧
      ∃ rows, { reroute with attributes := reroute.attributes.reverse }.preview.run routes =
          (.ok rows, { routes with reads := 1 }) ∧
        List.Forall₂ DocumentChange.Rearranged [rerouting] rows := by
  have separate : Change.Separate detours := by unfold Change.Separate; decide
  have writes : ∀ c ∈ detours, Change.WritesCanonical c := by
    simp [detours, Change.WritesCanonical, Value.Canonical]
  have done : Change.apply detours route = (rerouted, none) := rfl
  have commute := independent_changes_commute.1 (List.reverse_perm detours).symm separate writes
    canonical_route
  rw [done] at commute
  have apart : reroute.Separate := by unfold CompiledTemplate.Separate; decide
  have canonical : reroute.WritesCanonical := by
    intro a member document v _ resolves
    have values : ∀ a ∈ reroute.attributes, a.value = none ∨
        a.value = some (.literal (.string "x")) := by simp [reroute]
    cases resolves with
    | absent => trivial
    | source found resolved =>
      have literal := (values a member).resolve_left (by simp [found])
      cases found.symm.trans literal
      cases resolved
      trivial
  have shown : reroute.preview.run routes = (.ok [rerouting], { routes with reads := 1 }) := rfl
  refine ⟨separate, Prod.ext (commute.2.1 rfl) (commute.1.mp rfl), apart, shown, ?_⟩
  refine independent_changes_commute.2 (List.reverse_perm _).symm apart canonical ?_ shown
  intro documents next listed d member
  have only : reroute.accepted.run routes = (.ok [⟨"r1", route⟩], { routes with reads := 1 }) := rfl
  cases only.symm.trans listed
  rw [List.mem_singleton.mp member]
  exact canonical_route

end Sample

end DocumentMigration
