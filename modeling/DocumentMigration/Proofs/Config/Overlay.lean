import DocumentMigration.Config.Layer
import DocumentMigration.Proofs.Json.Parser

/-!
Layers of settings laid over one another. Where every section is a table, a key has the value of the
topmost layer that sets this very key. The exception are values that are tables themselves, of which
the members are merged; no setting is read from a table, so it is enough that a table stays one.
-/
namespace DocumentMigration.Config

open Json

variable {below above layer : Object} {layers : List Object} {name key : String}

theorem get?_overlayMembers (distinct : (Object.keys above).Nodup) (below : Object) (key : String) :
    Object.get? key (overlayMembers below above) = match Object.get? key above with
      | some v => some (overlay (Object.get? key below) v)
      | none => Object.get? key below := by
  induction above generalizing below with
  | nil => rfl
  | cons m above ih =>
    obtain ⟨k, v⟩ := m
    obtain ⟨new, distinct⟩ := List.nodup_cons.mp distinct
    rw [overlayMembers, ih distinct, Object.get?]
    by_cases same : k = key
    · subst same
      rw [Object.get?_eq_none new, if_pos rfl, Object.get?_insert_self]
    · rw [if_neg same, Object.get?_insert_of_ne _ _ (Ne.symm same)]

theorem sorted_overlayMembers (sorted : Object.Sorted below) :
    Object.Sorted (overlayMembers below above) := by
  induction above generalizing below with
  | nil => exact sorted
  | cons m above ih => exact ih sorted.insert

theorem overlay_of_not_table (old : Option Value) {v : Value} (single : ∀ ms, v ≠ .object ms) :
    overlay old v = v := by
  unfold overlay
  split
  · exact absurd rfl (single _)
  · rfl

@[simp] theorem overlay_none (v : Value) : overlay none v = v := by
  cases v <;> rfl

theorem overlay_table (old : Option Value) (above : Object) :
    overlay old (.object above) = .object above ∨
      ∃ below, old = some (.object below) ∧
        overlay old (.object above) = .object (overlayMembers below above) := by
  unfold overlay
  split
  · rename_i below _ same
    cases same
    exact .inr ⟨below, rfl, rfl⟩
  · exact .inl rfl

mutual
theorem canonical_overlay {old : Option Value} (olds : ∀ w ∈ old, w.Canonical) : (v : Value) →
    v.Canonical → (overlay old v).Canonical
  | .object above, canonical => by
    rcases overlay_table old above with same | ⟨below, rfl, same⟩
    · rwa [same]
    · rw [same]
      exact canonical_overlayMembers (olds _ rfl) above canonical.2
  | .null, canonical | .bool _, canonical | .number _, canonical | .string _, canonical
  | .array _, canonical => by rwa [overlay_of_not_table old (by simp)]

theorem canonical_overlayMembers {below : Object} (canonical : (Value.object below).Canonical) :
    (above : List (String × Value)) → Value.CanonicalMembers above →
      (Value.object (overlayMembers below above)).Canonical
  | [], _ => canonical
  | (_, v) :: above, members => canonical_overlayMembers (canonical.insert
      (canonical_overlay (fun _ found => canonical.member (Object.mem_of_get? found)) v members.1))
      above members.2
end

theorem canonical_foldl_overlayMembers {base : Object} (canonical : (Value.object base).Canonical)
    (atop : ∀ layer ∈ layers, (Value.object layer).Canonical) :
    (Value.object (layers.foldl overlayMembers base)).Canonical := by
  induction layers generalizing base with
  | nil => exact canonical
  | cons layer layers ih =>
    obtain ⟨first, atop⟩ := List.forall_mem_cons.mp atop
    exact ih (canonical_overlayMembers canonical layer first.2) atop

/-! Sections. -/

/-- The value that a layer sets a key of a section to. -/
def setting? (name key : String) (layer : Object) : Option Value :=
  match Object.get? name layer with
  | some (.object ms) => Object.get? key ms
  | _ => none

/-- The value of the topmost layer that sets a key. -/
def topmost? (name key : String) (layers : List Object) : Option Value :=
  layers.reverse.findSome? (setting? name key)

theorem topmost?_singleton (name key : String) (layer : Object) :
    topmost? name key [layer] = setting? name key layer := by
  simp [topmost?]

theorem topmost?_append (name key : String) (lower upper : List Object) :
    topmost? name key (lower ++ upper) =
      (topmost? name key upper).or (topmost? name key lower) := by
  simp [topmost?, List.findSome?_append]

theorem topmost?_cons (name key : String) (layer : Object) (layers : List Object) :
    topmost? name key (layer :: layers) =
      (topmost? name key layers).or (setting? name key layer) := by
  simp [topmost?, List.findSome?_append]

def sectionNames : List String := ["general", "migrate", "store"]

/-- Every section that a layer has is a table. -/
def Sectioned (layer : Object) : Prop :=
  ∀ name ∈ sectionNames, ∀ v, Object.get? name layer = some v → ∃ ms, v = .object ms

def isTable : Value → Bool
  | .object _ => true
  | _ => false

theorem isTable_iff {v : Value} : isTable v ↔ ∃ ms, v = .object ms := by
  cases v <;> simp [isTable]

instance (layer : Object) : Decidable (Sectioned layer) :=
  decidable_of_iff (∀ name ∈ sectionNames, (Object.get? name layer).all isTable) <| by
    simp only [Option.all_eq_true, isTable_iff]
    rfl

/-- A layer has its sections, and these their keys, in order. -/
structure Orderly (layer : Object) : Prop where
  sorted : Object.Sorted layer
  sections : ∀ name ∈ sectionNames, ∀ v, Object.get? name layer = some v →
    ∃ ms, v = .object ms ∧ Object.Sorted ms

theorem Sectioned.orderly (sectioned : Sectioned layer)
    (canonical : (Value.object layer).Canonical) : Orderly layer where
  sorted := canonical.1
  sections name known v found := by
    obtain ⟨ms, rfl⟩ := sectioned name known v found
    exact ⟨ms, rfl, (canonical.member (Object.mem_of_get? found)).1⟩

theorem orderly_nil : Orderly [] := ⟨.nil, nofun⟩

/-- A value of which a table is all that is known if it is one. -/
def blunt : Value → Value
  | .object _ => .object []
  | v => v

theorem blunt_overlay (old : Option Value) (v : Value) : blunt (overlay old v) = blunt v := by
  cases v with
  | object above =>
    rcases overlay_table old above with same | ⟨below, -, same⟩
    · rw [same]
    · rw [same, blunt, blunt]
  | _ => rw [overlay_of_not_table old (by simp)]

namespace Orderly

theorem get?_cases (orderly : Orderly layer) (known : name ∈ sectionNames) :
    Object.get? name layer = none ∨
      ∃ ms, Object.get? name layer = some (.object ms) ∧ Object.Sorted ms := by
  cases found : Object.get? name layer with
  | none => exact .inl rfl
  | some v =>
    obtain ⟨ms, rfl, sorted⟩ := orderly.sections name known v found
    exact .inr ⟨ms, rfl, sorted⟩

theorem overlayMembers (under : Orderly below) (atop : Orderly above) :
    Orderly (overlayMembers below above) := by
  refine ⟨sorted_overlayMembers under.sorted, fun name known v found => ?_⟩
  rw [Config.get?_overlayMembers atop.sorted.nodup] at found
  rcases atop.get?_cases known with absent | ⟨upper, present, sorted⟩
  · rw [absent] at found
    exact under.sections name known v found
  · rw [present] at found
    cases found
    rcases overlay_table (Object.get? name below) upper with same | ⟨lower, lies, same⟩
    · exact ⟨upper, same, sorted⟩
    · obtain ⟨ms, eq, ordered⟩ := under.sections name known _ lies
      cases eq
      exact ⟨_, same, sorted_overlayMembers ordered⟩

/-- A key of the upper layer hides that of the lower one. -/
theorem setting?_overlayMembers (under : Orderly below) (atop : Orderly above)
    (known : name ∈ sectionNames) (key : String) :
    (setting? name key (Config.overlayMembers below above)).map blunt =
      ((setting? name key above).or (setting? name key below)).map blunt := by
  rw [setting?, Config.get?_overlayMembers atop.sorted.nodup]
  rcases atop.get?_cases known with absent | ⟨upper, present, sorted⟩
  · rw [absent, setting?, setting?, absent]
    rfl
  · rw [setting?, setting?, present]
    rcases under.get?_cases known with absent | ⟨lower, lies, -⟩
    · simp [absent]
    · rw [lies]
      simp only [overlay]
      rw [Config.get?_overlayMembers sorted.nodup]
      cases Object.get? key upper with
      | none => rfl
      | some v => simp [blunt_overlay]

theorem foldl_overlayMembers {base : Object} (under : Orderly base)
    (atop : ∀ layer ∈ layers, Orderly layer) :
    Orderly (layers.foldl Config.overlayMembers base) := by
  induction layers generalizing base with
  | nil => exact under
  | cons layer layers ih =>
    obtain ⟨first, atop⟩ := List.forall_mem_cons.mp atop
    exact ih (under.overlayMembers first) atop

theorem setting?_foldl_overlayMembers {base : Object} (under : Orderly base)
    (atop : ∀ layer ∈ layers, Orderly layer) (known : name ∈ sectionNames) (key : String) :
    (setting? name key (layers.foldl Config.overlayMembers base)).map blunt =
      (topmost? name key (base :: layers)).map blunt := by
  induction layers generalizing base with
  | nil => simp [topmost?]
  | cons layer layers ih =>
    obtain ⟨first, atop⟩ := List.forall_mem_cons.mp atop
    rw [List.foldl_cons, ih (under.overlayMembers first) atop]
    simp only [topmost?_cons, Option.map_or, under.setting?_overlayMembers first known,
      Option.or_assoc]

end Orderly

end DocumentMigration.Config
