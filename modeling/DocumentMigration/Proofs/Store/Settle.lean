import DocumentMigration.Store.Memory
import DocumentMigration.Proofs.Store.Action

/-! A batch that names each document once, and only documents that are there, settles every document
by itself: the collection afterwards is the collection before, document by document. -/
namespace DocumentMigration

open Json

def UniqueIds (documents : List Snapshot) : Prop := (documents.map (·.id)).Nodup

instance (documents : List Snapshot) : Decidable (UniqueIds documents) :=
  inferInstanceAs (Decidable (documents.map (·.id)).Nodup)

/-- What a write makes of the document that it names. -/
def Write.result (d : Snapshot) : Write → Option Snapshot
  | .set _ data | .update _ data => some ⟨d.id, data⟩
  | .delete _ => none

/-- What becomes of a document under writes that name it at most once. -/
def settle (writes : List Write) (d : Snapshot) : Option Snapshot :=
  match writes.find? (·.id = d.id) with
  | some w => w.result d
  | none => some d

/-- Each write names a document of its own, and one that is there. -/
structure Targeted (writes : List Write) (documents : List Snapshot) : Prop where
  distinct : (writes.map Write.id).Nodup
  present : ∀ w ∈ writes, w.id ∈ documents.map (·.id)

section Settle

variable {writes first later : List Write} {w : Write} {d d' : Snapshot} {documents : List Snapshot}

@[simp] theorem settle_nil (d : Snapshot) : settle [] d = some d := rfl

theorem settle_cons_of_eq (named : w.id = d.id) : settle (w :: writes) d = w.result d := by
  simp [settle, named]

theorem settle_cons_of_ne (other : w.id ≠ d.id) : settle (w :: writes) d = settle writes d := by
  simp [settle, other]

theorem Write.id_of_result (kept : w.result d = some d') : d'.id = d.id := by
  cases w with
  | delete id => contradiction
  | _ => cases kept; rfl

theorem id_of_settle (kept : settle writes d = some d') : d'.id = d.id := by
  unfold settle at kept
  split at kept
  · exact Write.id_of_result kept
  · cases kept; rfl

theorem settle_of_not_named (unnamed : d.id ∉ writes.map Write.id) : settle writes d = some d := by
  have unfound : writes.find? (·.id = d.id) = none := by
    simp only [List.find?_eq_none, decide_eq_true_eq]
    exact fun w member same => unnamed (List.mem_map.mpr ⟨w, member, same⟩)
  simp [settle, unfound]

theorem map_id_filterMap_sublist {f : Snapshot → Option Snapshot}
    (keeps : ∀ d d', f d = some d' → d'.id = d.id) (documents : List Snapshot) :
    ((documents.filterMap f).map (·.id)).Sublist (documents.map (·.id)) := by
  induction documents with
  | nil => simp
  | cons d documents ih =>
    cases kept : f d with
    | none => simpa [kept] using ih.cons d.id
    | some d' => simpa [kept, keeps d d' kept] using ih

theorem UniqueIds.filterMap {f : Snapshot → Option Snapshot}
    (keeps : ∀ d d', f d = some d' → d'.id = d.id) (unique : UniqueIds documents) :
    UniqueIds (documents.filterMap f) :=
  unique.sublist (map_id_filterMap_sublist keeps documents)

/-- A write settles the one document that it names and no other. -/
theorem filterMap_settle_single (unique : UniqueIds (d :: documents)) (named : w.id = d.id) :
    documents.filterMap (settle [w]) = documents := by
  have others : ∀ e ∈ documents, settle [w] e = some e := by
    intro e member
    rw [settle_cons_of_ne, settle_nil]
    rintro same
    refine (List.nodup_cons.mp unique).1 (List.mem_map.mpr ⟨e, member, ?_⟩)
    exact same.symm.trans named
  rw [List.filterMap_congr others, List.filterMap_some]

theorem settle_of_find? (found : writes.find? (·.id = d.id) = some w) :
    settle writes d = w.result d := by
  simp only [settle, found]

theorem settle_append (distinct : ((first ++ later).map Write.id).Nodup) (d : Snapshot) :
    settle (first ++ later) d = (settle first d).bind (settle later) := by
  rw [List.map_append, List.nodup_append] at distinct
  have split : (first ++ later).find? (·.id = d.id) = _ := List.find?_append
  cases found : first.find? (·.id = d.id) with
  | none =>
    rw [found, Option.none_or] at split
    simp only [settle, found, split, Option.bind_some]
  | some w =>
    rw [found, Option.some_or] at split
    rw [settle_of_find? found, settle_of_find? split]
    have named : w.id = d.id := by simpa using List.find?_some found
    have member : w.id ∈ first.map Write.id :=
      List.mem_map_of_mem (List.mem_of_find?_eq_some found)
    cases kept : w.result d with
    | none => rfl
    | some d' =>
      refine (settle_of_not_named fun again => ?_).symm
      rw [Write.id_of_result kept, ← named] at again
      exact distinct.2.2 _ member _ again rfl

/-- The first writes have settled a document, or none of them names it. -/
theorem settle_left (first later : List Write) (d : Snapshot) :
    settle first d = some d ∨ settle first d = settle (first ++ later) d := by
  have split : (first ++ later).find? (·.id = d.id) = _ := List.find?_append
  cases found : first.find? (·.id = d.id) with
  | none => exact .inl (by simp only [settle, found])
  | some w =>
    rw [found, Option.some_or] at split
    exact .inr ((settle_of_find? found).trans (settle_of_find? split).symm)

theorem Targeted.left (targeted : Targeted (first ++ later) documents) :
    Targeted first documents := by
  have distinct := targeted.distinct
  rw [List.map_append, List.nodup_append] at distinct
  exact ⟨distinct.1, fun w member => targeted.present w (List.mem_append_left _ member)⟩

theorem Targeted.right (targeted : Targeted (first ++ later) documents) :
    Targeted later (documents.filterMap (settle first)) := by
  have distinct := targeted.distinct
  rw [List.map_append, List.nodup_append] at distinct
  refine ⟨distinct.2.1, fun w member => ?_⟩
  obtain ⟨d, inside, named⟩ := List.mem_map.mp (targeted.present w (List.mem_append_right _ member))
  have stays : settle first d = some d := by
    refine settle_of_not_named fun inFirst => ?_
    exact distinct.2.2 _ inFirst _ (List.mem_map_of_mem member) named
  exact List.mem_map.mpr ⟨d, List.mem_filterMap.mpr ⟨d, inside, stays⟩, named⟩

end Settle

namespace MemoryStore

variable {writes : List Write} {w : Write} {documents : List Snapshot} {id : String}

theorem replace?_eq_some (data : Object) (unique : UniqueIds documents)
    (present : id ∈ documents.map (·.id)) :
    replace? id data documents = some (documents.filterMap (settle [.update id data])) := by
  induction documents with
  | nil => simp at present
  | cons d documents ih =>
    by_cases named : d.id = id
    · have here : settle [.update id data] d = some ⟨d.id, data⟩ := settle_cons_of_eq named.symm
      have rest := filterMap_settle_single (w := .update id data) unique named.symm
      rw [replace?, if_pos named, List.filterMap_cons_some here, rest]
    · have here : settle [.update id data] d = some d := settle_cons_of_ne (Ne.symm named)
      have inRest : id ∈ documents.map (·.id) := by
        rcases List.mem_cons.mp present with same | inRest
        · exact (named same.symm).elim
        · exact inRest
      rw [replace?, if_neg named, List.filterMap_cons_some here,
        ih (List.nodup_cons.mp unique).2 inRest]
      rfl

theorem remove_eq (unique : UniqueIds documents) :
    remove id documents = documents.filterMap (settle [.delete id]) := by
  induction documents with
  | nil => rfl
  | cons d documents ih =>
    by_cases named : d.id = id
    · have here : settle [.delete id] d = none := settle_cons_of_eq named.symm
      have rest := filterMap_settle_single (w := .delete id) unique named.symm
      rw [remove, if_pos named, List.filterMap_cons_none here, rest]
    · have here : settle [.delete id] d = some d := settle_cons_of_ne (Ne.symm named)
      rw [remove, if_neg named, List.filterMap_cons_some here, ih (List.nodup_cons.mp unique).2]

/-- Setting and updating a document that is there are the same. -/
theorem stageOne_eq_ok (collection : String) (unique : UniqueIds documents)
    (present : w.id ∈ documents.map (·.id)) :
    stageOne collection documents w = .ok (documents.filterMap (settle [w])) := by
  cases w with
  | set id data =>
    have found : replace? id data documents = _ := replace?_eq_some data unique present
    have same : settle [.set id data] = settle [.update id data] := by
      funext d
      by_cases named : id = d.id <;> simp [settle, Write.id, Write.result, named]
    rw [stageOne, found, Option.getD_some, same]
  | update id data =>
    have found : replace? id data documents = _ := replace?_eq_some data unique present
    rw [stageOne, found]
  | delete id => rw [stageOne, remove_eq unique]

theorem stage_eq_ok (collection : String) (unique : UniqueIds documents)
    (targeted : Targeted writes documents) :
    stage ⟨collection, writes⟩ documents = .ok (documents.filterMap (settle writes)) := by
  unfold stage
  induction writes generalizing documents with
  | nil =>
    rw [show settle [] = some from rfl, List.filterMap_some]
    rfl
  | cons w writes ih =>
    have split : Targeted ([w] ++ writes) documents := targeted
    have first := stageOne_eq_ok collection unique (targeted.present w List.mem_cons_self)
    have later := ih (unique.filterMap fun _ _ => id_of_settle) split.right
    rw [List.foldlM_cons, first]
    refine later.trans (congrArg Except.ok ?_)
    rw [List.filterMap_filterMap]
    exact List.filterMap_congr fun d _ => (settle_append split.distinct d).symm

end MemoryStore

end DocumentMigration
