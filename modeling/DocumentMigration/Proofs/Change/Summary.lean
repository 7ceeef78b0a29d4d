import DocumentMigration.Change.Summary
import DocumentMigration.Proofs.Grouping

/-!
Summaries group changes by operation and by one text, in which the collection and the changed paths
stand one after the other. The text tells them apart as long as the separators occur in none of
them; otherwise a group can have changes of different kinds.
-/
namespace DocumentMigration

namespace DocumentChange

variable {c d : DocumentChange}

/-- Two changes that do the same to documents of one collection: one operation at the same paths in
the same order. -/
structure SameKind (c d : DocumentChange) : Prop where
  operation : c.operation = d.operation
  collection : c.collection = d.collection
  changedPaths : c.changedPaths = d.changedPaths

/-- The collection and the changed paths in one text. -/
def address (c : DocumentChange) : String :=
  c.collection ++ "_" ++ String.intercalate "," c.changedPaths

theorem groupKey_eq_iff :
    c.groupKey = d.groupKey ↔ c.operation = d.operation ∧ c.address = d.address := by
  have names : ∀ o : Operation, o.name.toList.length = 6 := fun o => by cases o <;> decide
  have named : ∀ o o' : Operation, o.name = o'.name → o = o' := fun o o' same => by
    have read := congrArg Operation.ofName? same
    rwa [Operation.ofName?_name, Operation.ofName?_name, Option.some.injEq] at read
  have key (c : DocumentChange) :
      c.groupKey.toList = c.operation.name.toList ++ '_' :: c.address.toList := by
    simp [groupKey, address]
  rw [← String.toList_inj, key, key]
  constructor
  · intro same
    obtain ⟨name, rest⟩ := List.append_inj same ((names _).trans (names _).symm)
    exact ⟨named _ _ (String.toList_inj.mp name), String.toList_inj.mp (List.cons.inj rest).2⟩
  · rintro ⟨operation, address⟩
    rw [operation, address]

/-- The separators occur neither in the collection nor in the paths, and every path has a text. -/
structure Plain (c : DocumentChange) : Prop where
  collection : '_' ∉ c.collection.toList
  paths : ∀ path ∈ c.changedPaths, path ≠ "" ∧ ',' ∉ path.toList

/-- What stands before the first separator is told from what stands behind it. -/
theorem append_separator_inj {separator : Char} {xs ys ss ts : List Char} (left : separator ∉ xs)
    (right : separator ∉ ys) (same : xs ++ separator :: ss = ys ++ separator :: ts) :
    xs = ys ∧ ss = ts := by
  have before : ∀ zs rest, separator ∉ zs →
      (zs ++ separator :: rest).takeWhile (· ≠ separator) = zs := by
    intro zs rest clear
    rw [List.takeWhile_append_of_pos]
    · simp
    · intro z member
      exact decide_eq_true fun equal => clear (equal ▸ member)
  have fronts := congrArg (List.takeWhile (· ≠ separator)) same
  rw [before _ _ left, before _ _ right] at fronts
  subst fronts
  exact ⟨rfl, (List.cons.inj (List.append_cancel_left same)).2⟩

theorem splitOn_intercalate {paths : List String} (clear : ∀ p ∈ paths, p ≠ "" ∧ ',' ∉ p.toList)
    (nonempty : paths ≠ []) :
    (String.intercalate "," paths).toList.splitOn ',' = paths.map String.toList := by
  rw [String.toList_intercalate]
  apply List.splitOn_intercalate
  · intro l member
    obtain ⟨p, listed, rfl⟩ := List.mem_map.mp member
    exact (clear p listed).2
  · simpa using nonempty

theorem intercalate_inj {ps qs : List String} (left : ∀ p ∈ ps, p ≠ "" ∧ ',' ∉ p.toList)
    (right : ∀ q ∈ qs, q ≠ "" ∧ ',' ∉ q.toList)
    (same : String.intercalate "," ps = String.intercalate "," qs) : ps = qs := by
  -- No paths read like one empty path, so that case stands apart.
  have split (rs : List String) (clear : ∀ r ∈ rs, r ≠ "" ∧ ',' ∉ r.toList)
      (blank : String.intercalate "," rs = "") : rs = [] := by
    by_contra nonempty
    have parts := splitOn_intercalate clear nonempty
    rw [blank] at parts
    rcases rs with _ | ⟨r, rs⟩
    · exact nonempty rfl
    · have empty : r.toList = [] := (List.cons.inj parts).1.symm
      exact (clear r List.mem_cons_self).1 (String.toList_eq_nil_iff.mp empty)
  rcases ps with _ | ⟨p, ps⟩
  · exact (split qs right same.symm).symm
  rcases qs with _ | ⟨q, qs⟩
  · exact split _ left same
  have parts := splitOn_intercalate left (List.cons_ne_nil p ps)
  rw [same, splitOn_intercalate right (List.cons_ne_nil q qs)] at parts
  exact (List.map_injective_iff.mpr (fun _ _ => String.toList_inj.mp) parts).symm

/-- Plain names are read off the text again. -/
theorem sameKind_of_groupKey_eq (left : c.Plain) (right : d.Plain)
    (same : c.groupKey = d.groupKey) : c.SameKind d := by
  obtain ⟨operation, addresses⟩ := groupKey_eq_iff.mp same
  have texts := congrArg String.toList addresses
  simp only [address, String.toList_append, List.append_assoc] at texts
  obtain ⟨collection, paths⟩ := append_separator_inj left.collection right.collection texts
  exact ⟨operation, String.toList_inj.mp collection,
    intercalate_inj left.paths right.paths (String.toList_inj.mp paths)⟩

end DocumentChange

namespace ChangeGroup

/-- The group of some changes: the shape of the first one, with the ids of all. -/
def ofMembers (first : DocumentChange) (members : List DocumentChange) : ChangeGroup :=
  ⟨first.collection, members.map (·.documentId), first.shape⟩

/-- A change put into a group. -/
def extend (g : ChangeGroup) (c : DocumentChange) : ChangeGroup :=
  { g with documentIds := g.documentIds ++ [c.documentId] }

theorem add_eq_place (c : DocumentChange) (groups : List (String × ChangeGroup)) :
    add c groups = place (fun g c => g.1 = c.groupKey) (fun g c => (g.1, g.2.extend c))
      (fun c => (c.groupKey, ofChange c)) c groups := by
  induction groups with
  | nil => rfl
  | cons g groups ih =>
    obtain ⟨key, g⟩ := g
    by_cases same : key = c.groupKey
    · simp [add, place, same, extend]
    · simp [add, place, same, ih]

end ChangeGroup

theorem groups_summarize (changes : List DocumentChange) :
    Groups (fun c d => c.groupKey = d.groupKey) ChangeGroup.ofMembers changes
      (summarize changes) := by
  have placed : Groups (fun c d => c.groupKey = d.groupKey)
      (fun first members => (first.groupKey, ChangeGroup.ofMembers first members)) changes
      (ChangeGroup.keyed changes) := by
    simp only [ChangeGroup.keyed, ChangeGroup.add_eq_place]
    apply groups_foldl_place
    · intro first members c
      rfl
    · intro first members c
      simp [ChangeGroup.extend, ChangeGroup.ofMembers]
    · intro c
      rfl
  exact placed.map Prod.snd

/-- A group has changes of one kind just if no two changes of different kinds have one key. -/
theorem groups_sameKind_iff (changes : List DocumentChange) :
    Groups DocumentChange.SameKind ChangeGroup.ofMembers changes (summarize changes) ↔
      ∀ c ∈ changes, ∀ d ∈ changes, c.groupKey = d.groupKey → c.SameKind d := by
  have finer : ∀ c ∈ changes, ∀ d ∈ changes, c.SameKind d → c.groupKey = d.groupKey := by
    rintro c - d - ⟨operation, collection, paths⟩
    simp [DocumentChange.groupKey, operation, collection, paths]
  constructor
  · intro groups
    exact (groups_summarize changes).same_of_finer groups finer
  · intro told
    apply (groups_summarize changes).congr
    intro c first d second
    exact ⟨told c first d second, finer c first d second⟩

/-- Changes share a group when operation and address text agree. They are of one kind then, unless
some text is the address of two kinds of changes, which no text is of changes with plain names. -/
theorem summarize_groups (changes : List DocumentChange) :
    Groups (fun c d => c.operation = d.operation ∧ c.address = d.address) ChangeGroup.ofMembers
        changes (summarize changes) ∧
      (Groups DocumentChange.SameKind ChangeGroup.ofMembers changes (summarize changes) ↔
        ∀ c ∈ changes, ∀ d ∈ changes, c.operation = d.operation → c.address = d.address →
          c.collection = d.collection ∧ c.changedPaths = d.changedPaths) ∧
      ((∀ c ∈ changes, c.Plain) →
        Groups DocumentChange.SameKind ChangeGroup.ofMembers changes (summarize changes)) := by
  refine ⟨?_, ?_, ?_⟩
  · apply (groups_summarize changes).congr
    intro c _ d _
    exact DocumentChange.groupKey_eq_iff
  · rw [groups_sameKind_iff]
    constructor
    · intro told c first d second operation address
      have kind := told c first d second (DocumentChange.groupKey_eq_iff.mpr ⟨operation, address⟩)
      exact ⟨kind.collection, kind.changedPaths⟩
    · intro told c first d second same
      obtain ⟨operation, address⟩ := DocumentChange.groupKey_eq_iff.mp same
      obtain ⟨collection, paths⟩ := told c first d second operation address
      exact ⟨operation, collection, paths⟩
  · intro plain
    apply (groups_sameKind_iff changes).mpr
    intro c first d second same
    exact DocumentChange.sameKind_of_groupKey_eq (plain c first) (plain d second) same

namespace Sample

/-- Renaming in the old logs, and a change of the old name in the logs. -/
def logChanges : List DocumentChange :=
  let change (id collection path : String) : DocumentChange :=
    { operation := .update, documentId := id, collection
      changes := [{ path, operation := .update, newValue := some (.string "x") }] }
  [change "1" "logs" "old_name", change "2" "logs_old" "name"]

/-- Two changes of different kinds share a group. -/
theorem summarize_confuses :
    (summarize logChanges).map (·.documentIds) = [["1", "2"]] ∧
      logChanges.map (·.collection) = ["logs", "logs_old"] ∧
      ¬ Groups DocumentChange.SameKind ChangeGroup.ofMembers logChanges (summarize logChanges) := by
  refine ⟨by decide +kernel, rfl, ?_⟩
  rw [groups_sameKind_iff]
  intro told
  have kind := told logChanges[0] (List.getElem_mem _) logChanges[1] (List.getElem_mem _)
    (by decide +kernel)
  exact absurd kind.collection (by decide)

end Sample

end DocumentMigration
