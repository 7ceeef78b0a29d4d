import DocumentMigration.Store.Table
import DocumentMigration.Proofs.Store.Action

/-! The table as its collections see it: a write changes the rows of its own collection as it would
if there were no others, and leaves the rows of the others where they are. -/
namespace DocumentMigration.TableStore

open DocumentMigration.Action

variable {collection other id body : String} {rows rows' : List Row} {w : Write}

/-- The rows of one collection, in their order. -/
def rowsOf (collection : String) (rows : List Row) : List Row :=
  rows.filter (·.collection = collection)

@[simp] theorem Row.isAt_iff {r : Row} :
    Row.isAt collection id r = true ↔ r.collection = collection ∧ r.id = id := by
  simp [Row.isAt]

@[simp] theorem rowsOf_append : rowsOf collection (rows ++ rows') =
    rowsOf collection rows ++ rowsOf collection rows' := List.filter_append ..

/-- Overwriting a body moves no row to another collection. -/
theorem rowsOf_updateRows :
    rowsOf other (updateRows collection id body rows).1 =
      (updateRows collection id body (rowsOf other rows)).1 := by
  have same : ∀ r : Row, (if Row.isAt collection id r then { r with body } else r).collection =
      r.collection := by
    intro r
    split <;> rfl
  simp only [rowsOf, updateRows, List.filter_map, Function.comp_def, same]

theorem updateRows_of_ne (elsewhere : other ≠ collection) :
    updateRows collection id body (rowsOf other rows) = (rowsOf other rows, 0) := by
  have outside : ∀ r ∈ rowsOf other rows, Row.isAt collection id r = false := by
    intro r member
    have here : r.collection = other := by simpa using (List.mem_filter.mp member).2
    simp [Row.isAt, here, elsewhere]
  refine Prod.ext ?_ ?_
  · refine (List.map_congr_left fun r member => ?_).trans (List.map_id _)
    rw [outside r member]
    rfl
  · exact List.countP_eq_zero.mpr fun r member => by simp [outside r member]

theorem updateRows_rowsOf :
    (updateRows collection id body (rowsOf collection rows)).2 =
      (updateRows collection id body rows).2 := by
  simp only [updateRows, rowsOf, List.countP_filter]
  refine List.countP_congr fun r _ => ?_
  simp only [Bool.and_eq_true, Row.isAt_iff, decide_eq_true_eq, and_iff_left_iff_imp]
  exact And.left

theorem rowsOf_applyWrite_of_ne (elsewhere : other ≠ collection)
    (done : applyWrite collection rows w = .ok rows') : rowsOf other rows' = rowsOf other rows := by
  have updated (body : String) (id : String) :
      rowsOf other (updateRows collection id body rows).1 = rowsOf other rows := by
    rw [rowsOf_updateRows, updateRows_of_ne elsewhere]
  cases w with
  | set id data =>
    simp only [applyWrite, upsert, Except.ok.injEq] at done
    subst done
    split
    · simp [rowsOf, Ne.symm elsewhere]
    · rename_i found
      rw [← updated (encodeDocument data) id, found]
  | update id data =>
    simp only [applyWrite] at done
    split at done
    · cases done
    · rename_i found
      cases done
      rw [← updated (encodeDocument data) id, found]
  | delete id =>
    cases done
    simp only [rowsOf, deleteRows, List.filter_filter]
    refine List.filter_congr fun r _ => ?_
    by_cases here : r.collection = other <;> simp [Row.isAt, here, elsewhere]

theorem rowsOf_foldlM_of_ne {writes : List Write} (elsewhere : other ≠ collection)
    (done : writes.foldlM (applyWrite collection) rows = .ok rows') :
    rowsOf other rows' = rowsOf other rows := by
  induction writes generalizing rows with
  | nil =>
    cases done
    rfl
  | cons w writes ih =>
    rw [List.foldlM_cons, Except.bind_eq_ok_iff] at done
    obtain ⟨next, first, later⟩ := done
    rw [ih later, rowsOf_applyWrite_of_ne elsewhere first]

theorem list_run [Json.FloatReader] (collection : String) (s : TableStore) :
    (DocumentStore.list collection).run s = ((rowsOf collection s.rows).mapM readRow, s) := rfl

theorem find_run [Json.FloatReader] (collection id : String) (s : TableStore) :
    (DocumentStore.find collection id).run s =
      (match s.rows.find? (Row.isAt collection id) with
        | some r => (readAs id r).map some
        | none => .ok none, s) := by
  show (TableStore.find collection id).run s = _
  unfold TableStore.find
  rw [run_bind]
  show Action.run (match s.rows.find? (Row.isAt collection id) with
    | some r => ExceptT.mk (pure ((readAs id r).map some))
    | none => pure none : Action TableStore StoreError (Option Snapshot)) s = _
  cases s.rows.find? (Row.isAt collection id) <;> rfl

theorem allocate_run [Json.FloatReader] (collection : String) (s : TableStore) :
    (DocumentStore.allocate collection).run s =
      (.ok (s.ids.draw ((rowsOf collection s.rows).map (·.id))).1,
        { s with ids := (s.ids.draw ((rowsOf collection s.rows).map (·.id))).2 }) := rfl

theorem commit_run [Json.FloatReader] (batch : Batch) (s : TableStore) :
    (DocumentStore.commit batch).run s =
      match batch.writes.foldlM (applyWrite batch.collection) s.rows with
      | .ok rows => (.ok (), { s with rows })
      | .error refusal => (.error refusal, s) := by
  show (TableStore.commit batch).run s = _
  unfold TableStore.commit
  rw [run_bind, run_get]
  dsimp only
  cases batch.writes.foldlM (applyWrite batch.collection) s.rows <;> rfl

end DocumentMigration.TableStore
