import DocumentMigration.Output.Render
import DocumentMigration.Proofs.Json.Printer
import DocumentMigration.Proofs.Json.Reordered
import DocumentMigration.Proofs.Output.Table
import DocumentMigration.Record.Row
import Mathlib.Data.List.Sort

/-!
The lines of a table as its reader counts them. Ids, collections, paths and strings stand in their
cells as they are, so a line break in one of them breaks the line of its row; what is shown as JSON
never does.
-/
namespace DocumentMigration

open Json

/-- The lines of a text, as they stand between its line breaks. -/
def linesOf (text : String) : List (List Char) := text.toList.splitOn '\n'

namespace Table

variable {headers : List String} {rows : List (List String)} {row : List String} {style : Style}
  {columns : List Column} {text : List Char}

/-- The line breaks in a text. -/
def breaks (text : List Char) : Nat := text.count '\n'

section Breaks

theorem length_splitOn (text : List Char) : (text.splitOn '\n').length = breaks text + 1 := by
  rw [List.splitOn.eq_1]
  induction text with
  | nil => rfl
  | cons c text ih =>
    rw [List.splitOnP_cons_eq_if_modifyHead, breaks, List.count_cons, ← breaks]
    split_ifs with ends
    · rw [List.length_cons, ih]
    · rw [List.length_modifyHead, ih]

theorem length_linesOf (text : String) : (linesOf text).length = breaks text.toList + 1 :=
  length_splitOn _

@[simp] theorem breaks_nil : breaks [] = 0 := rfl

@[simp] theorem breaks_append (text more : List Char) :
    breaks (text ++ more) = breaks text + breaks more := List.count_append

theorem breaks_eq_zero : breaks text = 0 ↔ '\n' ∉ text := List.count_eq_zero

theorem breaks_intercalate (separator : List Char) (texts : List (List Char)) :
    breaks (separator.intercalate texts) =
      (texts.map breaks).sum + (texts.length - 1) * breaks separator := by
  induction texts with
  | nil => simp
  | cons text rest ih =>
    rcases rest with _ | ⟨next, rest⟩
    · simp
    · rw [List.intercalate_cons_cons, breaks_append, breaks_append, ih]
      simp only [List.map_cons, List.sum_cons, List.length_cons, Nat.add_sub_cancel]
      ring

theorem breaks_cut_le (width : Nat) (text : List Char) : breaks (cut width text) ≤ breaks text := by
  unfold cut
  split
  · exact le_rfl
  · split
    · exact Nat.zero_le _
    · rw [breaks_append]
      exact (List.take_sublist _ _).count_le _

theorem breaks_replicate {c : Char} (other : '\n' ≠ c) (n : Nat) :
    breaks (List.replicate n c) = 0 :=
  breaks_eq_zero.mpr fun member => other (List.eq_of_mem_replicate member)

@[simp] theorem breaks_pad (width shown : Nat) (numeric : Bool) (text : List Char) :
    breaks (pad width shown numeric text) = breaks text := by
  have blanks : breaks (List.replicate (width - shown) ' ') = 0 := breaks_replicate (by decide) _
  unfold pad
  cases numeric <;> simp [blanks]

@[simp] theorem breaks_colored (text : List Char) : breaks (colored text) = breaks text := by
  unfold colored
  split <;> simp [breaks, escape]

theorem breaks_cell (width : Nat) (text : List Char) :
    breaks (cell style width text) = breaks (cut width text) := by
  unfold cell
  split <;> simp

theorem breaks_line (cells : List (List Char)) : breaks (line cells) = (cells.map breaks).sum := by
  rw [line, breaks_intercalate]
  rfl

/-- The line breaks that are left of a row in its columns. -/
def shownBreaks (columns : List Column) (row : List String) : Nat :=
  (columns.zipIdx.map fun c => breaks (cut c.1.width (row.getD c.2 "-").toList)).sum

theorem breaks_rowLine (columns : List Column) (row : List String) :
    breaks (rowLine style columns row) = shownBreaks columns row := by
  rw [rowLine, breaks_line, shownBreaks, List.map_map]
  congr 1
  refine List.map_congr_left fun c _ => ?_
  exact breaks_cell _ _

theorem shownBreaks_eq_zero (clear : ∀ text ∈ row, breaks text.toList = 0) (columns : List Column) :
    shownBreaks columns row = 0 := by
  refine List.sum_eq_zero fun n member => ?_
  obtain ⟨c, -, rfl⟩ := List.mem_map.mp member
  have shown : breaks (row.getD c.2 "-").toList = 0 :=
    shown_of_forall (breaks · = 0) (by decide) clear c.2
  exact Nat.le_zero.mp ((breaks_cut_le _ _).trans_eq shown)

end Breaks

section Rendered

variable (headersClear : ∀ h ∈ headers, '\n' ∉ h.toList)
include headersClear

theorem breaks_headerLine (named : columns.map (·.header) = headers) :
    breaks (headerLine columns) = 0 := by
  rw [headerLine, breaks_line, List.map_map]
  refine List.sum_eq_zero fun n member => ?_
  obtain ⟨c, inside, rfl⟩ := List.mem_map.mp member
  have clear := headersClear c.header (named ▸ List.mem_map_of_mem inside)
  rw [Function.comp_apply, breaks_pad]
  exact Nat.le_zero.mp ((breaks_cut_le _ _).trans_eq (breaks_eq_zero.mpr clear))

theorem map_breaks_lines : (lines headers rows style).map breaks =
    0 :: 0 :: rows.map (shownBreaks (fit style.maxWidth (natural headers rows))) := by
  obtain ⟨-, named, -⟩ := fitted_fit style.maxWidth headers rows
  rw [lines, List.map_cons, List.map_cons, breaks_headerLine headersClear named,
    breaks_replicate (by decide), List.map_map]
  congr 2
  exact List.map_congr_left fun row _ => breaks_rowLine _ row

/-- Two lines and one for each row, and one more for each line break that a row shows. -/
theorem length_linesOf_render : (linesOf (render headers rows style)).length =
    2 + rows.length +
      (rows.map (shownBreaks (fit style.maxWidth (natural headers rows)))).sum := by
  have count : (lines headers rows style).length = rows.length + 2 := by
    rw [lines, List.length_cons, List.length_cons, List.length_map]
  rw [length_linesOf, render, String.toList_ofList, breaks_intercalate,
    map_breaks_lines headersClear, count, List.sum_cons, List.sum_cons]
  have separator : breaks ['\n'] = 1 := rfl
  rw [separator, Nat.mul_one]
  omega

theorem linesOf_render (rowsClear : ∀ row ∈ rows, ∀ text ∈ row, breaks text.toList = 0) :
    linesOf (render headers rows style) = lines headers rows style := by
  have clear : ∀ l ∈ lines headers rows style, '\n' ∉ l := by
    intro l member
    have listed : breaks l ∈ (lines headers rows style).map breaks := List.mem_map_of_mem member
    rw [map_breaks_lines headersClear] at listed
    refine breaks_eq_zero.mp ?_
    simp only [List.mem_cons, List.mem_map] at listed
    rcases listed with zero | zero | ⟨row, inside, zero⟩
    · exact zero
    · exact zero
    · rw [← zero]
      exact shownBreaks_eq_zero (rowsClear row inside) _
  rw [linesOf, render, String.toList_ofList]
  exact List.splitOn_intercalate _ clear (by simp [lines])

end Rendered

/-- Without a limit nothing is cut off. -/
theorem shownBreaks_natural (member : row ∈ rows) (full : row.length = headers.length) :
    shownBreaks (natural headers rows) row = (row.map fun text => breaks text.toList).sum := by
  have cells : (natural headers rows).zipIdx.map
      (fun c => breaks (cut c.1.width (row.getD c.2 "-").toList)) =
        row.map fun text => breaks text.toList := by
    refine List.ext_getElem (by simp [natural, full]) fun i below inside => ?_
    rw [List.length_map] at inside
    have whole : row[i].toList.length ≤ max (longest rows i) (max headers[i].utf8ByteSize 6) :=
      (longest_le_iff.mp le_rfl row member row[i] (List.getElem?_eq_getElem inside)).trans
        (Nat.le_max_left _ _)
    simp [natural, List.getD_eq_getElem?_getD, inside, cut, whole]
  rw [shownBreaks, cells]

end Table

/-- The line breaks in all of some texts. -/
def textBreaks (texts : List String) : Nat := (texts.map fun s => Table.breaks s.toList).sum

section TextBreaks

@[simp] theorem textBreaks_nil : textBreaks [] = 0 := rfl

@[simp] theorem textBreaks_cons (s : String) (texts : List String) :
    textBreaks (s :: texts) = Table.breaks s.toList + textBreaks texts := by
  simp [textBreaks]

@[simp] theorem textBreaks_append (texts more : List String) :
    textBreaks (texts ++ more) = textBreaks texts + textBreaks more := by
  simp [textBreaks]

theorem textBreaks_flatMap {α : Type} (texts : α → List String) (as : List α) :
    textBreaks (as.flatMap texts) = (as.map fun a => textBreaks (texts a)).sum := by
  induction as with
  | nil => rfl
  | cons a as ih => simp [ih]

theorem textBreaks_eq_zero {texts : List String} :
    textBreaks texts = 0 ↔ ∀ s ∈ texts, '\n' ∉ s.toList := by
  induction texts with
  | nil => simp
  | cons s texts ih =>
    rw [textBreaks_cons, Nat.add_eq_zero_iff, Table.breaks_eq_zero, ih, List.forall_mem_cons]

end TextBreaks

namespace Json.Value

variable {style : Table.Style}

/-- The text that stands for a scalar as it is. -/
def scalarTexts : Value → List String
  | .string s => [s]
  | _ => []

/-- The texts that the cell of a value shows as they are. -/
def texts : Value → List String
  | .array items => if items.all isScalar then items.flatMap scalarTexts else []
  | v => scalarTexts v

theorem breaks_compact (v : Value) : Table.breaks v.compact.toList = 0 := by
  rw [compact, String.toList_ofList, Table.breaks_eq_zero]
  intro member
  exact absurd (v.printable_compact _ member) (by decide)

theorem breaks_scalarCell (v : Value) :
    Table.breaks v.scalarCell.toList = textBreaks v.scalarTexts := by
  cases v
  case string s => simp [scalarCell, scalarTexts]
  all_goals exact breaks_compact _

theorem breaks_cell (v : Value) : Table.breaks v.cell.toList = textBreaks v.texts := by
  cases v
  case array items =>
    rw [cell, texts]
    split_ifs with scalars
    · rw [String.toList_intercalate, Table.breaks_intercalate, List.map_map]
      have separator : Table.breaks ", ".toList = 0 := by decide
      rw [separator, Nat.mul_zero, Nat.add_zero, List.map_map, textBreaks_flatMap]
      congr 1
      exact List.map_congr_left fun v _ => breaks_scalarCell v
    · exact breaks_compact _
  all_goals exact breaks_scalarCell _

theorem isScalar_sorted (v : Value) : v.sorted.isScalar = v.isScalar := by
  cases v <;> rfl

theorem cell_sorted_string (s : String) : (string s).sorted.cell = s := rfl

theorem sorted_nat (n : Nat) : (nat n).sorted = nat n := by
  rw [nat]
  cases Number.ofInt? n <;> rfl

theorem texts_nat (n : Nat) : (nat n).texts = [] := by
  rw [nat]
  cases Number.ofInt? n <;> rfl

theorem scalarTexts_sorted (v : Value) : v.sorted.scalarTexts = v.scalarTexts := by
  cases v <;> rfl

theorem texts_sorted (v : Value) : v.sorted.texts = v.texts := by
  cases v
  case array items =>
    simp [sorted, sortedItems_eq_map, texts, List.all_map, List.flatMap_map, Function.comp_def,
      isScalar_sorted, scalarTexts_sorted]
  all_goals rfl

theorem sorted_ofStrings (texts : List String) : (ofStrings texts).sorted = ofStrings texts := by
  simp [ofStrings, sorted, sortedItems_eq_map]

theorem texts_ofStrings (texts : List String) : (ofStrings texts).texts = texts := by
  have scalars : (texts.map Value.string).all isScalar = true := by simp [isScalar]
  rw [ofStrings, Value.texts, if_pos scalars]
  simp [List.flatMap_map, scalarTexts]

theorem mapM_members? (rows : List Object) :
    (rows.map Value.object).mapM members? = some rows := by
  induction rows with
  | nil => rfl
  | cons ms rows ih => simp [members?, ih]

/-- Objects with one list of keys make a table with a column for each of them. -/
theorem itemsTable_of_keys {headers : List String} {rows : List Object}
    (ordered : headers.Pairwise (· < ·)) (named : headers ≠ []) (nonempty : rows ≠ [])
    (alike : ∀ ms ∈ rows, Object.keys ms = headers) :
    itemsTable style (rows.map .object) =
      Table.render headers (rows.map fun ms => ms.map (·.2.cell)) style := by
  have columns : Object.keys (Object.ofList rows.flatten) = headers := by
    have known (key : String) :
        key ∈ Object.keys (Object.ofList rows.flatten) ↔ key ∈ headers := by
      rw [← Object.isSome_get?, Object.get?_ofList, Object.isSome_get?]
      simp only [Object.keys, List.mem_map, List.mem_reverse, List.mem_flatten]
      constructor
      · rintro ⟨m, ⟨ms, member, inside⟩, rfl⟩
        exact alike ms member ▸ List.mem_map_of_mem inside
      · intro listed
        obtain ⟨ms, member⟩ := List.exists_mem_of_ne_nil rows nonempty
        obtain ⟨m, inside, rfl⟩ := List.mem_map.mp (alike ms member ▸ listed)
        exact ⟨m, ⟨ms, member, inside⟩, rfl⟩
    exact List.Pairwise.eq_of_mem_iff (Object.sorted_ofList rows.flatten) ordered known
  have cells (ms : Object) (member : ms ∈ rows) :
      headers.map (fun k => ((Object.get? k ms).map cell).getD "-") = ms.map (·.2.cell) := by
    rw [← alike ms member, Object.keys, List.map_map]
    refine List.map_congr_left fun m inside => ?_
    have distinct : (Object.keys ms).Nodup := (alike ms member ▸ ordered).imp ne_of_lt
    simp [Object.get?_of_mem distinct inside]
  simp only [itemsTable, List.isEmpty_map, List.isEmpty_eq_false_iff.mpr nonempty, mapM_members?,
    columns, List.isEmpty_eq_false_iff.mpr named, Bool.false_eq_true, if_false]
  rw [List.map_congr_left cells]

end Json.Value

/-- Sorting the members of an object gives any list of them that is in order. -/
theorem Json.Object.ofList_eq_of_perm {ms ns : Object} (perm : ms.Perm ns) (ordered : ns.Sorted) :
    ofList ms = ns := by
  have distinct : (keys ms).Nodup := (perm.map _).nodup_iff.mpr ordered.nodup
  exact (sorted_ofList ms).eq_of_perm ordered ((perm_ofList distinct).trans perm)

theorem Operation.clear_name (o : Operation) : '\n' ∉ o.name.toList := by cases o <;> decide

namespace ChangeColumns

variable (c : ChangeColumns)

/-- The texts of the columns that stand in the cells of a table as they are. -/
def texts : List String :=
  c.attributes ++ (Value.array c.after).texts ++ (Value.array c.before).texts

/-- The columns in the order of their names. -/
def listed : Object :=
  [("attributes", .ofStrings c.attributes), ("attributes_after", .array c.after),
    ("attributes_before", .array c.before),
    ("attributes_operation", .array (c.operations.map Operation.encode))]

def cells : List String := c.listed.map (·.2.sorted.cell)

theorem perm_listed : c.encode.Perm c.listed := .cons _ (List.reverse_perm c.listed.tail)

theorem sorted_object (front : Object)
    (ordered : (Object.keys (c.listed ++ front)).Pairwise (· < ·)) :
    (Value.object (front ++ c.encode)).sorted =
      .object ((c.listed ++ front).map fun m => (m.1, m.2.sorted)) := by
  have perm : (front ++ c.encode).Perm (c.listed ++ front) :=
    List.perm_append_comm.trans (c.perm_listed.append_right front)
  rw [Value.sorted, Value.sortedMembers_eq_map]
  congr 1
  refine Object.ofList_eq_of_perm (perm.map _) ?_
  rwa [Object.Sorted, Object.keys, List.map_map]

theorem map_cell_listed (front : Object) :
    ((c.listed ++ front).map fun m => (m.1, m.2.sorted)).map (·.2.cell) =
      c.cells ++ front.map (·.2.sorted.cell) := by
  rw [List.map_map, List.map_append]
  rfl

theorem textBreaks_cells : textBreaks c.cells = textBreaks c.texts := by
  have operations : textBreaks (Value.array (c.operations.map Operation.encode)).texts = 0 := by
    have names : c.operations.map Operation.encode =
        (c.operations.map Operation.name).map .string := by
      simp [Operation.encode]
    rw [names, ← Value.ofStrings, Value.texts_ofStrings, textBreaks_eq_zero]
    simp only [List.mem_map, forall_exists_index, and_imp, forall_apply_eq_imp_iff₂]
    exact fun o _ => o.clear_name
  simp only [cells, listed, List.map_cons, List.map_nil, textBreaks_cons, textBreaks_nil,
    Value.breaks_cell, Value.texts_sorted, Value.texts_ofStrings, operations, texts,
    textBreaks_append]
  omega

end ChangeColumns

/-- A record with columns whose table has the given headers; each row has the cells and, standing in
them as they are, the texts. -/
structure RowView {ρ : Type} (encode : ρ → Value) (headers : List String)
    (cells texts : ρ → List String) : Prop where
  ordered : headers.Pairwise (· < ·)
  named : headers ≠ []
  clear : ∀ h ∈ headers, '\n' ∉ h.toList
  sorted : ∀ r, ∃ ms : Object, (encode r).sorted = .object ms ∧ ms.keys = headers ∧
    ms.map (·.2.cell) = cells r
  breaks : ∀ r, textBreaks (cells r) = textBreaks (texts r)

/-- What a table shows of its rows: `cells` are those of each row, and `texts` the texts in them
that stand there as they are. -/
structure ShowsRows (style : Table.Style) (headers : List String) (cells texts : List (List String))
    (table : String) : Prop where
  /-- Two lines and one for each row, and one more for each line break that a row shows. -/
  total : (linesOf table).length = 2 + cells.length +
    (cells.map (Table.shownBreaks (Table.fit style.maxWidth (Table.natural headers cells)))).sum
  clear : (∀ row ∈ texts, ∀ s ∈ row, '\n' ∉ s.toList) →
    (linesOf table).length = 2 + cells.length ∧
      ∀ i row, cells[i]? = some row → (linesOf table)[i + 2]? =
        some (Table.rowLine style (Table.fit style.maxWidth (Table.natural headers cells)) row)
  /-- Where nothing is cut off, every line break is shown. -/
  unlimited : style.maxWidth = none →
    (linesOf table).length = 2 + cells.length + (texts.map textBreaks).sum

section RowView

variable {ρ : Type} {encode : ρ → Value} {headers : List String} {cells texts : ρ → List String}
  {rows : List ρ} {style : Table.Style}

theorem RowView.length_cells (view : RowView encode headers cells texts) (r : ρ) :
    (cells r).length = headers.length := by
  obtain ⟨ms, -, keys, shown⟩ := view.sorted r
  rw [← shown, ← keys, Object.keys, List.length_map, List.length_map]

theorem RowView.render_eq (view : RowView encode headers cells texts) (nonempty : rows ≠ []) :
    render .table (.array (rows.map encode)) style =
      Table.render headers (rows.map cells) style := by
  choose members sorted keys shown using view.sorted
  have items : Value.sortedItems (rows.map encode) = (rows.map members).map .object := by
    rw [Value.sortedItems_eq_map, List.map_map, List.map_map]
    exact List.map_congr_left fun r _ => sorted r
  have table : Value.itemsTable style ((rows.map members).map .object) =
      Table.render headers ((rows.map members).map fun ms => ms.map (·.2.cell)) style :=
    Value.itemsTable_of_keys view.ordered view.named (by simpa using nonempty)
      (by simpa using fun r _ => keys r)
  have shownAll : (rows.map members).map (fun ms => ms.map (·.2.cell)) = rows.map cells := by
    rw [List.map_map]
    exact List.map_congr_left fun r _ => shown r
  simp only [render, Value.table, Value.sorted, items]
  rw [table, shownAll]

theorem RowView.showsRows (view : RowView encode headers cells texts) (nonempty : rows ≠ []) :
    ShowsRows style headers (rows.map cells) (rows.map texts)
      (render .table (.array (rows.map encode)) style) := by
  have breaks (r : ρ) : textBreaks (cells r) = textBreaks (texts r) := view.breaks r
  rw [view.render_eq nonempty]
  refine ⟨Table.length_linesOf_render view.clear, fun unbroken => ?_, fun free => ?_⟩
  · have rowsClear : ∀ row ∈ rows.map cells, ∀ s ∈ row, Table.breaks s.toList = 0 := by
      intro row member s inside
      obtain ⟨r, listed, rfl⟩ := List.mem_map.mp member
      have zero := textBreaks_eq_zero.mpr (unbroken _ (List.mem_map_of_mem listed))
      rw [← breaks r] at zero
      exact Table.breaks_eq_zero.mpr (textBreaks_eq_zero.mp zero s inside)
    rw [Table.linesOf_render view.clear rowsClear]
    refine ⟨?_, fun i row found => ?_⟩
    · simp only [Table.lines, List.length_cons, List.length_map]
      omega
    · rw [Table.lines, List.getElem?_cons_succ, List.getElem?_cons_succ, List.getElem?_map, found]
      rfl
  · have counts : (rows.map cells).map
        (Table.shownBreaks (Table.natural headers (rows.map cells))) =
          (rows.map texts).map textBreaks := by
      rw [List.map_map, List.map_map]
      refine List.map_congr_left fun r member => ?_
      rw [Function.comp_apply, Function.comp_apply, ← breaks r]
      exact Table.shownBreaks_natural (List.mem_map_of_mem member) (view.length_cells r)
    rw [Table.length_linesOf_render view.clear, free, Table.fit, counts]

end RowView

namespace DocumentRow

def headers : List String :=
  ["attributes", "attributes_after", "attributes_before", "attributes_operation", "collection",
    "document", "operation"]

/-- The cells of a row, in the order of their headers. -/
def cells (r : DocumentRow) : List String :=
  r.columns.cells ++ [r.collection, r.document, r.operation.name]

def texts (r : DocumentRow) : List String := r.columns.texts ++ [r.collection, r.document]

theorem rowView : RowView encode headers cells texts where
  ordered := by decide +kernel
  named := List.cons_ne_nil _ _
  clear := by decide
  sorted r := by
    have ordered : headers.Pairwise (· < ·) := by decide +kernel
    refine ⟨_, r.columns.sorted_object _ ordered, rfl, ?_⟩
    simp only [ChangeColumns.map_cell_listed, cells, List.map_cons, List.map_nil,
      Value.cell_sorted_string, Operation.encode]
  breaks r := by
    have operation := Table.breaks_eq_zero.mpr r.operation.clear_name
    simp only [cells, texts, textBreaks_append, ChangeColumns.textBreaks_cells, textBreaks_cons,
      textBreaks_nil, operation]

end DocumentRow

namespace GroupRow

def headers : List String :=
  ["attributes", "attributes_after", "attributes_before", "attributes_operation", "collection",
    "count", "documents", "operation"]

/-- The cells of a row, in the order of their headers. -/
def cells (r : GroupRow) : List String :=
  r.columns.cells ++
    [r.collection, (Value.nat r.count).cell, (Value.ofStrings r.documents).cell, r.operation.name]

def texts (r : GroupRow) : List String := r.columns.texts ++ r.collection :: r.documents

theorem rowView : RowView encode headers cells texts where
  ordered := by decide +kernel
  named := List.cons_ne_nil _ _
  clear := by decide
  sorted r := by
    have ordered : headers.Pairwise (· < ·) := by decide +kernel
    refine ⟨_, r.columns.sorted_object _ ordered, rfl, ?_⟩
    simp only [ChangeColumns.map_cell_listed, cells, List.map_cons, List.map_nil, Value.sorted_nat,
      Value.sorted_ofStrings, Value.cell_sorted_string, Operation.encode]
  breaks r := by
    have operation := Table.breaks_eq_zero.mpr r.operation.clear_name
    simp only [cells, texts, textBreaks_append, ChangeColumns.textBreaks_cells, textBreaks_cons,
      textBreaks_nil, operation, Value.breaks_cell, Value.texts_ofStrings, Value.texts_nat,
      Nat.zero_add, Nat.add_zero]

end GroupRow

/-- A table of rows has two lines and one for each row, and one more for each line break in what it
shows of the rows' texts. So rows without line breaks in their ids, collections, paths and strings
have a line each; where nothing is cut off, no others have. -/
theorem render_rows_lines (style : Table.Style) :
    (∀ rows : List DocumentRow, rows ≠ [] →
      ShowsRows style DocumentRow.headers (rows.map DocumentRow.cells)
        (rows.map DocumentRow.texts) (render .table (.array (rows.map DocumentRow.encode)) style)) ∧
    (∀ rows : List GroupRow, rows ≠ [] →
      ShowsRows style GroupRow.headers (rows.map GroupRow.cells)
        (rows.map GroupRow.texts) (render .table (.array (rows.map GroupRow.encode)) style)) :=
  ⟨fun _ => DocumentRow.rowView.showsRows, fun _ => GroupRow.rowView.showsRows⟩

end DocumentMigration

namespace DocumentMigration.Sample

/-- An update of a text, and the deletion of what it was copied from. -/
def proofread (text : String) : List DocumentRow :=
  [⟨"notes", "n1", .update, ⟨["text"], [.update], [.string "one"], [.string text]⟩⟩,
    ⟨"drafts", "d1", .delete, ⟨[], [], [], []⟩⟩]

def tableOf (rows : List DocumentRow) : String :=
  render .table (.array (rows.map DocumentRow.encode))

/-- An update of two documents with a list in place of the text. -/
def proofreadGroup : List GroupRow :=
  [⟨"notes", 2, ["n1", "n2"], .update,
    ⟨["text"], [.update], [.string "one"], [.array [.string "two\nlines"]]⟩⟩]

theorem render_rows_lines_of_proofread :
    (proofread "two" ≠ [] ∧ proofread "two\nlines" ≠ [] ∧ proofreadGroup ≠ []) ∧
      (linesOf (tableOf (proofread "two"))).length = 4 ∧
      (linesOf (tableOf (proofread "two\nlines"))).length = 5 ∧
      (linesOf (render .table (.array (proofreadGroup.map GroupRow.encode)))).length = 3 := by
  have one := (render_rows_lines {}).1 (proofread "two") (List.cons_ne_nil _ _)
  have two := (render_rows_lines {}).1 (proofread "two\nlines") (List.cons_ne_nil _ _)
  have group := (render_rows_lines {}).2 proofreadGroup (List.cons_ne_nil _ _)
  refine ⟨⟨List.cons_ne_nil _ _, List.cons_ne_nil _ _, List.cons_ne_nil _ _⟩, ?_, ?_, ?_⟩
  · exact (one.clear (by decide)).1
  · exact two.unlimited rfl
  · exact (group.clear (by decide)).1

/-- A value of two lines takes two lines of the table. -/
theorem proofread_breaks_line :
    ¬ ∀ rows : List DocumentRow, rows ≠ [] →
      (linesOf (tableOf rows)).length = 2 + rows.length := by
  intro each
  have rows : proofread "two\nlines" ≠ [] := List.cons_ne_nil _ _
  have shows : ShowsRows {} DocumentRow.headers _ _ (tableOf (proofread "two\nlines")) :=
    DocumentRow.rowView.showsRows rows
  have lines := (shows.unlimited rfl).symm.trans (each _ rows)
  exact absurd lines (by decide)

end DocumentMigration.Sample
