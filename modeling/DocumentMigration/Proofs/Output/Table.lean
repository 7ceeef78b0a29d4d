import DocumentMigration.Proofs.Output.Fitting
import Mathlib.Data.List.Forall2

/-!
The lines of a table have one width: that of its contents, or the limit within the floors. Colors
come on top: without its marks a colored table is the same text as one that was never colored.
-/
namespace DocumentMigration.Table

variable {headers : List String} {rows : List (List String)} {maxWidth : Option Nat}
  {columns : List Column} {width : Nat} {text : List Char}

section Widths

/-- The width that the contents ask for: each column as wide as its longest cell, its header and six
characters, with two blanks between the columns. -/
def fullWidth (headers : List String) (rows : List (List String)) : Nat :=
  (headers.zipIdx.map fun h => max (longest rows h.2) (max h.1.utf8ByteSize 6)).sum
    + 2 * (headers.length - 1)

/-- The same without the cells. -/
def leastWidth (headers : List String) : Nat :=
  (headers.map fun h => max h.utf8ByteSize 6).sum + 2 * (headers.length - 1)

/-- The width of a table: a limit is kept where the floors allow it. -/
def tableWidth (headers : List String) (rows : List (List String)) : Option Nat → Nat
  | none => fullWidth headers rows
  | some limit => max (leastWidth headers) (min (fullWidth headers rows) limit)

theorem totalWidth_natural (headers : List String) (rows : List (List String)) :
    totalWidth (natural headers rows) = fullWidth headers rows := by
  simp [totalWidth_eq, natural, fullWidth, Function.comp_def]

theorem map_atFloor_natural (headers : List String) (rows : List (List String)) :
    (natural headers rows).map Column.atFloor =
      headers.map fun h => ⟨h, max h.utf8ByteSize 6⟩ := by
  have named : (natural headers rows).map Column.atFloor =
      (headers.zipIdx.map Prod.fst).map fun h => ⟨h, max h.utf8ByteSize 6⟩ := by
    rw [natural, List.map_map, List.map_map]
    rfl
  rw [named, List.zipIdx_map_fst]

theorem standing_natural (headers : List String) (rows : List (List String)) :
    Standing (natural headers rows) := by
  intro c member
  obtain ⟨h, -, rfl⟩ := List.mem_map.mp member
  exact Nat.le_max_right _ _

theorem fitted_fit (maxWidth : Option Nat) (headers : List String) (rows : List (List String)) :
    Standing (fit maxWidth (natural headers rows)) ∧
      (fit maxWidth (natural headers rows)).map (·.header) = headers ∧
      totalWidth (fit maxWidth (natural headers rows)) = tableWidth headers rows maxWidth := by
  have names (cs : List Column)
      (floors : cs.map Column.atFloor = headers.map fun h => ⟨h, max h.utf8ByteSize 6⟩) :
      cs.map (·.header) = headers := by
    have same := congrArg (List.map (·.header)) floors
    simpa [List.map_map, Function.comp_def, Column.atFloor] using same
  have standing := standing_natural headers rows
  have floors := map_atFloor_natural headers rows
  cases maxWidth with
  | none => exact ⟨standing, names _ floors, totalWidth_natural headers rows⟩
  | some limit =>
    obtain ⟨turns, settled⟩ := turns_fit limit (natural headers rows)
    have fitted := fitted_of_turns turns
    refine ⟨fitted.standing standing, names _ (fitted.atFloor.trans floors), ?_⟩
    have least : totalWidth ((natural headers rows).map Column.atFloor) = leastWidth headers := by
      rw [floors]
      simp [totalWidth_eq, leastWidth, Function.comp_def]
    rw [tableWidth, ← least, ← totalWidth_natural]
    exact fitted.totalWidth_eq standing settled

end Widths

section Lengths

theorem length_cut_le (positive : 1 ≤ width) (text : List Char) :
    (cut width text).length ≤ width := by
  unfold cut
  split
  · assumption
  · split
    · exact positive
    · rw [List.length_append, List.length_take, List.length_singleton]
      omega

theorem length_pad (shown : Nat) (numeric : Bool) (text : List Char) :
    (pad width shown numeric text).length = text.length + (width - shown) := by
  unfold pad
  cases numeric <;> simp [Nat.add_comm]

theorem length_pad_cut (positive : 1 ≤ width) (numeric : Bool) (text : List Char) :
    (pad width (cut width text).length numeric (cut width text)).length = width := by
  rw [length_pad]
  exact Nat.add_sub_of_le (length_cut_le positive text)

theorem length_cell (positive : 1 ≤ width) (text : List Char) :
    (cell ⟨maxWidth, false⟩ width text).length = width := by
  simp only [cell, Bool.false_eq_true, if_false]
  exact length_pad_cut positive _ _

theorem length_line (cells : List (List Char)) :
    (line cells).length = (cells.map List.length).sum + 2 * (cells.length - 1) := by
  induction cells with
  | nil => rfl
  | cons cell rest ih =>
    rcases rest with _ | ⟨next, rest⟩
    · simp [line]
    · rw [line, List.intercalate_cons_cons, List.length_append, List.length_append, ← line, ih]
      simp only [List.map_cons, List.sum_cons, List.length_cons, List.length_nil]
      omega

/-- A line whose cells fill their columns has the width of the columns. -/
theorem length_line_of_filled {cells : List (List Char)}
    (filled : cells.map List.length = columns.map (·.width)) :
    (line cells).length = totalWidth columns := by
  have count : cells.length = columns.length := by simpa using congrArg List.length filled
  rw [length_line, totalWidth_eq, filled, count]

theorem length_headerLine (standing : Standing columns) :
    (headerLine columns).length = totalWidth columns := by
  apply length_line_of_filled
  rw [List.map_map]
  refine List.map_congr_left fun c member => ?_
  exact length_pad_cut (c.floor_pos.trans_le (standing c member)) false _

theorem length_rowLine (standing : Standing columns) (row : List String) :
    (rowLine ⟨maxWidth, false⟩ columns row).length = totalWidth columns := by
  apply length_line_of_filled
  have widths : columns.map (·.width) = columns.zipIdx.map fun p => p.1.width := by
    conv_lhs => rw [← List.zipIdx_map_fst 0 columns, List.map_map]
    rfl
  rw [widths, List.map_map]
  refine List.map_congr_left fun ⟨c, index⟩ member => ?_
  have stands := standing c (List.fst_mem_of_mem_zipIdx member)
  rw [Function.comp_apply]
  exact length_cell (c.floor_pos.trans_le stands) _

theorem length_of_mem_lines {l : List Char} (member : l ∈ lines headers rows ⟨maxWidth, false⟩) :
    l.length = tableWidth headers rows maxWidth := by
  obtain ⟨standing, -, total⟩ := fitted_fit maxWidth headers rows
  have top := length_headerLine standing
  rw [← total]
  rcases List.mem_cons.mp member with rfl | member
  · exact top
  rcases List.mem_cons.mp member with rfl | member
  · rw [List.length_replicate, top]
  · obtain ⟨row, -, rfl⟩ := List.mem_map.mp member
    exact length_rowLine standing row

end Lengths

section Colors

/-- A text that is another one with color marks in it, whatever follows. -/
def Shows (marked shown : List Char) : Prop :=
  ∀ rest, plain false (marked ++ rest) = shown ++ plain false rest

variable {marked shown marked' shown' : List Char}

theorem Shows.plain_eq (h : Shows marked shown) : plain false marked = shown := by
  simpa [plain] using h []

theorem Shows.append (h : Shows marked shown) (h' : Shows marked' shown') :
    Shows (marked ++ marked') (shown ++ shown') := by
  intro rest
  rw [List.append_assoc, h, h', List.append_assoc]

theorem plain_cons {c : Char} (clear : c ≠ escape) (rest : List Char) :
    plain false (c :: rest) = c :: plain false rest := by
  cases rest with
  | nil => rfl
  | cons d rest => rw [plain, if_neg fun both => clear both.1]

/-- Without an escape there is nothing to remove. -/
theorem shows_self (clear : escape ∉ text) : Shows text text := by
  intro rest
  induction text with
  | nil => rfl
  | cons c text ih =>
    obtain ⟨head, clear⟩ := not_or.mp (mt List.mem_cons.mpr clear)
    rw [List.cons_append, plain_cons (Ne.symm head), ih clear, List.cons_append]

/-- A mark is removed up to its end. -/
theorem shows_mark (codes : List Char) (inside : 'm' ∉ codes) :
    Shows (escape :: '[' :: codes ++ ['m']) [] := by
  intro rest
  have skip (codes : List Char) (inside : 'm' ∉ codes) :
      plain true (codes ++ 'm' :: rest) = plain false rest := by
    induction codes with
    | nil => rfl
    | cons c codes ih =>
      obtain ⟨head, inside⟩ := not_or.mp (mt List.mem_cons.mpr inside)
      rw [List.cons_append, plain, decide_eq_true (Ne.symm head), ih inside]
  simp [plain, skip codes inside]

theorem shows_between {code : Char} (inside : code ≠ 'm') (clear : escape ∉ text) :
    Shows ([escape, '[', '3', code, 'm'] ++ text ++ [escape, '[', '0', 'm']) text := by
  have start : Shows [escape, '[', '3', code, 'm'] [] :=
    shows_mark ['3', code] (by simpa using inside.symm)
  have stop : Shows [escape, '[', '0', 'm'] [] := shows_mark ['0'] (by decide)
  simpa using (start.append (shows_self clear)).append stop

theorem shows_colored (clear : escape ∉ text) : Shows (colored text) text := by
  unfold colored
  split
  · exact shows_between (by decide) clear
  · exact shows_between (by decide) clear
  · exact shows_between (by decide) clear
  · exact shows_self clear

theorem shows_replicate {c : Char} (clear : escape ≠ c) (n : Nat) :
    Shows (List.replicate n c) (List.replicate n c) :=
  shows_self fun member => clear (List.eq_of_mem_replicate member)

theorem Shows.pad (h : Shows marked text) (shown : Nat) (numeric : Bool) :
    Shows (Table.pad width shown numeric marked) (Table.pad width shown numeric text) := by
  unfold Table.pad
  cases numeric
  · exact h.append (shows_replicate (by decide) _)
  · exact (shows_replicate (by decide) _).append h

theorem escape_not_mem_cut (clear : escape ∉ text) : escape ∉ cut width text := by
  unfold cut
  split
  · exact clear
  · split
    · decide
    · rw [List.mem_append, not_or]
      exact ⟨fun member => clear (List.mem_of_mem_take member), by decide⟩

/-- What holds of the cells of a row and of a dash holds of whatever a row shows. -/
theorem shown_of_forall {row : List String} (good : List Char → Prop) (dash : good "-".toList)
    (each : ∀ text ∈ row, good text.toList) (index : Nat) :
    good (row.getD index "-").toList := by
  rcases found : row[index]? with _ | text <;> rw [List.getD_eq_getElem?_getD, found]
  · exact dash
  · exact each text (List.mem_of_getElem? found)

/-- A colored cell takes the place of the plain one. -/
theorem shows_cell (clear : escape ∉ text) :
    Shows (cell ⟨maxWidth, true⟩ width text) (cell ⟨maxWidth, false⟩ width text) := by
  have shows : Shows (colored (cut width text)) (cut width text) :=
    shows_colored (escape_not_mem_cut clear)
  simp only [cell, if_true, Bool.false_eq_true, if_false, shows.plain_eq]
  exact shows.pad _ _

theorem Shows.intercalate {separator : List Char} {as bs : List (List Char)}
    (clear : escape ∉ separator) (each : List.Forall₂ Shows as bs) :
    Shows (separator.intercalate as) (separator.intercalate bs) := by
  induction each with
  | nil => exact fun _ => rfl
  | @cons a b as bs head rest ih =>
    cases rest with
    | nil => simpa using head
    | cons next rest =>
      rw [List.intercalate_cons_cons, List.intercalate_cons_cons]
      exact (head.append (shows_self clear)).append ih

variable (headersClear : ∀ h ∈ headers, escape ∉ h.toList)
  (cellsClear : ∀ row ∈ rows, ∀ text ∈ row, escape ∉ text.toList)

include headersClear

theorem shows_headerLine (named : columns.map (·.header) = headers) :
    Shows (headerLine columns) (headerLine columns) := by
  refine Shows.intercalate (by decide) (List.forall₂_same.mpr ?_)
  rintro _ member
  obtain ⟨c, inside, rfl⟩ := List.mem_map.mp member
  have clear := headersClear c.header (named ▸ List.mem_map_of_mem inside)
  exact (shows_self (escape_not_mem_cut clear)).pad _ _

omit headersClear in
theorem shows_rowLine {row : List String} (clear : ∀ text ∈ row, escape ∉ text.toList)
    (columns : List Column) :
    Shows (rowLine ⟨maxWidth, true⟩ columns row) (rowLine ⟨maxWidth, false⟩ columns row) := by
  refine Shows.intercalate (by decide) ?_
  rw [List.forall₂_map_left_iff, List.forall₂_map_right_iff]
  refine List.forall₂_same.mpr fun p _ => shows_cell ?_
  exact shown_of_forall (escape ∉ ·) (by decide) clear p.2

include cellsClear

/-- Removing the marks of a colored table leaves the table without colors. -/
theorem plain_render :
    plain false (render headers rows ⟨maxWidth, true⟩).toList =
      (render headers rows ⟨maxWidth, false⟩).toList := by
  obtain ⟨-, named, -⟩ := fitted_fit maxWidth headers rows
  rw [render, render, String.toList_ofList, String.toList_ofList]
  apply Shows.plain_eq
  refine Shows.intercalate (by decide) (.cons ?_ (.cons ?_ ?_))
  · exact shows_headerLine headersClear named
  · exact shows_replicate (by decide) _
  · rw [List.forall₂_map_left_iff, List.forall₂_map_right_iff]
    exact List.forall₂_same.mpr fun row member => shows_rowLine (cellsClear row member) _

end Colors

/-- A table has a line for its header, a divider and a line for each row, all of one width: that of
the contents, or as much of it as the limit and the floors of the columns leave. The fitting comes
to an end, and in no turn of it a column falls below its floor. Colors change nothing but the marks
around the names of operations, as long as no text has an escape of its own. -/
theorem lines_aligned (headers : List String) (rows : List (List String)) (maxWidth : Option Nat) :
    (render headers rows ⟨maxWidth, false⟩).toList =
        ['\n'].intercalate (lines headers rows ⟨maxWidth, false⟩) ∧
      (lines headers rows ⟨maxWidth, false⟩).length = 2 + rows.length ∧
      (∀ l ∈ lines headers rows ⟨maxWidth, false⟩, l.length = tableWidth headers rows maxWidth) ∧
      (∀ limit, (WellFounded fun shrunk columns => Turn limit columns shrunk) ∧
        Relation.ReflTransGen (Turn limit) (natural headers rows)
          (fit (some limit) (natural headers rows)) ∧
        Settled limit (fit (some limit) (natural headers rows)) ∧
        ∀ columns, Relation.ReflTransGen (Turn limit) (natural headers rows) columns →
          ∀ c ∈ columns, max c.header.utf8ByteSize 6 ≤ c.width) ∧
      ((∀ h ∈ headers, escape ∉ h.toList) → (∀ row ∈ rows, ∀ text ∈ row, escape ∉ text.toList) →
        plain false (render headers rows ⟨maxWidth, true⟩).toList =
          (render headers rows ⟨maxWidth, false⟩).toList) := by
  refine ⟨?_, ?_, fun l member => length_of_mem_lines member, fun limit => ?_, plain_render⟩
  · rw [render, String.toList_ofList]
  · rw [lines, List.length_cons, List.length_cons, List.length_map]
    omega
  · obtain ⟨turns, settled⟩ := turns_fit limit (natural headers rows)
    refine ⟨wellFounded_turn limit, turns, settled, fun columns turns => ?_⟩
    exact (fitted_of_turns turns).standing (standing_natural headers rows)

end DocumentMigration.Table

namespace DocumentMigration.Sample

open Table

/-- A short table with a long name in it. -/
def shipments : List (List String) :=
  [["update", "a-document-with-a-name-of-many-words"], ["delete"], ["12", "-7.5"]]

theorem tableWidth_shipments : tableWidth ["operation", "id"] shipments (some 24) = 24 ∧
    tableWidth ["operation", "id"] shipments (some 4) = 17 ∧
    tableWidth ["operation", "id"] shipments none = 47 := by
  decide +kernel

theorem lines_aligned_of_shipments :
    (∀ l ∈ lines ["operation", "id"] shipments ⟨some 24, false⟩, l.length = 24) ∧
      (∀ l ∈ lines ["operation", "id"] shipments ⟨some 4, false⟩, l.length = 17) ∧
      (∀ l ∈ lines ["operation", "id"] shipments ⟨none, false⟩, l.length = 47) ∧
      (∀ h ∈ ["operation", "id"], escape ∉ h.toList) ∧
      (∀ row ∈ shipments, ∀ text ∈ row, escape ∉ text.toList) ∧
      plain false (Table.render ["operation", "id"] shipments ⟨some 24, true⟩).toList =
        (Table.render ["operation", "id"] shipments ⟨some 24, false⟩).toList := by
  have headers : ∀ h ∈ ["operation", "id"], escape ∉ h.toList := by decide
  have cells : ∀ row ∈ shipments, ∀ text ∈ row, escape ∉ text.toList := by decide
  obtain ⟨-, -, limited, -, colors⟩ := lines_aligned ["operation", "id"] shipments (some 24)
  obtain ⟨-, -, floored, -, -⟩ := lines_aligned ["operation", "id"] shipments (some 4)
  obtain ⟨-, -, unlimited, -, -⟩ := lines_aligned ["operation", "id"] shipments none
  obtain ⟨within, least, full⟩ := tableWidth_shipments
  rw [within] at limited
  rw [least] at floored
  rw [full] at unlimited
  exact ⟨limited, floored, unlimited, headers, cells, colors headers cells⟩

end DocumentMigration.Sample
