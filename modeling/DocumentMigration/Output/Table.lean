import DocumentMigration.Text.Blank

/-!
Tables of text with aligned columns. The view of a table is `lines`: a header, a divider and a
line for each row. Widths count characters; the floor of a column counts the bytes of its header,
and no column shrinks below its floor.
-/
namespace DocumentMigration.Table

structure Style where
  /-- Lines of at most this width, as far as the floors allow. -/
  maxWidth : Option Nat := none
  color : Bool := false

structure Column where
  header : String
  width : Nat

namespace Column

def floor (c : Column) : Nat := max c.header.utf8ByteSize 6

def shrinks (c : Column) : Bool := c.floor < c.width

end Column

def longest (rows : List (List String)) (index : Nat) : Nat :=
  (rows.filterMap fun row => row[index]?).foldl (fun n cell => max n cell.length) 0

def natural (headers : List String) (rows : List (List String)) : List Column :=
  headers.zipIdx.map fun (header, index) =>
    ⟨header, max (longest rows index) (max header.utf8ByteSize 6)⟩

def totalWidth (columns : List Column) : Nat :=
  columns.foldl (fun n c => n + c.width) 0 + 2 * (columns.length - 1)

/-- The width of the widest column that can still shrink. -/
def widest (columns : List Column) : Nat :=
  (columns.filter Column.shrinks).foldl (fun n c => max n c.width) 0

/-- Takes one character off the last column of a width that can shrink. -/
def shrinkLast (width : Nat) : List Column → Option (List Column)
  | [] => none
  | c :: rest =>
    match shrinkLast width rest with
    | some shrunk => some (c :: shrunk)
    | none =>
      if c.shrinks && c.width = width then some ({ c with width := c.width - 1 } :: rest) else none

/-- Takes characters off the columns, one at a time, always from the widest. -/
def shrink : Nat → List Column → List Column
  | 0, columns => columns
  | excess + 1, columns =>
    match shrinkLast (widest columns) columns with
    | some shrunk => shrink excess shrunk
    | none => columns

def fit (maxWidth : Option Nat) (columns : List Column) : List Column :=
  match maxWidth with
  | none => columns
  | some limit => shrink (totalWidth columns - limit) columns

/-- A text of at most `width` characters, with an ellipsis in place of what is cut off. -/
def cut (width : Nat) (text : List Char) : List Char :=
  if text.length ≤ width then text
  else if width ≤ 1 then ['…']
  else text.take (width - 1) ++ ['…']

/-- Digits, signs and points only, apart from blanks around them. -/
def looksNumeric (text : List Char) : Bool :=
  let inner := Text.strip Text.isBlank text
  !inner.isEmpty && inner.all fun c => c.isDigit || c = '-' || c = '+' || c = '.'

def escape : Char := '\x1b'

/-- The names of operations in their colors, other texts as they are. -/
def colored (text : List Char) : List Char :=
  let code? := match String.ofList text with
    | "create" => some '2'
    | "update" => some '3'
    | "delete" => some '1'
    | _ => none
  match code? with
  | some code => [escape, '[', '3', code, 'm'] ++ text ++ [escape, '[', '0', 'm']
  | none => text

/-- A text without its color marks. A mark goes from an escape and a bracket to the next `m`. -/
def plain : Bool → List Char → List Char
  | _, [] => []
  | true, c :: rest => plain (c ≠ 'm') rest
  | false, [c] => [c]
  | false, c :: d :: rest =>
    if c = escape ∧ d = '[' then plain true rest else c :: plain false (d :: rest)

/-- Fills a cell up with blanks; numbers stand at the right. -/
def pad (width shown : Nat) (numeric : Bool) (text : List Char) : List Char :=
  let blanks := List.replicate (width - shown) ' '
  if numeric then blanks ++ text else text ++ blanks

def cell (style : Style) (width : Nat) (text : List Char) : List Char :=
  let short := cut width text
  if style.color then
    let marked := colored short
    pad width (plain false marked).length (looksNumeric short) marked
  else pad width short.length (looksNumeric short) short

def line (cells : List (List Char)) : List Char := [' ', ' '].intercalate cells

def headerLine (columns : List Column) : List Char :=
  line (columns.map fun c =>
    let short := cut c.width c.header.toList
    pad c.width short.length false short)

/-- A dash stands for a missing cell. -/
def rowLine (style : Style) (columns : List Column) (row : List String) : List Char :=
  line (columns.zipIdx.map fun (c, index) => cell style c.width (row.getD index "-").toList)

def lines (headers : List String) (rows : List (List String)) (style : Style) :
    List (List Char) :=
  let columns := fit style.maxWidth (natural headers rows)
  let top := headerLine columns
  top :: List.replicate top.length '-' :: rows.map (rowLine style columns)

def render (headers : List String) (rows : List (List String)) (style : Style := {}) : String :=
  String.ofList (['\n'].intercalate (lines headers rows style))

end DocumentMigration.Table
