import DocumentMigration.Config.Variable
import DocumentMigration.Text.Line
import DocumentMigration.Text.Property

/-!
Files of variables: a line for each assignment, comments after a hash, and values in quotes of two
kinds. A quoted value may go on over several lines.
-/
namespace DocumentMigration.VariableFile

inductive LineState where
  | plain
  | blank
  | escape
  | single
  | singleEscape
  | double
  | doubleEscape
deriving DecidableEq

/-- The state after a character; none where a comment begins. A second blank in a row counts as
plain. -/
def LineState.next : LineState → Char → Option LineState
  | .blank, '#' => none
  | .blank, '\\' | .plain, '\\' => some .escape
  | .blank, '"' | .plain, '"' => some .double
  | .blank, '\'' | .plain, '\'' => some .single
  | .blank, _ => some .plain
  | .plain, c => some (if Text.isBlank c && c ≠ '\n' && c ≠ '\r' then .blank else .plain)
  | .escape, _ => some .plain
  | .single, '\\' => some .singleEscape
  | .single, '\'' => some .plain
  | .single, _ | .singleEscape, _ => some .single
  | .double, '\\' => some .doubleEscape
  | .double, '"' => some .plain
  | .double, _ | .doubleEscape, _ => some .double

def scan : LineState → List Char → List Char × Option LineState
  | st, [] => ([], some st)
  | st, c :: rest =>
    match st.next c with
    | none => ([], none)
    | some next =>
      let (kept, last) := scan next rest
      (c :: kept, last)

/-- The next line that is complete, after what has been read of it, and the text behind it. -/
def nextLine? (st : LineState) (read cs : List Char) : Option (List Char × List Char) :=
  if _h : cs = [] then none
  else
    let line := Text.splitLine cs
    if (read ++ line.1).dropWhile Text.isBlank |>.head? |> (· = some '#') then some ([], line.2)
    else
      match scan st line.1 with
      | (kept, none) => some (read ++ kept, line.2)
      | (kept, some .plain) => some (Text.withoutEnd (read ++ kept), line.2)
      | (kept, some open?) => nextLine? open? (read ++ kept) line.2
termination_by cs.length
decreasing_by exact Text.length_splitLine_lt _h

theorem length_nextLine_lt {st : LineState} {read cs line rest : List Char}
    (h : nextLine? st read cs = some (line, rest)) : rest.length < cs.length := by
  fun_induction nextLine? st read cs <;> grind [Text.length_splitLine_lt]

/-! Values. -/

inductive Place where
  | bare
  | single
  | double
  | escaped (inDouble : Bool)
  /-- In the name of a variable after a dollar. -/
  | name (inDouble : Bool) (taken : List Char)
  /-- The same between braces. -/
  | braced (inDouble : Bool) (taken : List Char)
  /-- Behind a value, where only blanks and a comment may follow. -/
  | behind

def Place.around (inDouble : Bool) : Place := if inDouble then .double else .bare

def substitute (env : Environment) (name : List Char) : List Char :=
  ((env.find? (String.ofList name)).getD "").toList

/-- The value that some characters spell. Names of variables end at the first character that is no
letter or digit, which then stands for itself; a variable that is not set is empty. -/
def value? (env : Environment) : Place → List Char → Option (List Char)
  | .bare, [] | .behind, [] | .escaped false, [] => some []
  | .name false taken, [] => some (substitute env taken)
  | _, [] => none
  | .behind, c :: rest =>
    if c = ' ' || c = '\t' then value? env .behind rest
    else if c = '#' then some []
    else none
  | .escaped inDouble, c :: rest =>
    if c = '\\' || c = '\'' || c = '"' || c = '$' || c = ' ' then
      (value? env (.around inDouble) rest).map (c :: ·)
    else if c = 'n' then (value? env (.around inDouble) rest).map ('\n' :: ·)
    else none
  | .single, c :: rest =>
    if c = '\'' then value? env .bare rest else (value? env .single rest).map (c :: ·)
  | .name inDouble taken, c :: rest =>
    if Text.isAlphanumeric c then value? env (.name inDouble (taken ++ [c])) rest
    else if c = '\x7b' && taken.isEmpty then value? env (.braced inDouble []) rest
    else if c = '$' then
      (value? env (.name inDouble []) rest).map (substitute env taken ++ ·)
    else (value? env (.around inDouble) rest).map (substitute env taken ++ c :: ·)
  | .braced inDouble taken, c :: rest =>
    if c = '\x7d' then (value? env (.around inDouble) rest).map (substitute env taken ++ ·)
    else value? env (.braced inDouble (taken ++ [c])) rest
  | .double, c :: rest =>
    if c = '$' then value? env (.name true []) rest
    else if c = '"' then value? env .bare rest
    else if c = '\\' then value? env (.escaped true) rest
    else (value? env .double rest).map (c :: ·)
  | .bare, c :: rest =>
    if c = '$' then value? env (.name false []) rest
    else if c = '\'' then value? env .single rest
    else if c = '"' then value? env .double rest
    else if c = '\\' then value? env (.escaped false) rest
    else if c = ' ' || c = '\t' then value? env .behind rest
    else (value? env .bare rest).map (c :: ·)

/-! Assignments. -/

def skipBlank (cs : List Char) : List Char := cs.dropWhile Text.isBlank

/-- A name of ASCII letters, digits, underscores and points that begins with none of the digits and
points. Blanks behind it are dropped. -/
def name? (cs : List Char) : Option (List Char × List Char) :=
  match cs with
  | c :: _ =>
    if c.isAlpha || c = '_' then
      let (name, rest) := cs.span fun c => c.isAlphanum || c = '_' || c = '.'
      some (name, skipBlank rest)
    else none
  | [] => none

def equals? : List Char → Option (List Char)
  | '=' :: rest => some (skipBlank rest)
  | _ => none

/-- The name in front of an equals sign. The word `export` may stand before it, or be the name. -/
def target? (cs : List Char) : Option (List Char × List Char) := do
  let (name, rest) ← name? cs
  match equals? rest with
  | some rest => return (name, rest)
  | none =>
    if name ≠ "export".toList then none
    let (name, rest) ← name? rest
    return (name, ← equals? rest)

/-- One line, as an assignment or as nothing. The outer option is for lines that do not read. -/
def assignment? (env : Environment) (line : List Char) : Option (Option (String × String)) := do
  let line := skipBlank (line.reverse.dropWhile Text.isBlank).reverse
  match line with
  | [] | '#' :: _ => return none
  | _ =>
    let (name, rest) ← target? line
    let value ← match rest with
      | [] | '#' :: _ => some []
      | _ => value? env .bare rest
    return some (String.ofList name, String.ofList value)

/-- Makes the assignments of a text one by one. A variable that is set keeps its value. -/
def assignAll? (env : Environment) (cs : List Char) : Option Environment :=
  if cs = [] then some env
  else
    match _h : nextLine? .plain [] cs with
    | none => none
    | some (line, rest) =>
      match assignment? env line with
      | none => none
      | some none => assignAll? env rest
      | some (some (name, value)) => assignAll? (env.setNew name value) rest
termination_by cs.length
decreasing_by all_goals exact length_nextLine_lt _h

/-- The environment after a file of variables. A byte order mark in front is skipped. -/
def read? (env : Environment) (text : String) : Option Environment :=
  match text.toList with
  | '\uFEFF' :: rest => assignAll? env rest
  | cs => assignAll? env cs

end DocumentMigration.VariableFile
