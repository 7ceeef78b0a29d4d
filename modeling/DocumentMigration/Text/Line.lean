/-!
Lines of text, with their line ends.
-/
namespace DocumentMigration.Text

/-- The first line with its line feed, and what comes after it. -/
def splitLine : List Char → List Char × List Char
  | [] => ([], [])
  | '\n' :: rest => (['\n'], rest)
  | c :: rest =>
    let (line, rest) := splitLine rest
    (c :: line, rest)

theorem splitLine_append (cs : List Char) : (splitLine cs).1 ++ (splitLine cs).2 = cs := by
  fun_induction splitLine cs <;> simp_all

theorem length_splitLine_lt {cs : List Char} (h : cs ≠ []) :
    (splitLine cs).2.length < cs.length := by
  have whole := congrArg List.length (splitLine_append cs)
  have front : (splitLine cs).1 ≠ [] := by
    fun_cases splitLine cs <;> simp_all
  have := List.length_pos_iff.2 front
  simp only [List.length_append] at whole
  omega

/-- A line without its line feed and a carriage return before that. -/
def withoutEnd (line : List Char) : List Char :=
  match line.reverse with
  | '\n' :: '\r' :: body => body.reverse
  | '\n' :: body => body.reverse
  | _ => line

end DocumentMigration.Text
