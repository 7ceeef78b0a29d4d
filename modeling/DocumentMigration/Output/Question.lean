import DocumentMigration.Text.Blank

/-!
Questions to the operator, answered by one line of input. Only `y` and `yes` agree, in any case; the
end of the input declines.
-/
namespace DocumentMigration.Question

def prompt (question : String) : String := question ++ " [y/N] "

def agrees (answer : String) : Bool :=
  let word := Text.lowerAscii (Text.trim answer)
  word = "y" || word = "yes"

end DocumentMigration.Question
