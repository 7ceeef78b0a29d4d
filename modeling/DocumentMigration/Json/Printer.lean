import DocumentMigration.Json.Object

/-!
JSON text. The compact form has no blanks; the pretty form puts every item on a line of its own,
indented by two spaces a level, and keeps empty containers on one line.
-/
namespace DocumentMigration.Json

def hexDigit (n : Nat) : Char :=
  if n < 10 then Char.ofNat ('0'.toNat + n) else Char.ofNat ('a'.toNat + (n - 10))

/-- Quotes, backslashes and the characters below U+0020 are escaped, and no others. -/
def escapeChar (c : Char) : List Char :=
  if c = '"' then ['\\', '"']
  else if c = '\\' then ['\\', '\\']
  else if c = '\n' then ['\\', 'n']
  else if c = '\r' then ['\\', 'r']
  else if c = '\t' then ['\\', 't']
  else if c.toNat = 8 then ['\\', 'b']
  else if c.toNat = 12 then ['\\', 'f']
  else if c.toNat < 32 then ['\\', 'u', '0', '0', hexDigit (c.toNat / 16), hexDigit (c.toNat % 16)]
  else [c]

def quote (s : String) : List Char := '"' :: (s.toList.flatMap escapeChar ++ ['"'])

namespace Value

mutual
def compactChars : Value → List Char
  | .null => ['n', 'u', 'l', 'l']
  | .bool true => ['t', 'r', 'u', 'e']
  | .bool false => ['f', 'a', 'l', 's', 'e']
  | .number n => n.text
  | .string s => quote s
  | .array [] => ['[', ']']
  | .array (x :: xs) => '[' :: (compactChars x ++ compactItems xs)
  | .object [] => ['{', '}']
  | .object ((k, x) :: ms) => '{' :: (quote k ++ ':' :: (compactChars x ++ compactMembers ms))

/-- The items after the first, with the closing bracket. -/
def compactItems : List Value → List Char
  | [] => [']']
  | x :: xs => ',' :: (compactChars x ++ compactItems xs)

def compactMembers : List (String × Value) → List Char
  | [] => ['}']
  | (k, x) :: ms => ',' :: (quote k ++ ':' :: (compactChars x ++ compactMembers ms))
end

/-- A line break and the indentation of one level. -/
def newline (level : Nat) : List Char := '\n' :: List.replicate (2 * level) ' '

mutual
def prettyChars (level : Nat) : Value → List Char
  | .array [] => ['[', ']']
  | .array (x :: xs) =>
    '[' :: (newline (level + 1) ++ prettyChars (level + 1) x ++ prettyItems level xs)
  | .object [] => ['{', '}']
  | .object ((k, x) :: ms) =>
    '{' :: (newline (level + 1) ++ quote k ++ ':' :: ' ' :: prettyChars (level + 1) x
      ++ prettyMembers level ms)
  | v => compactChars v

def prettyItems (level : Nat) : List Value → List Char
  | [] => newline level ++ [']']
  | x :: xs => ',' :: (newline (level + 1) ++ prettyChars (level + 1) x ++ prettyItems level xs)

def prettyMembers (level : Nat) : List (String × Value) → List Char
  | [] => newline level ++ ['}']
  | (k, x) :: ms =>
    ',' :: (newline (level + 1) ++ quote k ++ ':' :: ' ' :: prettyChars (level + 1) x
      ++ prettyMembers level ms)
end

def compact (v : Value) : String := String.ofList v.compactChars

def pretty (v : Value) : String := String.ofList (v.prettyChars 0)

end Value
end DocumentMigration.Json
