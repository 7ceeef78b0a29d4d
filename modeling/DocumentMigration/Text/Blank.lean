/-!
White space of Unicode text, and the words that this library builds texts from.
-/
namespace DocumentMigration.Text

/-- The characters with the property White_Space. -/
def isBlank (c : Char) : Bool :=
  let n := c.toNat
  (9 ≤ n && n ≤ 13) || n = 0x20 || n = 0x85 || n = 0xA0 || n = 0x1680
    || (0x2000 ≤ n && n ≤ 0x200A) || n = 0x2028 || n = 0x2029 || n = 0x202F || n = 0x205F
    || n = 0x3000

/-- Drops the characters of a class at both ends. -/
def strip (drops : Char → Bool) (text : List Char) : List Char :=
  ((text.dropWhile drops).reverse.dropWhile drops).reverse

def trim (text : String) : String := String.ofList (strip isBlank text.toList)

def lowerAscii (text : String) : String := String.ofList (text.toList.map Char.toLower)

/-- A decimal number of at least `width` characters, filled up with zeros. -/
def padded (width n : Nat) : String :=
  let digits := Nat.toDigits 10 n
  String.ofList (List.replicate (width - digits.length) '0' ++ digits)

end DocumentMigration.Text
