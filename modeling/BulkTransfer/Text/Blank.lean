/-!
# Blanks and letter case

The blanks are the characters with the Unicode property White_Space. Letter case is that of the
ASCII letters alone.
-/
namespace BulkTransfer

def isBlank (c : Char) : Bool :=
  let n := c.toNat
  (0x09 ≤ n && n ≤ 0x0D) || n == 0x20 || n == 0x85 || n == 0xA0 || n == 0x1680 ||
    (0x2000 ≤ n && n ≤ 0x200A) || n == 0x2028 || n == 0x2029 || n == 0x202F || n == 0x205F ||
    n == 0x3000

/-- The text without the blanks at both ends. -/
def trimBlanks (text : String) : String :=
  let trimmed := (text.toList.dropWhile isBlank).reverse.dropWhile isBlank
  String.ofList trimmed.reverse

def lowerAscii (text : String) : String := String.ofList (text.toList.map Char.toLower)

def upperAscii (text : String) : String := String.ofList (text.toList.map Char.toUpper)

end BulkTransfer
