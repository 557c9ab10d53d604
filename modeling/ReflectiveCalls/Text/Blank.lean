/-!
# Blank — white space around a field

The set of characters that count as white space when a field is trimmed, and the trimming itself.
The set holds the Unicode blanks, the line and paragraph separators, and the information separators
`U+001C` to `U+001F`.
-/

namespace ReflectiveCalls
namespace Text

/-- Does the character count as white space? -/
def isBlank (c : Char) : Bool :=
  let n := c.toNat
  (0x09 ≤ n && n ≤ 0x0D) || (0x1C ≤ n && n ≤ 0x20) || n == 0x85 || n == 0xA0 || n == 0x1680 ||
    (0x2000 ≤ n && n ≤ 0x200A) || n == 0x2028 || n == 0x2029 || n == 0x202F || n == 0x205F ||
    n == 0x3000

/-- The text without the white space at its end. -/
def trimRight (cs : List Char) : List Char :=
  (cs.reverse.dropWhile isBlank).reverse

/-- The text without the white space at either end. -/
def trim (cs : List Char) : List Char :=
  trimRight (cs.dropWhile isBlank)

end Text
end ReflectiveCalls
