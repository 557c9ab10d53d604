/-!
# SmallLetter — small letters in other shapes

Unicode has small Latin letters in other shapes, which count as the same letters in a name: raised
and lowered letters, fullwidth and mathematical letters, small Roman numerals, and ligatures.  The
shapes are those of Unicode 14.0.

- `Text.plainLetters`: the plain letters of a character in another shape.
- `Text.plainName`: a name in plain letters.
-/

namespace ReflectiveCalls
namespace Text

/-- Letters in other shapes: the first and the last of a row of characters, of which the first is a
shape of the given letter and the others are shapes of the letters after it. -/
def letterRows : List (Nat × Nat × Char) :=
  [
    (0x00AA, 0x00AA, 'a'), (0x00BA, 0x00BA, 'o'), (0x017F, 0x017F, 's'), (0x02B0, 0x02B0, 'h'),
    (0x02B2, 0x02B2, 'j'), (0x02B3, 0x02B3, 'r'), (0x02B7, 0x02B7, 'w'), (0x02B8, 0x02B8, 'y'),
    (0x02E1, 0x02E1, 'l'), (0x02E2, 0x02E2, 's'), (0x02E3, 0x02E3, 'x'), (0x1D43, 0x1D43, 'a'),
    (0x1D47, 0x1D47, 'b'), (0x1D48, 0x1D49, 'd'), (0x1D4D, 0x1D4D, 'g'), (0x1D4F, 0x1D4F, 'k'),
    (0x1D50, 0x1D50, 'm'), (0x1D52, 0x1D52, 'o'), (0x1D56, 0x1D56, 'p'), (0x1D57, 0x1D58, 't'),
    (0x1D5B, 0x1D5B, 'v'), (0x1D62, 0x1D62, 'i'), (0x1D63, 0x1D63, 'r'), (0x1D64, 0x1D65, 'u'),
    (0x1D9C, 0x1D9C, 'c'), (0x1DA0, 0x1DA0, 'f'), (0x1DBB, 0x1DBB, 'z'), (0x2071, 0x2071, 'i'),
    (0x207F, 0x207F, 'n'), (0x2090, 0x2090, 'a'), (0x2091, 0x2091, 'e'), (0x2092, 0x2092, 'o'),
    (0x2093, 0x2093, 'x'), (0x2095, 0x2095, 'h'), (0x2096, 0x2099, 'k'), (0x209A, 0x209A, 'p'),
    (0x209B, 0x209C, 's'), (0x210A, 0x210A, 'g'), (0x210E, 0x210E, 'h'), (0x2113, 0x2113, 'l'),
    (0x212F, 0x212F, 'e'), (0x2134, 0x2134, 'o'), (0x2139, 0x2139, 'i'), (0x2146, 0x2147, 'd'),
    (0x2148, 0x2149, 'i'), (0x2170, 0x2170, 'i'), (0x2174, 0x2174, 'v'), (0x2179, 0x2179, 'x'),
    (0x217C, 0x217C, 'l'), (0x217D, 0x217E, 'c'), (0x217F, 0x217F, 'm'), (0x2C7C, 0x2C7C, 'j'),
    (0xFF41, 0xFF5A, 'a'), (0x107A5, 0x107A5, 'q'), (0x1D41A, 0x1D433, 'a'),
    (0x1D44E, 0x1D454, 'a'), (0x1D456, 0x1D467, 'i'), (0x1D482, 0x1D49B, 'a'),
    (0x1D4B6, 0x1D4B9, 'a'), (0x1D4BB, 0x1D4BB, 'f'), (0x1D4BD, 0x1D4C3, 'h'),
    (0x1D4C5, 0x1D4CF, 'p'), (0x1D4EA, 0x1D503, 'a'), (0x1D51E, 0x1D537, 'a'),
    (0x1D552, 0x1D56B, 'a'), (0x1D586, 0x1D59F, 'a'), (0x1D5BA, 0x1D5D3, 'a'),
    (0x1D5EE, 0x1D607, 'a'), (0x1D622, 0x1D63B, 'a'), (0x1D656, 0x1D66F, 'a'),
    (0x1D68A, 0x1D6A3, 'a')
  ]

/-- The characters that are shapes of several letters. -/
def letterGroups : List (Nat × String) :=
  [
    (0x0133, "ij"), (0x01C9, "lj"), (0x01CC, "nj"), (0x01F3, "dz"), (0x2171, "ii"), (0x2172, "iii"),
    (0x2173, "iv"), (0x2175, "vi"), (0x2176, "vii"), (0x2177, "viii"), (0x2178, "ix"),
    (0x217A, "xi"), (0x217B, "xii"), (0xFB00, "ff"), (0xFB01, "fi"), (0xFB02, "fl"),
    (0xFB03, "ffi"), (0xFB04, "ffl"), (0xFB05, "st"), (0xFB06, "st")
  ]

/-- The plain letters of a character in another shape; any other character is left alone. -/
def plainLetters (c : Char) : List Char :=
  match letterRows.find? fun (first, last, _) => first ≤ c.toNat && c.toNat ≤ last with
  | some (first, _, letter) => [Char.ofNat (letter.toNat + (c.toNat - first))]
  | none =>
      match letterGroups.find? (·.1 = c.toNat) with
      | some (_, letters) => letters.toList
      | none => [c]

/-- A name in plain letters. -/
def plainName (name : List Char) : List Char := name.flatMap plainLetters

end Text
end ReflectiveCalls
