import ReflectiveCalls.Text.Blank

/-!
# Words — the words of a text

A word is a run of characters that are not white space, as long as it can be.

- `Text.words`: the words of a text in order.
-/

namespace ReflectiveCalls
namespace Text

/-- A word of which the last character comes first, unless it is empty. -/
def wordOf (backwards : List Char) : List (List Char) :=
  if backwards.isEmpty then [] else [backwards.reverse]

/-- The words of a text after the begun one, of which the last character comes first. -/
def wordsFrom (begun : List Char) : List Char → List (List Char)
  | [] => wordOf begun
  | c :: rest =>
      if isBlank c then wordOf begun ++ wordsFrom [] rest else wordsFrom (c :: begun) rest

/-- The words of a text. -/
def words (cs : List Char) : List (List Char) := wordsFrom [] cs

end Text
end ReflectiveCalls
