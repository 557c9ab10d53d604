/-!
# Ranges — sets of characters

A set of characters is given by its code points, as closed ranges in ascending order.
-/

namespace ReflectiveCalls
namespace Text

/-- Is the character in one of the ranges? -/
def within (ranges : List (Nat × Nat)) (c : Char) : Bool :=
  ranges.any fun range => range.1 ≤ c.toNat && c.toNat ≤ range.2

end Text
end ReflectiveCalls
