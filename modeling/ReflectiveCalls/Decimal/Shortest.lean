import ReflectiveCalls.Decimal.Binary64

/-!
# Shortest — the decimal text of a double-precision number

A number is written with the fewest decimal digits that read back as the same number; of two
candidates of that length the nearer one is taken, and of two equally near ones the even one.

- `Window`: the values that read back as a given number, in exact arithmetic.
- `shortest`: the digits and the power of ten, found grid by grid from one digit to seventeen.
- `Binary64.text`: the layout, positional from `10 ^ -4` to below `10 ^ 16`.
-/

namespace ReflectiveCalls
namespace Decimal

/-- The values around a number that round to it, over one common denominator. -/
structure Window where
  low : Nat
  value : Nat
  high : Nat
  den : Nat
  /-- Do the two ends belong to the window? -/
  closed : Bool

/-- The window of `mantissa · 2 ^ exponent`: half a unit on each side, and a quarter below where the
exponent steps down. -/
def Window.ofDyadic (mantissa : Nat) (exponent : Int) : Window :=
  let below := if mantissa = Nat.pow 2 52 ∧ Binary64.minExponent < exponent then 1 else 2
  let up := Nat.pow 2 (exponent - 2).toNat
  let down := Nat.pow 2 (2 - exponent).toNat
  { low := (4 * mantissa - below) * up
    value := 4 * mantissa * up
    high := (4 * mantissa + 2) * up
    den := down
    closed := mantissa % 2 = 0 }

/-- Multiplied so that `10 ^ power` becomes a whole number of `1 / den`. -/
def Window.onGrid (w : Window) (power : Int) : Window :=
  let up := Nat.pow 10 (-power).toNat
  { w with low := w.low * up, value := w.value * up, high := w.high * up,
           den := w.den * Nat.pow 10 power.toNat }

/-- Is `point · den` inside the window? -/
def Window.holds (w : Window) (point : Nat) : Bool :=
  let scaled := point * w.den
  if w.closed then w.low ≤ scaled && scaled ≤ w.high else w.low < scaled && scaled < w.high

/-- The point of the grid nearest to the value among its two neighbours, if one is in the window. -/
def Window.nearest? (w : Window) : Option Nat :=
  let lower := w.value / w.den
  let upper := lower + 1
  match w.holds lower, w.holds upper with
  | false, false => none
  | true, false => some lower
  | false, true => some upper
  | true, true =>
      let rest := 2 * (w.value % w.den)
      if rest < w.den then some lower
      else if w.den < rest then some upper
      else if lower % 2 = 0 then some lower
      else some upper

/-- The decimal digits of a number, most significant first. -/
def digitsOf (n : Nat) : List Char := Nat.toDigits 10 n

/-- The power of ten of the first digit of `num / den`, for a positive ratio.  Below one, it is how
many digits the ceiling of `den / num`, less one, has: `10 ^ k` reaches a ceiling exactly when it
exceeds the number before it. -/
def topPower (num den : Nat) : Int :=
  if den ≤ num then ((digitsOf (num / den)).length : Int) - 1
  else Int.neg (digitsOf ((den - 1) / num)).length

/-- Tries the grids of `length`, `length + 1`, … digits, at most `fuel` of them. -/
def shortestFrom (w : Window) (top : Int) : (fuel length : Nat) → Nat × Int
  | 0, _ => (w.value / w.den, 0)
  | fuel + 1, length =>
      let power := top - (length - 1 : Nat)
      match (w.onGrid power).nearest? with
      | some point => (point, power)
      | none => shortestFrom w top fuel (length + 1)

/-- The fewest digits that read back as `mantissa · 2 ^ exponent`, with their power of ten.
Seventeen digits are always enough. -/
def shortest (mantissa : Nat) (exponent : Int) : Nat × Int :=
  let w := Window.ofDyadic mantissa exponent
  shortestFrom w (topPower w.value w.den) 17 1

/-- The digits without the zeros at their end, and how many there were. -/
def dropZeros (digits : List Char) : List Char :=
  (digits.reverse.dropWhile (· = '0')).reverse

/-- The layout of the digits `digits` whose point stands after `point` of them. -/
def layout (digits : List Char) (point : Int) : List Char :=
  let count : Int := digits.length
  if -4 < point ∧ point ≤ 16 then
    if point ≤ 0 then
      ['0', '.'] ++ List.replicate (-point).toNat '0' ++ digits
    else if count ≤ point then
      digits ++ List.replicate (point - count).toNat '0' ++ ['.', '0']
    else
      digits.take point.toNat ++ ['.'] ++ digits.drop point.toNat
  else
    let power := point - 1
    let spelledPower := digitsOf power.natAbs
    let padded := if spelledPower.length < 2 then '0' :: spelledPower else spelledPower
    let fraction :=
      match digits with
      | first :: second :: rest => first :: '.' :: second :: rest
      | single => single
    fraction ++ ['e', if power < 0 then '-' else '+'] ++ padded

/-- The text of a positive dyadic value. -/
def positiveText (mantissa : Nat) (exponent : Int) : List Char :=
  let (point, power) := shortest mantissa exponent
  let digits := digitsOf point
  layout (dropZeros digits) (power + digits.length)

end Decimal

/-- The text of a number: a sign, and the fewest digits that read back. -/
def Binary64.text : Binary64 → String
  | .nan => "nan"
  | .infinite negative => if negative then "-inf" else "inf"
  | .finite negative mantissa exponent =>
      let body := if mantissa = 0 then ['0', '.', '0'] else Decimal.positiveText mantissa exponent
      String.ofList (if negative then '-' :: body else body)

end ReflectiveCalls
