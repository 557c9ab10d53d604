/-!
# Binary64 — double-precision numbers as exact dyadic values

A finite number is a sign and an exact value `mantissa · 2 ^ exponent`; the normal form keeps the
mantissa below `2 ^ 53`, and at least `2 ^ 52` unless the exponent is the least one.

- `Binary64.ofRatio`, `Binary64.ofDecimal`: the number nearest to a ratio or a decimal, a tie going
  to the even mantissa, a value beyond the range becoming infinite.
- `Binary64.toInt?`: the integer that a number equals, if it equals one.

Every step is exact arithmetic on natural numbers.
-/

namespace ReflectiveCalls

/-- A double-precision number. -/
inductive Binary64
  | finite (negative : Bool) (mantissa : Nat) (exponent : Int)
  | infinite (negative : Bool)
  | nan
  deriving DecidableEq, Repr

namespace Binary64

/-- The exponent of the smallest numbers. -/
def minExponent : Int := -1074

/-- The exponent of the largest numbers. -/
def maxExponent : Int := 971

/-- The quotient rounded to the nearest natural number, a tie to the even one. -/
def roundDiv (num den : Nat) : Nat :=
  let quotient := num / den
  let rest := 2 * (num % den)
  if rest < den then quotient
  else if den < rest then quotient + 1
  else if quotient % 2 = 0 then quotient
  else quotient + 1

/-- `num / den` divided by `2 ^ exponent` and rounded. -/
def scaledRound (num den : Nat) (exponent : Int) : Nat :=
  if 0 ≤ exponent then roundDiv num (den * Nat.pow 2 exponent.toNat)
  else roundDiv (num * Nat.pow 2 (-exponent).toNat) den

/-- The exponent that brings `num / den` between `2 ^ 52` and `2 ^ 53`, or the least exponent. -/
def exponentFor (num den : Nat) : Int :=
  let guess : Int := (num.log2 : Int) - den.log2 - 52
  let tooHigh :=
    if 0 ≤ guess then num < den * Nat.pow 2 (guess.toNat + 52)
    else num * Nat.pow 2 (-guess).toNat < den * Nat.pow 2 52
  max minExponent (if tooHigh then guess - 1 else guess)

/-- The number nearest to `num / den`. -/
def ofRatio (negative : Bool) (num den : Nat) : Binary64 :=
  if num = 0 then .finite negative 0 minExponent
  else
    let exponent := exponentFor num den
    let mantissa := scaledRound num den exponent
    let (mantissa, exponent) :=
      if mantissa = Nat.pow 2 53 then (Nat.pow 2 52, exponent + 1) else (mantissa, exponent)
    if maxExponent < exponent then .infinite negative
    else .finite negative mantissa exponent

/-- The number nearest to `digits · 10 ^ power`.  Powers far outside the range are settled by size,
so that no huge power of ten is ever computed. -/
def ofDecimal (negative : Bool) (digits : Nat) (power : Int) : Binary64 :=
  if digits = 0 then .finite negative 0 minExponent
  else if 400 < power then .infinite negative
  else if (digits.log2 : Int) + 3 * power < -1100 then .finite negative 0 minExponent
  else if 0 ≤ power then ofRatio negative (digits * Nat.pow 10 power.toNat) 1
  else ofRatio negative digits (Nat.pow 10 (-power).toNat)

/-- The integer that the number equals, if there is one. -/
def toInt? : Binary64 → Option Int
  | .finite negative mantissa exponent =>
      let signed (n : Nat) : Int := if negative then -(n : Int) else n
      if 0 ≤ exponent then some (signed (mantissa * Nat.pow 2 exponent.toNat))
      else
        let unit := Nat.pow 2 (-exponent).toNat
        if mantissa % unit = 0 then some (signed (mantissa / unit)) else none
  | _ => none

end Binary64
end ReflectiveCalls
