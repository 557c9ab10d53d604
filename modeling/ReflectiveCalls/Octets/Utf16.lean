import ReflectiveCalls.Octets.Fault

/-!
# Octets.Utf16 — characters from one or two 16-bit units

- `Utf16.Order`: which octet of a unit comes first.
- `Utf16.decode`: a block of octets; half a unit, or the first half of a pair, that the block cuts
  off is handed back, to be put in front of the next block; in the last block it is a fault.
-/

namespace ReflectiveCalls
namespace Octets
namespace Utf16

/-- The order of the octets of a unit. -/
inductive Order
  | little
  | big
  deriving DecidableEq, Repr

/-- The name of the encoding with this order. -/
def Order.encoding : Order → String
  | .little => "utf-16-le"
  | .big => "utf-16-be"

/-- The unit that two octets make. -/
def Order.unit (order : Order) (first second : UInt8) : Nat :=
  match order with
  | .little => second.toNat * 0x100 + first.toNat
  | .big => first.toNat * 0x100 + second.toNat

/-- The characters of a block from `position` on, and the octets handed back.  `done` holds the
characters before, last one first. -/
def decodeFrom (order : Order) (last : Bool) (position : Nat) (done : List Char) :
    List UInt8 → Except Fault (List Char × List UInt8)
  | [] => .ok (done.reverse, [])
  | [half] =>
      if last then .error ⟨order.encoding, half, position, 1, .truncated⟩
      else .ok (done.reverse, [half])
  | first :: second :: rest =>
      let unit := order.unit first second
      if 0xD800 ≤ unit && unit < 0xDC00 then
        match rest with
        | third :: fourth :: rest =>
            let low := order.unit third fourth
            if 0xDC00 ≤ low && low < 0xE000 then
              let c := Char.ofNat (0x10000 + (unit - 0xD800) * 0x400 + (low - 0xDC00))
              decodeFrom order last (position + 4) (c :: done) rest
            else .error ⟨order.encoding, first, position, 2, .illegalSurrogate⟩
        | rest =>
            if last then
              .error ⟨order.encoding, first, position, rest.length + 2, .unexpectedEnd⟩
            else .ok (done.reverse, first :: second :: rest)
      else if 0xDC00 ≤ unit && unit < 0xE000 then
        .error ⟨order.encoding, first, position, 2, .illegalEncoding⟩
      else decodeFrom order last (position + 2) (Char.ofNat unit :: done) rest

/-- The characters of a block from `position` on, and the octets handed back. -/
def decode (order : Order) (last : Bool) (position : Nat) (octets : List UInt8) :
    Except Fault (List Char × List UInt8) :=
  decodeFrom order last position [] octets

end Utf16
end Octets
end ReflectiveCalls
