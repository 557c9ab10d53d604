/-!
# Octets.Fault — octets that are no text

A decoding fault names the encoding, the octets at fault by their positions in the block that was
being decoded, and the reason.  A text as a whole can also be refused for want of a mark, or in the
words of an installed encoding.
-/

namespace ReflectiveCalls
namespace Octets

/-- Why octets cannot be decoded. -/
inductive Reason
  | invalidStart
  | invalidContinuation
  | unexpectedEnd
  | notAscii
  | truncated
  | illegalSurrogate
  | illegalEncoding
  /-- What an installed encoding says. -/
  | other (words : String)
  deriving DecidableEq, Repr

/-- The words for a reason. -/
def Reason.words : Reason → String
  | .invalidStart => "invalid start byte"
  | .invalidContinuation => "invalid continuation byte"
  | .unexpectedEnd => "unexpected end of data"
  | .notAscii => "ordinal not in range(128)"
  | .truncated => "truncated data"
  | .illegalSurrogate => "illegal UTF-16 surrogate"
  | .illegalEncoding => "illegal encoding"
  | .other words => words

/-- Octets that cannot be decoded: `width` of them from position `first` on, the first being
`octet`. -/
structure Fault where
  encoding : String
  octet : UInt8
  first : Nat
  width : Nat
  reason : Reason
  deriving DecidableEq, Repr

/-- Why the octets of a text file are no text. -/
inductive TextFault
  | octets (fault : Fault)
  /-- The mark that gives the octet order is missing. -/
  | noByteOrderMark
  /-- An installed encoding refuses the text, and not for some of its octets. -/
  | refused (words : String)
  deriving DecidableEq, Repr

/-- Two hexadecimal digits of an octet. -/
def hexOctet (octet : UInt8) : String :=
  String.ofList [Nat.digitChar (octet.toNat / 16), Nat.digitChar (octet.toNat % 16)]

/-- The message for a fault: a single octet is shown, several are given by their positions. -/
def Fault.message (fault : Fault) : String :=
  let place :=
    if fault.width = 1 then s!"byte 0x{hexOctet fault.octet} in position {fault.first}"
    else s!"bytes in position {fault.first}-{fault.first + fault.width - 1}"
  s!"'{fault.encoding}' codec can't decode {place}: {fault.reason.words}"

end Octets
end ReflectiveCalls
