import ReflectiveCalls.Octets.Fault

/-!
# Octets.Utf8 — characters from one to four octets

- `Utf8.step`: the character at the start of a run of octets, or that the run is too short to tell,
  or how many octets at its start are at fault.
- `Utf8.decode`: a block of octets.  The octets of a character that the block cuts off are handed
  back, to be put in front of the next block; in the last block they are a fault.
-/

namespace ReflectiveCalls
namespace Octets
namespace Utf8

/-- Does an octet continue a character? -/
def isContinuation (octet : UInt8) : Bool := 0x80 ≤ octet && octet < 0xC0

/-- The bits that a continuation octet carries. -/
def payload (octet : UInt8) : Nat := octet.toNat % 0x40

/-- What stands at the start of a run of octets. -/
inductive Step
  /-- A character, and how many octets after the first belong to it. -/
  | char (c : Char) (more : Nat)
  /-- The beginning of a character. -/
  | short
  /-- Octets at fault. -/
  | bad (width : Nat) (reason : Reason)
  deriving DecidableEq, Repr

/-- May the second octet follow the first?  Longer forms of characters that have a shorter one, the
surrogates and what lies beyond `U+10FFFF` are excluded by the second octet. -/
def mayFollow (first second : UInt8) : Bool :=
  isContinuation second &&
    !(first = 0xE0 && second < 0xA0) && !(first = 0xED && 0xA0 ≤ second) &&
    !(first = 0xF0 && second < 0x90) && !(first = 0xF4 && 0x90 ≤ second)

/-- Two octets. -/
def stepTwo (first : UInt8) : List UInt8 → Step
  | [] => .short
  | second :: _ =>
      if isContinuation second then
        .char (Char.ofNat (first.toNat % 0x20 * 0x40 + payload second)) 1
      else .bad 1 .invalidContinuation

/-- Three octets. -/
def stepThree (first : UInt8) : List UInt8 → Step
  | [] => .short
  | second :: rest =>
      if !mayFollow first second then .bad 1 .invalidContinuation
      else
        match rest with
        | [] => .short
        | third :: _ =>
            if isContinuation third then
              .char (Char.ofNat
                (first.toNat % 0x10 * 0x1000 + payload second * 0x40 + payload third)) 2
            else .bad 2 .invalidContinuation

/-- Four octets. -/
def stepFour (first : UInt8) : List UInt8 → Step
  | [] => .short
  | second :: rest =>
      if !mayFollow first second then .bad 1 .invalidContinuation
      else
        match rest with
        | [] => .short
        | third :: rest =>
            if !isContinuation third then .bad 2 .invalidContinuation
            else
              match rest with
              | [] => .short
              | fourth :: _ =>
                  if isContinuation fourth then
                    .char (Char.ofNat
                      (first.toNat % 0x08 * 0x40000 + payload second * 0x1000 +
                        payload third * 0x40 + payload fourth)) 3
                  else .bad 3 .invalidContinuation

/-- What stands at the start of a run that begins with `first`. -/
def step (first : UInt8) (rest : List UInt8) : Step :=
  if first < 0x80 then .char (Char.ofNat first.toNat) 0
  else if first < 0xC2 then .bad 1 .invalidStart
  else if first < 0xE0 then stepTwo first rest
  else if first < 0xF0 then stepThree first rest
  else if first < 0xF5 then stepFour first rest
  else .bad 1 .invalidStart

/-- Do the octets begin a surrogate and end there?  Before the last block they are handed back like
the beginning of a character, and are a fault only when more is known. -/
def isCutSurrogate (first : UInt8) : List UInt8 → Bool
  | [second] => first = 0xED && 0xA0 ≤ second && second < 0xC0
  | _ => false

/-- The characters of a block from `position` on, and the octets handed back.  `done` holds the
characters before, last one first. -/
def decodeFrom (last : Bool) (position : Nat) (done : List Char) :
    List UInt8 → Except Fault (List Char × List UInt8)
  | [] => .ok (done.reverse, [])
  | first :: rest =>
      match step first rest with
      | .char c more => decodeFrom last (position + more + 1) (c :: done) (rest.drop more)
      | .short =>
          if last then .error ⟨"utf-8", first, position, rest.length + 1, .unexpectedEnd⟩
          else .ok (done.reverse, first :: rest)
      | .bad width reason =>
          if !last && isCutSurrogate first rest then .ok (done.reverse, first :: rest)
          else .error ⟨"utf-8", first, position, width, reason⟩
  termination_by octets => octets.length
  decreasing_by simp only [List.length_drop, List.length_cons]; omega

/-- The characters of a block, and the octets handed back. -/
def decode (last : Bool) (octets : List UInt8) : Except Fault (List Char × List UInt8) :=
  decodeFrom last 0 [] octets

/-- The characters of a whole text. -/
def decodeAll (octets : List UInt8) : Except Fault (List Char) :=
  (decode true octets).map (·.1)

end Utf8
end Octets
end ReflectiveCalls
