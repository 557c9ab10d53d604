/-!
# Console.StyledText — text of which parts are styled

A styled text is made of characters and of spans, each with the style that it asks for.  Characters
that would move the cursor are left out when text is made.  Where a text is cut, its spans are cut
with it, and a span of which nothing is left on a piece is not there; a text that is not cut keeps
all its spans, also those that cover nothing.

- `StyledText.append`, `StyledText.joined`: texts one after the other.
- `StyledText.divide`, `StyledText.lines`: a text cut at places, and cut to lines.
- `StyledText.fill`, `StyledText.shortened`: a text changed at its end.
-/

namespace ReflectiveCalls

/-- A part of a text that is styled, from the place `start` up to the place `stop`. -/
structure Span where
  start : Nat
  stop : Nat
  style : List Char
  deriving DecidableEq, Repr

/-- A text of which parts are styled. -/
structure StyledText where
  chars : List Char
  spans : List Span
  deriving DecidableEq, Repr

namespace Span

/-- The part of a span between two places, counted from the first of them; none if it is empty. -/
def between? (span : Span) (start stop : Nat) : Option Span :=
  let first := max span.start start
  let last := min span.stop stop
  if first < last then some ⟨first - start, last - start, span.style⟩ else none

/-- A span moved to a later place. -/
def shift (span : Span) (distance : Nat) : Span :=
  { span with start := span.start + distance, stop := span.stop + distance }

end Span

namespace StyledText

/-! ## Making texts -/

/-- Is the character left out: bell, backspace, vertical tab, form feed, carriage return? -/
def isDropped (c : Char) : Bool :=
  c = '\x07' || c = '\x08' || c = '\x0B' || c = '\x0C' || c = '\r'

/-- A text without styles. -/
def ofChars (cs : List Char) : StyledText := ⟨cs.filter (!isDropped ·), []⟩

/-- The number of characters of a text. -/
def length (text : StyledText) : Nat := text.chars.length

/-- Two texts, one after the other. -/
def append (text after : StyledText) : StyledText :=
  ⟨text.chars ++ after.chars, text.spans ++ after.spans.map (·.shift text.length)⟩

/-- Texts one after the other. -/
def joined : List StyledText → StyledText
  | [] => ⟨[], []⟩
  | text :: rest => text.append (joined rest)

/-! ## Cutting texts -/

/-- The part of a text between two places. -/
def between (text : StyledText) (start stop : Nat) : StyledText :=
  ⟨(text.chars.drop start).take (stop - start), text.spans.filterMap (·.between? start stop)⟩

/-- The pieces of a text from a place on, cut at places in ascending order. -/
def piecesFrom (text : StyledText) (start : Nat) : List Nat → List StyledText
  | [] => [text.between start text.length]
  | place :: rest => text.between start place :: text.piecesFrom place rest

/-- A text cut at places in ascending order. -/
def divide (text : StyledText) (places : List Nat) : List StyledText :=
  if places.isEmpty then [text] else text.piecesFrom 0 places

/-- The places after a character, where `place` is that of the first character given. -/
def placesAfter (c : Char) (place : Nat) : List Char → List Nat
  | [] => []
  | d :: rest =>
      if d = c then (place + 1) :: placesAfter c (place + 1) rest
      else placesAfter c (place + 1) rest

/-- A text cut after each of a character. -/
def cutAfter (text : StyledText) (c : Char) : List StyledText :=
  text.divide (placesAfter c 0 text.chars)

/-- The lines of a text, which line feeds end. -/
def lines (text : StyledText) : List StyledText :=
  let places := (placesAfter '\n' 0 text.chars).flatMap fun place => [place - 1, place]
  (text.divide places).filter (·.chars ≠ ['\n'])

/-! ## Changing the end of a text -/

/-- A text with blanks after it, which the spans that reach its end cover too. -/
def fill (text : StyledText) (count : Nat) : StyledText :=
  let extended (span : Span) : Span :=
    if text.length ≤ span.stop then { span with stop := span.stop + count } else span
  ⟨text.chars ++ List.replicate count ' ', text.spans.map extended⟩

/-- Other characters in place of those of a text; spans after the end of shorter ones are
dropped. -/
def shortened (text : StyledText) (chars : List Char) : StyledText :=
  let stop := chars.length
  if stop < text.length then
    ⟨chars, (text.spans.filter (·.start < stop)).map fun span =>
      { span with stop := min span.stop stop }⟩
  else ⟨chars, text.spans⟩

end StyledText
end ReflectiveCalls
