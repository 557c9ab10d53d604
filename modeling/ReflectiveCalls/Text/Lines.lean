/-!
# Lines — line ends in a stream of characters

A line ends at a line feed, at a carriage return, or at a carriage return with a line feed after it.
Text arrives piece by piece, so a carriage return ends its line only when the next character is
known, or when the text ends.

- `LineScanner`: the line that has been begun, and whether a carriage return is pending.
- `LineScanner.feed`: the lines that a piece of text completes, and the scanner after it.
- `LineScanner.finish`: the line that the end of the text completes.
-/

namespace ReflectiveCalls
namespace Text

/-- A line that has been begun. -/
structure LineScanner where
  /-- The characters of the line, last one first. -/
  begun : List Char
  /-- Has the line been followed by a carriage return? -/
  pending : Bool
  deriving DecidableEq, Repr

namespace LineScanner

/-- The scanner at the start of a text. -/
def start : LineScanner := ⟨[], false⟩

/-- The lines that a piece of text completes, last one first on top of `done`, and the scanner
after it. -/
def feedOnto (done : List (List Char)) (begun : List Char) (pending : Bool) :
    List Char → List (List Char) × LineScanner
  | [] => (done, ⟨begun, pending⟩)
  | c :: rest =>
      if pending then
        let done := begun.reverse :: done
        if c = '\n' then feedOnto done [] false rest
        else if c = '\r' then feedOnto done [] true rest
        else feedOnto done [c] false rest
      else if c = '\n' then feedOnto (begun.reverse :: done) [] false rest
      else if c = '\r' then feedOnto done begun true rest
      else feedOnto done (c :: begun) false rest

/-- The lines that a piece of text completes, and the scanner after it. -/
def feed (scanner : LineScanner) (text : List Char) : List (List Char) × LineScanner :=
  let (done, after) := feedOnto [] scanner.begun scanner.pending text
  (done.reverse, after)

/-- The line that the end of the text completes, if there is one. -/
def finish (scanner : LineScanner) : List (List Char) :=
  if scanner.pending || !scanner.begun.isEmpty then [scanner.begun.reverse] else []

end LineScanner

/-- The lines of a whole text, without their ends. -/
def lines (text : List Char) : List (List Char) :=
  let (done, after) := LineScanner.start.feed text
  done ++ after.finish

/-- A text with every line end written as a line feed, after what is `done`, last one first. -/
def unifyOnto (done : List Char) : List Char → List Char
  | [] => done.reverse
  | '\r' :: '\n' :: rest => unifyOnto ('\n' :: done) rest
  | '\r' :: rest => unifyOnto ('\n' :: done) rest
  | c :: rest => unifyOnto (c :: done) rest

/-- A text with every line end written as a line feed. -/
def unifyLineEnds (text : List Char) : List Char := unifyOnto [] text

end Text
end ReflectiveCalls
