import ReflectiveCalls.Console.Cells
import ReflectiveCalls.Console.StyledText
import ReflectiveCalls.Text.Blank

/-!
# Console.Layout — text on lines of limited width

Text is laid out line by line: tabs are filled up to multiples of eight columns, and a line that is
too wide is broken between words, or inside a word that is wider than a whole line.  Widths are
columns of the console, of which a character may take none, one or two.

- `Layout.expandTabs`, `Layout.wrap`: a line with its tabs filled up, and the lines that it is
  broken into.
- `Layout.lines`: the lines on which a text is laid out; `Layout.written` puts their ends to them.
-/

namespace ReflectiveCalls
namespace Layout

/-- The width of the console. -/
def consoleWidth : Nat := 2000

/-- The distance of tab stops. -/
def tabSize : Nat := 8

/-- How many blanks fill up a column to the next tab stop, if it is not at one. -/
def fillTo (column : Nat) : Nat := (tabSize - column % tabSize) % tabSize

/-- The pieces of a line, each with a tab at its end, with the tabs filled up; `column` counts what
stands before. -/
def expandPieces (column : Nat) : List StyledText → List StyledText
  | [] => []
  | piece :: rest =>
      if piece.chars.getLast? = some '\t' then
        let chars := piece.chars.dropLast ++ [' ']
        let after := column + Cells.width chars
        { piece with chars := chars }.fill (fillTo after) ::
          expandPieces (after + fillTo after) rest
      else piece :: expandPieces column rest

/-- A line with its tabs filled up. -/
def expandTabs (line : StyledText) : StyledText :=
  if line.chars.contains '\t' then .joined (expandPieces 0 (line.cutAfter '\t')) else line

/-- At most `bound` words of a line with the blanks after each; the first also holds the blanks
before it. -/
def wordsUpTo : (bound : Nat) → List Char → List (List Char)
  | 0, _ => []
  | bound + 1, cs =>
      let lead := cs.takeWhile Text.isBlank
      let text := (cs.drop lead.length).takeWhile (!Text.isBlank ·)
      if text.isEmpty then []
      else
        let gap := (cs.drop (lead.length + text.length)).takeWhile Text.isBlank
        let word := lead ++ text ++ gap
        word :: wordsUpTo bound (cs.drop word.length)

/-- The words of a line; there are at most as many as characters. -/
def words (cs : List Char) : List (List Char) := wordsUpTo cs.length cs

/-- Where a word wider than a line is broken: before each of its pieces, except at the start of the
line; `start` is the place of the first piece. -/
def wordBreaks (start : Nat) : List (List Char) → List Nat
  | [] => []
  | piece :: rest =>
      if 0 < start then start :: wordBreaks (start + piece.length) rest
      else wordBreaks (start + piece.length) rest

/-- Where a line is broken: `start` is the place of the next word and `column` the width used up on
the current line. -/
def breaks (width : Nat) (start column : Nat) : List (List Char) → List Nat
  | [] => []
  | word :: rest =>
      let next := start + word.length
      let visible := Cells.width (Text.trimRight word)
      if column + visible ≤ width then breaks width next (column + Cells.width word) rest
      else if width < visible then
        let pieces := Cells.chop width word
        wordBreaks start pieces ++ breaks width next (Cells.width (pieces.getLastD [])) rest
      else if 0 < column && 0 < start then start :: breaks width next (Cells.width word) rest
      else breaks width next column rest

/-- A line of which blanks at the end are left out, as far as it has more characters than columns
are there, and which is then cut off at the width. -/
def crop (width : Nat) (line : StyledText) : StyledText :=
  let blanks := line.length - (Text.trimRight line.chars).length
  let trimmed := line.shortened (line.chars.take (line.length - min blanks (line.length - width)))
  trimmed.shortened (Cells.fit width trimmed.chars)

/-- The lines that a line is broken into. -/
def wrap (width : Nat) (line : StyledText) : List StyledText :=
  (line.divide (breaks width 0 0 (words line.chars))).map (crop width)

/-- The lines on which a text is laid out. -/
def lines (text : StyledText) : List StyledText :=
  text.lines.flatMap fun line => wrap consoleWidth (expandTabs line)

/-- Lines as they are written, each with its end. -/
def written (lines : List StyledText) : String :=
  String.ofList (lines.flatMap fun line => line.chars ++ ['\n'])

end Layout
end ReflectiveCalls
