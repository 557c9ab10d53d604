import ReflectiveCalls.Console.Literal.Misreading
import ReflectiveCalls.Text.Name

/-!
# Console.Literal.Token — the tokens of an expression

An expression is read token by token: words, numbers, texts between quotes, and signs.  The ends of
lines and the indentation of lines count outside brackets only.  Brackets are matched while the
tokens are read.

- `Literal.Token`: a token, with what is known of its place.
- `Literal.Tokens`: the tokens of a text up to its end, or up to where there is no token.
- `Literal.Tokens.ofText`: the tokens of a text.
-/

namespace ReflectiveCalls
namespace Literal

/-! ## Tokens -/

/-- What stands between quotes: the letters before the quotes in small letters, the characters
between the quotes, and the line on which they begin. -/
structure Quotation where
  marks : List Char
  body : List Char
  line : Nat
  deriving DecidableEq, Repr

/-- Is it a sequence of octets? -/
def Quotation.isOctets (quotation : Quotation) : Bool := quotation.marks.contains 'b'

/-- Are its backslashes plain characters? -/
def Quotation.isRaw (quotation : Quotation) : Bool := quotation.marks.contains 'r'

/-- May it hold expressions in braces? -/
def Quotation.hasFields (quotation : Quotation) : Bool := quotation.marks.contains 'f'

/-- A kind of token, with what it says. -/
inductive Kind
  | word (name : String)
  | number (digits : List Char)
  | quotation (quotation : Quotation)
  | sign (text : String)
  | lineEnd
  | indent
  | dedent
  /-- The end of the text. -/
  | finish
  deriving DecidableEq, Repr

/-- A token of an expression. -/
structure Token where
  kind : Kind
  /-- How many brackets are open after it. -/
  depth : Nat
  line : Nat
  /-- Is the end of the text seen when it is read? -/
  seesEnd : Bool
  deriving DecidableEq, Repr

/-- How the tokens of a text end. -/
inductive Ending
  /-- The last token is the end of the text. -/
  | finished
  /-- The next token is faulty by itself. -/
  | broken (misreading : Misreading)
  /-- There is no next token. -/
  | stuck (misreading : Misreading)
  deriving DecidableEq, Repr

/-- The tokens of a text, and the innermost bracket that is open at their ending, with its line. -/
structure Tokens where
  tokens : Array Token
  ending : Ending
  opened : Option (Char × Nat)

/-! ## Numbers -/

/-- May the character stand in a word? -/
def inWord (c : Char) : Bool := c.isAlphanum || c = '_' || 0x80 ≤ c.toNat

/-- Words that may follow a number at once. -/
def afterNumber : List (List Char) := ["and", "else", "for", "or", "not"].map String.toList

/-- Beginnings of words that may follow a number at once. -/
def beginAfterNumber : List (List Char) := ["if", "in", "is"].map String.toList

/-- May the word at the start of a text follow a number at once? -/
def mayFollowNumber (cs : List Char) : Bool :=
  afterNumber.contains (cs.takeWhile inWord) || beginAfterNumber.any (·.isPrefixOf cs)

/-- What is left after a number, after which no letter of ASCII may stand but those of some
words. -/
def endNumber (what : String) (cs : List Char) : Except Misreading (List Char) :=
  if (cs.head?.elim false fun c => c.isAlphanum || c = '_') && !mayFollowNumber cs then
    .error (.badNumber what)
  else .ok cs

/-- What follows digits, between which single low lines may stand. -/
def dropDigits : List Char → Except Misreading (List Char)
  | [] => .ok []
  | '_' :: c :: rest => if c.isDigit then dropDigits rest else .error (.badNumber "decimal")
  | c :: rest =>
      if c.isDigit then dropDigits rest
      else if c = '_' then .error (.badNumber "decimal")
      else .ok (c :: rest)

/-- The end of a number that may be imaginary. -/
def endFraction (cs : List Char) : Except Misreading (List Char) :=
  match cs with
  | c :: rest =>
      if c = 'j' || c = 'J' then endNumber "imaginary" rest
      else endNumber "decimal" cs
  | [] => .ok []

/-- The rest of a number after its digits: an exponent, if there is one, and the end. -/
def endDigits (cs : List Char) : Except Misreading (List Char) :=
  match cs with
  | c :: rest =>
      if c = 'e' || c = 'E' then
        match rest with
        | d :: more =>
            if d.isDigit then (dropDigits more).bind endFraction
            else if d = '+' || d = '-' then
              if more.head?.elim false Char.isDigit then (dropDigits more).bind endFraction
              else .error (.badNumber "decimal")
            else endNumber "decimal" cs
        | [] => endNumber "decimal" cs
      else endFraction cs
  | [] => endFraction cs

/-- The rest of a number after a point. -/
def afterPoint (cs : List Char) : Except Misreading (List Char) :=
  if cs.head?.elim false Char.isDigit then (dropDigits cs).bind endDigits else endDigits cs

/-- A base other than ten. -/
structure Base where
  letter : Char
  what : String
  digits : List Char

/-- The bases other than ten. -/
def bases : List Base :=
  [⟨'x', "hexadecimal", "0123456789abcdefABCDEF".toList⟩, ⟨'o', "octal", "01234567".toList⟩,
    ⟨'b', "binary", "01".toList⟩]

/-- The fault of a digit that the base has not, if it is a digit at all. -/
def Base.fault (base : Base) (cs : List Char) : Misreading :=
  match cs with
  | c :: _ => if c.isDigit then .badDigit c base.what else .badNumber base.what
  | [] => .badNumber base.what

/-- What follows digits of a base; `expected` says whether a digit has to come. -/
def Base.dropDigits (base : Base) (expected : Bool) : List Char → Except Misreading (List Char)
  | [] => if expected then .error (base.fault []) else .ok []
  | '_' :: c :: rest =>
      if base.digits.contains c then base.dropDigits false rest
      else .error (base.fault (c :: rest))
  | c :: rest =>
      if base.digits.contains c then base.dropDigits false rest
      else if expected || c = '_' || c.isDigit then
        .error (base.fault (if c = '_' then rest else c :: rest))
      else .ok (c :: rest)

/-- The rest of a number that begins with zero, after its digits. -/
def afterZero (digits rest : List Char) : Except Misreading (List Char) :=
  match rest with
  | '.' :: rest => afterPoint rest
  | rest =>
      if digits.all (fun c => c = '0' || c = '_') ||
          rest.head?.elim false fun c => c.toLower = 'e' || c.toLower = 'j' then endDigits rest
      else .error .leadingZeros

/-- The rest of a number that begins with another digit, after its digits. -/
def afterDigits (rest : List Char) : Except Misreading (List Char) :=
  match rest with
  | '.' :: rest => afterPoint rest
  | rest => endDigits rest

/-- What is left after the number at the start of a text, which begins with a digit. -/
def scanNumber (cs : List Char) : Except Misreading (List Char) :=
  match cs with
  | '0' :: rest =>
      match bases.find? fun base => rest.head?.map Char.toLower = some base.letter with
      | some base =>
          (base.dropDigits true rest.tail).bind (endNumber base.what)
      | none =>
          (dropDigits cs).bind fun after => afterZero (cs.take (cs.length - after.length)) after
  | _ => (dropDigits cs).bind afterDigits

/-! ## Quotations -/

/-- The line after the end of a line, unless the text ends there. -/
def nextLine (line : Nat) (rest : List Char) : Nat := if rest.isEmpty then line else line + 1

/-- Characters before what a quotation goes on with. -/
def withFront (front : List Char) (closed : List Char × List Char × Nat) :
    List Char × List Char × Nat :=
  (front ++ closed.1, closed.2)

/-- What stands before the closing quotes, what is left after them, and its line. -/
def closeQuotes (quote : Char) (long : Bool) (line : Nat) :
    List Char → Except Misreading (List Char × List Char × Nat)
  | [] => .error (.unterminated long line)
  | '\\' :: c :: rest =>
      (closeQuotes quote long (if c = '\n' then nextLine line rest else line) rest).map
        (withFront ['\\', c])
  | c :: rest =>
      if c = quote then
        if !long then .ok ([], rest, line)
        else if [quote, quote].isPrefixOf rest then .ok ([], rest.drop 2, line)
        else (closeQuotes quote long line rest).map (withFront [c])
      else if c = '\n' then
        if long then (closeQuotes quote long (nextLine line rest) rest).map (withFront [c])
        else .error (.unterminated long line)
      else (closeQuotes quote long line rest).map (withFront [c])

/-- What stands between quotes, what is left after them, and its line; `rest` follows the first
quote. -/
def scanQuotes (line : Nat) (quote : Char) (rest : List Char) :
    Except Misreading (List Char × List Char × Nat) :=
  if [quote, quote].isPrefixOf rest then closeQuotes quote true line (rest.drop 2)
  else closeQuotes quote false line rest

/-- The words that may stand before quotes, in small letters. -/
def quotationMarks : List (List Char) :=
  ["b", "u", "r", "f", "br", "rb", "fr", "rf"].map String.toList

/-! ## Signs -/

/-- The signs of more than one character, the longest first. -/
def longSigns : List (List Char) :=
  ["**=", "//=", ">>=", "<<=", "...", "**", "//", ">>", "<<", "<=", ">=", "==", "!=", "->", "+=",
    "-=", "*=", "/=", "%=", "&=", "|=", "^=", "@=", ":=", "<>"].map String.toList

/-- The sign at the start of a text. -/
def scanSign (c : Char) (rest : List Char) : List Char :=
  (longSigns.find? (·.isPrefixOf (c :: rest))).getD [c]

/-- The closing bracket for an opening one. -/
def closingOf? : Char → Option Char
  | '(' => some ')'
  | '[' => some ']'
  | '{' => some '}'
  | _ => none

/-- The number of brackets that may be open at once. -/
def maxBrackets : Nat := 200

/-- The brackets that are open after a sign, each with its line. -/
def matchBracket (line : Nat) (opened : List (Char × Nat)) (c : Char) :
    Except Misreading (List (Char × Nat)) :=
  if (closingOf? c).isSome then
    if maxBrackets ≤ opened.length then .error .tooNested else .ok ((c, line) :: opened)
  else if [')', ']', '}'].contains c then
    match opened with
    | [] => .error (.unmatched c)
    | (opening, openLine) :: opened =>
        if closingOf? opening = some c then .ok opened
        else .error (.mismatched c opening (if openLine = line then none else some openLine))
  else .ok opened

/-! ## Reading -/

/-- Where the next token is read. -/
structure Reader where
  rest : List Char
  line : Nat
  /-- The open brackets with their lines, the last one first. -/
  opened : List (Char × Nat)
  /-- The columns of the indentations in force, the last one first; each is counted with wide tabs
  and with narrow ones. -/
  indents : List (Nat × Nat)
  /-- Is the next character the first of its line? -/
  fresh : Bool
  deriving Repr

/-- What a step of reading makes. -/
inductive Step
  | tokens (tokens : List Token) (reader : Reader)
  | ended (ending : Ending)
  deriving Repr

/-- A step that makes no token. -/
def Step.skip (reader : Reader) : Step := .tokens [] reader

/-- Why there is no token where the text is over too early. -/
def Reader.early (reader : Reader) : Misreading :=
  match reader.opened with
  | [] => .endOfText
  | (opening, _) :: _ => .unclosed opening

/-- What follows a backslash at the end of a line. -/
def Reader.continued (reader : Reader) (rest : List Char) : Except Misreading Reader :=
  match rest with
  | ['\n'] => .error reader.early
  | '\n' :: rest => .ok { reader with rest := rest, line := reader.line + 1 }
  | _ => .error .afterBackslash

/-- A token read before `rest`; `seesEnd` says whether the next character was looked at. -/
def Reader.token (reader : Reader) (kind : Kind) (line : Nat) (rest : List Char)
    (looked : Bool) : Token :=
  ⟨kind, reader.opened.length, line, looked && rest.isEmpty⟩

/-- A step that makes one token. -/
def Reader.make (reader : Reader) (kind : Kind) (rest : List Char) (looked : Bool) : Step :=
  .tokens [reader.token kind reader.line rest looked] { reader with rest := rest }

/-- A step over a quotation; `rest` follows the first quote. -/
def Reader.quotation (reader : Reader) (marks : List Char) (quote : Char) (rest : List Char) :
    Step :=
  match scanQuotes reader.line quote rest with
  | .error misreading => .ended (.broken misreading)
  | .ok (body, after, line) =>
      let kind : Kind := .quotation ⟨marks, body, reader.line⟩
      let short := body.isEmpty && after.length + 1 = rest.length
      .tokens [reader.token kind reader.line after short]
        { reader with rest := after, line := line }

/-- A step over a word, of which every character has to be one of a name, or over a quotation with
a word before it. -/
def Reader.word (reader : Reader) : Step :=
  let name := reader.rest.takeWhile inWord
  let after := reader.rest.drop name.length
  let marks := name.map Char.toLower
  match after with
  | quote :: rest =>
      if (quote = '\'' || quote = '"') && quotationMarks.contains marks then
        reader.quotation marks quote rest
      else plain name after
  | [] => plain name after
where
  /-- A step over a word. -/
  plain (name after : List Char) : Step :=
    match Text.offName? name with
    | some c => .ended (.broken (.badCharacter c))
    | none => reader.make (.word (String.ofList name)) after true

/-- A step over a number, which ends before `rest`. -/
def Reader.number (reader : Reader) : Except Misreading (List Char) → Step
  | .error misreading => .ended (.broken misreading)
  | .ok rest =>
      let digits := reader.rest.take (reader.rest.length - rest.length)
      reader.make (.number digits) rest true

/-- A step over a sign. -/
def Reader.sign (reader : Reader) (c : Char) (rest : List Char) : Step :=
  let text := scanSign c rest
  if 1 < text.length then
    reader.make (.sign (String.ofList text)) (reader.rest.drop text.length) (text.length = 2)
  else
    match matchBracket reader.line reader.opened c with
    | .error misreading => .ended (.broken misreading)
    | .ok opened =>
        if Text.isPrintable c then
          { reader with opened := opened }.make (.sign (String.ofList [c])) rest true
        else .ended (.broken (.badCharacter c))

/-- A step inside a line. -/
def Reader.next (reader : Reader) : Step :=
  match reader.rest with
  | [] =>
      match reader.opened with
      | [] => reader.make .finish [] true
      | (opening, _) :: _ => .ended (.stuck (.unclosed opening))
  | c :: rest =>
      if c = ' ' || c = '\t' || c = '\x0C' then .skip { reader with rest := rest }
      else if c = '#' then .skip { reader with rest := rest.dropWhile (· ≠ '\n') }
      else if c = '\n' then
        let after := { reader with rest := rest, line := nextLine reader.line rest, fresh := true }
        if reader.opened.isEmpty then
          .tokens [reader.token .lineEnd reader.line rest false] after
        else .skip after
      else if c = '\\' then
        match reader.continued rest with
        | .error misreading => .ended (.stuck misreading)
        | .ok reader => .skip reader
      else if c.isDigit then reader.number (scanNumber (c :: rest))
      else if c = '.' && rest.head?.elim false Char.isDigit then reader.number (afterPoint rest)
      else if c = '\'' || c = '"' then reader.quotation [] c rest
      else if inWord c then reader.word
      else reader.sign c rest

/-! ## Indentation -/

/-- The distances of wide and of narrow tab stops in indentation. -/
def tabStops : Nat × Nat := (8, 1)

/-- The number of indentations that may be in force at once. -/
def maxIndents : Nat := 100

/-- The columns of a place in a line after some characters of indentation, and the column of the
first backslash among them. -/
structure Column where
  wide : Nat
  narrow : Nat
  broken : Nat
  deriving Repr

/-- The columns of what follows the indentation, and the reader there. -/
def Reader.indentation (reader : Reader) (column : Column) :
    (bound : Nat) → Except Misreading (Column × Reader)
  | 0 => .ok (column, reader)
  | bound + 1 =>
      match reader.rest with
      | ' ' :: rest =>
          { reader with rest := rest }.indentation
            { column with wide := column.wide + 1, narrow := column.narrow + 1 } bound
      | '\t' :: rest =>
          { reader with rest := rest }.indentation
            { column with
              wide := (column.wide / tabStops.1 + 1) * tabStops.1
              narrow := (column.narrow / tabStops.2 + 1) * tabStops.2 } bound
      | '\x0C' :: rest =>
          { reader with rest := rest }.indentation { column with wide := 0, narrow := 0 } bound
      | '\\' :: rest =>
          match reader.continued rest with
          | .error misreading => .error misreading
          | .ok reader =>
              let broken := if column.broken = 0 then column.wide else column.broken
              reader.indentation { column with broken := broken } bound
      | _ => .ok (column, reader)

/-- The indentations that are still in force before a column, and how many are not. -/
def outdent (wide : Nat) : List (Nat × Nat) → List (Nat × Nat) × Nat
  | (indent, narrow) :: rest =>
      if wide < indent then
        let (kept, ended) := outdent wide rest
        (kept, ended + 1)
      else ((indent, narrow) :: rest, 0)
  | [] => ([], 0)

/-- The tokens that a change of indentation makes. -/
def Reader.indented (reader : Reader) (wide narrow : Nat) : Step :=
  let current := reader.indents.headD (0, 0)
  let tokens (kind : Kind) (count : Nat) : List Token :=
    List.replicate count (reader.token kind reader.line reader.rest true)
  if wide = current.1 then
    if narrow = current.2 then .skip reader else .ended (.stuck .mixedIndent)
  else if current.1 < wide then
    if maxIndents ≤ reader.indents.length + 1 then .ended (.stuck .tooManyIndents)
    else if narrow ≤ current.2 then .ended (.stuck .mixedIndent)
    else
      .tokens (tokens .indent 1) { reader with indents := (wide, narrow) :: reader.indents }
  else
    let (kept, ended) := outdent wide reader.indents
    let outer := kept.headD (0, 0)
    if wide ≠ outer.1 then .ended (.stuck .unevenIndent)
    else if narrow ≠ outer.2 then .ended (.stuck .mixedIndent)
    else .tokens (tokens .dedent ended) { reader with indents := kept }

/-- A line that holds nothing but a comment has no indentation, and its end is no token. -/
def Reader.blank (reader : Reader) : Step :=
  match reader.rest.dropWhile (· ≠ '\n') with
  | [] => .skip { reader with rest := [], fresh := false }
  | _ :: rest =>
      .skip { reader with rest := rest, line := nextLine reader.line rest, fresh := true }

/-- A step at the start of a line. -/
def Reader.startLine (reader : Reader) : Step :=
  match reader.indentation ⟨0, 0, 0⟩ (reader.rest.length + 1) with
  | .error misreading => .ended (.stuck misreading)
  | .ok (column, reader) =>
      let begun := { reader with fresh := false }
      if reader.rest.head? = some '#' || reader.rest.head? = some '\n' then reader.blank
      else if !reader.opened.isEmpty then .skip begun
      else if column.broken = 0 then begun.indented column.wide column.narrow
      else begun.indented column.broken column.broken

/-! ## The tokens of a text -/

/-- A step of reading. -/
def Reader.step (reader : Reader) : Step := if reader.fresh then reader.startLine else reader.next

/-- The tokens that at most `bound` steps make, and how they end. -/
def Reader.read (reader : Reader) :
    (bound : Nat) → List Token × Ending × Option (Char × Nat)
  | 0 => ([], .finished, none)
  | bound + 1 =>
      match reader.step with
      | .ended ending => ([], ending, reader.opened.head?)
      | .tokens tokens after =>
          if tokens.any (·.kind = .finish) then (tokens, .finished, none)
          else
            let (further, ending) := after.read bound
            (tokens ++ further, ending)

/-- The tokens of a text that begins on the given line. -/
def Tokens.ofText (line : Nat) (text : List Char) : Tokens :=
  let (tokens, ending, opened) :=
    (Reader.mk text line [] [(0, 0)] true).read (2 * text.length + 4)
  ⟨tokens.toArray, ending, opened⟩

end Literal
end ReflectiveCalls
