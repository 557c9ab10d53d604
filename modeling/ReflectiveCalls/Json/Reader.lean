import ReflectiveCalls.Json.Basic

/-!
# Json.Reader — values from text

The reader accepts the JSON grammar together with the words `NaN`, `Infinity` and `-Infinity`.
White space is the blank, the tab and the two line-end characters; control characters inside strings
are refused; of several members of one name the last one counts.  Texts are made of characters: half
of a surrogate pair that is spelled on its own by an escape is read as U+FFFD.

- `Json.ReadFault`: what was expected and where, or an integer of too many digits, or values nested
  too deep.
- `Json.value`, `Json.items`, `Json.members`: the grammar, by recursion on a bound that the length
  of the text provides.
- `Json.readWithin`: a whole text, in some room for nested values; `Json.read` has the usual room.

Inside the reader a place is given by the number of characters that are left from it on.
-/

namespace ReflectiveCalls
namespace Json

/-! ## Faults -/

/-- What is wrong with a text. -/
inductive Cause
  | value
  | propertyName
  | colon
  | comma
  | unterminatedString
  | controlCharacter
  | escape
  | unicodeEscape
  | extraData
  | byteOrderMark
  deriving DecidableEq, Repr

/-- The words for a cause. -/
def Cause.words : Cause → String
  | .value => "Expecting value"
  | .propertyName => "Expecting property name enclosed in double quotes"
  | .colon => "Expecting ':' delimiter"
  | .comma => "Expecting ',' delimiter"
  | .unterminatedString => "Unterminated string starting at"
  | .controlCharacter => "Invalid control character at"
  | .escape => "Invalid \\escape"
  | .unicodeEscape => "Invalid \\uXXXX escape"
  | .extraData => "Extra data"
  | .byteOrderMark => "Unexpected UTF-8 BOM (decode using utf-8-sig)"

/-- Why a text is no value. -/
inductive ReadFault
  | syntaxAt (cause : Cause) (line column offset : Nat)
  | tooManyDigits (count : Nat)
  | tooDeep
  deriving DecidableEq, Repr

/-- The depth to which arrays and objects may usually be nested. -/
def maxDepth : Nat := 970

/-- The most decimal digits that an integer may have. -/
def digitLimit : Nat := 4300

/-- The message for an integer of too many digits. -/
def digitLimitMessage (count : Nat) : String :=
  s!"Exceeds the limit ({digitLimit} digits) for integer string conversion: value has {count} " ++
    "digits; use sys.set_int_max_str_digits() to increase the limit"

/-- The message for a fault. -/
def ReadFault.message : ReadFault → String
  | .syntaxAt cause line column offset =>
      s!"{cause.words}: line {line} column {column} (char {offset})"
  | .tooManyDigits count => digitLimitMessage count
  | .tooDeep => "maximum recursion depth exceeded"

/-- A fault found while reading, its place given by the number of characters left. -/
inductive Stop
  | at (cause : Cause) (left : Nat)
  | tooManyDigits (count : Nat)
  | tooDeep
  deriving DecidableEq, Repr

/-! ## Tokens -/

/-- The characters that may stand between tokens. -/
def isSpace (c : Char) : Bool :=
  c = ' ' || c = '\t' || c = '\n' || c = '\r'

/-- The text from the next token on. -/
def skipSpace (cs : List Char) : List Char := cs.dropWhile isSpace

/-- The number that decimal digits spell. -/
def natOfDigits (digits : List Char) : Nat :=
  digits.foldl (fun n c => 10 * n + (c.toNat - '0'.toNat)) 0

/-- The value of a hexadecimal digit. -/
def hexDigit? (c : Char) : Option Nat :=
  if c.isDigit then some (c.toNat - '0'.toNat)
  else if 'a' ≤ c && c ≤ 'f' then some (c.toNat - 'a'.toNat + 10)
  else if 'A' ≤ c && c ≤ 'F' then some (c.toNat - 'A'.toNat + 10)
  else none

/-- The code unit that four hexadecimal digits spell. -/
def codeUnit? (a b c d : Char) : Option Nat := do
  return 4096 * (← hexDigit? a) + 256 * (← hexDigit? b) + 16 * (← hexDigit? c) + (← hexDigit? d)

/-- Is the code unit the first half of a pair? -/
def isHighHalf (unit : Nat) : Bool := 0xD800 ≤ unit && unit < 0xDC00

/-- Is the code unit the second half of a pair? -/
def isLowHalf (unit : Nat) : Bool := 0xDC00 ≤ unit && unit < 0xE000

/-- The character of two halves. -/
def pairChar (high low : Nat) : Char :=
  Char.ofNat (0x10000 + 0x400 * (high - 0xD800) + (low - 0xDC00))

/-- The character of a code unit that stands alone; half a pair has none and shows as `U+FFFD`. -/
def loneChar (unit : Nat) : Char :=
  if isHighHalf unit || isLowHalf unit then '\uFFFD' else Char.ofNat unit

/-- The text that code units spell, two halves in a row making one character. -/
def textOfUnits : List Nat → List Char
  | [] => []
  | [unit] => [loneChar unit]
  | unit :: next :: rest =>
      if isHighHalf unit && isLowHalf next then pairChar unit next :: textOfUnits rest
      else loneChar unit :: textOfUnits (next :: rest)

/-- The character that a one-letter escape stands for. -/
def escaped? : Char → Option Char
  | '"' => some '"'
  | '\\' => some '\\'
  | '/' => some '/'
  | 'b' => some '\x08'
  | 'f' => some '\x0C'
  | 'n' => some '\n'
  | 'r' => some '\r'
  | 't' => some '\t'
  | _ => none

/-- The rest of a string whose opening quote has been read: its code units (a character that is not
escaped is one unit), and what follows the closing quote.  `opening` is the place of the opening
quote, and `done` holds the units before, last one first.  A numeric escape has to be followed by
something. -/
def stringRest (opening : Nat) (done : List Nat) :
    List Char → Except Stop (List Nat × List Char)
  | [] => .error (.at .unterminatedString opening)
  | '"' :: rest => .ok (done.reverse, rest)
  | '\\' :: [] => .error (.at .unterminatedString opening)
  | '\\' :: 'u' :: rest =>
      match rest with
      | a :: b :: c :: d :: tail =>
          match codeUnit? a b c d, tail with
          | some unit, _ :: _ => stringRest opening (unit :: done) tail
          | _, _ => .error (.at .unicodeEscape (tail.length + 5))
      | _ => .error (.at .unicodeEscape (rest.length + 1))
  | '\\' :: letter :: rest =>
      match escaped? letter with
      | some c => stringRest opening (c.toNat :: done) rest
      | none => .error (.at .escape (rest.length + 2))
  | c :: rest =>
      if c.toNat < 0x20 then .error (.at .controlCharacter (rest.length + 1))
      else stringRest opening (c.toNat :: done) rest

/-- A string whose opening quote has been read. -/
def string (rest : List Char) : Except Stop (String × List Char) :=
  (stringRest (rest.length + 1) [] rest).map fun (units, rest) =>
    (String.ofList (textOfUnits units), rest)

/-- The fraction of a number: its digits, and what follows.  A point counts only before a digit. -/
def fraction : List Char → Option (List Char) × List Char
  | '.' :: rest =>
      match rest.takeWhile Char.isDigit with
      | [] => (none, '.' :: rest)
      | digits => (some digits, rest.dropWhile Char.isDigit)
  | cs => (none, cs)

/-- The digits of an exponent after its sign, if there are any. -/
def exponentDigits (negative : Bool) (cs : List Char) : Option (Int × List Char) :=
  match cs.takeWhile Char.isDigit with
  | [] => none
  | digits =>
      let size : Int := natOfDigits digits
      some (if negative then -size else size, cs.dropWhile Char.isDigit)

/-- The exponent of a number, and what follows.  The letter counts only before digits. -/
def exponent (cs : List Char) : Option Int × List Char :=
  let found :=
    match cs with
    | letter :: rest =>
        if letter = 'e' || letter = 'E' then
          match rest with
          | '+' :: digits => exponentDigits false digits
          | '-' :: digits => exponentDigits true digits
          | digits => exponentDigits false digits
        else none
    | [] => none
  match found with
  | some (power, rest) => (some power, rest)
  | none => (none, cs)

/-- The value of a number from its parts. -/
def numberValue (negative : Bool) (whole : List Char) (decimals : Option (List Char))
    (power : Option Int) : Except Stop Json :=
  match decimals, power with
  | none, none =>
      if digitLimit < whole.length then .error (.tooManyDigits whole.length)
      else
        let size : Int := natOfDigits whole
        .ok (.int (if negative then -size else size))
  | _, _ =>
      let decimals := decimals.getD []
      .ok (.float (Binary64.ofDecimal negative (natOfDigits (whole ++ decimals))
        (power.getD 0 - decimals.length)))

/-- The digits before the point: a single `0`, or digits that do not begin with it. -/
def wholeDigits : List Char → Option (List Char × List Char)
  | '0' :: rest => some (['0'], rest)
  | c :: rest =>
      if c.isDigit then some (c :: rest.takeWhile Char.isDigit, rest.dropWhile Char.isDigit)
      else none
  | [] => none

/-- A number at the start of a text. -/
def number (cs : List Char) : Except Stop (Json × List Char) :=
  let (negative, unsigned) :=
    match cs with
    | '-' :: rest => (true, rest)
    | rest => (false, rest)
  match wholeDigits unsigned with
  | none => .error (.at .value cs.length)
  | some (whole, rest) =>
      let (decimals, rest) := fraction rest
      let (power, rest) := exponent rest
      match numberValue negative whole decimals power with
      | .ok value => .ok (value, rest)
      | .error stop => .error stop

/-! ## Values -/

mutual

/-- The value at the start of a text, with what follows it; `room` is the depth to which values may
still be nested. -/
def value (room : Nat) : Nat → List Char → Except Stop (Json × List Char)
  | 0, cs => .error (.at .value cs.length)
  | bound + 1, cs =>
      match cs with
      | '"' :: rest =>
          match string rest with
          | .ok (text, rest) => .ok (.str text, rest)
          | .error stop => .error stop
      | '\x7b' :: rest =>
          if room = 0 then .error .tooDeep
          else
            match skipSpace rest with
            | '\x7d' :: rest => .ok (.obj [], rest)
            | inside => members (room - 1) bound [] inside
      | '[' :: rest =>
          if room = 0 then .error .tooDeep
          else
            match skipSpace rest with
            | ']' :: rest => .ok (.arr [], rest)
            | inside => items (room - 1) bound [] inside
      | 'n' :: 'u' :: 'l' :: 'l' :: rest => .ok (.null, rest)
      | 't' :: 'r' :: 'u' :: 'e' :: rest => .ok (.bool true, rest)
      | 'f' :: 'a' :: 'l' :: 's' :: 'e' :: rest => .ok (.bool false, rest)
      | 'N' :: 'a' :: 'N' :: rest => .ok (.float .nan, rest)
      | 'I' :: 'n' :: 'f' :: 'i' :: 'n' :: 'i' :: 't' :: 'y' :: rest =>
          .ok (.float (.infinite false), rest)
      | '-' :: 'I' :: 'n' :: 'f' :: 'i' :: 'n' :: 'i' :: 't' :: 'y' :: rest =>
          .ok (.float (.infinite true), rest)
      | cs => number cs

/-- The items of an array from one of them on, with what follows the closing bracket.  `done` holds
the items before, last one first. -/
def items (room : Nat) : Nat → List Json → List Char → Except Stop (Json × List Char)
  | 0, _, cs => .error (.at .value cs.length)
  | bound + 1, done, cs =>
      match value room bound cs with
      | .error stop => .error stop
      | .ok (item, rest) =>
          match skipSpace rest with
          | ']' :: rest => .ok (.arr (item :: done).reverse, rest)
          | ',' :: rest => items room bound (item :: done) (skipSpace rest)
          | rest => .error (.at .comma rest.length)

/-- The members of an object from one of them on, with what follows the closing brace.  `done` holds
the members before, last one first. -/
def members (room : Nat) : Nat → List (String × Json) → List Char → Except Stop (Json × List Char)
  | 0, _, cs => .error (.at .propertyName cs.length)
  | bound + 1, done, cs =>
      match cs with
      | '"' :: rest =>
          match string rest with
          | .error stop => .error stop
          | .ok (name, rest) =>
              match skipSpace rest with
              | ':' :: rest =>
                  match value room bound (skipSpace rest) with
                  | .error stop => .error stop
                  | .ok (item, rest) =>
                      let done := (name, item) :: done
                      match skipSpace rest with
                      | '\x7d' :: rest => .ok (ofMembers done.reverse, rest)
                      | ',' :: rest => members room bound done (skipSpace rest)
                      | rest => .error (.at .comma rest.length)
              | rest => .error (.at .colon rest.length)
      | cs => .error (.at .propertyName cs.length)

end

/-! ## Whole texts -/

/-- A fault with its place counted from the start of the text: lines and columns from one. -/
def Stop.locate (text : List Char) : Stop → ReadFault
  | .tooManyDigits count => .tooManyDigits count
  | .tooDeep => .tooDeep
  | .at cause left =>
      let before := text.take (text.length - left)
      let column := (before.reverse.takeWhile (· ≠ '\n')).length + 1
      .syntaxAt cause (before.count '\n' + 1) column before.length

/-- The value that a whole text spells, nested at most as deep as there is room. -/
def readWithin (room : Nat) (text : List Char) : Except ReadFault Json :=
  let outcome : Except Stop Json :=
    if text.head? = some '\uFEFF' then .error (.at .byteOrderMark text.length)
    else
      match value room (2 * text.length + 2) (skipSpace text) with
      | .error stop => .error stop
      | .ok (result, rest) =>
          match skipSpace rest with
          | [] => .ok result
          | extra => .error (.at .extraData extra.length)
  outcome.mapError (·.locate text)

/-- The value that a whole text spells. -/
def read (text : List Char) : Except ReadFault Json := readWithin maxDepth text

end Json
end ReflectiveCalls
