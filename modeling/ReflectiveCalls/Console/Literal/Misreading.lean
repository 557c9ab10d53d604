import ReflectiveCalls.Text.Printable

/-!
# Console.Literal.Misreading — why a text is no expression

What keeps a text from being an expression is found by its tokens, by the order of the tokens, or by
what stands between its quotes.

- `Literal.Misreading`: why a text is no expression.
- `Literal.Misreading.message`: the message for it.
- `Literal.Stop`: why reading stops.
-/

namespace ReflectiveCalls
namespace Literal

/-! ## Escapes -/

/-- What is wrong with an escape after a backslash. -/
inductive EscapeFault
  /-- There are too few hexadecimal digits after the letter. -/
  | truncated (letter : Char) (digits : Nat)
  /-- The number is no code point. -/
  | illegal
  /-- The name of a character is not in braces, or is empty. -/
  | misnamed
  /-- No character has the name. -/
  | unknownName
  deriving DecidableEq, Repr

/-- The message for a fault of an escape. -/
def EscapeFault.message : EscapeFault → String
  | truncated letter digits =>
      let form := String.ofList (letter :: List.replicate digits 'X')
      s!"truncated \\{form} escape"
  | illegal => "illegal Unicode character"
  | misnamed => "malformed \\N character escape"
  | unknownName => "unknown Unicode character name"

/-! ## Misreadings -/

/-- Why a text is no expression. -/
inductive Misreading
  /-- The tokens are in no order that an expression has. -/
  | invalid
  /-- Two expressions stand side by side in brackets. -/
  | missingComma
  | missingElse
  /-- The name of an older statement has its argument after it. -/
  | oldStatement (name : String)
  /-- A name has an equals sign after it where no name is given a value. -/
  | assignedName
  | assignedHere (what : String)
  | assigned (what : String)
  | assignedArgument
  | bound (what : String)
  | missingColon
  | missingValue
  | starredValue
  | starred
  | doubleStarred
  | bareStar
  | starredComprehension
  | unpackedComprehension
  /-- The members before the clauses of a comprehension need brackets. -/
  | openTarget
  | openGenerator
  | positionalAfterKeyword
  | positionalAfterUnpacking
  | starAfterUnpacking
  | missingDefault
  | noDefaultAfterDefault
  | bracketedParameters
  | nothingBeforeSlash
  | secondSlash
  | slashAfterStar
  | noCommaBeforeStar
  | nothingAfterStar
  | defaultOfStar
  | secondStar
  | defaultOfDoubleStar
  | afterDoubleStar
  /-- A text and a sequence of octets stand side by side. -/
  | mixedTexts
  /-- A sequence of octets holds another character than those of ASCII. -/
  | wideOctet
  /-- An escape in a text, with the octets that it takes in the form in which only ASCII is used. -/
  | badEscape (first last : Nat) (fault : EscapeFault)
  /-- An escape in a sequence of octets. -/
  | badOctetEscape (place : Nat)
  /-- A whole number in base ten with more digits than are read. -/
  | tooManyDigits (digits : Nat)
  | unterminated (long : Bool) (line : Nat)
  | badNumber (what : String)
  | badDigit (digit : Char) (what : String)
  | leadingZeros
  | afterBackslash
  | endOfText
  | unmatched (closing : Char)
  /-- The opening bracket may stand on an earlier line. -/
  | mismatched (closing opening : Char) (line : Option Nat)
  | unclosed (opening : Char)
  | tooNested
  | badCharacter (c : Char)
  | nul
  | indented
  | unindented
  | unevenIndent
  | mixedIndent
  | tooManyIndents
  /-- What is wrong with a text that holds expressions in braces. -/
  | braceNotAllowed
  | braceExpected
  | emptyField
  | emptyFieldBefore (sign : Char)
  | backslashInField
  | commentInField
  | fieldText
  | fieldUnmatched (bracket : Char)
  | fieldMismatched (closing opening : Char)
  | fieldTooNested
  | fieldsTooDeep
  | badConversion
  /-- A fault of an expression that stands in such a text. -/
  | inField (misreading : Misreading)
  deriving DecidableEq, Repr

/-- A code point in four or more hexadecimal digits. -/
def codePoint (c : Char) : String :=
  let digits := (Nat.toDigits 16 c.toNat).map (·.toUpper)
  String.ofList (List.replicate (4 - digits.length) '0' ++ digits)

/-- The message for brackets that do not match. -/
def mismatchText (closing opening : Char) : String :=
  s!"closing parenthesis '{closing}' does not match opening parenthesis '{opening}'"

/-- The message for a misreading. -/
def Misreading.message : Misreading → String
  | invalid => "invalid syntax"
  | missingComma => "invalid syntax. Perhaps you forgot a comma?"
  | missingElse => "expected 'else' after 'if' expression"
  | oldStatement name =>
      s!"Missing parentheses in call to '{name}'. Did you mean {name}(...)?"
  | assignedName => "invalid syntax. Maybe you meant '==' or ':=' instead of '='?"
  | assignedHere what => s!"cannot assign to {what} here. Maybe you meant '==' instead of '='?"
  | assigned what => s!"cannot assign to {what}"
  | assignedArgument => "expression cannot contain assignment, perhaps you meant \"==\"?"
  | bound what => s!"cannot use assignment expressions with {what}"
  | missingColon => "':' expected after dictionary key"
  | missingValue => "expression expected after dictionary key and ':'"
  | starredValue => "cannot use a starred expression in a dictionary value"
  | starred => "cannot use starred expression here"
  | doubleStarred => "cannot use double starred expression here"
  | bareStar => "Invalid star expression"
  | starredComprehension => "iterable unpacking cannot be used in comprehension"
  | unpackedComprehension => "dict unpacking cannot be used in dict comprehension"
  | openTarget => "did you forget parentheses around the comprehension target?"
  | openGenerator => "Generator expression must be parenthesized"
  | positionalAfterKeyword => "positional argument follows keyword argument"
  | positionalAfterUnpacking => "positional argument follows keyword argument unpacking"
  | starAfterUnpacking => "iterable argument unpacking follows keyword argument unpacking"
  | missingDefault => "expected default value expression"
  | noDefaultAfterDefault => "non-default argument follows default argument"
  | bracketedParameters => "Lambda expression parameters cannot be parenthesized"
  | nothingBeforeSlash => "at least one argument must precede /"
  | secondSlash => "/ may appear only once"
  | slashAfterStar => "/ must be ahead of *"
  | noCommaBeforeStar => "expected comma between / and *"
  | nothingAfterStar => "named arguments must follow bare *"
  | defaultOfStar => "var-positional argument cannot have default value"
  | secondStar => "* argument may appear only once"
  | defaultOfDoubleStar => "var-keyword argument cannot have default value"
  | afterDoubleStar => "arguments cannot follow var-keyword argument"
  | mixedTexts => "cannot mix bytes and nonbytes literals"
  | wideOctet => "bytes can only contain ASCII literal characters"
  | badEscape first last fault =>
      s!"(unicode error) 'unicodeescape' codec can't decode bytes in position {first}-{last}: " ++
        fault.message
  | badOctetEscape place => s!"(value error) invalid \\x escape at position {place}"
  | tooManyDigits digits =>
      "Exceeds the limit (4300 digits) for integer string conversion: value has " ++
        s!"{digits} digits; use sys.set_int_max_str_digits() to increase the limit - " ++
        "Consider hexadecimal for huge integer literals to avoid decimal conversion limits."
  | unterminated false line => s!"unterminated string literal (detected at line {line})"
  | unterminated true line =>
      s!"unterminated triple-quoted string literal (detected at line {line})"
  | badNumber what => s!"invalid {what} literal"
  | badDigit digit what => s!"invalid digit '{digit}' in {what} literal"
  | leadingZeros =>
      "leading zeros in decimal integer literals are not permitted; " ++
        "use an 0o prefix for octal integers"
  | afterBackslash => "unexpected character after line continuation character"
  | endOfText => "unexpected EOF while parsing"
  | unmatched closing => s!"unmatched '{closing}'"
  | mismatched closing opening none => mismatchText closing opening
  | mismatched closing opening (some line) => mismatchText closing opening ++ s!" on line {line}"
  | unclosed opening => s!"'{opening}' was never closed"
  | tooNested => "too many nested parentheses"
  | badCharacter c =>
      if Text.isPrintable c then s!"invalid character '{c}' (U+{codePoint c})"
      else s!"invalid non-printable character U+{codePoint c}"
  | nul => "source code string cannot contain null bytes"
  | indented => "unexpected indent"
  | unindented => "unexpected unindent"
  | unevenIndent => "unindent does not match any outer indentation level"
  | mixedIndent => "inconsistent use of tabs and spaces in indentation"
  | tooManyIndents => "too many levels of indentation"
  | braceNotAllowed => "f-string: single '\x7d' is not allowed"
  | braceExpected => "f-string: expecting '\x7d'"
  | emptyField => "f-string: empty expression not allowed"
  | emptyFieldBefore sign => s!"f-string: expression required before '{sign}'"
  | backslashInField => "f-string expression part cannot include a backslash"
  | commentInField => "f-string expression part cannot include '#'"
  | fieldText => "f-string: unterminated string"
  | fieldUnmatched bracket => s!"f-string: unmatched '{bracket}'"
  | fieldMismatched closing opening => "f-string: " ++ mismatchText closing opening
  | fieldTooNested => "f-string: too many nested parenthesis"
  | fieldsTooDeep => "f-string: expressions nested too deeply"
  | badConversion => "f-string: invalid conversion character: expected 's', 'r', or 'a'"
  | inField misreading => "f-string: " ++ misreading.message

/-- Why reading stops. -/
inductive Stop
  | misread (misreading : Misreading)
  /-- The expression is nested deeper than can be read. -/
  | tooDeep
  deriving DecidableEq, Repr

end Literal
end ReflectiveCalls
