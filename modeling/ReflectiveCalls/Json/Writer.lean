import ReflectiveCalls.Json.Basic

/-!
# Json.Writer — indented text in ASCII

Values are written with two blanks per level, one item or member a line, an empty array or object on
the spot, and every character outside the printable ASCII range as an escape; a character beyond
`U+FFFF` is written as a pair of escapes.
-/

namespace ReflectiveCalls
namespace Json

/-- Four hexadecimal digits of a code unit, after the letter of the escape. -/
def unitEscape (unit : Nat) : List Char := ['\\', 'u'] ++ Text.hexDigits 4 unit

/-- One character inside a written string. -/
def writtenChar (c : Char) : List Char :=
  match c with
  | '"' => ['\\', '"']
  | '\\' => ['\\', '\\']
  | '\n' => ['\\', 'n']
  | '\r' => ['\\', 'r']
  | '\t' => ['\\', 't']
  | '\x0C' => ['\\', 'f']
  | '\x08' => ['\\', 'b']
  | c =>
      let n := c.toNat
      if 0x20 ≤ n && n ≤ 0x7E then [c]
      else if n < 0x10000 then unitEscape n
      else
        unitEscape (0xD800 + (n - 0x10000) / 0x400) ++ unitEscape (0xDC00 + (n - 0x10000) % 0x400)

/-- A written string. -/
def writtenString (text : String) : List Char :=
  '"' :: (text.toList.flatMap writtenChar ++ ['"'])

/-- A line end and the indentation of a level. -/
def newLine (level : Nat) : List Char := '\n' :: List.replicate (2 * level) ' '

mutual

/-- A value as it stands at a level of indentation. -/
def written (level : Nat) : Json → List Char
  | .null => "null".toList
  | .bool value => (if value then "true" else "false").toList
  | .int value => (toString value).toList
  | .float .nan => "NaN".toList
  | .float (.infinite negative) => (if negative then "-Infinity" else "Infinity").toList
  | .float value => value.text.toList
  | .str value => writtenString value
  | .arr [] => ['[', ']']
  | .arr (item :: rest) =>
      '[' :: (newLine (level + 1) ++ written (level + 1) item ++ writtenItems (level + 1) rest ++
        newLine level ++ [']'])
  | .obj [] => ['\x7b', '\x7d']
  | .obj ((name, value) :: rest) =>
      '\x7b' :: (newLine (level + 1) ++ writtenString name ++ [':', ' '] ++
        written (level + 1) value ++ writtenMembers (level + 1) rest ++ newLine level ++ ['\x7d'])

/-- The items after the first, each after a comma on a line of its own. -/
def writtenItems (level : Nat) : List Json → List Char
  | [] => []
  | item :: rest => ',' :: (newLine level ++ written level item ++ writtenItems level rest)

/-- The members after the first, each after a comma on a line of its own. -/
def writtenMembers (level : Nat) : List (String × Json) → List Char
  | [] => []
  | (name, value) :: rest =>
      ',' :: (newLine level ++ writtenString name ++ [':', ' '] ++ written level value ++
        writtenMembers level rest)

end

/-- The text of a value. -/
def write (value : Json) : String := String.ofList (written 0 value)

end Json
end ReflectiveCalls
