import ReflectiveCalls.Console.EmojiTable
import ReflectiveCalls.Text.LowerCase
import ReflectiveCalls.Text.Split
import ReflectiveCalls.Text.Words

/-!
# Console.Emoji — emoji asked for by name

A name between colons stands for an emoji.  The name holds no white space, the case of its letters
does not matter, and `-emoji` or `-text` at its end asks for a way of showing the emoji.  A name
that no emoji has stays as it is, with both its colons.

- `Emoji.named?`: the emoji of a name.
- `Emoji.replaced`: a text with emoji in place of their names.
-/

namespace ReflectiveCalls
namespace Emoji

/-! ## The emoji of a name -/

/-- The value of a hexadecimal digit in upper case. -/
def hexValue (c : Char) : Nat :=
  if c.isDigit then c.toNat - '0'.toNat else c.toNat - 'A'.toNat + 10

/-- The number that hexadecimal digits in upper case spell. -/
def ofHex (digits : List Char) : Nat := digits.foldl (fun value c => 16 * value + hexValue c) 0

/-- The emoji of an entry of the table, if the entry has the name. -/
def emojiOf? (name entry : List Char) : Option (List Char) :=
  if entry.takeWhile (· ≠ '=') = name then
    some ((Text.split '-' (entry.drop (name.length + 1))).map fun point => Char.ofNat (ofHex point))
  else none

/-- The entries of the table. -/
def entries : List (List Char) := EmojiTable.all.flatMap fun part => Text.words part.toList

/-- The emoji of a name in small letters. -/
def named? (name : List Char) : Option (List Char) := entries.findSome? (emojiOf? name)

/-! ## Ways of showing an emoji -/

/-- How an emoji is to be shown. -/
inductive Variant
  | asEmoji
  | asText
  deriving DecidableEq, Repr

/-- The end of a name that asks for a variant. -/
def Variant.ending : Variant → List Char
  | .asEmoji => "-emoji".toList
  | .asText => "-text".toList

/-- The character after an emoji that makes a variant. -/
def Variant.selector : Variant → Char
  | .asEmoji => Char.ofNat 0xFE0F
  | .asText => Char.ofNat 0xFE0E

/-- The name and the variant that a text between colons asks for. -/
def splitVariant (content : List Char) : List Char × Option Variant :=
  match [Variant.asEmoji, .asText].find? fun variant => variant.ending.isSuffixOf content with
  | some variant => (content.take (content.length - variant.ending.length), some variant)
  | none => (content, none)

/-- The emoji that a text between colons asks for. -/
def asked? (content : List Char) : Option (List Char) :=
  let (name, variant) := splitVariant content
  (named? (Text.lower name)).map (· ++ (variant.map (·.selector)).toList)

/-! ## Replacement -/

/-- The text between a colon that stands before and the next one, if it holds no white space. -/
def contentAt? (cs : List Char) : Option (List Char) :=
  let content := cs.takeWhile (· ≠ ':')
  if content.length < cs.length && !content.any Text.isBlank then some content else none

/-- A text with emoji in place of their names. -/
def replaced : List Char → List Char
  | [] => []
  | c :: rest =>
      if c = ':' then
        match contentAt? rest with
        | some content =>
            (asked? content).getD (':' :: (content ++ [':'])) ++
              replaced (rest.drop (content.length + 1))
        | none => c :: replaced rest
      else c :: replaced rest
  termination_by cs => cs.length
  decreasing_by all_goals (simp only [List.length_drop, List.length_cons]; omega)

end Emoji
end ReflectiveCalls
