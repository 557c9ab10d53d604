import ReflectiveCalls.Console.Emoji
import ReflectiveCalls.Console.Layout
import ReflectiveCalls.Console.Literal.Expression
import ReflectiveCalls.Console.Style
import ReflectiveCalls.Text.Quoted
import ReflectiveCalls.Text.WordCharacter

/-!
# Console.Markup — tags in console text

Text for the console may hold tags in square brackets, which style what follows and are not shown.
A tag begins with a small letter, `#`, `/` or `@`; brackets around anything else are plain text.  A
backslash before a tag makes it plain, and two backslashes before a tag stand for one.  A tag that
begins with `/` closes the last open tag of the same style, or the last open tag if it names none; a
tag that begins with `@` asks for an action, of which the arguments are literal.

- `Markup.style`: a text between an opening and a closing tag.
- `Markup.escape`: a text changed so that none of its brackets is a tag.
- `Markup.styled`: what is shown of a text, with emoji in place of their names, and its styles; a
  closing tag that closes nothing is a fault, and so are arguments of a closed action that are not
  literal.
- `Markup.written`: how a text is written on the console.  Styles are looked at when the text has
  been laid out, so that those of which no character is left do no harm.
-/

namespace ReflectiveCalls
namespace Markup

/-! ## Styles -/

/-- The colours in use. -/
inductive Colour
  | green
  | yellow
  | cyan
  | red
  deriving DecidableEq, Repr

/-- The name of a colour. -/
def Colour.name : Colour → String
  | .green => "green"
  | .yellow => "yellow"
  | .cyan => "cyan"
  | .red => "red"

/-- The colour of a name. -/
def Colour.ofName? (name : String) : Option Colour :=
  [Colour.green, .yellow, .cyan, .red].find? (·.name == name)

/-- How a colour is modified. -/
inductive Modifier
  | bold
  | none
  deriving DecidableEq, Repr

/-- The name of a modifier. -/
def Modifier.name : Modifier → String
  | .bold => "bold"
  | .none => ""

/-- The modifier of a name. -/
def Modifier.ofName? (name : String) : Option Modifier :=
  [Modifier.bold, .none].find? (·.name == name)

/-- The name of a style. -/
def styleName (colour : Colour) : Modifier → String
  | .none => colour.name
  | modifier => modifier.name ++ " " ++ colour.name

/-- A text between an opening and a closing tag. -/
def style (text : String) (colour : Colour) (modifier : Modifier) : String :=
  let name := styleName colour modifier
  "[" ++ name ++ "]" ++ text ++ "[/" ++ name ++ "]"

/-- A name that is no colour or no modifier. -/
inductive NameFault
  | colour (name : String)
  | modifier (name : String)
  deriving DecidableEq, Repr

/-- The message for a fault. -/
def NameFault.message : NameFault → String
  | .colour name => s!"{Text.quoted name} is not a valid Color"
  | .modifier name => s!"{Text.quoted name} is not a valid StyleModifier"

/-- A text between tags for the style of the given names. -/
def styleNamed (text colour modifier : String) : Except NameFault String :=
  match Modifier.ofName? modifier with
  | none => .error (.modifier modifier)
  | some modifier =>
      match Colour.ofName? colour with
      | none => .error (.colour colour)
      | some colour => .ok (style text colour modifier)

/-! ## Tags -/

/-- May a tag begin with the character? -/
def beginsTag (c : Char) : Bool :=
  ('a' ≤ c && c ≤ 'z') || c = '#' || c = '/' || c = '@'

/-- The content of the tag at the start of a text. -/
def tagAt? : List Char → Option (List Char)
  | '[' :: c :: rest =>
      if beginsTag c then
        let inside := rest.takeWhile fun d => d ≠ '[' && d ≠ ']'
        if (rest.drop inside.length).head? = some ']' then some (c :: inside) else none
      else none
  | _ => none

/-- A part of a text with markup. -/
inductive Piece
  | text (shown : List Char)
  /-- A tag at a place of the text. -/
  | tag (place : Nat) (content : List Char)
  deriving DecidableEq, Repr

/-- A piece of text of which the last character comes first, unless it is empty. -/
def plainPiece (backwards : List Char) : List Piece :=
  if backwards.isEmpty then [] else [.text backwards.reverse]

/-- The pieces of a text from `place` on; `before` holds the characters of the piece of text that
has been begun, last one first. -/
def pieces (place : Nat) (before : List Char) : List Char → List Piece
  | [] => plainPiece before
  | c :: rest =>
      let slashes := (c :: rest).takeWhile (· = '\\')
      match tagAt? ((c :: rest).drop slashes.length) with
      | some content =>
          let after := rest.drop (slashes.length + content.length + 1)
          let width := slashes.length + content.length + 2
          let half := List.replicate (slashes.length / 2) '\\'
          plainPiece before ++ plainPiece half ++
            (if slashes.length % 2 = 1 then
              .text ('[' :: (content ++ [']'])) :: pieces (place + width) [] after
            else
              .tag (place + slashes.length) content :: pieces (place + width) [] after)
      | none => pieces (place + 1) (c :: before) rest
  termination_by cs => cs.length
  decreasing_by all_goals (simp only [List.length_drop, List.length_cons]; omega)

/-! ## Escaping -/

/-- A text changed so that none of its brackets is a tag. -/
def escapeFrom : List Char → List Char
  | [] => []
  | c :: rest =>
      let slashes := (c :: rest).takeWhile (· = '\\')
      match tagAt? ((c :: rest).drop slashes.length) with
      | some content =>
          slashes ++ slashes ++ ['\\', '['] ++ content ++ [']'] ++
            escapeFrom (rest.drop (slashes.length + content.length + 1))
      | none => c :: escapeFrom rest
  termination_by cs => cs.length
  decreasing_by all_goals (simp only [List.length_drop, List.length_cons]; omega)

/-- Does the text end in exactly one backslash? -/
def endsInOneSlash (cs : List Char) : Bool :=
  (cs.reverse.takeWhile (· = '\\')).length = 1

/-- A text changed so that none of its brackets is a tag, and that a backslash at its end does not
reach a tag after it. -/
def escape (text : String) : String :=
  let escaped := escapeFrom text.toList
  String.ofList (if endsInOneSlash escaped then escaped ++ ['\\'] else escaped)

/-! ## Faults -/

/-- What is wrong with a text with markup. -/
inductive Fault
  /-- A closing tag that no open tag matches. -/
  | noMatch (content : String) (place : Nat)
  /-- A closing tag where no tag is open. -/
  | nothingOpen (place : Nat)
  /-- The parameters of an action, of which `part` is no literal. -/
  | notLiteral (part parameters : String) (fault : Literal.Fault)
  /-- A colour has a number out of order. -/
  | number (fault : Style.Colour.NumberFault)
  deriving DecidableEq, Repr

/-- The message for a fault. -/
def Fault.message : Fault → String
  | .noMatch content place =>
      s!"closing tag '[{content}]' at position {place} doesn't match any open tag"
  | .nothingOpen place => s!"closing tag '[/]' at position {place} has nothing to close"
  | .notLiteral part parameters (.misread misreading) =>
      s!"error parsing {Text.quoted part} in {Text.quoted parameters}; {misreading.message}"
  | .notLiteral _ parameters fault =>
      s!"error parsing {Text.quoted parameters}; {fault.message}"
  | .number fault => fault.message

/-! ## Open tags -/

/-- A tag that has been opened at a place of what is shown: its style in normal form, and its
parameters if it has an equals sign. -/
structure OpenTag where
  place : Nat
  name : List Char
  parameters : Option (List Char)
  deriving DecidableEq, Repr

/-- The style that a tag asks for, as it is written. -/
def OpenTag.style (tag : OpenTag) : List Char :=
  match tag.parameters with
  | some parameters => tag.name ++ ' ' :: parameters
  | none => tag.name

/-- What a tag styles, up to a place. -/
def OpenTag.spanTo (tag : OpenTag) (stop : Nat) : Span := ⟨tag.place, stop, tag.style⟩

/-- The name in a tag, which an equals sign ends. -/
def tagName (content : List Char) : List Char := content.takeWhile (· ≠ '=')

/-- The parameters in a tag: what follows the first equals sign. -/
def tagParameters (content : List Char) : Option (List Char) :=
  (content.dropWhile (· ≠ '=')).tail?

/-- The normal form of a style in a tag. -/
def normalName (name : List Char) : Except Fault (List Char) := (Style.normal name).mapError .number

/-- The last open tag of a style, and the other open tags; the last one comes first. -/
def takeTag? (name : List Char) : List OpenTag → Option (OpenTag × List OpenTag)
  | [] => none
  | tag :: rest =>
      if tag.name = name then some (tag, rest)
      else (takeTag? name rest).map fun (found, rest) => (found, tag :: rest)

/-! ## Actions -/

/-- The arguments in the parameters of an action.  After the name of a handler they stand in round
brackets, and may be left out; parameters of any other form are arguments as a whole. -/
def argumentsOf (parameters : List Char) : List Char :=
  let given := Text.trim parameters
  let after := given.dropWhile fun c => Text.isWordCharacter c || c = '.'
  if after.isEmpty then ['(', ')']
  else if after.head? = some '(' && after.getLast? = some ')' && !after.contains '\n' then after
  else given

/-- Checks the parameters of an action that is closed. -/
def checkAction (parameters : List Char) : Except Fault Unit :=
  let part := argumentsOf parameters
  match Literal.fault? part with
  | none => .ok ()
  | some fault => .error (.notLiteral (String.ofList part) (String.ofList parameters) fault)

/-- What a tag that is closed at a place styles; an action styles nothing, and its parameters are
checked. -/
def closeTag (tag : OpenTag) (stop : Nat) : Except Fault (List Span) :=
  if tag.name.head? = some '@' then
    match tag.parameters with
    | some (c :: parameters) => (checkAction (c :: parameters)).map fun _ => []
    | _ => .ok []
  else .ok [tag.spanTo stop]

/-! ## What is shown -/

/-- A backslash before an opening bracket is not shown. -/
def dropSlashes : List Char → List Char
  | [] => []
  | '\\' :: '[' :: rest => '[' :: dropSlashes rest
  | c :: rest => c :: dropSlashes rest

/-- Spans in the order in which their styles are looked at: by their starts, and of two that start
at one place the one that ends later first.  They are given in the order in which they end. -/
def inOrder (spans : List Span) : List Span :=
  spans.reverse.mergeSort fun span other => span.start ≤ other.start

/-- The tag that a closing tag closes, and the tags that stay open; `name` is what follows the
slash. -/
def closed (opened : List OpenTag) (place : Nat) (content name : List Char) :
    Except Fault (OpenTag × List OpenTag) :=
  if (Text.trim name).isEmpty then
    match opened with
    | [] => .error (.nothingOpen place)
    | tag :: opened => .ok (tag, opened)
  else
    match normalName (Text.trim name) with
    | .error fault => .error fault
    | .ok normal =>
        match takeTag? normal opened with
        | none => .error (.noMatch (String.ofList content) place)
        | some found => .ok found

/-- The text before a tag with the spans that the tag closes, and the tags that are open after
it. -/
def tagged (before : StyledText) (opened : List OpenTag) (place : Nat) (content : List Char) :
    Except Fault (StyledText × List OpenTag) :=
  match tagName content with
  | '/' :: name =>
      match closed opened place content name with
      | .error fault => .error fault
      | .ok (tag, opened) =>
          (closeTag tag before.length).map fun spans =>
            ({ before with spans := before.spans ++ spans }, opened)
  | name =>
      (normalName name).map fun normal =>
        (before, ⟨before.length, normal, tagParameters content⟩ :: opened)

/-- What is shown of the pieces of a text after the text `before`; `opened` holds the open tags,
last one first. -/
def shown (before : StyledText) (opened : List OpenTag) : List Piece → Except Fault StyledText
  | [] =>
      let left := opened.map (·.spanTo before.length)
      .ok { before with spans := inOrder (before.spans ++ left) }
  | .text cs :: rest =>
      shown (before.append (.ofChars (Emoji.replaced (dropSlashes cs)))) opened rest
  | .tag place content :: rest =>
      match tagged before opened place content with
      | .error fault => .error fault
      | .ok (before, opened) => shown before opened rest

/-- What is shown of a text with markup. -/
def styled (markup : String) : Except Fault StyledText :=
  let cs := markup.toList
  if cs.contains '[' then shown (.ofChars []) [] (pieces 0 [] cs)
  else .ok (.ofChars (Emoji.replaced cs))

/-! ## What is written -/

/-- Checks the numbers in the colours of a style; what is no style is left alone. -/
def checkStyle (style : List Char) : Except Fault Unit := (normalName style).map fun _ => ()

/-- Checks the styles of a line. -/
def checkLine (line : StyledText) : Except Fault Unit :=
  line.spans.forM fun span => checkStyle span.style

/-- How a text with markup is written. -/
def written (markup : String) : Except Fault String := do
  let lines := Layout.lines (← styled markup)
  lines.forM checkLine
  return Layout.written lines

/-- How a text in which brackets are plain text is written. -/
def writtenPlain (text : String) : String :=
  Layout.written (Layout.lines (.ofChars (Emoji.replaced text.toList)))

end Markup
end ReflectiveCalls
