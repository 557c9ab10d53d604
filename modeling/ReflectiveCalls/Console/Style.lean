import ReflectiveCalls.Console.Colour

/-!
# Console.Style — what a style says

A style is written as words: effects such as `bold`, which `not` turns off, a colour, a colour of
the background after `on`, and a link after `link`.  Styles that say the same have one normal form,
by which the closing tag of a style is matched with its opening tag.

- `Style.read`: a style from its words.
- `Style.text`: the normal form of a style.
- `Style.normal`: the normal form of a written style; one that is no style stays, in small letters.
-/

namespace ReflectiveCalls
namespace Style

/-! ## Effects -/

/-- What a style may turn on or off. -/
inductive Effect
  | bold
  | dim
  | italic
  | underline
  | blink
  | fastBlink
  | reverse
  | conceal
  | strike
  | doubleUnderline
  | frame
  | encircle
  | overline
  deriving DecidableEq, Repr

namespace Effect

/-- The effects, in the order of the normal form. -/
def all : List Effect :=
  [bold, dim, italic, underline, blink, fastBlink, reverse, conceal, strike, doubleUnderline, frame,
    encircle, overline]

/-- Every effect is listed. -/
theorem mem_all (effect : Effect) : effect ∈ all := by cases effect <;> decide

/-- The word for an effect. -/
def word : Effect → String
  | bold => "bold"
  | dim => "dim"
  | italic => "italic"
  | underline => "underline"
  | blink => "blink"
  | fastBlink => "blink2"
  | reverse => "reverse"
  | conceal => "conceal"
  | strike => "strike"
  | doubleUnderline => "underline2"
  | frame => "frame"
  | encircle => "encircle"
  | overline => "overline"

/-- The short word for an effect. -/
def shortWord? : Effect → Option String
  | bold => some "b"
  | dim => some "d"
  | italic => some "i"
  | underline => some "u"
  | reverse => some "r"
  | conceal => some "c"
  | strike => some "s"
  | doubleUnderline => some "uu"
  | overline => some "o"
  | blink | fastBlink | frame | encircle => none

/-- The effect of a word. -/
def ofWord? (cs : List Char) : Option Effect :=
  let given := String.ofList cs
  all.find? fun effect => effect.word == given || effect.shortWord? == some given

end Effect
end Style

/-! ## Styles -/

/-- What a style says. -/
structure Style where
  /-- The effects turned on or off, the latest first. -/
  switches : List (Style.Effect × Bool)
  colour : Option (List Char)
  background : Option (List Char)
  link : Option (List Char)
  deriving DecidableEq, Repr

namespace Style

/-- Why words are no style. -/
inductive Fault
  /-- The words say nothing about a style. -/
  | unreadable
  /-- A number of a colour is out of order. -/
  | number (fault : Colour.NumberFault)
  deriving DecidableEq, Repr

/-- The style that says nothing. -/
def plain : Style := ⟨[], none, none, none⟩

/-- Is the effect turned on or off? -/
def switch? (style : Style) (effect : Effect) : Option Bool :=
  (style.switches.find? (·.1 == effect)).map (·.2)

/-- A style with an effect turned on or off. -/
def switched (style : Style) (effect : Effect) (on : Bool) : Style :=
  { style with switches := (effect, on) :: style.switches }

/-- A colour in a style. -/
def readColour (word : List Char) : Except Fault (List Char) :=
  match Colour.read word with
  | .ok colour => .ok colour
  | .error .unknown => .error .unreadable
  | .error (.number fault) => .error (.number fault)

/-- A style with what further words say. -/
def readOnto (style : Style) : List (List Char) → Except Fault Style
  | [] => .ok style
  | word :: rest =>
      match String.ofList (Text.lower word), rest with
      | "on", next :: rest =>
          match readColour next with
          | .error fault => .error fault
          | .ok colour => readOnto { style with background := some colour } rest
      | "not", next :: rest =>
          match Effect.ofWord? next with
          | none => .error .unreadable
          | some effect => readOnto (style.switched effect false) rest
      | "link", next :: rest => readOnto { style with link := some next } rest
      | "on", [] | "not", [] | "link", [] => .error .unreadable
      | _, rest =>
          match Effect.ofWord? (Text.lower word) with
          | some effect => readOnto (style.switched effect true) rest
          | none =>
              match readColour word with
              | .error fault => .error fault
              | .ok colour => readOnto { style with colour := some colour } rest

/-- The style of a text; `none` alone is the style that says nothing. -/
def read (cs : List Char) : Except Fault Style :=
  if Text.trim cs = "none".toList then .ok plain else readOnto plain (Text.words cs)

/-! ## The normal form -/

/-- The words of a style in normal form. -/
def words (style : Style) : List (List Char) :=
  let effects := Effect.all.flatMap fun effect =>
    match style.switch? effect with
    | some true => [effect.word.toList]
    | some false => ["not".toList, effect.word.toList]
    | none => []
  let after (word : String) (value : Option (List Char)) : List (List Char) :=
    match value with
    | some value => [word.toList, value]
    | none => []
  effects ++ style.colour.toList ++ after "on" style.background ++ after "link" style.link

/-- A style in normal form. -/
def text (style : Style) : List Char :=
  if style.words.isEmpty then "none".toList else [' '].intercalate style.words

/-- The normal form of a written style; what is no style stays, without white space at its ends and
in small letters. -/
def normal (cs : List Char) : Except Colour.NumberFault (List Char) :=
  match read cs with
  | .ok style => .ok style.text
  | .error .unreadable => .ok (Text.lower (Text.trim cs))
  | .error (.number fault) => .error fault

end Style
end ReflectiveCalls
