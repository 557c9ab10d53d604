import ReflectiveCalls.Console.Literal.Token

/-!
# Console.Literal.Quotation — what may stand between quotes

Between quotes a backslash begins an escape.  A text with fields holds expressions in braces, each
with a conversion and a form if need be; braces that are text are doubled.

- `Literal.escapeFault?`, `Literal.octetsFault?`: the first escape that is not in order.
- `Literal.fieldsFault?`: what is wrong with a text with fields.
- `Literal.Quotation.fault?`: what is wrong with a quotation.
-/

namespace ReflectiveCalls
namespace Literal

/-! ## Escapes -/

/-- Is the character one of ASCII? -/
def isAscii (c : Char) : Bool := c.toNat < 0x80

/-- Is the character a hexadecimal digit? -/
def isHexDigit (c : Char) : Bool :=
  c.isDigit || ('a' ≤ c && c ≤ 'f') || ('A' ≤ c && c ≤ 'F')

/-- The number that hexadecimal digits write. -/
def hexValue (digits : List Char) : Nat :=
  digits.foldl (fun value c =>
    16 * value +
      (if c.isDigit then c.toNat - '0'.toNat else c.toLower.toNat - 'a'.toNat + 10)) 0

/-- How many octets a text takes in the form in which only ASCII is used: ten for a character that
is not of ASCII, and six for a backslash that has no such character after it. -/
def spread : List Char → Nat
  | [] => 0
  | ['\\'] => 6
  | '\\' :: c :: rest => (if isAscii c then 2 else 16) + spread rest
  | c :: rest => (if isAscii c then 1 else 10) + spread rest

/-- The letters of escapes with hexadecimal digits, and how many digits there are. -/
def hexEscapes : List (Char × Nat) := [('x', 2), ('u', 4), ('U', 8)]

/-- May the text be the name of a character?  A name holds ASCII letters, digits, blanks and
hyphens. -/
def isCharacterName (name : List Char) : Bool :=
  name.all fun c => c.isAlphanum || c = ' ' || c = '-'

/-- What is wrong with an escape that names a character, or how many octets it takes and what
follows it; `rest` follows the letter. -/
def namedEscape (place : Nat) (rest : List Char) : Except Misreading (Nat × List Char) :=
  match rest with
  | '{' :: more =>
      let name := more.takeWhile (· ≠ '}')
      match more.drop name.length with
      | [] => .error (.badEscape place (place + 2 + spread name) .misnamed)
      | _ :: rest =>
          if name.isEmpty then .error (.badEscape place (place + 2) .misnamed)
          else if isCharacterName name then .ok (spread name + 4, rest)
          else .error (.badEscape place (place + 3 + spread name) .unknownName)
  | _ => .error (.badEscape place (place + 1) .misnamed)

/-- What is wrong with an escape, or how many octets it takes and what follows it; `rest` follows
the character after the backslash. -/
def escape (place : Nat) (c : Char) (rest : List Char) : Except Misreading (Nat × List Char) :=
  match hexEscapes.find? (·.1 = c) with
  | some (letter, count) =>
      let digits := (rest.take count).takeWhile isHexDigit
      if digits.length < count then
        .error (.badEscape place (place + 1 + digits.length) (.truncated letter count))
      else if 0x110000 ≤ hexValue digits then .error (.badEscape place (place + 9) .illegal)
      else .ok (count + 2, rest.drop count)
  | none =>
      if c = 'N' then namedEscape place rest
      else .ok (if isAscii c then 2 else 16, rest)

/-- The first escape of at most `bound` that is not in order, in a text of which the part before the
place has been read. -/
def escapeFaultFrom (place : Nat) : (bound : Nat) → List Char → Option Misreading
  | 0, _ | _, [] => none
  | bound + 1, '\\' :: c :: rest =>
      match escape place c rest with
      | .error misreading => some misreading
      | .ok (octets, rest) => escapeFaultFrom (place + octets) bound rest
  | bound + 1, c :: rest => escapeFaultFrom (place + if isAscii c then 1 else 10) bound rest

/-- The first escape in a text that is not in order. -/
def escapeFault? (text : List Char) : Option Misreading := escapeFaultFrom 0 text.length text

/-- The first escape in octets that is not in order. -/
def octetEscapeFault? (place : Nat) : List Char → Option Misreading
  | '\\' :: c :: rest =>
      if c = 'x' && !(rest.take 2).all isHexDigit || c = 'x' && rest.length < 2 then
        some (.badOctetEscape place)
      else octetEscapeFault? (place + 2) rest
  | _ :: rest => octetEscapeFault? (place + 1) rest
  | [] => none

/-- What is wrong with a sequence of octets. -/
def octetsFault? (raw : Bool) (text : List Char) : Option Misreading :=
  if text.any (!isAscii ·) then some .wideOctet
  else if raw then none
  else octetEscapeFault? 0 text

/-! ## Fields -/

/-- A brace in a text with fields: it ends the text before it, unless it is doubled.  The result is
the text, what follows it, and whether it goes on as text. -/
def atBrace (nested : Bool) (before : List Char) (brace : Char) (rest : List Char) :
    Except Misreading (List Char × List Char × Bool) :=
  if !nested && rest.head? = some brace then .ok ((brace :: before).reverse, rest.tail, true)
  else if !nested && brace = '}' then .error .braceNotAllowed
  else .ok (before.reverse, brace :: rest, false)

/-- The text before a field or before the end, what follows it, and whether that goes on as text;
`before` holds the characters that have been read, last one first. -/
def textBefore (raw nested : Bool) (before : List Char) :
    List Char → Except Misreading (List Char × List Char × Bool)
  | [] => .ok (before.reverse, [], false)
  | '\\' :: 'N' :: '{' :: rest =>
      if raw then atBrace nested ('N' :: '\\' :: before) '{' rest
      else named ('{' :: 'N' :: '\\' :: before) rest
  | '\\' :: 'N' :: c :: rest =>
      if raw && c = '}' then atBrace nested ('N' :: '\\' :: before) c rest
      else textBefore raw nested (c :: 'N' :: '\\' :: before) rest
  | '\\' :: c :: rest =>
      if c = '{' || c = '}' then atBrace nested ('\\' :: before) c rest
      else if raw then textBefore raw nested ('\\' :: before) (c :: rest)
      else textBefore raw nested (c :: '\\' :: before) rest
  | c :: rest =>
      if c = '{' || c = '}' then atBrace nested before c rest
      else textBefore raw nested (c :: before) rest
where
  /-- The same after a name of a character has begun. -/
  named (before : List Char) : List Char → Except Misreading (List Char × List Char × Bool)
    | [] => .ok (before.reverse, [], false)
    | c :: rest =>
        if c = '}' then textBefore raw nested (c :: before) rest else named (c :: before) rest

/-- The state of a search for the end of a field. -/
structure FieldSearch where
  /-- The quote of the text that has begun, and whether it is tripled. -/
  quote : Option (Char × Bool)
  opened : List Char
  deriving Repr

/-- The brackets open after a character of a field. -/
def fieldBracket (opened : List Char) (c : Char) : Except Misreading (List Char) :=
  if (closingOf? c).isSome then
    if maxBrackets ≤ opened.length then .error .fieldTooNested else .ok (c :: opened)
  else if [')', ']', '}'].contains c then
    match opened with
    | [] => .error (.fieldUnmatched c)
    | opening :: opened =>
        if closingOf? opening = some c then .ok opened
        else .error (.fieldMismatched c opening)
  else .ok opened

/-- Is the sign before an equals sign part of a comparison? -/
def comparesWith (c : Char) : Bool := c = '!' || c = '=' || c = '<' || c = '>'

/-- The expression of a field, and what follows it. -/
def fieldExpression (search : FieldSearch) :
    (bound : Nat) → List Char → Except Misreading (List Char × List Char)
  | 0, rest => .ok ([], rest)
  | _, [] =>
      match search.quote, search.opened with
      | some _, _ => .error .fieldText
      | none, opening :: _ => .error (.fieldUnmatched opening)
      | none, [] => .ok ([], [])
  | bound + 1, c :: rest =>
      let goOn (taken : List Char) (search : FieldSearch) (rest : List Char) :=
        (fieldExpression search bound rest).map fun (inside, rest) => (taken ++ inside, rest)
      if c = '\\' then .error .backslashInField
      else
        match search.quote with
        | some (quote, false) =>
            goOn [c] (if c = quote then { search with quote := none } else search) rest
        | some (quote, true) =>
            if c = quote && [c, c].isPrefixOf rest then
              goOn [c, c, c] { search with quote := none } (rest.drop 2)
            else goOn [c] search rest
        | none =>
            if c = '\'' || c = '"' then
              if [c, c].isPrefixOf rest then
                goOn [c, c, c] { search with quote := some (c, true) } (rest.drop 2)
              else goOn [c] { search with quote := some (c, false) } rest
            else if c = '#' then .error .commentInField
            else if search.opened.isEmpty && comparesWith c && rest.head? = some '=' then
              goOn [c, '='] search rest.tail
            else if search.opened.isEmpty && (c = '!' || c = ':' || c = '}' || c = '=') then
              .ok ([], c :: rest)
            else
              match fieldBracket search.opened c with
              | .error misreading => .error misreading
              | .ok opened => goOn [c] { search with opened := opened } rest

/-- Is the character left out before and after an expression in a field? -/
def isFieldBlank (c : Char) : Bool := c = ' ' || c = '\t' || c = '\n' || c = '\x0C'

/-- Is the character left out after the equals sign in a field? -/
def isFieldGap (c : Char) : Bool := isFieldBlank c || c = '\x0B' || c = '\r'

/-- How the parts of a text with fields are read: the faults that are found in it are put in a
form, expressions on their lines are looked at, and fields may hold fields in their forms. -/
structure FieldReading where
  wrap : Misreading → Misreading
  expression : (line : Nat) → List Char → Option Stop
  raw : Bool

/-- A fault in a text with fields. -/
def FieldReading.fault {α : Type} (reading : FieldReading) (misreading : Misreading) :
    Except Stop α :=
  .error (.misread (reading.wrap misreading))

/-- Where the conversion of a field begins, if there is one. -/
def FieldReading.afterExpression (reading : FieldReading) (rest : List Char) :
    Except Stop (List Char) :=
  match rest with
  | [] => reading.fault .braceExpected
  | '=' :: rest =>
      match rest.dropWhile isFieldGap with
      | [] => reading.fault .braceExpected
      | rest => .ok rest
  | rest => .ok rest

/-- Where the form of a field begins, if there is one. -/
def FieldReading.afterConversion (reading : FieldReading) (rest : List Char) :
    Except Stop (List Char) :=
  match rest with
  | ['!'] => reading.fault .braceExpected
  | '!' :: c :: rest =>
      if c = 's' || c = 'r' || c = 'a' then .ok rest else reading.fault .badConversion
  | rest => .ok rest

/-- Checks the expression of a field, before the given rest. -/
def FieldReading.checkExpression (reading : FieldReading) (line : Nat) (inside rest : List Char) :
    Except Stop Unit :=
  if inside.all isFieldBlank then
    match rest with
    | '}' :: _ => reading.fault .emptyField
    | sign :: _ => reading.fault (.emptyFieldBefore sign)
    | [] => reading.fault .braceExpected
  else
    match reading.expression line inside with
    | some stop => .error stop
    | none => .ok ()

/-- How many lines end in a text. -/
def lineEnds (text : List Char) : Nat := text.count '\n'

/-- The depth to which fields may be nested in the forms of fields. -/
def maxFieldDepth : Nat := 2

mutual

/-- What follows the parts of a text with fields, up to its end or up to the end of the field of
which it is the form; `depth` counts the fields around it. -/
def FieldReading.parts (reading : FieldReading) (depth line : Nat) :
    (bound : Nat) → List Char → Except Stop (List Char × Nat)
  | 0, rest => .ok (rest, line)
  | bound + 1, cs =>
      match textBefore reading.raw (0 < depth) [] cs with
      | .error misreading => reading.fault misreading
      | .ok (text, rest, goesOn) =>
          let line := line + lineEnds (cs.take (cs.length - rest.length))
          match if reading.raw then none else escapeFault? text with
          | some misreading => reading.fault misreading
          | none =>
              if goesOn then reading.parts depth line bound rest
              else
                match rest with
                | '{' :: rest =>
                    match reading.field depth line bound rest with
                    | .error stop => .error stop
                    | .ok (rest, line) => reading.parts depth line bound rest
                | [] => if 0 < depth then reading.fault .braceExpected else .ok ([], line)
                | rest => .ok (rest, line)

/-- What follows a field of which the opening brace has been read. -/
def FieldReading.field (reading : FieldReading) (depth line : Nat) :
    (bound : Nat) → List Char → Except Stop (List Char × Nat)
  | 0, rest => .ok (rest, line)
  | bound + 1, cs =>
      if maxFieldDepth ≤ depth then reading.fault .fieldsTooDeep
      else
        match fieldExpression ⟨none, []⟩ (cs.length + 1) cs with
        | .error misreading => reading.fault misreading
        | .ok (_, []) => reading.fault .braceExpected
        | .ok (inside, rest) => do
            reading.checkExpression line inside rest
            let rest ← reading.afterExpression rest
            let rest ← reading.afterConversion rest
            let line := line + lineEnds (cs.take (cs.length - rest.length))
            match rest with
            | [':'] => reading.fault .braceExpected
            | ':' :: rest =>
                let (rest, line) ← reading.parts (depth + 1) line bound rest
                return (rest.tail, line)
            | '}' :: rest => return (rest, line)
            | _ => reading.fault .braceExpected

end

/-- What is wrong with a text with fields, which begins on the given line. -/
def fieldsFault? (reading : FieldReading) (line : Nat) (text : List Char) : Option Stop :=
  match reading.parts 0 line (2 * text.length + 2) text with
  | .error stop => some stop
  | .ok _ => none

/-! ## Quotations -/

/-- What is wrong with a quotation; `wrap` puts the faults that are found in a form, and
`expression` looks at the expressions in fields. -/
def Quotation.fault? (quotation : Quotation) (wrap : Misreading → Misreading)
    (expression : (line : Nat) → List Char → Option Stop) : Option Stop :=
  if quotation.hasFields then
    fieldsFault? ⟨wrap, expression, quotation.isRaw⟩ quotation.line quotation.body
  else
    let fault? :=
      if quotation.isOctets then octetsFault? quotation.isRaw quotation.body
      else if quotation.isRaw then none
      else escapeFault? quotation.body
    fault?.map fun misreading => .misread (wrap misreading)

end Literal
end ReflectiveCalls
