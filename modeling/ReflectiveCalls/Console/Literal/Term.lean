/-!
# Console.Literal.Term — expressions that have been read

Of an expression that has been read it is kept what form it has, what it is worth as a literal, and
whether it can be given a value.  A literal has a value that can be told without carrying anything
out.  Members of sets and keys of dictionaries may not change, so they are no sets or dictionaries
and hold none.

- `Literal.Worth`: what an expression is worth as a literal.
- `Literal.Form`: the form of an expression, and what it is called.
- `Literal.Term`: an expression that has been read.
-/

namespace ReflectiveCalls
namespace Literal

/-! ## Worth -/

/-- Why an expression has no value. -/
inductive Valueless
  /-- A value of the type would have to stand in a set. -/
  | changing (type : String)
  /-- A whole number is too large to be added to an imaginary one. -/
  | tooLarge
  /-- An entry of a dictionary has no key. -/
  | noKey
  /-- It is no literal. -/
  | notLiteral
  deriving DecidableEq, Repr

/-- The message for an expression without a value. -/
def Valueless.message : Valueless → String
  | changing type => s!"unhashable type: '{type}'"
  | tooLarge => "int too large to convert to float"
  | noKey => "malformed node or string: None"
  | notLiteral => "malformed node or string"

/-- What an expression is worth as a literal. -/
inductive Worth
  /-- A value that may stand in a set, since it does not change. -/
  | fixed
  /-- A value that may not stand in a set, and its type. -/
  | changing (type : String)
  | nothing (reason : Valueless)
  deriving DecidableEq, Repr

/-- Has the expression a value? -/
def Worth.hasValue : Worth → Bool
  | .fixed | .changing _ => true
  | .nothing _ => false

/-- What a tuple is worth: the first member without a value decides, else the first that may not
stand in a set. -/
def Worth.tuple (members : List Worth) : Worth :=
  match members.find? (!·.hasValue) with
  | some member => member
  | none => (members.find? (· != .fixed)).getD .fixed

/-- The worth of a member of a set, which decides about the set unless it is `fixed`. -/
def Worth.asKey : Worth → Worth
  | .changing type => .nothing (.changing type)
  | worth => worth

/-- What a set is worth. -/
def Worth.set (members : List Worth) : Worth :=
  ((members.map Worth.asKey).find? (· != .fixed)).getD (.changing "set")

/-- The worth of an entry of a dictionary, which decides about the dictionary unless it is `fixed`:
the key and the value are told before the key is entered. -/
def Worth.entry (key value : Worth) : Worth :=
  if !key.hasValue then key else if !value.hasValue then value else key.asKey

/-- What a dictionary is worth. -/
def Worth.dictionary (entries : List Worth) : Worth :=
  (entries.find? (· != .fixed)).getD (.changing "dict")

/-! ## Numbers -/

/-- A number in an expression. -/
inductive Numeral
  | whole (value : Nat)
  | real
  | imaginary
  deriving DecidableEq, Repr

/-- The digits of whole numbers in base ten that are read at most. -/
def maxDigits : Nat := 4300

/-- The least whole number that is nearer to two to the power of 1024 than to any number that is
kept in 64 bits. -/
def tooLargeFrom : Nat := Nat.pow 2 1024 - Nat.pow 2 970

/-- The whole number that digits of a base write. -/
def wholeOf (base : Nat) (digits : List Char) : Nat :=
  digits.foldl (fun value c =>
    if c = '_' then value
    else
      base * value +
        (if c.isDigit then c.toNat - '0'.toNat else c.toLower.toNat - 'a'.toNat + 10)) 0

/-- The number that is written so; none if it has too many digits, of which it is told how many. -/
def Numeral.ofText (text : List Char) : Except Nat Numeral :=
  match text with
  | '0' :: 'x' :: digits | '0' :: 'X' :: digits => .ok (.whole (wholeOf 16 digits))
  | '0' :: 'o' :: digits | '0' :: 'O' :: digits => .ok (.whole (wholeOf 8 digits))
  | '0' :: 'b' :: digits | '0' :: 'B' :: digits => .ok (.whole (wholeOf 2 digits))
  | digits =>
      if digits.getLast?.map Char.toLower = some 'j' then .ok .imaginary
      else if digits.any fun c => c = '.' || c.toLower = 'e' then .ok .real
      else
        let count := (digits.filter (· ≠ '_')).length
        if maxDigits < count then .error count else .ok (.whole (wholeOf 10 digits))

/-! ## Forms -/

/-- The form of an expression or of a part of one. -/
inductive Form
  | name (name : List Char)
  | number (numeral : Numeral)
  /-- A number after a plus or a minus sign. -/
  | signedNumber (numeral : Numeral)
  | text
  | fieldText
  | constant (word : String)
  | ellipsis
  | member
  | call
  | generator
  | tuple
  | set
  | dictionary
  | setComprehension
  | dictionaryComprehension
  | function
  /-- An expression made with signs or with `and`, `or` or `not`. -/
  | operation
  | comparison
  | conditional
  | binding
  | handing
  | waiting
  | starred
  /-- An entry of a dictionary. -/
  | entry
  /-- An argument that is given by name. -/
  | namedArgument
  /-- Arguments that are given by the entries of a dictionary. -/
  | unpackedArgument
  /-- Arguments of a call: how many are not given by name, and whether some are unpacked. -/
  | arguments (positional : Nat) (unpacked : Bool)
  /-- A comparison sign with what stands after it. -/
  | compared (byMembership : Bool)
  deriving DecidableEq, Repr

/-- What a form is called in messages. -/
def Form.described : Form → String
  | name _ => "name"
  | number _ | text => "literal"
  | fieldText => "f-string expression"
  | constant word => word
  | ellipsis => "ellipsis"
  | member => "attribute"
  | call => "function call"
  | generator => "generator expression"
  | tuple => "tuple"
  | set => "set display"
  | dictionary => "dict literal"
  | setComprehension => "set comprehension"
  | dictionaryComprehension => "dict comprehension"
  | function => "lambda"
  | comparison => "comparison"
  | conditional => "conditional expression"
  | binding => "named expression"
  | handing => "yield expression"
  | waiting => "await expression"
  | starred => "starred"
  | signedNumber _ | operation | entry | namedArgument | unpackedArgument | arguments _ _
  | compared _ => "expression"

/-! ## Terms -/

/-- An expression that has been read. -/
structure Term where
  form : Form
  worth : Worth
  /-- What keeps it from being given a value. -/
  obstacle : Option String
  deriving DecidableEq, Repr

namespace Term

/-- A term that is no literal and cannot be given a value. -/
def plain (form : Form) : Term := ⟨form, .nothing .notLiteral, some form.described⟩

/-- A term of a worth that cannot be given a value. -/
def valued (form : Form) (worth : Worth) : Term := ⟨form, worth, some form.described⟩

/-- A name. -/
def name (name : List Char) : Term := ⟨.name name, .nothing .notLiteral, none⟩

/-- A tuple, which can be given a value if each member can. -/
def tuple (members : List Term) : Term :=
  ⟨.tuple, Worth.tuple (members.map (·.worth)), members.findSome? (·.obstacle)⟩

/-- A starred term. -/
def starred (term : Term) : Term := ⟨.starred, .nothing .notLiteral, term.obstacle⟩

/-- A comparison; one that begins with a test of membership is looked at up to the test when it
stands where values are given. -/
def comparison (first : Term) (byMembership : Bool) : Term :=
  ⟨.comparison, .nothing .notLiteral, if byMembership then first.obstacle else none⟩

/-- A term after a sign. -/
def signed (sign : String) (term : Term) : Term :=
  match term.form with
  | .number numeral =>
      if sign = "~" then plain .operation else valued (.signedNumber numeral) .fixed
  | _ => plain .operation

/-- The number that may stand before a plus or minus sign in a literal. -/
def realPart? (term : Term) : Option Numeral :=
  match term.form with
  | .number .imaginary | .signedNumber .imaginary => none
  | .number numeral | .signedNumber numeral => some numeral
  | _ => none

/-- Two terms with a sign between them: a real and an imaginary number make a complex one. -/
def joined (left : Term) (sign : String) (right : Term) : Term :=
  if (sign = "+" || sign = "-") && right.form = .number .imaginary then
    match left.realPart? with
    | some (.whole value) =>
        if tooLargeFrom ≤ value then valued .operation (.nothing .tooLarge)
        else valued .operation .fixed
    | some _ => valued .operation .fixed
    | none => plain .operation
  else plain .operation

end Term

end Literal
end ReflectiveCalls
