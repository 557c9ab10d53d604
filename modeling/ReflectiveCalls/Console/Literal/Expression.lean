import ReflectiveCalls.Console.Literal.Recognition
import ReflectiveCalls.Text.Lines

/-!
# Console.Literal.Expression — expressions that are literal

The parameters of an action are an expression that has to be literal: numbers, texts, the names
`True`, `False` and `None`, and tuples, sets and dictionaries of such.  An expression that is in
order but not literal is told from a text that is no expression.

- `Literal.expressionFault?`: what is wrong with an expression in a field.
- `Literal.fault?`: what is wrong with the text of a literal.
-/

namespace ReflectiveCalls
namespace Literal

/-- What is wrong with an expression in a field, which begins on the given line; the fields in it
may be nested to the given depth. -/
def expressionFault? : (depth : Nat) → (line : Nat) → List Char → Option Stop
  | 0, _, _ => some .tooDeep
  | depth + 1, line, text =>
      let tokens := Tokens.ofText line ('(' :: (text ++ [')', '\n']))
      match (Source.mk tokens .inField (expressionFault? depth)).read .field with
      | .ok _ => none
      | .error stop => some stop

/-- What is wrong with the text of a literal. -/
inductive Fault
  | misread (misreading : Misreading)
  /-- The expression is nested deeper than can be read. -/
  | tooDeep
  /-- The expression is in order, but has no value. -/
  | nothing (reason : Valueless)
  deriving DecidableEq, Repr

/-- The message for a fault. -/
def Fault.message : Fault → String
  | misread misreading => misreading.message
  | tooDeep => ""
  | nothing reason => reason.message

/-- What is wrong with an expression that has been read. -/
def faultOfTerms : List Term → Option Fault
  | [⟨_, .nothing reason, _⟩] => some (.nothing reason)
  | _ => none

/-- What is wrong with the text of a literal, if anything is. -/
def fault? (text : List Char) : Option Fault :=
  if text.contains (Char.ofNat 0) then some (.misread .nul)
  else
    let text := Text.unifyLineEnds text
    let source : Source := ⟨Tokens.ofText 1 text, id, expressionFault? text.length⟩
    match source.read .whole with
    | .ok terms => faultOfTerms terms
    | .error (.misread misreading) => some (.misread misreading)
    | .error .tooDeep => some .tooDeep

end Literal
end ReflectiveCalls
