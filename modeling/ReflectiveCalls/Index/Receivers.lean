import ReflectiveCalls.Program.Declaration
import ReflectiveCalls.Text.Order

/-!
# Index.Receivers — targets recorded for methods

For one operation, the methods in which it was seen, in the order of their first record, each with
the set of its targets.

- `Receivers.add`: a target recorded for a method.
- `Receivers.targets`: the targets recorded for what counts as a method, in order.
-/

namespace ReflectiveCalls

/-- Texts in ascending order of their code points. -/
def ascending (texts : List String) : List String :=
  texts.mergeSort fun left right => !Text.before right left

/-- A method with the targets recorded for it. -/
structure Entry where
  key : MethodKey
  signature : String
  method : MethodDecl
  /-- The targets without repetition, in the order of their first record. -/
  targets : List String
  deriving Repr

/-- The methods in which an operation was seen. -/
abbrev Receivers := List Entry

/-- A target added to a set of targets. -/
def insertTarget (targets : List String) (target : String) : List String :=
  if targets.contains target then targets else targets ++ [target]

/-- An entry with a target added to it, if it is the one of the key. -/
def Entry.withTarget (key : MethodKey) (target : String) (entry : Entry) : Entry :=
  if entry.key == key then { entry with targets := insertTarget entry.targets target } else entry

namespace Receivers

/-- The entry of what counts as a method. -/
def find? (receivers : Receivers) (key : MethodKey) : Option Entry :=
  List.find? (·.key == key) receivers

/-- A target recorded for a method.  A method that counts as one already there is that one. -/
def add (receivers : Receivers) (key : MethodKey) (signature : String) (method : MethodDecl)
    (target : String) : Receivers :=
  if (receivers.find? key).isSome then receivers.map (Entry.withTarget key target)
  else receivers ++ [⟨key, signature, method, [target]⟩]

/-- The targets recorded for what counts as a method, in ascending order. -/
def targets (receivers : Receivers) (key : MethodKey) : List String :=
  match receivers.find? key with
  | some entry => ascending entry.targets
  | none => []

/-- The entries in ascending order of their signatures. -/
def bySignature (receivers : Receivers) : List Entry :=
  receivers.mergeSort fun left right => !Text.before right.signature left.signature

/-- How many targets are recorded in all. -/
def targetCount (receivers : Receivers) : Nat :=
  (receivers.map (·.targets.length)).foldr (· + ·) 0

end Receivers
end ReflectiveCalls
