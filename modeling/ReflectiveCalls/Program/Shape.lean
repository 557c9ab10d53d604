import ReflectiveCalls.Json.Basic

/-!
# Program.Shape — reading members of dynamic values

Class data may hold any value in any place.  The readers here give the part that is asked for, or
say what was found instead of the shape that was needed.

- `ShapeFault`: what was wrong with a value.
- `Json.require`: a member that has to be there; `Json.lookUp`: one that may be missing.
- `Json.elements`: the elements of a value that can be run through: the items of an array, the
  characters of a string, the member names of an object.
-/

namespace ReflectiveCalls

/-- What is wrong with the shape of a value. -/
inductive ShapeFault
  /-- An object lacks a member. -/
  | missingMember (name : String)
  /-- A member is required of something that has none. -/
  | noMembers (found : Json.Kind)
  /-- A member is looked up in something that is no object. -/
  | noLookUp (found : Json.Kind)
  /-- Something that cannot be run through stands in place of a sequence. -/
  | noSequence (found : Json.Kind)
  /-- The bound of a line range is no integer. -/
  | badBound (value : Json)
  /-- A parameter type is no text. -/
  | notText (position : Nat) (found : Json.Kind)
  /-- An array or an object stands where a value has to identify something. -/
  | noIdentity (found : Json.Kind)
  deriving Repr

/-- The message for a fault. -/
def ShapeFault.message : ShapeFault → String
  | .missingMember name => Text.quoted name
  | .noMembers .arr => "list indices must be integers or slices, not str"
  | .noMembers .str => "string indices must be integers, not 'str'"
  | .noMembers found => s!"'{found.word}' object is not subscriptable"
  | .noLookUp found => s!"'{found.word}' object has no attribute 'get'"
  | .noSequence found => s!"'{found.word}' object is not iterable"
  | .badBound value => s!"line range bound {value.shown} is not an integer"
  | .notText position found =>
      s!"sequence item {position}: expected str instance, {found.word} found"
  | .noIdentity found => s!"unhashable type: '{found.word}'"

namespace Json

/-- A member that has to be there. -/
def require (value : Json) (name : String) : Except ShapeFault Json :=
  match value with
  | .obj members =>
      match member? name members with
      | some value => .ok value
      | none => .error (.missingMember name)
  | value => .error (.noMembers value.kind)

/-- A member that may be missing, and then counts as `default`. -/
def lookUp (value : Json) (name : String) (default : Json) : Except ShapeFault Json :=
  match value with
  | .obj members => .ok ((member? name members).getD default)
  | value => .error (.noLookUp value.kind)

/-- The elements of a value that can be run through. -/
def elements : Json → Except ShapeFault (List Json)
  | .arr items => .ok items
  | .str text => .ok (text.toList.map fun c => .str (String.ofList [c]))
  | .obj members => .ok (members.map fun entry => .str entry.1)
  | value => .error (.noSequence value.kind)

/-- What a value counts as when it has to identify something. -/
def identity (value : Json) : Except ShapeFault Key :=
  match value.key? with
  | some key => .ok key
  | none => .error (.noIdentity value.kind)

@[simp] theorem identity_str (text : String) : identity (.str text) = .ok (.text text) := rfl

end Json
end ReflectiveCalls
