import ReflectiveCalls.Decimal.Shortest
import ReflectiveCalls.Text.Quoted

/-!
# Json — dynamic values

Class data arrive as JSON and may hold a value of any shape in any place, so the values are kept as
they are: integers exact, floating-point numbers apart from integers, object members in order.

- `Json.Kind`: the kinds of value, with the words that messages use for them.
- `Json.shown`, `Json.plain`: a value as text, strings quoted or bare.
- `Json.Key`, `Json.key?`: what a value counts as when it identifies something; numbers are
  compared by value, whatever their kind, and arrays and objects identify nothing.
- `Json.same`: equality of values under the same view of numbers.
-/

namespace ReflectiveCalls

/-- A JSON value. -/
inductive Json
  | null
  | bool (value : Bool)
  | int (value : Int)
  | float (value : Binary64)
  | str (value : String)
  | arr (items : List Json)
  | obj (members : List (String × Json))
  deriving Repr, Inhabited

namespace Json

/-! ## Kinds -/

/-- The kinds of value. -/
inductive Kind
  | null
  | bool
  | int
  | float
  | str
  | arr
  | obj
  deriving DecidableEq, Repr

/-- The kind of a value. -/
def kind : Json → Kind
  | .null => .null
  | .bool _ => .bool
  | .int _ => .int
  | .float _ => .float
  | .str _ => .str
  | .arr _ => .arr
  | .obj _ => .obj

/-- The word for a kind in messages. -/
def Kind.word : Kind → String
  | .null => "NoneType"
  | .bool => "bool"
  | .int => "int"
  | .float => "float"
  | .str => "str"
  | .arr => "list"
  | .obj => "dict"

/-! ## Values as text -/

mutual

/-- A value as text, strings between quotes. -/
def shown : Json → String
  | .null => "None"
  | .bool value => if value then "True" else "False"
  | .int value => toString value
  | .float value => value.text
  | .str value => Text.quoted value
  | .arr items => "[" ++ ", ".intercalate (shownItems items) ++ "]"
  | .obj members => "\x7b" ++ ", ".intercalate (shownMembers members) ++ "\x7d"

/-- The texts of the items of an array. -/
def shownItems : List Json → List String
  | [] => []
  | item :: rest => shown item :: shownItems rest

/-- The texts of the members of an object. -/
def shownMembers : List (String × Json) → List String
  | [] => []
  | (name, value) :: rest => (Text.quoted name ++ ": " ++ shown value) :: shownMembers rest

end

/-- A value as it stands inside a larger text: a string is itself, without quotes. -/
def plain : Json → String
  | .str value => value
  | value => value.shown

@[simp] theorem plain_str (value : String) : plain (.str value) = value := rfl

/-! ## Values as identities -/

/-- What a value counts as when it identifies something. -/
inductive Key
  | null
  | int (value : Int)
  | real (value : Binary64)
  | text (value : String)
  deriving DecidableEq, Repr

/-- The identity of a value, if it can identify anything.  A truth value counts as `0` or `1`, and a
floating-point number that equals an integer counts as that integer. -/
def key? : Json → Option Key
  | .null => some .null
  | .bool value => some (.int (if value then 1 else 0))
  | .int value => some (.int value)
  | .float value =>
      match value.toInt? with
      | some whole => some (.int whole)
      | none => some (.real value)
  | .str value => some (.text value)
  | .arr _ => none
  | .obj _ => none

@[simp] theorem key?_str (value : String) : key? (.str value) = some (.text value) := rfl

/-! ## Objects -/

/-- The value of a member. -/
def member? (name : String) (members : List (String × Json)) : Option Json :=
  (members.find? (·.1 == name)).map (·.2)

/-- A member set to a value: in its place if the name is there already, else at the end. -/
def setMember (members : List (String × Json)) (name : String) (value : Json) :
    List (String × Json) :=
  if members.any (·.1 == name) then
    members.map fun entry => if entry.1 == name then (entry.1, value) else entry
  else members ++ [(name, value)]

/-- The object that a sequence of members describes; the last value of a name counts. -/
def ofMembers (members : List (String × Json)) : Json :=
  .obj (members.foldl (fun seen entry => setMember seen entry.1 entry.2) [])

/-! ## Equality -/

mutual

/-- Are two values equal, numbers being compared by value and objects whatever their order? -/
def same : Json → Json → Bool
  | .arr items, .arr others => sameItems items others
  | .obj members, .obj others => members.length == others.length && sameMembers members others
  | value, other =>
      match value.key?, other.key? with
      | some key, some otherKey => key == otherKey
      | _, _ => false

/-- Are two arrays equal item by item? -/
def sameItems : List Json → List Json → Bool
  | [], [] => true
  | item :: rest, other :: others => same item other && sameItems rest others
  | _, _ => false

/-- Does each member have an equal one of the same name among the others? -/
def sameMembers : List (String × Json) → List (String × Json) → Bool
  | [], _ => true
  | (name, value) :: rest, others =>
      (match member? name others with
        | some other => same value other
        | none => false) && sameMembers rest others

end

end Json
end ReflectiveCalls
