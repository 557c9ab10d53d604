import ReflectiveCalls.Program.Shape

/-!
# Program.Declaration — classes and methods

A class declares methods in order; a method may carry line ranges for its declaration, its body and
the statements of the body.  Names and types are kept as the dynamic values that the class data
hold.

- `MethodDecl.covers`: does a line fall into any range of a method?
- `MethodDecl.signature`: the text `<class: return name(parameters)>` that names a method.
- `MethodDecl.identity`: what a method counts as; line ranges and body are no part of it.
-/

namespace ReflectiveCalls

/-! ## Lines -/

/-- The line of a call whose line is not known. -/
def unknownLine : Int := -1

/-- A closed range of lines. -/
structure LineRange where
  first : Int
  last : Int
  deriving DecidableEq, Repr

/-- Does the range hold the line? -/
def LineRange.covers (range : LineRange) (line : Int) : Bool :=
  range.first ≤ line && line ≤ range.last

/-- Does a range that may be absent hold a line that may be unknown? -/
def coversLine (range : Option LineRange) (line : Int) : Bool :=
  match range with
  | none => false
  | some range => line != unknownLine && range.covers line

@[simp] theorem coversLine_unknownLine (range : Option LineRange) :
    coversLine range unknownLine = false := by
  cases range <;> simp [coversLine]

/-! ## Methods -/

/-- A statement of a method body. -/
structure Statement where
  text : Json
  lines : Option LineRange
  deriving Repr

/-- The body of a method. -/
structure Body where
  lines : Option LineRange
  statements : List Statement
  deriving Repr

/-- A method declared by a class. -/
structure MethodDecl where
  declaringClass : Json
  name : Json
  returnType : Json
  parameterTypes : List Json
  lines : Option LineRange
  body : Option Body
  deriving Repr

/-- What a method counts as. -/
structure MethodKey where
  declaringClass : Json.Key
  name : Json.Key
  returnType : Json.Key
  parameterTypes : List Json.Key
  deriving DecidableEq, Repr

namespace MethodDecl

/-- Does the line fall into the range of the declaration, of the body, or of a statement? -/
def covers (method : MethodDecl) (line : Int) : Bool :=
  coversLine method.lines line ||
    match method.body with
    | none => false
    | some body =>
        coversLine body.lines line || body.statements.any fun statement =>
          coversLine statement.lines line

/-- Is this the name of the method? -/
def hasName (method : MethodDecl) (name : String) : Bool :=
  method.name.key? == some (.text name)

/-- The parameter types as texts; the first that is none is at fault.  `position` counts them. -/
def parameterTexts (position : Nat) : List Json → Except ShapeFault (List String)
  | [] => .ok []
  | .str text :: rest =>
      match parameterTexts (position + 1) rest with
      | .ok texts => .ok (text :: texts)
      | .error fault => .error fault
  | value :: _ => .error (.notText position value.kind)

/-- The signature made of the texts of its parts. -/
def signatureText (declaringClass name returnType : String) (parameterTypes : List String) :
    String :=
  "<" ++ declaringClass ++ ": " ++ returnType ++ " " ++ name ++ "(" ++
    ",".intercalate parameterTypes ++ ")>"

/-- The signature of a method. -/
def signature (method : MethodDecl) : Except ShapeFault String :=
  match parameterTexts 0 method.parameterTypes with
  | .ok texts =>
      .ok (signatureText method.declaringClass.plain method.name.plain
        method.returnType.plain texts)
  | .error fault => .error fault

/-- What the method counts as, if each of its parts can identify something. -/
def identity (method : MethodDecl) : Except ShapeFault MethodKey := do
  let declaringClass ← method.declaringClass.identity
  let name ← method.name.identity
  let returnType ← method.returnType.identity
  let parameterTypes ← method.parameterTypes.mapM Json.identity
  return ⟨declaringClass, name, returnType, parameterTypes⟩

/-- Do two methods agree in class, name, return type and parameter types? -/
def same (method other : MethodDecl) : Bool :=
  method.declaringClass.same other.declaringClass && method.name.same other.name &&
    method.returnType.same other.returnType &&
    Json.sameItems method.parameterTypes other.parameterTypes

end MethodDecl

/-! ## Classes -/

/-- A class with its methods in the order of their declaration. -/
structure ClassDecl where
  name : Json
  methods : List MethodDecl
  deriving Repr

namespace ClassDecl

/-- Is this the name of the class? -/
def hasKey (decl : ClassDecl) (key : Json.Key) : Bool := decl.name.key? == some key

/-- The methods of a name, in the order of their declaration. -/
def methodsNamed (decl : ClassDecl) (name : String) : List MethodDecl :=
  decl.methods.filter (·.hasName name)

end ClassDecl
end ReflectiveCalls
