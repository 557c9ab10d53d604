import ReflectiveCalls.Program.Declaration

/-!
# Program.ClassData — classes from dynamic values

A class is described by an object with a `name` and, if there are any, `methods`; a method by its
`name`, `return_type`, `parameter_types`, `line_range` and `body`; a body by its `statements` and
`line_range`.  Parts are read in that order, which settles which of several faults is reported.
-/

namespace ReflectiveCalls

/-- The bound of a line range: an integer, and no truth value. -/
def LineRange.boundOf : Json → Except ShapeFault Int
  | .int value => .ok value
  | value => .error (.badBound value)

/-- A line range, or none for `null`. -/
def LineRange.ofJson? : Json → Except ShapeFault (Option LineRange)
  | .null => .ok none
  | data => do
      let first ← LineRange.boundOf (← data.require "start")
      let last ← LineRange.boundOf (← data.require "end")
      return some ⟨first, last⟩

/-- A statement. -/
def Statement.ofJson (data : Json) : Except ShapeFault Statement := do
  let text ← data.lookUp "text" (.str "")
  let lines ← LineRange.ofJson? (← data.lookUp "line_range" .null)
  return ⟨text, lines⟩

/-- A body, or none for `null`. -/
def Body.ofJson? : Json → Except ShapeFault (Option Body)
  | .null => .ok none
  | data => do
      let statements ← (← (← data.lookUp "statements" (.arr [])).elements).mapM Statement.ofJson
      let lines ← LineRange.ofJson? (← data.lookUp "line_range" .null)
      return some ⟨lines, statements⟩

/-- A method of the given class. -/
def MethodDecl.ofJson (declaringClass data : Json) : Except ShapeFault MethodDecl := do
  let name ← data.require "name"
  let returnType ← data.require "return_type"
  let parameterTypes ← (← data.lookUp "parameter_types" (.arr [])).elements
  let lines ← LineRange.ofJson? (← data.lookUp "line_range" .null)
  let body ← Body.ofJson? (← data.lookUp "body" .null)
  return ⟨declaringClass, name, returnType, parameterTypes, lines, body⟩

/-- A method that names its class itself, as `declaring_class`. -/
def MethodDecl.ofJsonAlone (data : Json) : Except ShapeFault MethodDecl := do
  MethodDecl.ofJson (← data.require "declaring_class") data

/-- A class. -/
def ClassDecl.ofJson (data : Json) : Except ShapeFault ClassDecl := do
  let name ← data.require "name"
  let methods ← (← (← data.lookUp "methods" (.arr [])).elements).mapM (MethodDecl.ofJson name)
  return ⟨name, methods⟩

end ReflectiveCalls
