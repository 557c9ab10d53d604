import ReflectiveCalls.Program.Loading

/-!
# Resolution — from a call site to methods

A record names the class and the method of its call site, and perhaps a line.  Overloaded methods
share a name, so several may be meant.

- A single method of the name is the one.
- Of several, the first in declaration order that covers the line is the one.
- If the line is unknown or none covers it, all of them may be meant.
-/

namespace ReflectiveCalls

/-- The first method that covers a known line. -/
def firstCovering (methods : List MethodDecl) (line : Int) : Option MethodDecl :=
  if line = unknownLine then none else methods.find? (·.covers line)

namespace Model

/-- The class of a call site, which has to be registered. -/
def registeredClass (name : String) : Action Model ClassDecl := do
  match (← Action.state).class? name with
  | some decl => return decl
  | none => Action.report (.unknownSourceClass name)

/-- The class of a call site, loaded if need be. -/
def sourceClass (tree : Tree) (name : String) : Action Model ClassDecl := do
  unless (← Action.state).containsClass name do
    let _ ← loadClass tree name
  registeredClass name

/-- The methods of a class that a call site may mean. -/
def methodsMeant (decl : ClassDecl) (className methodName : String) (line : Int) :
    Action Model (List MethodDecl) := do
  let source := className ++ "." ++ methodName
  match decl.methodsNamed methodName with
  | [] => Action.report (.unknownSourceMethod className methodName)
  | [method] =>
      Action.log (.resolvedUnique source (← Action.ofShape method.signature))
      return [method]
  | methods =>
      match firstCovering methods line with
      | some method =>
          Action.log (.resolvedByLine source line (← Action.ofShape method.signature))
          return [method]
      | none =>
          Action.log (.resolvedFallback source line methods.length)
          return methods

/-- The methods that a call site may mean. -/
def resolve (tree : Tree) (className methodName : String) (line : Int) :
    Action Model (List MethodDecl) := do
  methodsMeant (← sourceClass tree className) className methodName line

end Model
end ReflectiveCalls
