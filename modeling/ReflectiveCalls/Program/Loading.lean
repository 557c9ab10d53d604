import ReflectiveCalls.Action
import ReflectiveCalls.Program.ClassData
import ReflectiveCalls.Program.Model
import ReflectiveCalls.Text.Lines

/-!
# Program.Loading — models and classes from files

- `Model.load`: a model from a file that holds a list of classes.
- `Model.loadClass`: a class that is not known yet, from its file in the class path.  Unless a class
  of exactly that name can be registered, the model stays as it was.
- `Model.resolveClass`: the class of a name, loaded if need be.
-/

namespace ReflectiveCalls
namespace Model

/-- The value in a file, which has to exist. -/
def readValue (tree : Tree) (path : Path) : Except Failure Json :=
  let invalid (cause : ModelCause) : Failure := .reported (.model (.invalid path cause))
  match tree.exists? path with
  | .error fault => .error (.escaped (.file path fault))
  | .ok false => .error (.reported (.model (.notFound path)))
  | .ok true =>
      match tree.readFile path with
      | .error fault => .error (invalid (.file path fault))
      | .ok content =>
          match Octets.Utf8.decodeAll content with
          | .error fault => .error (invalid (.octets fault))
          | .ok text =>
              match Json.readWithin tree.runtime.nesting (Text.unifyLineEnds text) with
              | .error .tooDeep => .error (.escaped .nestedTooDeep)
              | .error fault => .error (invalid (.json fault))
              | .ok value => .ok value

/-- The class that a file describes. -/
def readClass (tree : Tree) (path : Path) : Except Failure ClassDecl :=
  match readValue tree path with
  | .error failure => .error failure
  | .ok value => (ClassDecl.ofJson value).mapError (·.toFailure path)

/-- The classes that a value lists. -/
def classesOf (value : Json) : Except ShapeFault (List ClassDecl) := do
  (← (← value.require "classes").elements).mapM ClassDecl.ofJson

/-- The classes that a file lists. -/
def readClasses (tree : Tree) (path : Path) : Except Failure (List ClassDecl) :=
  match readValue tree path with
  | .error failure => .error failure
  | .ok value => (classesOf value).mapError (·.toFailure path)

/-- A model from a file, together with the events on the way. -/
def load (tree : Tree) (path : Path) (classPath : Option Path) : Action Unit Model := do
  Action.log (.loadingModel path)
  let classes ← Action.ofExcept (readClasses tree path)
  let model ← Action.ofExcept (ofClasses classes classPath)
  Action.log (.loadedModel model.classes.length model.methods.length)
  return model

/-- The file of a class and whether it can be read. -/
def probeClass (tree : Tree) (model : Model) (name : String) :
    Except Failure (Option Path × Bool) :=
  match model.classFile? name with
  | .error failure => .error failure
  | .ok none => .ok (none, false)
  | .ok (some path) =>
      match tree.isFile path with
      | .error fault => .error (.escaped (.file path fault))
      | .ok found => .ok (some path, found)

/-- The class of a name from its file, which has to declare a class of that name. -/
def readNamed (tree : Tree) (path : Path) (name : String) : Except Failure ClassDecl :=
  match readClass tree path with
  | .error failure => .error failure
  | .ok decl =>
      if decl.hasKey (.text name) then .ok decl
      else .error (.reported (.model (.misnamed path decl.name name)))

/-- Is a class of the name known, or can it be loaded? -/
def loadClass (tree : Tree) (name : String) : Action Model Bool := do
  let model ← Action.state
  if model.containsClass name then
    return true
  Action.log (.loadingOnDemand name)
  match ← Action.ofExcept (model.probeClass tree name) with
  | (some path, true) =>
      let decl ← Action.ofExcept (readNamed tree path name)
      Action.put (← Action.ofExcept (model.register decl))
      Action.log (.loadedClass name decl.methods.length path)
      return true
  | (path, _) =>
      Action.log (.classFileMissing name path)
      return false

/-- The class of a name, loaded if need be. -/
def resolveClass (tree : Tree) (name : String) : Action Model (Option ClassDecl) := do
  if ← loadClass tree name then
    return (← Action.state).class? name
  else
    return none

end Model
end ReflectiveCalls
