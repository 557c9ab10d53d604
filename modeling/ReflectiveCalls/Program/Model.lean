import ReflectiveCalls.Failure
import ReflectiveCalls.Program.Declaration

/-!
# Program.Model — the classes and methods that are known

A model holds the registered classes in order, the methods by signature, and the folder from which
further classes may be loaded.

- `Model.register`: a class added, unless its name or one of its signatures is taken.  A class whose
  registration fails leaves the model as it was.
- `Model.ofClasses`: a model from a list of classes.
- `Model.class?`, `Model.method?`: the class of a name and the method of a signature.
-/

namespace ReflectiveCalls

/-- What is known of a program. -/
structure Model where
  classPath : Option Path
  /-- The registered classes, first one first. -/
  classes : List ClassDecl
  /-- The methods of the registered classes under their signatures. -/
  methods : List (String × MethodDecl)
  deriving Repr

namespace Model

/-- A model without classes. -/
def empty (classPath : Option Path) : Model := ⟨classPath, [], []⟩

/-- The class that counts as `key`. -/
def classOf? (model : Model) (key : Json.Key) : Option ClassDecl :=
  model.classes.find? (·.hasKey key)

/-- The class of a name. -/
def class? (model : Model) (name : String) : Option ClassDecl := model.classOf? (.text name)

/-- Is there a class of the name? -/
def containsClass (model : Model) (name : String) : Bool := (model.class? name).isSome

/-- The method of a signature. -/
def method? (model : Model) (signature : String) : Option MethodDecl :=
  (model.methods.find? (·.1 == signature)).map (·.2)

/-- Is there a method of the signature? -/
def containsMethod (model : Model) (signature : String) : Bool := (model.method? signature).isSome

/-- The methods under their signatures on top of those that are `taken`; a signature that is taken
is a duplicate. -/
def signMethods (taken : List (String × MethodDecl)) :
    List MethodDecl → Except Failure (List (String × MethodDecl))
  | [] => .ok taken
  | method :: rest =>
      match method.signature with
      | .error fault => .error (.escaped (.shape fault))
      | .ok signature =>
          if taken.any (·.1 == signature) then
            .error (.reported (.model (.duplicateMethod signature)))
          else signMethods (taken ++ [(signature, method)]) rest

/-- A class added to the model. -/
def register (model : Model) (decl : ClassDecl) : Except Failure Model :=
  match decl.name.identity with
  | .error fault => .error (.escaped (.shape fault))
  | .ok key =>
      if (model.classOf? key).isSome then
        .error (.reported (.model (.duplicateClass decl.name)))
      else
        match signMethods model.methods decl.methods with
        | .error failure => .error failure
        | .ok methods =>
            .ok { model with classes := model.classes ++ [decl], methods := methods }

/-- Classes added one after the other. -/
def registerAll (model : Model) : List ClassDecl → Except Failure Model
  | [] => .ok model
  | decl :: rest =>
      match model.register decl with
      | .error failure => .error failure
      | .ok model => model.registerAll rest

/-- A model of the given classes. -/
def ofClasses (classes : List ClassDecl) (classPath : Option Path) : Except Failure Model :=
  (empty classPath).registerAll classes

/-- The file from which a class of the name would be loaded, if there is a folder for such files:
the parts of the name between points are folders, and the last one names the file.  A name that
leads to no component at all has no file. -/
def classFile? (model : Model) (name : String) : Except Failure (Option Path) :=
  match model.classPath with
  | none => .ok none
  | some folder =>
      let parts := (Text.split '.' name.toList).map String.ofList
      let path := folder.joinAll parts
      match path.withExtension? ".json" with
      | some file => .ok (some file)
      | none => .error (.escaped (.noFileName path))

end Model
end ReflectiveCalls
