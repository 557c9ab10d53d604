import ReflectiveCalls.Text.Split

/-!
# Files.Path — paths in normal form

A path is a root and a list of components.  Repeated slashes, slashes at the end and `.` components
vanish; `..` components stay; exactly two slashes at the start are a root of their own.

- `Path.ofText`, `Path.text`: reading and writing a path.
- `Path.join`: a further text put after a path, a rooted one replacing it.
- `Path.withExtension?`: the extension of the last component replaced.
-/

namespace ReflectiveCalls

/-- Where a path starts. -/
inductive Path.Root
  | here
  | slash
  | twoSlashes
  deriving DecidableEq, Repr

/-- A path in normal form. -/
structure Path where
  root : Path.Root
  parts : List String
  deriving DecidableEq, Repr

namespace Path

/-- The text of a root. -/
def Root.text : Root → String
  | .here => ""
  | .slash => "/"
  | .twoSlashes => "//"

/-- Does a piece between slashes name something? -/
def isComponent (piece : List Char) : Bool := piece ≠ [] && piece ≠ ['.']

/-- The root of a text. -/
def rootOf : List Char → Root
  | '/' :: '/' :: '/' :: _ => .slash
  | '/' :: '/' :: _ => .twoSlashes
  | '/' :: _ => .slash
  | _ => .here

/-- The components of a text. -/
def componentsOf (cs : List Char) : List String :=
  ((Text.split '/' cs).filter isComponent).map String.ofList

/-- The path that a text names. -/
def ofText (text : String) : Path :=
  ⟨rootOf text.toList, componentsOf text.toList⟩

/-- The text of a path; a path without root and components is written as a point. -/
def text (path : Path) : String :=
  let body := path.root.text ++ "/".intercalate path.parts
  if body.isEmpty then "." else body

/-- A further text put after a path.  A text with a root of its own replaces the path. -/
def join (path : Path) (further : String) : Path :=
  let added := ofText further
  match added.root with
  | .here => ⟨path.root, path.parts ++ added.parts⟩
  | _ => added

/-- The path without its last component. -/
def parent (path : Path) : Path := ⟨path.root, path.parts.dropLast⟩

/-- Further texts put after a path, one after the other. -/
def joinAll (path : Path) (further : List String) : Path := further.foldl join path

/-- A name without its extension.  The extension begins at the last point, provided that the point
is neither the first nor the last character. -/
def stemOf (name : List Char) : List Char :=
  match Text.splitLast? '.' name with
  | some (stem, extension) => if stem.isEmpty || extension.isEmpty then name else stem
  | none => name

/-- The path with the extension of its last component replaced; a path without components has
none. -/
def withExtension? (path : Path) (extension : String) : Option Path :=
  match path.parts.getLast? with
  | none => none
  | some name =>
      let renamed := String.ofList (stemOf name.toList) ++ extension
      some ⟨path.root, path.parts.dropLast ++ [renamed]⟩

end Path
end ReflectiveCalls
