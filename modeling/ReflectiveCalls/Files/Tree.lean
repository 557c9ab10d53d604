import ReflectiveCalls.Files.Path
import ReflectiveCalls.Runtime
import ReflectiveCalls.Text.Quoted

/-!
# Files.Tree — a tree of files

The files that a program can see are a value: folders with named entries, and the working folder, in
which paths without a root start.  A file is known by its number, under which its octets stand; so a
file that is written again is the same file with other octets, a file that is removed keeps its
octets for those who have opened it, and a file put in its place later is another one.  The runtime
comes with the tree, since it settles how files are read.

- `Tree.locate`: the node at a path, found component by component, or why there is none.
- `Tree.isFile`, `Tree.exists?`: the two ways in which a path is probed.
- `Tree.openFile`, `Tree.octets`: the number of a file, and its octets; `Tree.readFile` is both.
- `Tree.writeFile`, `Tree.removeFile`: files as a whole.
-/

namespace ReflectiveCalls

/-- A file by its number, or a folder with its entries. -/
inductive Node
  | file (number : Nat)
  | folder (entries : List (String × Node))
  deriving Inhabited

/-- A tree of files with its working folder, and the runtime in which it is seen. -/
structure Tree where
  root : List (String × Node)
  /-- The names of the folders on the way to the working folder. -/
  folder : List String
  /-- The octets of the files in the order of their numbers. -/
  contents : List (List UInt8)
  runtime : Runtime

namespace Files

/-- Why a path leads nowhere, or to the wrong kind of node. -/
inductive Fault
  | missing
  /-- Something is there already. -/
  | occupied
  | notAFolder
  | isAFolder
  | nameTooLong
  | nul
  deriving DecidableEq, Repr

/-- The message for a fault at a path. -/
def Fault.message (path : String) : Fault → String
  | .missing => s!"[Errno 2] No such file or directory: {Text.quoted path}"
  | .occupied => s!"[Errno 17] File exists: {Text.quoted path}"
  | .notAFolder => s!"[Errno 20] Not a directory: {Text.quoted path}"
  | .isAFolder => s!"[Errno 21] Is a directory: {Text.quoted path}"
  | .nameTooLong => s!"[Errno 36] File name too long: {Text.quoted path}"
  | .nul => "embedded null byte"

end Files

namespace Node

/-- The entry of a name. -/
def entry? (entries : List (String × Node)) (name : String) : Option Node :=
  (entries.find? (·.1 == name)).map (·.2)

/-- An entry put in place. -/
def setEntry (entries : List (String × Node)) (name : String) (node : Node) :
    List (String × Node) :=
  if entries.any (·.1 == name) then
    entries.map fun entry => if entry.1 == name then (name, node) else entry
  else entries ++ [(name, node)]

/-- A node put in place below a folder, with the folders above it. -/
def putAt (node : Node) : List String → List (String × Node) → List (String × Node)
  | [], entries => entries
  | [name], entries => setEntry entries name node
  | name :: rest, entries =>
      let inside :=
        match entry? entries name with
        | some (.folder inside) => inside
        | _ => []
      setEntry entries name (.folder (putAt node rest inside))

/-- The entries without the file at the given place. -/
def removeAt : List String → List (String × Node) → List (String × Node)
  | [], entries => entries
  | [name], entries => entries.filter (·.1 != name)
  | name :: rest, entries =>
      match entry? entries name with
      | some (.folder inside) => setEntry entries name (.folder (removeAt rest inside))
      | _ => entries

end Node

namespace Tree

/-- A tree that holds nothing but the folders on the way to a working folder. -/
def withFolder (folder : List String) : Tree :=
  ⟨Node.putAt (.folder []) folder [], folder, [], .usual⟩

/-! ## Paths looked up -/

/-- The most octets that a component may have. -/
def componentLimit : Nat := 255

/-- The most octets that a path may have. -/
def pathLimit : Nat := 4095

/-- A node with the way that led to it: the components from the root on, last one first, each with
the folder in which it was looked up. -/
structure Place where
  above : List (String × List (String × Node))
  node : Node

/-- The components that lead to a place. -/
def Place.way (place : Place) : List String := (place.above.map (·.1)).reverse

/-- The place reached from a place by further components.  Above the root there is the root. -/
def walk (place : Place) : List String → Except Files.Fault Place
  | [] => .ok place
  | part :: rest =>
      match place.node with
      | .file _ => .error .notAFolder
      | .folder entries =>
          if part = ".." then
            match place.above with
            | (_, parent) :: above => walk ⟨above, .folder parent⟩ rest
            | [] => walk place rest
          else if componentLimit < part.utf8ByteSize then .error .nameTooLong
          else
            match Node.entry? entries part with
            | none => .error .missing
            | some node => walk ⟨(part, entries) :: place.above, node⟩ rest

/-- The components to walk from the root of the tree on. -/
def fullWay (tree : Tree) (path : Path) : List String :=
  match path.root with
  | .here => tree.folder ++ path.parts
  | _ => path.parts

/-- The place where some components lead. -/
def reach (tree : Tree) (components : List String) : Except Files.Fault Place :=
  walk ⟨[], .folder tree.root⟩ components

/-- Can the path be looked up at all? -/
def admits (path : Path) : Except Files.Fault Unit :=
  if path.text.toList.contains '\x00' then .error .nul
  else if pathLimit < path.text.utf8ByteSize then .error .nameTooLong
  else .ok ()

/-- The node at a path. -/
def locate (tree : Tree) (path : Path) : Except Files.Fault Node :=
  match admits path with
  | .error fault => .error fault
  | .ok () => (tree.reach (tree.fullWay path)).map (·.node)

/-- Is there a file at the path?  A path that leads nowhere has none; only a name that is too long
is a fault. -/
def isFile (tree : Tree) (path : Path) : Except Files.Fault Bool :=
  match tree.locate path with
  | .ok (.file _) => .ok true
  | .ok (.folder _) => .ok false
  | .error .nameTooLong => .error .nameTooLong
  | .error _ => .ok false

/-- Is there a file or a folder at the path? -/
def exists? (tree : Tree) (path : Path) : Except Files.Fault Bool :=
  match tree.locate path with
  | .ok _ => .ok true
  | .error .nameTooLong => .error .nameTooLong
  | .error _ => .ok false

/-! ## Files as a whole -/

/-- The octets of the file of a number. -/
def octets (tree : Tree) (number : Nat) : List UInt8 := tree.contents.getD number []

/-- The number of the file at a path. -/
def openFile (tree : Tree) (path : Path) : Except Files.Fault Nat :=
  match tree.locate path with
  | .ok (.file number) => .ok number
  | .ok (.folder _) => .error .isAFolder
  | .error fault => .error fault

/-- The octets of the file at a path. -/
def readFile (tree : Tree) (path : Path) : Except Files.Fault (List UInt8) :=
  (tree.openFile path).map tree.octets

/-- A file written: its folder has to be there. -/
def writeFile (tree : Tree) (path : Path) (content : List UInt8) : Except Files.Fault Tree := do
  admits path
  match path.parts.getLast? with
  | none => .error .isAFolder
  | some name =>
      let place ← tree.reach (tree.fullWay path).dropLast
      match place.node with
      | .file _ => .error .notAFolder
      | .folder entries =>
          if name = ".." then .error .isAFolder
          else if componentLimit < name.utf8ByteSize then .error .nameTooLong
          else
            match Node.entry? entries name with
            | some (.folder _) => .error .isAFolder
            | some (.file number) =>
                .ok { tree with contents := tree.contents.set number content }
            | none =>
                .ok
                  { tree with
                    root := Node.putAt (.file tree.contents.length) (place.way ++ [name]) tree.root
                    contents := tree.contents ++ [content] }

/-- A file removed. -/
def removeFile (tree : Tree) (path : Path) : Except Files.Fault Tree := do
  admits path
  let place ← tree.reach (tree.fullWay path)
  match place.node with
  | .folder _ => .error .isAFolder
  | .file _ => .ok { tree with root := Node.removeAt place.way tree.root }

end Tree
end ReflectiveCalls
