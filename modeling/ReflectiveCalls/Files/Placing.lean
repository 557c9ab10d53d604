import ReflectiveCalls.Files.Tree

/-!
# Files.Placing — files and folders put in place

A file can be put where its folder is still missing: the folders above it are made first, from the
outside in.  A folder that is there already is left as it is; anything else in its place stops the
work, and what was made until then stays.

- `Tree.makeFolders`: a folder made, with the folders above it.
- `Tree.put`: a file or folder put at a path.
-/

namespace ReflectiveCalls
namespace Files

/-- What can be put at a path. -/
inductive Item
  | file (content : List UInt8)
  | folder

/-- A fault, and the path at which it was met. -/
structure Obstacle where
  path : Path
  fault : Fault
  deriving DecidableEq, Repr

/-- The tree after some work, and what stopped the work if it was not finished. -/
structure Placing where
  tree : Tree
  obstacle : Option Obstacle

end Files

namespace Tree

/-- A folder made where nothing is. -/
def makeFolder (tree : Tree) (path : Path) : Except Files.Fault Tree := do
  admits path
  match path.parts.getLast? with
  | none => .error .occupied
  | some name =>
      let place ← tree.reach (tree.fullWay path).dropLast
      match place.node with
      | .file _ => .error .notAFolder
      | .folder entries =>
          if name = ".." then .error .occupied
          else if componentLimit < name.utf8ByteSize then .error .nameTooLong
          else
            match Node.entry? entries name with
            | some _ => .error .occupied
            | none =>
                .ok { tree with root := Node.putAt (.folder []) (place.way ++ [name]) tree.root }

/-- Is there a folder at the path? -/
def hasFolder (tree : Tree) (path : Path) : Bool :=
  match tree.locate path with
  | .ok (.folder _) => true
  | _ => false

/-- The end of making a folder: one that is there is as good as one that was made. -/
def settleFolder (tree : Tree) (path : Path) : Except Files.Fault Tree → Files.Placing
  | .ok changed => ⟨changed, none⟩
  | .error fault => ⟨tree, if tree.hasFolder path then none else some ⟨path, fault⟩⟩

/-- A folder made with the folders above it; its components come last one first. -/
def makeFolders (tree : Tree) (root : Path.Root) : (backwards : List String) → Files.Placing
  | [] => ⟨tree, none⟩
  | name :: above =>
      let path : Path := ⟨root, (name :: above).reverse⟩
      match tree.makeFolder path with
      | .error .missing =>
          match makeFolders tree root above with
          | ⟨tree, some obstacle⟩ => ⟨tree, some obstacle⟩
          | ⟨tree, none⟩ => tree.settleFolder path (tree.makeFolder path)
      | outcome => tree.settleFolder path outcome

/-- A file or folder put at a path, with the folders above it. -/
def put (tree : Tree) (path : Path) : Files.Item → Files.Placing
  | .folder => tree.makeFolders path.root path.parts.reverse
  | .file content =>
      match tree.makeFolders path.root path.parent.parts.reverse with
      | ⟨tree, some obstacle⟩ => ⟨tree, some obstacle⟩
      | ⟨tree, none⟩ =>
          match tree.writeFile path content with
          | .ok changed => ⟨changed, none⟩
          | .error fault => ⟨tree, some ⟨path, fault⟩⟩

end Tree
end ReflectiveCalls
