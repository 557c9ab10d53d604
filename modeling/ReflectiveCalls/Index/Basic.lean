import ReflectiveCalls.Index.Receivers
import ReflectiveCalls.Json.Basic
import ReflectiveCalls.Resolution

/-!
# Index — what a trace has shown

An index says, for each operation and each method, which targets were seen.  What it has recorded
never changes; only asking for classes may load some into the model.

- `Index.names`: the recorded targets of a method, in ascending order.
- `Index.callSites`, `Index.summary`, `Index.sections`: the whole index, listed and counted.
- `Index.query`: what was seen in the method of a signature.
- `Index.classes`, `Index.methods`, `Index.entities`: what the recorded names stand for.
-/

namespace ReflectiveCalls

/-- What a trace has shown. -/
structure Index where
  recorded : PerOperation Receivers

namespace Index

/-- The targets recorded for an operation in a method, in ascending order. -/
def names (index : Index) (operation : Operation) (container : MethodDecl) :
    Except ShapeFault (List String) := do
  return (index.recorded.get operation).targets (← container.identity)

/-- An entry on top of those `done`, unless its method counts as one of theirs. -/
def mergeEntry (done : List Entry) (entry : Entry) : List Entry :=
  if done.any (·.key == entry.key) then done else done ++ [entry]

/-- The entries whose methods count as none of the ones seen before, on top of those `done`. -/
def mergeEntries (done : List Entry) (entries : List Entry) : List Entry :=
  entries.foldl mergeEntry done

/-- The entries for one operation, or for all of them with each method once, in ascending order of
their signatures. -/
def callSites (index : Index) (operation : Option Operation) : List Entry :=
  let operations := match operation with
    | some operation => [operation]
    | none => Operation.all
  let entries := operations.foldl (fun done operation =>
    mergeEntries done (index.recorded.get operation)) []
  Receivers.bySignature entries

/-- For each operation, how many methods and how many targets are recorded. -/
def summary (index : Index) : List (Operation × Nat × Nat) :=
  Operation.all.map fun operation =>
    let receivers := index.recorded.get operation
    (operation, receivers.length, receivers.targetCount)

/-- The targets of a signature put into rows: in place of those that the signature had, else at the
end. -/
def setRow (rows : List (String × List String)) (signature : String) (targets : List String) :
    List (String × List String) :=
  if rows.any (·.1 == signature) then
    rows.map fun row => if row.1 == signature then (signature, targets) else row
  else rows ++ [(signature, targets)]

/-- The signatures of the methods in which an operation was seen, with their targets, everything in
ascending order. -/
def rows (index : Index) (operation : Operation) : List (String × List String) :=
  (index.recorded.get operation).bySignature.foldl
    (fun rows entry => setRow rows entry.signature (ascending entry.targets)) []

/-- For each operation, the signatures with their targets. -/
def sections (index : Index) : List (Operation × List (String × List String)) :=
  Operation.all.map fun operation => (operation, index.rows operation)

/-- The sections as a value. -/
def toJson (index : Index) : Json :=
  .obj (index.sections.map fun (operation, entries) =>
    (operation.token, .obj (entries.map fun (signature, targets) =>
      (signature, .arr (targets.map .str)))))

/-- The operations seen in the method of a signature, each with its targets in ascending order, if
any were seen there. -/
def query (index : Index) (signature : String) : Option (List (Operation × List String)) :=
  match (index.callSites none).find? (·.signature == signature) with
  | none => none
  | some entry =>
      some (Operation.all.filterMap fun operation =>
        match (index.recorded.get operation).targets entry.key with
        | [] => none
        | targets => some (operation, targets))

/-! ## What the names stand for -/

/-- The classes of the given names, one after the other. -/
def classesNamed (tree : Tree) (operation : Operation) : List String → Action Model (List ClassDecl)
  | [] => return []
  | name :: rest => do
      match ← Model.resolveClass tree name with
      | none => Action.report (.unresolvedTarget name operation)
      | some decl => return decl :: (← classesNamed tree operation rest)

/-- The methods of the given signatures, one after the other; methods that count as the same one are
given once.  `seen` tells which have been given. -/
def methodsSigned (model : Model) (operation : Operation) (seen : List MethodKey) :
    List String → Except Failure (List MethodDecl)
  | [] => .ok []
  | signature :: rest =>
      match model.method? signature with
      | none => .error (.reported (.unresolvedTarget signature operation))
      | some method =>
          match method.identity with
          | .error fault => .error (.escaped (.shape fault))
          | .ok key =>
              if seen.contains key then methodsSigned model operation seen rest
              else
                match methodsSigned model operation (key :: seen) rest with
                | .ok methods => .ok (method :: methods)
                | .error failure => .error failure

/-- The classes that the names recorded in a method stand for. -/
def classes (tree : Tree) (index : Index) (operation : Operation) (container : MethodDecl) :
    Action Model (List ClassDecl) := do
  classesNamed tree operation (← Action.ofShape (index.names operation container))

/-- The methods that the names recorded in a method stand for. -/
def methods (index : Index) (operation : Operation) (container : MethodDecl) :
    Action Model (List MethodDecl) := do
  let names ← Action.ofShape (index.names operation container)
  Action.ofExcept (methodsSigned (← Action.state) operation [] names)

/-- What recorded names stand for. -/
inductive Entities
  | classes (decls : List ClassDecl)
  | methods (decls : List MethodDecl)

/-- What the names recorded in a method stand for. -/
def entities (tree : Tree) (index : Index) (operation : Operation) (container : MethodDecl) :
    Action Model Entities := do
  if operation.targetsMethod then
    return .methods (← index.methods operation container)
  else
    return .classes (← index.classes tree operation container)

end Index
end ReflectiveCalls
