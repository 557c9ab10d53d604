import ReflectiveCalls.Index.Basic

/-!
# Index.Builder — an index from records

A builder takes records one by one until it is asked for the index; after that it takes no more.

- `Builder.addRecord`: a record attributed to the methods of its call site.  Classes may be loaded
  on the way, also when the record is refused.
- `Builder.addRecords`: records one after the other, up to the first that is refused.
- `Builder.build`: the index, given once.
-/

namespace ReflectiveCalls

/-- An index in the making. -/
structure Builder where
  recorded : PerOperation Receivers
  /-- Has the index been given? -/
  built : Bool

namespace Builder

/-- A builder without records. -/
def empty : Builder := ⟨.all [], false⟩

/-- A target recorded for a method. -/
def record (operation : Operation) (target : String) (method : MethodDecl) :
    Action Builder Unit := do
  let key ← Action.ofShape method.identity
  let signature ← Action.ofShape method.signature
  let builder ← Action.state
  let receivers := (builder.recorded.get operation).add key signature method target
  Action.put { builder with recorded := builder.recorded.set operation receivers }
  Action.log (.recordedTarget operation target signature)

/-- A target recorded for methods, one after the other. -/
def recordAll (operation : Operation) (target : String) : List MethodDecl → Action Builder Unit
  | [] => return ()
  | method :: rest => do
      record operation target method
      recordAll operation target rest

/-- The target of a record, if it names a method, has to be known. -/
def checkTarget (record : Record) : Action Model Unit := do
  if record.operation.targetsMethod then
    unless (← Action.state).containsMethod record.target do
      Action.report (.unknownTargetMethod record.target record.operation)

/-- A builder that has given its index takes no more records. -/
def checkOpen : Action Builder Unit := do
  if (← Action.state).built then
    Action.report .indexFrozen

/-- A record added. -/
def addRecord (tree : Tree) (record : Record) : Action (Model × Builder) Unit := do
  Action.onSecond checkOpen
  let methods ← Action.onFirst
    (Model.resolve tree record.sourceClass record.sourceMethod record.line)
  Action.onFirst (checkTarget record)
  Action.onSecond (recordAll record.operation record.target methods)

/-- Records added one after the other. -/
def addRecords (tree : Tree) : List Record → Action (Model × Builder) Unit
  | [] => return ()
  | record :: rest => do
      addRecord tree record
      addRecords tree rest

/-- The index, given once. -/
def build : Action Builder Index := do
  let builder ← Action.state
  if builder.built then
    Action.report .indexFrozen
  else
    Action.put { builder with built := true }
    let index : Index := ⟨builder.recorded⟩
    Action.log (.indexBuilt (index.callSites none).length
      ((index.summary.map (·.2.2)).foldr (· + ·) 0))
    return index

end Builder

/-- The index of a list of records. -/
def Index.ofRecords (tree : Tree) (records : List Record) : Action Model Index := fun model =>
  let steps : Action (Model × Builder) Index := do
    Builder.addRecords tree records
    Action.onSecond Builder.build
  let outcome := steps.run (model, Builder.empty)
  ⟨outcome.result, outcome.state.1, outcome.events⟩

end ReflectiveCalls
