import ReflectiveCalls.Session.Basic

/-!
# Session.Run — steps carried out

A step first looks for what it needs, in the order builder or index, stream, current model; then
words for operations are read, then the method that is asked about is looked up.  A step that fails
does not set the slot that it would have set, but what it has changed in a model, a builder or a
stream until then remains.

- `Session.perform`: one step.
- `Session.run`: steps one after the other; a failure ends none but its own.
-/

namespace ReflectiveCalls
namespace Session

/-- A reply as the end of a step. -/
def reply (reply : Reply) : Action Session Answer := return .replied reply

/-! ## Needs -/

/-- Goes on with what is needed, if it is there. -/
def need {α : Type} (missing : Need) (found : Session → Option α)
    (next : α → Action Session Answer) : Action Session Answer := do
  match found (← Action.state) with
  | some value => next value
  | none => return .skipped missing

/-- Goes on with the current model. -/
def withModel (next : Bound Model → Action Session Answer) : Action Session Answer :=
  need .model Session.current? next

/-- Goes on with the builder and its model. -/
def withBuilder (next : Bound Builder × Bound Model → Action Session Answer) :
    Action Session Answer :=
  need .builder Session.builder? next

/-- Goes on with the index and its model. -/
def withIndex (next : Bound Index × Bound Model → Action Session Answer) : Action Session Answer :=
  need .index Session.index? next

/-- Goes on with the stream. -/
def withStream (next : TraceStream → Action Session Answer) : Action Session Answer :=
  need .stream Session.stream next

/-- Goes on with the method that is asked about. -/
def withMethod (container : Container) (next : MethodDecl → Action Session Answer) :
    Action Session Answer :=
  match container with
  | .described data => do next (← Action.ofShape (MethodDecl.ofJsonAlone data))
  | .signed signature =>
      withModel fun model =>
        match model.value.method? signature with
        | some method => next method
        | none => return .skipped .method

/-! ## Work on the slots -/

/-- The operation of a word. -/
def operationOf (token : String) : Except Failure Operation :=
  match Operation.ofToken? token with
  | some operation => .ok operation
  | none => .error (.escaped (.unknownOperation token))

/-- The record of its parts. -/
def recordOf (parts : RecordParts) : Except Failure Record := do
  let operation ← operationOf parts.token
  return ⟨operation, parts.target, parts.sourceClass, parts.sourceMethod, parts.line, parts.lineNo⟩

/-- Work on a model. -/
def onModel {α : Type} (model : Bound Model) (action : Action Model α) : Action Session α :=
  Action.within (fun _ => model.value)
    (fun changed session => session.setModel ⟨model.model, changed⟩) action

/-- Work on a builder and its model. -/
def onBuilder {α : Type} (builder : Bound Builder) (model : Bound Model)
    (action : Action (Model × Builder) α) : Action Session α :=
  Action.within (fun _ => (model.value, builder.value))
    (fun changed session =>
      { session.setModel ⟨model.model, changed.1⟩ with
        builder := some ⟨builder.model, changed.2⟩ }) action

/-- Work on a builder, its model and a stream. -/
def onBuilderAndStream {α : Type} (builder : Bound Builder) (model : Bound Model)
    (stream : TraceStream) (action : Action ((Model × Builder) × TraceStream) α) :
    Action Session α :=
  Action.within (fun _ => ((model.value, builder.value), stream))
    (fun changed session =>
      { session.setModel ⟨model.model, changed.1.1⟩ with
        builder := some ⟨builder.model, changed.1.2⟩
        stream := some changed.2 }) action

/-- Work on a stream. -/
def onStream {α : Type} (stream : TraceStream) (action : Action TraceStream α) : Action Session α :=
  Action.within (fun _ => stream) (fun changed session => { session with stream := some changed })
    action

/-- A session changed. -/
def change (edit : Session → Session) : Action Session Unit := do
  Action.put (edit (← Action.state))

/-- A model made the current one. -/
def enterModel (model : Model) : Action Session Answer := do
  change (·.addModel model)
  reply (.classCount model.classes.length)

/-- An index put into its slot. -/
def enterIndex (number : Nat) (index : Index) : Action Session Unit :=
  change fun session => { session with index := some ⟨number, index⟩ }

/-- The trace of a name, to be opened at the first record. -/
def traceOf (trace : String) (encoding : Option String) : TraceStream :=
  .unopened (.ofText trace) (encoding.getD Octets.Encoding.defaultName)

/-- The texts that stand for classes or methods, in ascending order. -/
def entityTexts : Index.Entities → Except ShapeFault (List String)
  | .classes decls => .ok (ascending (decls.map (·.name.plain)))
  | .methods decls => do return ascending (← decls.mapM MethodDecl.signature)

/-! ## Groups of steps -/

/-- A file or folder put in place.  What was made before an obstacle was met stays. -/
def putItem (path : String) (item : Files.Item) : Action Session Answer := do
  let placing := (← Action.state).tree.put (.ofText path) item
  change fun session => { session with tree := placing.tree }
  match placing.obstacle with
  | none => reply .nothing
  | some obstacle => Action.fail (.escaped (.file obstacle.path obstacle.fault))

/-- A file removed. -/
def removeFile (path : String) : Action Session Answer := do
  match (← Action.state).tree.removeFile (.ofText path) with
  | .error fault => Action.fail (.escaped (.file (.ofText path) fault))
  | .ok tree =>
      change fun session => { session with tree := tree }
      reply .nothing

/-- A model from a file.  An empty class path is none. -/
def loadModel (program : String) (classPath : Option String) : Action Session Answer := do
  let folder := (classPath.filter (!·.isEmpty)).map Path.ofText
  let tree := (← Action.state).tree
  enterModel (← Action.within (fun _ => ()) (fun _ session => session)
    (Model.load tree (.ofText program) folder))

/-- A model of the given classes. -/
def newModel (classes : List Json) (classPath : Option String) : Action Session Answer := do
  let decls ← Action.ofShape (classes.mapM ClassDecl.ofJson)
  enterModel (← Action.ofExcept (Model.ofClasses decls (classPath.map Path.ofText)))

/-- The methods of a name in a class that is registered. -/
def methodsNamed (model : Model) (className name : String) : Option (List MethodDecl) :=
  (model.class? className).map (·.methodsNamed name)

/-- Records added to the builder. -/
def addRecords (parts : List RecordParts) : Action Session Answer :=
  withBuilder fun (builder, model) => do
    let records ← Action.ofExcept (parts.mapM recordOf)
    onBuilder builder model (Builder.addRecords (← Action.state).tree records)
    reply .nothing

/-- A trace added to the builder. -/
def addTrace (trace : String) (encoding : Option String) : Action Session Answer :=
  withBuilder fun (builder, model) => do
    onBuilder builder model (Builder.addTrace (← Action.state).tree (.ofText trace)
      (encoding.getD Octets.Encoding.defaultName))
    reply .nothing

/-- What is left of the stream added to the builder. -/
def addStream : Action Session Answer :=
  withBuilder fun (builder, model) =>
    withStream fun stream => do
      onBuilderAndStream builder model stream (Builder.addStream (← Action.state).tree)
      reply .nothing

/-- The index of the builder. -/
def build : Action Session Answer :=
  withBuilder fun (builder, model) => do
    let index ← onBuilder builder model (Action.onSecond Builder.build)
    enterIndex builder.model index
    reply (.summary index.summary)

/-- An index over the current model. -/
def enterIndexOf (make : Tree → Action Model Index) : Action Session Answer :=
  withModel fun model => do
    let index ← onModel model (make (← Action.state).tree)
    enterIndex model.model index
    reply (.sections index.sections)

/-- The targets recorded in a method. -/
def names (token : String) (container : Container) : Action Session Answer :=
  withIndex fun (index, _) => do
    let operation ← Action.ofExcept (operationOf token)
    withMethod container fun method => do
      reply (.texts (← Action.ofShape (index.value.names operation method)))

/-- What the targets recorded in a method stand for. -/
def entities (token : String) (container : Container) : Action Session Answer :=
  withIndex fun (index, model) => do
    let operation ← Action.ofExcept (operationOf token)
    withMethod container fun method => do
      let found ← onModel model (Index.entities (← Action.state).tree index.value operation method)
      reply (.texts (← Action.ofShape (entityTexts found)))

/-- The methods in which anything, or one operation, was seen. -/
def callSites (token : Option String) : Action Session Answer :=
  withIndex fun (index, _) => do
    let operation ← Action.ofExcept (token.mapM operationOf)
    reply (.texts ((index.value.callSites operation).map (·.signature)))

/-! ## All steps -/

/-- Carries out a step. -/
def perform : Step → Action Session Answer
  | .putItem path item => putItem path item
  | .removeFile path => removeFile path
  | .loadModel program classPath => loadModel program classPath
  | .newModel classes classPath => newModel classes classPath
  | .dump => withModel fun model => reply (.classes model.value.classes)
  | .classNames => withModel fun model => reply (.classNames (model.value.classes.map (·.name)))
  | .containsClass name => withModel fun model => reply (.truth (model.value.containsClass name))
  | .getClass name => withModel fun model => reply (.foundClass (model.value.class? name))
  | .classFile name => withModel fun model => do
      reply (.path (← Action.ofExcept (model.value.classFile? name)))
  | .loadClass name => withModel fun model => do
      reply (.truth (← onModel model (Model.loadClass (← Action.state).tree name)))
  | .resolveClass name => withModel fun model => do
      reply (.foundClass (← onModel model (Model.resolveClass (← Action.state).tree name)))
  | .containsMethod signature => withModel fun model =>
      reply (.truth (model.value.containsMethod signature))
  | .getMethod signature => withModel fun model => reply (.method (model.value.method? signature))
  | .methodsNamed className name => withModel fun model =>
      reply (.methods (methodsNamed model.value className name))
  | .covers container lines => withMethod container fun method =>
      reply (.truths (lines.map method.covers))
  | .resolve className methodName line => withModel fun model => do
      reply (.methods (some (← onModel model
        (Model.resolve (← Action.state).tree className methodName line))))
  | .parseTrace trace encoding => do
      let tree := (← Action.state).tree
      reply (.records (← Action.within (fun _ => traceOf trace encoding) (fun _ session => session)
        (TraceStream.records tree)))
  | .openTrace trace encoding => do
      change fun session => { session with stream := some (traceOf trace encoding) }
      reply .nothing
  | .nextRecord => withStream fun stream => do
      reply (.next (← onStream stream (TraceStream.next (← Action.state).tree)))
  | .newBuilder => withModel fun model => do
      change fun session => { session with builder := some ⟨model.model, .empty⟩ }
      reply .nothing
  | .addRecords parts => addRecords parts
  | .addTrace trace encoding => addTrace trace encoding
  | .addStream => addStream
  | .build => build
  | .indexTrace trace encoding => enterIndexOf fun tree =>
      Index.ofTrace tree (.ofText trace) (encoding.getD Octets.Encoding.defaultName)
  | .indexRecords parts => withModel fun _ => do
      let records ← Action.ofExcept (parts.mapM recordOf)
      enterIndexOf fun tree => Index.ofRecords tree records
  | .rebindIndex => withIndex fun (index, _) => withModel fun model => do
      enterIndex model.model index.value
      reply .nothing
  | .names token container => names token container
  | .entities token container => entities token container
  | .callSites token => callSites token
  | .summary => withIndex fun (index, _) => reply (.summary index.value.summary)
  | .sections => withIndex fun (index, _) => reply (.sections index.value.sections)

/-- Carries out steps one after the other and gives what each of them gives, leaves and logs. -/
def run (session : Session) : List Step → List (Outcome Session Answer)
  | [] => []
  | step :: rest =>
      let outcome := (perform step).run session
      outcome :: run outcome.state rest

end Session
end ReflectiveCalls
