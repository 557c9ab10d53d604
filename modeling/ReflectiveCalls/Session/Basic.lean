import ReflectiveCalls.Files.Placing
import ReflectiveCalls.Index.FromTrace

/-!
# Session — steps on a model, a builder, an index and a stream

A session works on a tree of files and on slots: the current model, a builder, an index and a stream
of records.  A builder and an index go on working with the model over which they were made, also
after another model has become the current one; so every model that was ever made is kept.

- `Step`: what can be asked of a session.
- `Reply`: what a step gives.
- `Need`: what a step may find missing; it is then skipped.
- `Session`: the state between steps.
-/

namespace ReflectiveCalls

/-! ## Steps and replies -/

/-- The method whose records are asked for: one of the current model, by its signature, or one that
is described by itself. -/
inductive Container
  | signed (signature : String)
  | described (data : Json)

/-- A record that is given by its parts; the operation is still a word. -/
structure RecordParts where
  token : String
  target : String
  sourceClass : String
  sourceMethod : String
  line : Int
  lineNo : Int

/-- What can be asked of a session. -/
inductive Step
  /-- A file or folder put in place, with the folders above it. -/
  | putItem (path : String) (item : Files.Item)
  | removeFile (path : String)
  | loadModel (program : String) (classPath : Option String)
  | newModel (classes : List Json) (classPath : Option String)
  | dump
  | classNames
  | containsClass (name : String)
  | getClass (name : String)
  | classFile (name : String)
  | loadClass (name : String)
  | resolveClass (name : String)
  | containsMethod (signature : String)
  | getMethod (signature : String)
  | methodsNamed (className name : String)
  | covers (container : Container) (lines : List Int)
  | resolve (className methodName : String) (line : Int)
  | parseTrace (trace : String) (encoding : Option String)
  | openTrace (trace : String) (encoding : Option String)
  | nextRecord
  | newBuilder
  | addRecords (parts : List RecordParts)
  | addTrace (trace : String) (encoding : Option String)
  | addStream
  | build
  | indexTrace (trace : String) (encoding : Option String)
  | indexRecords (parts : List RecordParts)
  | rebindIndex
  | names (token : String) (container : Container)
  | entities (token : String) (container : Container)
  | callSites (token : Option String)
  | summary
  | sections

/-- What a step gives. -/
inductive Reply
  | nothing
  | truth (value : Bool)
  | truths (values : List Bool)
  | classCount (count : Nat)
  | classes (decls : List ClassDecl)
  | classNames (names : List Json)
  | foundClass (decl : Option ClassDecl)
  | path (path : Option Path)
  | method (method : Option MethodDecl)
  | methods (methods : Option (List MethodDecl))
  | records (records : List Record)
  /-- The next record of a stream, or its end. -/
  | next (record : Option Record)
  | texts (texts : List String)
  | summary (rows : List (Operation × Nat × Nat))
  | sections (sections : List (Operation × List (String × List String)))

/-- What a step may find missing. -/
inductive Need
  | model
  | builder
  | index
  | stream
  /-- A method of a signature in the current model. -/
  | method
  deriving DecidableEq, Repr

/-- How a step ends, unless it fails. -/
inductive Answer
  | skipped (need : Need)
  | replied (reply : Reply)

/-! ## The state -/

/-- A value that works with the model of a number. -/
structure Bound (α : Type) where
  model : Nat
  value : α

/-- The state between steps. -/
structure Session where
  tree : Tree
  /-- All models made so far, first one first; the last one is the current one. -/
  models : List Model
  builder : Option (Bound Builder)
  index : Option (Bound Index)
  stream : Option TraceStream

namespace Session

/-- A session that begins with a tree of files. -/
def start (tree : Tree) : Session := ⟨tree, [], none, none, none⟩

/-- The number of the current model, and the model. -/
def current? (session : Session) : Option (Bound Model) :=
  let number := session.models.length - 1
  session.models[number]?.map (⟨number, ·⟩)

/-- A bound value with its model. -/
def bound? {α : Type} (session : Session) (slot : Option (Bound α)) :
    Option (Bound α × Bound Model) := do
  let bound ← slot
  let model ← session.models[bound.model]?
  return (bound, ⟨bound.model, model⟩)

/-- The builder with its model. -/
def builder? (session : Session) : Option (Bound Builder × Bound Model) :=
  session.bound? session.builder

/-- The index with its model. -/
def index? (session : Session) : Option (Bound Index × Bound Model) :=
  session.bound? session.index

/-- A model made the current one. -/
def addModel (session : Session) (model : Model) : Session :=
  { session with models := session.models ++ [model] }

/-- A model changed. -/
def setModel (session : Session) (model : Bound Model) : Session :=
  { session with models := session.models.set model.model model.value }

end Session
end ReflectiveCalls
