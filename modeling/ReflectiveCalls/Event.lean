import ReflectiveCalls.Files.Path
import ReflectiveCalls.Trace.Record

/-!
# Event — what is logged

Every step worth a line of the log is an event with the data that describe it; `Event.level` says
how important it is and `Event.message` how it reads.
-/

namespace ReflectiveCalls

/-- The levels of the log, least important first. -/
inductive Level
  | trace
  | debug
  | info
  | success
  | warning
  | error
  | critical
  deriving DecidableEq, Repr

namespace Level

/-- All levels. -/
def all : List Level := [.trace, .debug, .info, .success, .warning, .error, .critical]

/-- The name of a level. -/
def name : Level → String
  | .trace => "TRACE"
  | .debug => "DEBUG"
  | .info => "INFO"
  | .success => "SUCCESS"
  | .warning => "WARNING"
  | .error => "ERROR"
  | .critical => "CRITICAL"

/-- The level of a name. -/
def ofName? (name : String) : Option Level := all.find? (·.name == name)

/-- How important a level is. -/
def rank : Level → Nat
  | .trace => 5
  | .debug => 10
  | .info => 20
  | .success => 25
  | .warning => 30
  | .error => 40
  | .critical => 50

end Level

/-- Something that is logged. -/
inductive Event
  | loadingModel (path : Path)
  | loadedModel (classes methods : Nat)
  | loadingOnDemand (className : String)
  | classFileMissing (className : String) (path : Option Path)
  | loadedClass (className : String) (methods : Nat) (path : Path)
  | readingTrace (path : Path)
  | skippedBlank (lineNo : Int)
  | parsedRecord (record : Record)
  | traceExhausted (records : Nat) (path : Path)
  | resolvedUnique (source signature : String)
  | resolvedByLine (source : String) (line : Int) (signature : String)
  | resolvedFallback (source : String) (line : Int) (count : Nat)
  | recordedTarget (operation : Operation) (target signature : String)
  | indexBuilt (callSites targets : Nat)
  /-- Building an index from a trace has ended, in whatever way.  The time it took is no part of the
  event, and its place in the message is marked. -/
  | timedIndex
  deriving Repr

namespace Event

/-- How important an event is. -/
def level : Event → Level
  | .loadingModel _ | .loadedModel _ _ | .loadedClass _ _ _ | .readingTrace _ => .info
  | .traceExhausted _ _ | .indexBuilt _ _ | .timedIndex => .info
  | .loadingOnDemand _ | .classFileMissing _ _ | .parsedRecord _ => .debug
  | .resolvedByLine _ _ _ | .resolvedFallback _ _ _ => .debug
  | .skippedBlank _ | .resolvedUnique _ _ | .recordedTarget _ _ _ => .trace

/-- The text of a path that may be absent. -/
def pathText : Option Path → String
  | some path => path.text
  | none => "None"

/-- The message of an event. -/
def message : Event → String
  | .loadingModel path => s!"Loading program model from {path.text}"
  | .loadedModel classes methods => s!"Loaded {classes} classes and {methods} methods"
  | .loadingOnDemand className => s!"Class {className} not in program model, loading on demand"
  | .classFileMissing className path => s!"No class file for {className} at {pathText path}"
  | .loadedClass className methods path =>
      s!"Loaded class {className} with {methods} methods from {path.text}"
  | .readingTrace path => s!"Reading reflection trace from {path.text}"
  | .skippedBlank lineNo => s!"Skipping blank trace line {lineNo}"
  | .parsedRecord record =>
      s!"Parsed {record.operation.token} record at line {record.lineNo}: {record.target} <- " ++
        record.source
  | .traceExhausted records path => s!"Read {records} reflection records from {path.text}"
  | .resolvedUnique source signature => s!"Resolved {source} to {signature}"
  | .resolvedByLine source line signature =>
      s!"Resolved overloaded {source} at line {line} to {signature}"
  | .resolvedFallback source line count =>
      s!"No line match for overloaded {source} at line {line}; " ++
        s!"attributing to all {count} candidates"
  | .recordedTarget operation target signature =>
      s!"Recorded {operation.token} target {target} for {signature}"
  | .indexBuilt callSites targets =>
      s!"Built reflection index: {callSites} call sites, {targets} targets"
  | .timedIndex => "ReflectionIndex.from_trace_file took <time> ms"

end Event
end ReflectiveCalls
