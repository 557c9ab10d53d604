import ReflectiveCalls.Files.Tree
import ReflectiveCalls.Json.Reader
import ReflectiveCalls.Octets.Encoding
import ReflectiveCalls.Program.Shape
import ReflectiveCalls.Trace.Record

/-!
# Failure — what can go wrong

Failures come in two groups.

- `Report`: the failures that a caller is meant to handle, each about a trace, the program model, or
  the agreement of the two.
- `Escape`: faults of data or files at places where nothing turns them into a report.

Each constructor is a cause with the data that describe it; the wording is in `Report.message` and
`Escape.message`.
-/

namespace ReflectiveCalls

/-! ## Causes -/

/-- Why a file that exists holds no program model or class. -/
inductive ModelCause
  | file (path : Path) (fault : Files.Fault)
  | octets (fault : Octets.Fault)
  | json (fault : Json.ReadFault)
  | shape (fault : ShapeFault)
  deriving Repr

/-- The message for a cause. -/
def ModelCause.message : ModelCause → String
  | .file path fault => fault.message path.text
  | .octets fault => fault.message
  | .json fault => fault.message
  | .shape fault => fault.message

/-- What is wrong with a program model. -/
inductive ModelFault
  | notFound (path : Path)
  | notConfigured
  | invalid (path : Path) (cause : ModelCause)
  /-- A class file declares another class than the one it was opened for. -/
  | misnamed (path : Path) (found : Json) (expected : String)
  | duplicateClass (name : Json)
  | duplicateMethod (signature : String)
  deriving Repr

/-- The message for a fault. -/
def ModelFault.message : ModelFault → String
  | .notFound path => s!"Program model file not found: {path.text}"
  | .notConfigured =>
      "No program model given. Pass --program or set PROGRAM_MODEL_FILE in .env file."
  | .invalid path cause => s!"Invalid program model in {path.text}: {cause.message}"
  | .misnamed path found expected =>
      s!"Class file {path.text} declares '{found.plain}', expected '{expected}'"
  | .duplicateClass name => s!"Duplicate class in program model: {name.plain}"
  | .duplicateMethod signature => s!"Duplicate method in program model: {signature}"

/-- Why a trace that exists cannot be read. -/
inductive TraceCause
  | file (fault : Files.Fault)
  | octets (fault : Octets.Fault)
  deriving DecidableEq, Repr

/-- The message for a cause in the trace at a path. -/
def TraceCause.message (path : Path) : TraceCause → String
  | .file fault => fault.message path.text
  | .octets fault => fault.message

/-! ## Failures -/

/-- A failure that a caller is meant to handle. -/
inductive Report
  | traceNotFound (path : Path)
  | traceUnreadable (path : Path) (cause : TraceCause)
  | traceNotConfigured
  | malformedRecord (path : Path) (lineNo : Int) (fault : RecordFault)
  | unknownSourceClass (name : String)
  | unknownSourceMethod (className methodName : String)
  | unknownTargetMethod (signature : String) (operation : Operation)
  | unresolvedTarget (descriptor : String) (operation : Operation)
  /-- The index has been built already. -/
  | indexFrozen
  | model (fault : ModelFault)
  deriving Repr

/-- The message for a report. -/
def Report.message : Report → String
  | .traceNotFound path => s!"Trace file not found: {path.text}"
  | .traceUnreadable path cause =>
      s!"Failed to read trace file {path.text}: {cause.message path}"
  | .traceNotConfigured =>
      "Trace based reflection model enabled but no trace file given. " ++
        "Pass --trace or set TRACE_FILE in .env file."
  | .malformedRecord path lineNo fault =>
      s!"{path.text}:{lineNo}: malformed trace record: {fault.message}"
  | .unknownSourceClass name => s!"Trace file refers to unknown class: {name}"
  | .unknownSourceMethod className methodName =>
      s!"Trace file refers to unknown method with name {methodName} in class {className}"
  | .unknownTargetMethod signature operation =>
      s!"Unknown method for signature: {signature} ({operation.token})"
  | .unresolvedTarget descriptor operation =>
      s!"Cannot resolve {operation.token} target '{descriptor}' in program model"
  | .indexFrozen => "Reflection index has already been built; no more records accepted"
  | .model fault => fault.message

/-- A fault that nothing turns into a report. -/
inductive Escape
  | shape (fault : ShapeFault)
  | tooManyDigits (count : Nat)
  /-- The values of a file are nested deeper than can be read. -/
  | nestedTooDeep
  | file (path : Path) (fault : Files.Fault)
  /-- A path without components has no name to change. -/
  | noFileName (path : Path)
  /-- A name is that of no encoding, or the encoding refuses a text, in these words. -/
  | unknownEncoding (words : String)
  /-- The name of an encoding holds the character zero. -/
  | nulInEncoding
  | noByteOrderMark
  | unknownOperation (token : String)
  | unknownLevel (name : String)
  deriving Repr

/-- The message for an escape. -/
def Escape.message : Escape → String
  | .shape fault => fault.message
  | .tooManyDigits count => Json.digitLimitMessage count
  | .nestedTooDeep => Json.ReadFault.tooDeep.message
  | .file path fault => fault.message path.text
  | .noFileName path => s!"PosixPath({Text.quoted path.text}) has an empty name"
  | .unknownEncoding words => words
  | .nulInEncoding => "embedded null character"
  | .noByteOrderMark => "UTF-16 stream does not start with BOM"
  | .unknownOperation token => s!"{Text.quoted token} is not a valid OperationKind"
  | .unknownLevel name => s!"Level '{name}' does not exist"

/-- What went wrong. -/
inductive Failure
  | reported (report : Report)
  | escaped (escape : Escape)
  deriving Repr

/-- The message for a failure. -/
def Failure.message : Failure → String
  | .reported report => report.message
  | .escaped escape => escape.message

/-- The failure for a malformed line; too many digits in a line number escape. -/
def RecordFault.toFailure (path : Path) (lineNo : Int) : RecordFault → Failure
  | .tooManyDigits count => .escaped (.tooManyDigits count)
  | fault => .reported (.malformedRecord path lineNo fault)

/-- The failure for a fault of shape in a file; only a failed look-up escapes. -/
def ShapeFault.toFailure (path : Path) : ShapeFault → Failure
  | .noLookUp found => .escaped (.shape (.noLookUp found))
  | fault => .reported (.model (.invalid path (.shape fault)))

end ReflectiveCalls
