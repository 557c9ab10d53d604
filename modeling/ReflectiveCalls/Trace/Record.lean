import ReflectiveCalls.Json.Reader
import ReflectiveCalls.Program.Declaration
import ReflectiveCalls.Text.Blank
import ReflectiveCalls.Text.Split
import ReflectiveCalls.Trace.Operation

/-!
# Trace.Record — one reflective call

A record says which operation reached which target from which method, and on which line if that is
known.  It is written as four fields `operation;target;class.method;line`.

- `Record.ofLine`: the record that a line spells; the first check that fails, in the order field
  count, operation, target, source, line number, gives the fault.
- `Record.sameCall`: equality of records wherever they were read.
-/

namespace ReflectiveCalls

/-- One reflective call. -/
structure Record where
  operation : Operation
  target : String
  sourceClass : String
  sourceMethod : String
  /-- The line of the call in the source text, or `unknownLine`. -/
  line : Int
  /-- The number of the trace line that the record was read from. -/
  lineNo : Int
  deriving DecidableEq, Repr

/-- What is wrong with a line of a trace. -/
inductive RecordFault
  | fieldCount (found : Nat)
  | unknownOperation (token : String)
  | emptyTarget
  | badSource (source : String)
  | badLineNumber (field : String)
  /-- The line number is in order but has too many digits to be read. -/
  | tooManyDigits (count : Nat)
  deriving DecidableEq, Repr

namespace Record

/-- The number of fields of a record. -/
def fieldCount : Nat := 4

/-- The method of the call with its class. -/
def source (record : Record) : String := record.sourceClass ++ "." ++ record.sourceMethod

/-- Is the line of the call known? -/
def hasLine (record : Record) : Bool := record.line != unknownLine

/-- Do two records tell of the same call, wherever they were read? -/
def sameCall (record other : Record) : Bool :=
  { record with lineNo := 0 } == { other with lineNo := 0 }

/-- Class and method of a source field: the method is what follows the last point, and neither may
be empty. -/
def splitSource? (field : List Char) : Option (List Char × List Char) :=
  match Text.splitLast? '.' field with
  | none => none
  | some (sourceClass, sourceMethod) =>
      if sourceClass.isEmpty || sourceMethod.isEmpty then none
      else some (sourceClass, sourceMethod)

/-- The number that a line field spells without the white space around it: decimal digits in ASCII,
or nothing for an unknown line.  None if it is anything else. -/
def lineNumber? (field : List Char) : Option (Except RecordFault Int) :=
  match field with
  | [] => some (.ok unknownLine)
  | digits =>
      if digits.all Char.isDigit then
        if Json.digitLimit < digits.length then some (.error (.tooManyDigits digits.length))
        else some (.ok (Json.natOfDigits digits))
      else none

/-- The record that four fields spell. -/
def ofFields (lineNo : Int) (token target source line : List Char) :
    Except RecordFault Record :=
  match Operation.ofToken? (String.ofList token) with
  | none => .error (.unknownOperation (String.ofList token))
  | some operation =>
      if target.isEmpty then .error .emptyTarget
      else
        match splitSource? source with
        | none => .error (.badSource (String.ofList source))
        | some (sourceClass, sourceMethod) =>
            match lineNumber? (Text.trim line) with
            | none => .error (.badLineNumber (String.ofList line))
            | some (.error fault) => .error fault
            | some (.ok number) =>
                .ok ⟨operation, String.ofList target, String.ofList sourceClass,
                  String.ofList sourceMethod, number, lineNo⟩

/-- The record that a line spells. -/
def ofLine (lineNo : Int) (line : List Char) : Except RecordFault Record :=
  match Text.split ';' line with
  | [token, target, source, number] => ofFields lineNo token target source number
  | found => .error (.fieldCount found.length)

end Record

/-- The message for a fault. -/
def RecordFault.message : RecordFault → String
  | .fieldCount found => s!"expected {Record.fieldCount} ';'-separated fields, found {found}"
  | .unknownOperation token => s!"unknown entry kind '{token}'"
  | .emptyTarget => "empty target descriptor"
  | .badSource source => s!"source '{source}' is not of the form <class>.<method>"
  | .badLineNumber field => s!"line number '{field}' is not a decimal integer"
  | .tooManyDigits count => Json.digitLimitMessage count

end ReflectiveCalls
