import ReflectiveCalls.Action
import ReflectiveCalls.Trace.LineReader

/-!
# Trace.Stream — records one at a time

A trace is a stream of records.  The file is opened when the first record is asked for, and read
further when the lines read so far hold no more records; empty lines are skipped but counted; the
first line that is no record ends the stream with a failure, and so does a fault of the file.  A
stream that has ended stays at its end.

- `TraceStream.next`: the next record, if there is one.
- `TraceStream.forEach`: a step done with each record that is left.
- `TraceStream.records`: all records that are left.
-/

namespace ReflectiveCalls

/-- A trace that is being read. -/
inductive TraceStream
  | unopened (path : Path) (encoding : String)
  /-- `records` have come out, and the next line has the number `lineNo`. -/
  | opened (path : Path) (records lineNo : Nat) (reader : LineReader)
  | ended

namespace TraceStream

/-- The failure for a fault in the text of a trace. -/
def faultFailure (path : Path) : Octets.TextFault → Failure
  | .octets fault => .reported (.traceUnreadable path (.octets fault))
  | .noByteOrderMark => .escaped .noByteOrderMark
  | .refused words => .escaped (.unknownEncoding words)

/-- The file of the trace at a path, opened. -/
def readerOf (tree : Tree) (path : Path) (encoding : String) : Except Failure LineReader :=
  if encoding.toList.contains (Char.ofNat 0) then .error (.escaped .nulInEncoding)
  else
    match tree.openFile path with
    | .error .missing => .error (.reported (.traceNotFound path))
    | .error .nul => .error (.escaped (.file path .nul))
    | .error fault => .error (.reported (.traceUnreadable path (.file fault)))
    | .ok file =>
        match tree.runtime.encodingOf encoding with
        | .error words => .error (.escaped (.unknownEncoding words))
        | .ok encoding => .ok (.openAt file encoding)

/-- Opens the trace if it has not been opened. -/
def openFile (tree : Tree) : Action TraceStream Unit
  | .unopened path encoding =>
      match readerOf tree path encoding with
      | .error failure => ⟨.error failure, .ended, [.readingTrace path]⟩
      | .ok reader => ⟨.ok (), .opened path 0 1 reader, [.readingTrace path]⟩
  | stream => ⟨.ok (), stream, []⟩

/-- How many lines are left at most in a trace that has been opened. -/
def linesAtMost (tree : Tree) : TraceStream → Nat
  | .opened _ _ _ reader => reader.linesAtMost (tree.octets reader.file)
  | _ => 0

/-- The first record in at most `bound` further lines. -/
def advance (octets : List UInt8) (path : Path) (records : Nat) :
    (bound lineNo : Nat) → LineReader → Outcome TraceStream (Option Record)
  | 0, _, _ => ⟨.ok none, .ended, []⟩
  | bound + 1, lineNo, reader =>
      match reader.next octets with
      | .error fault => ⟨.error (faultFailure path fault), .ended, []⟩
      | .ok (none, _) => ⟨.ok none, .ended, [.traceExhausted records path]⟩
      | .ok (some line, reader) =>
          if line.isEmpty then
            let outcome := advance octets path records bound (lineNo + 1) reader
            ⟨outcome.result, outcome.state, .skippedBlank lineNo :: outcome.events⟩
          else
            match Record.ofLine lineNo line with
            | .error fault => ⟨.error (fault.toFailure path lineNo), .ended, []⟩
            | .ok record =>
                ⟨.ok (some record), .opened path (records + 1) (lineNo + 1) reader,
                  [.parsedRecord record]⟩

/-- The next record of a trace that has been opened, among at most `bound` lines. -/
def pullUpTo (tree : Tree) (bound : Nat) : Action TraceStream (Option Record)
  | .opened path records lineNo reader =>
      advance (tree.octets reader.file) path records bound lineNo reader
  | stream => ⟨.ok none, stream, []⟩

/-- The next record of a trace that has been opened.  One step more than there are lines reaches the
end. -/
def pull (tree : Tree) : Action TraceStream (Option Record) := fun stream =>
  pullUpTo tree (stream.linesAtMost tree + 1) stream

/-- The next record. -/
def next (tree : Tree) : Action TraceStream (Option Record) := do
  openFile tree
  pull tree

/-- A step done with each of at most `bound` records, of which each is among `lines` lines. -/
def forEachUpTo {σ : Type} (tree : Tree) (lines : Nat) (step : Record → Action σ Unit) :
    (bound : Nat) → Action (σ × TraceStream) Unit
  | 0 => return ()
  | bound + 1 => do
      match ← Action.onSecond (pullUpTo tree lines) with
      | none => return ()
      | some record =>
          Action.onFirst (step record)
          forEachUpTo tree lines step bound

/-- A step done with each record that is left.  A line gives at most one record, so one more pull
than there are lines reaches the end. -/
def forEach {σ : Type} (tree : Tree) (step : Record → Action σ Unit) :
    Action (σ × TraceStream) Unit := do
  Action.onSecond (openFile tree)
  let bound := (← Action.state).2.linesAtMost tree + 1
  forEachUpTo tree bound step bound

/-- All records that are left. -/
def records (tree : Tree) : Action TraceStream (List Record) := fun stream =>
  let collect (record : Record) : Action (List Record) Unit := fun done =>
    ⟨.ok (), record :: done, []⟩
  let outcome := (forEach tree collect).run ([], stream)
  ⟨outcome.result.map fun _ => outcome.state.1.reverse, outcome.state.2, outcome.events⟩

end TraceStream
end ReflectiveCalls
