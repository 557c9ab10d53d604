import ReflectiveCalls.Files.Tree
import ReflectiveCalls.Octets.Encoding
import ReflectiveCalls.Text.Lines

/-!
# Trace.LineReader — the lines of a file that is read block by block

A file is read in blocks of `LineReader.blockSize` octets, and a block only when the blocks before
it hold no further complete line.  A fault in a block is therefore met after the lines that the
blocks before have completed, and takes the place of every line that this block would have
completed.  A block is taken from what the file holds when the block is asked for, at the place
where the block before has ended; where the file holds nothing more, the line that has been begun is
complete.

- `LineReader.openAt`: a file opened.
- `LineReader.next`: the next line, if there is one, and the reader after it.
- `LineReader.linesAtMost`: a bound on the lines that are left.
-/

namespace ReflectiveCalls

/-- A file that is being read line by line. -/
structure LineReader where
  /-- The number of the file. -/
  file : Nat
  /-- How many octets have been read. -/
  place : Nat
  decoder : Octets.Decoder
  scanner : Text.LineScanner
  /-- The lines that are complete but have not come out. -/
  ready : List (List Char)

namespace LineReader

/-- The number of octets that are read at once. -/
def blockSize : Nat := 8192

/-- A file opened. -/
def openAt (file : Nat) (encoding : Octets.Encoding) : LineReader :=
  ⟨file, 0, .start encoding, .start, []⟩

/-- The next block of a file that holds the given octets. -/
def block (reader : LineReader) (octets : List UInt8) : List UInt8 :=
  (octets.drop reader.place).take blockSize

/-- The reader after a block has been decoded to some text. -/
def after (reader : LineReader) (block : List UInt8) (text : List Char)
    (decoder : Octets.Decoder) : LineReader :=
  let (lines, scanner) := reader.scanner.feed text
  { reader with
    place := reader.place + block.length
    decoder := decoder
    scanner := scanner
    ready := lines }

/-- The reader at the end of the file: a line that has been begun is complete. -/
def atEnd (reader : LineReader) (text : List Char) (decoder : Octets.Decoder) : LineReader :=
  let ended := reader.after [] text decoder
  { ended with scanner := .start, ready := ended.ready ++ ended.scanner.finish }

/-- The first of the lines that are ready, and the reader without it. -/
def take (reader : LineReader) : Option (List Char) × LineReader :=
  match reader.ready with
  | [] => (none, reader)
  | line :: rest => (some line, { reader with ready := rest })

/-- The next line of a file that holds the given octets, if there is one. -/
def next (octets : List UInt8) (reader : LineReader) :
    Except Octets.TextFault (Option (List Char) × LineReader) :=
  if !reader.ready.isEmpty then .ok reader.take
  else
    let block := reader.block octets
    if block = [] then
      match reader.decoder.feed true [] with
      | .error fault => .error fault
      | .ok (text, decoder) => .ok (reader.atEnd text decoder).take
    else
      match reader.decoder.feed false block with
      | .error fault => .error fault
      | .ok (text, decoder) => next octets (reader.after block text decoder)
  termination_by octets.length - reader.place
  decreasing_by
    have nonempty : 0 < (reader.block octets).length :=
      List.length_pos_iff.2 (by assumption)
    have shorter : (reader.block octets).length ≤ octets.length - reader.place := by
      simp only [LineReader.block, List.length_take, List.length_drop]
      omega
    simp only [LineReader.after]
    omega

/-- How many characters some octets are decoded to, block by block and up to the first fault. -/
def charactersIn (decoder : Octets.Decoder) (octets : List UInt8) : Nat :=
  if octets = [] then
    match decoder.feed true [] with
    | .error _ => 0
    | .ok (text, _) => text.length
  else
    match decoder.feed false (octets.take blockSize) with
    | .error _ => 0
    | .ok (text, decoder) => text.length + charactersIn decoder (octets.drop blockSize)
  termination_by octets.length
  decreasing_by
    have nonempty : 0 < octets.length := List.length_pos_iff.2 (by assumption)
    simp only [List.length_drop, blockSize]
    omega

/-- A bound on the lines that are left: a line takes at least one character. -/
def linesAtMost (octets : List UInt8) (reader : LineReader) : Nat :=
  reader.ready.length + reader.scanner.begun.length + reader.scanner.pending.toNat +
    charactersIn reader.decoder (octets.drop reader.place)

end LineReader
end ReflectiveCalls
