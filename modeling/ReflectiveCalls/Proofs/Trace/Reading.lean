import ReflectiveCalls.Proofs.Octets.Utf8
import ReflectiveCalls.Proofs.Text.Lines
import ReflectiveCalls.Proofs.Trace.Iteration

/-!
# Proofs.Trace.Reading — the records of a trace are those of its lines

A trace is read block by block, with octets and a carriage return carried over from one block to the
next.  What comes out does not show the blocks: it is what the lines of the whole text give, each
read under its own number.  Octets that are no text end the reading with a fault, after lines that
the text before the fault has.

- `LineReader.Gives`: the lines that a reader gives, and how they end.
- `LineReader.exists_gives`: the lines of what is left, and a fault where it is no text.
- `Record.Reads`: the records that numbered lines give.
- `TraceStream.yields_of_utf8`: what a trace in UTF-8 yields.
-/

namespace ReflectiveCalls

open Octets (Utf8.encode Utf8.readable)

/-! ## Lines out of blocks -/

namespace LineReader

variable {octets : List UInt8} {reader after : LineReader}

/-- Asked again and again, the reader gives the lines, and then none or a fault. -/
inductive Gives (octets : List UInt8) :
    LineReader → List (List Char) → Option Octets.TextFault → Prop
  | done {reader after : LineReader} (h : reader.next octets = .ok (none, after)) :
      Gives octets reader [] none
  | fault {reader : LineReader} {fault : Octets.TextFault} (h : reader.next octets = .error fault) :
      Gives octets reader [] (some fault)
  | line {reader after : LineReader} {line : List Char} {rest : List (List Char)}
      {ending : Option Octets.TextFault} (h : reader.next octets = .ok (some line, after))
      (hrest : Gives octets after rest ending) : Gives octets reader (line :: rest) ending

/-- The octets that have not been decoded. -/
def left (octets : List UInt8) (reader : LineReader) : List UInt8 :=
  reader.decoder.kept ++ octets.drop reader.place

/-- Is everything left the octets of a text? -/
def Whole (octets : List UInt8) (reader : LineReader) : Prop :=
  ∃ text, reader.left octets = Utf8.encode text

/-- The lines that are left, up to the first fault. -/
def rest (octets : List UInt8) (reader : LineReader) : List (List Char) :=
  reader.ready ++ reader.scanner.complete (Utf8.readable (reader.left octets))

/-- The fault of a block of UTF-8 is one of its octets. -/
theorem feed_utf8_cases {decoder : Octets.Decoder} (hutf8 : decoder.encoding = .utf8) (last : Bool)
    (block : List UInt8) :
    (∃ fault, decoder.feed last block = .error (.octets fault) ∧
        Octets.Utf8.decode last (decoder.kept ++ block) = .error fault) ∨
      ∃ text kept, decoder.feed last block = .ok (text, ⟨.utf8, kept⟩) ∧
        Octets.Utf8.decode last (decoder.kept ++ block) = .ok (text, kept) := by
  have hfeed : decoder.feed last block =
      Octets.Decoder.keep .utf8 (Octets.Utf8.decode last (decoder.kept ++ block)) := by
    simp only [Octets.Decoder.feed, hutf8]
  cases hdecode : Octets.Utf8.decode last (decoder.kept ++ block) with
  | error fault => exact .inl ⟨fault, by rw [hfeed, hdecode]; rfl, rfl⟩
  | ok decoded => exact .inr ⟨decoded.1, decoded.2, by rw [hfeed, hdecode]; rfl, rfl⟩

theorem left_eq_block_append (octets : List UInt8) (reader : LineReader) :
    reader.left octets =
      (reader.decoder.kept ++ reader.block octets) ++
        octets.drop (reader.place + (reader.block octets).length) := by
  rw [drop_block, List.append_assoc, block, List.take_append_drop, left]

/-- Decoding a block takes the octets of its text off what is left. -/
theorem left_of_decode {text : List Char} {kept : List UInt8}
    (h : Octets.Utf8.decode false (reader.decoder.kept ++ reader.block octets) = .ok (text, kept)) :
    reader.left octets =
      Utf8.encode text ++ (reader.after (reader.block octets) text ⟨.utf8, kept⟩).left octets := by
  rw [left_eq_block_append, (Octets.Utf8.eq_encode_append_of_decode h).1, List.append_assoc]
  rfl

/-- Decoding a block changes neither the lines that are left nor whether they end in a fault. -/
theorem rest_of_decode {text : List Char} {kept : List UInt8} (hready : reader.ready = [])
    (h : Octets.Utf8.decode false (reader.decoder.kept ++ reader.block octets) = .ok (text, kept)) :
    (reader.after (reader.block octets) text ⟨.utf8, kept⟩).rest octets = reader.rest octets ∧
      ((reader.after (reader.block octets) text ⟨.utf8, kept⟩).Whole octets ↔
        reader.Whole octets) := by
  have hleft := left_of_decode h
  constructor
  · -- the scanner finds in the two pieces what it finds in the whole
    simp only [rest, hleft, Octets.Utf8.readable_encode_append, hready, List.nil_append,
      Text.LineScanner.complete_append]
    rfl
  · constructor
    · rintro ⟨more, hmore⟩
      exact ⟨text ++ more, by rw [hleft, hmore, Octets.Utf8.encode_append]⟩
    · rintro ⟨whole, hwhole⟩
      obtain ⟨more, -, hmore⟩ := Octets.Utf8.encode_eq_append_iff.1 (hwhole.symm.trans hleft)
      exact ⟨more, hmore⟩

/-- At the end of the file, what was kept over is decoded as a whole. -/
theorem left_of_block_nil (hblock : reader.block octets = []) :
    reader.left octets = reader.decoder.kept := by
  rw [left, block_eq_nil_iff.1 hblock, List.append_nil]

/-- At the end of the file, every line that is left is ready. -/
theorem rest_atEnd {text : List Char} (hready : reader.ready = [])
    (hblock : reader.block octets = []) (hleft : reader.left octets = Utf8.encode text) :
    ((reader.atEnd text ⟨.utf8, []⟩).ready = reader.rest octets ∧
      (reader.atEnd text ⟨.utf8, []⟩).rest octets = reader.rest octets) ∧
      (reader.atEnd text ⟨.utf8, []⟩).left octets = [] := by
  have hnothing : (reader.atEnd text ⟨.utf8, []⟩).left octets = [] := block_eq_nil_iff.1 hblock
  have hlines : (reader.atEnd text ⟨.utf8, []⟩).ready = reader.rest octets := by
    rw [rest, hready, hleft, Octets.Utf8.readable_encode]
    rfl
  refine ⟨⟨hlines, ?_⟩, hnothing⟩
  have hnone : Utf8.readable [] = [] := Octets.Utf8.readable_encode []
  rw [rest, hlines, hnothing, hnone]
  exact List.append_nil _

/-- Taking a line that is ready takes it off the lines that are left. -/
theorem exists_take (octets : List UInt8) (hutf8 : reader.decoder.encoding = .utf8)
    (hready : reader.ready ≠ []) :
    ∃ line after, reader.take = (some line, after) ∧ after.decoder.encoding = .utf8 ∧
      (after.Whole octets ↔ reader.Whole octets) ∧
      reader.rest octets = line :: after.rest octets := by
  obtain ⟨line, more, hlines⟩ := List.exists_cons_of_ne_nil hready
  refine ⟨line, { reader with ready := more }, ?_, hutf8, Iff.rfl, ?_⟩
  · simp only [take, hlines]
  · simp only [rest, hlines]
    rfl

/-- What comes out first: the first of the lines that are left, or a fault, but that only where what
is left is no text. -/
theorem next_cases (octets : List UInt8) (reader : LineReader)
    (hutf8 : reader.decoder.encoding = .utf8) :
    (∃ fault, reader.next octets = .error (.octets fault) ∧ ¬reader.Whole octets) ∨
      (∃ after, reader.next octets = .ok (none, after) ∧ reader.Whole octets ∧
        reader.rest octets = []) ∨
      ∃ line after, reader.next octets = .ok (some line, after) ∧
        after.decoder.encoding = .utf8 ∧ (after.Whole octets ↔ reader.Whole octets) ∧
        reader.rest octets = line :: after.rest octets := by
  fun_induction next octets reader with
  | case1 reader hready =>
      -- a line is ready
      obtain ⟨line, after, hline, hafter⟩ := exists_take octets hutf8 (by simpa using hready)
      exact .inr (.inr ⟨line, after, congrArg Except.ok hline, hafter⟩)
  | case2 reader hready block hblock fault hfeed =>
      -- the file has ended within a character
      obtain ⟨octetFault, hfault, hdecode⟩ | ⟨text, kept, hok, -⟩ := feed_utf8_cases hutf8 true []
      · cases hfeed.symm.trans hfault
        refine .inl ⟨octetFault, rfl, ?_⟩
        rintro ⟨text, htext⟩
        rw [left_of_block_nil hblock, ← Octets.Utf8.decodeAll_eq_ok_iff] at htext
        rw [List.append_nil] at hdecode
        simp [Octets.Utf8.decodeAll, hdecode, Except.map] at htext
      · cases hfeed.symm.trans hok
  | case3 reader hready block hblock text decoder hfeed =>
      -- the file has ended; the line that has been begun is its last one, if there is any
      obtain ⟨fault, hfault, -⟩ | ⟨text, kept, hok, hdecode⟩ := feed_utf8_cases hutf8 true []
      · cases hfeed.symm.trans hfault
      cases hfeed.symm.trans hok
      obtain ⟨hkept, hnothing⟩ := Octets.Utf8.eq_encode_append_of_decode hdecode
      obtain rfl := hnothing rfl
      rw [List.append_nil, List.append_nil] at hkept
      have hleft : reader.left octets = Utf8.encode text := (left_of_block_nil hblock).trans hkept
      have hempty : reader.ready = [] := by simpa using hready
      obtain ⟨hended, hnone⟩ := rest_atEnd hempty hblock hleft
      have hwhole : reader.Whole octets := ⟨text, hleft⟩
      have hended' : (reader.atEnd text ⟨.utf8, []⟩).Whole octets := ⟨[], hnone⟩
      by_cases hlines : reader.rest octets = []
      · refine .inr (.inl ⟨reader.atEnd text ⟨.utf8, []⟩, ?_, hwhole, hlines⟩)
        rw [take, hended.1, hlines]
      · have hsome : (reader.atEnd text ⟨.utf8, []⟩).ready ≠ [] := hended.1 ▸ hlines
        obtain ⟨line, after, hline, hafter, hafterWhole, hrest⟩ := exists_take octets rfl hsome
        refine .inr (.inr ⟨line, after, congrArg Except.ok hline, hafter, ?_, ?_⟩)
        · exact iff_of_true (hafterWhole.2 hended') hwhole
        · rw [← hended.2, hrest]
  | case4 reader hready block hblock fault hfeed =>
      -- the block has octets that begin no text, whatever follows them
      obtain ⟨octetFault, hfault, hdecode⟩ | ⟨text, kept, hok, -⟩ :=
        feed_utf8_cases hutf8 false block
      · cases hfeed.symm.trans hfault
        refine .inl ⟨octetFault, rfl, ?_⟩
        rintro ⟨text, htext⟩
        rw [left_eq_block_append] at htext
        exact Octets.Utf8.ne_encode_of_decodeFrom_error hdecode _ text htext
      · cases hfeed.symm.trans hok
  | case5 reader hready block hblock text decoder hfeed ih =>
      -- the block is decoded, and the reader goes on with the lines in it
      obtain ⟨fault, hfault, -⟩ | ⟨text, kept, hok, hdecode⟩ := feed_utf8_cases hutf8 false block
      · cases hfeed.symm.trans hfault
      cases hfeed.symm.trans hok
      have hempty : reader.ready = [] := by simpa using hready
      obtain ⟨hrest, hwhole⟩ := rest_of_decode hempty hdecode
      rw [← hrest, ← hwhole]
      exact ih rfl

/-- What is left of a reader of UTF-8 comes out line by line; it ends with a fault exactly if it is
no text, and then perhaps before its last lines. -/
theorem exists_gives (octets : List UInt8) (reader : LineReader)
    (hutf8 : reader.decoder.encoding = .utf8) :
    (reader.Whole octets → Gives octets reader (reader.rest octets) none) ∧
      (¬reader.Whole octets → ∃ earlier fault, earlier <+: reader.rest octets ∧
        Gives octets reader earlier (some (.octets fault))) := by
  -- The induction is on the lines that are left: each line that comes out lowers their count.
  induction hcount : reader.linesAtMost octets using Nat.strongRecOn generalizing reader with
  | ind count ih =>
      obtain ⟨fault, hnext, hwhole⟩ | ⟨after, hnext, hwhole, hrest⟩ |
        ⟨line, after, hnext, hafter, hwhole, hrest⟩ := next_cases octets reader hutf8
      · exact ⟨fun h => absurd h hwhole, fun _ => ⟨[], fault, List.nil_prefix, .fault hnext⟩⟩
      · exact ⟨fun _ => hrest ▸ .done hnext, fun h => absurd hwhole h⟩
      · have hless := linesAtMost_lt_of_next hnext
        obtain ⟨hall, hsome⟩ := ih _ (hcount ▸ hless) after hafter rfl
        rw [hrest]
        constructor
        · intro h
          exact .line hnext (hall (hwhole.2 h))
        · intro h
          obtain ⟨earlier, fault, hearlier, hgives⟩ := hsome (mt hwhole.1 h)
          refine ⟨line :: earlier, fault, ?_, .line hnext hgives⟩
          exact (List.prefix_cons_inj line).2 hearlier

end LineReader

/-! ## Records out of lines -/

/-- The records of numbered lines, the first of which has the given number.  Empty lines are counted
and skipped; the first line that is no record ends them with its fault. -/
inductive Record.Reads (path : Path) :
    Nat → List (List Char) → List Record → Except Failure Unit → Prop
  | nothing {lineNo : Nat} : Reads path lineNo [] [] (.ok ())
  | blank {lineNo : Nat} {lines : List (List Char)} {records : List Record}
      {ending : Except Failure Unit} (hrest : Reads path (lineNo + 1) lines records ending) :
      Reads path lineNo ([] :: lines) records ending
  | fault {lineNo : Nat} {line : List Char} {lines : List (List Char)} {fault : RecordFault}
      (hsome : line ≠ []) (hline : Record.ofLine lineNo line = .error fault) :
      Reads path lineNo (line :: lines) [] (.error (fault.toFailure path lineNo))
  | record {lineNo : Nat} {line : List Char} {lines : List (List Char)} {record : Record}
      {records : List Record} {ending : Except Failure Unit} (hsome : line ≠ [])
      (hline : Record.ofLine lineNo line = .ok record)
      (hrest : Reads path (lineNo + 1) lines records ending) :
      Reads path lineNo (line :: lines) (record :: records) ending

namespace Record

/-- A record that four fields spell has the number that was handed down. -/
theorem lineNo_of_ofFields {lineNo : Int} {token target source line : List Char} {record : Record}
    (h : ofFields lineNo token target source line = .ok record) : record.lineNo = lineNo := by
  unfold ofFields at h
  split at h
  · cases h
  split at h
  · cases h
  split at h
  · cases h
  split at h
  · cases h
  · cases h
  · cases h
    rfl

/-- A record has the number of its line. -/
theorem lineNo_of_ofLine {lineNo : Int} {line : List Char} {record : Record}
    (h : ofLine lineNo line = .ok record) : record.lineNo = lineNo := by
  unfold ofLine at h
  split at h
  · exact lineNo_of_ofFields h
  · cases h

/-- Any lines give records. -/
theorem exists_reads (path : Path) (lineNo : Nat) (lines : List (List Char)) :
    ∃ records ending, Reads path lineNo lines records ending := by
  induction lines generalizing lineNo with
  | nil => exact ⟨[], .ok (), .nothing⟩
  | cons line lines ih =>
      obtain ⟨records, ending, hrest⟩ := ih (lineNo + 1)
      by_cases hsome : line = []
      · subst hsome
        exact ⟨records, ending, .blank hrest⟩
      · cases hline : ofLine lineNo line with
        | error fault => exact ⟨[], _, .fault hsome hline⟩
        | ok record => exact ⟨record :: records, ending, .record hsome hline hrest⟩

/-- Each record is that of the line whose number it has. -/
theorem Reads.exists_line {path : Path} {lineNo : Nat} {lines : List (List Char)}
    {records : List Record} {ending : Except Failure Unit}
    (h : Reads path lineNo lines records ending) {record : Record} (hrecord : record ∈ records) :
    ∃ above line, record.lineNo = (lineNo + above : Nat) ∧ lines[above]? = some line ∧
      line ≠ [] ∧ ofLine record.lineNo line = .ok record := by
  induction h with
  | nothing | fault => cases hrecord
  | blank hrest ih =>
      obtain ⟨above, line, hnumber, hline, hof⟩ := ih hrecord
      exact ⟨above + 1, line, by rw [hnumber, Nat.add_right_comm, Nat.add_assoc], hline, hof⟩
  | record hsome hline hrest ih =>
      rcases List.mem_cons.1 hrecord with rfl | hlater
      · have hnumber := lineNo_of_ofLine hline
        exact ⟨0, _, hnumber, rfl, hsome, hnumber ▸ hline⟩
      · obtain ⟨above, line, hnumber, hline, hof⟩ := ih hlater
        exact ⟨above + 1, line, by rw [hnumber, Nat.add_right_comm, Nat.add_assoc], hline, hof⟩

end Record

namespace Sample

/-- A line in French, an empty one that ends in two characters, and one that is no record. -/
def traceText : List Char := "Method.invoke;<A: void f()>;café.Thé.bu;7\n\r\nnone".toList

/-- The path of the trace. -/
def tracePath : Path := ⟨.here, ["calls.trace"]⟩

/-- The trace in the working folder. -/
def traceTree : Tree :=
  ⟨[("calls.trace", .file 0)], [], [Utf8.encode traceText], .usual⟩

end Sample

namespace TraceStream

variable {tree : Tree} {path : Path} {records lineNo : Nat} {reader after : LineReader}

theorem run_next_opened (tree : Tree) (path : Path) (records lineNo : Nat) (reader : LineReader) :
    (next tree).run (.opened path records lineNo reader) =
      advance (tree.octets reader.file) path records
        (reader.linesAtMost (tree.octets reader.file) + 1) lineNo reader :=
  run_next (isOpen_opened path records lineNo reader)

/-- An open stream whose reader gives an empty line goes on with the line after it. -/
theorem run_next_of_blank (h : reader.next (tree.octets reader.file) = .ok (some [], after)) :
    ((next tree).run (.opened path records lineNo reader)).result =
        ((next tree).run (.opened path records (lineNo + 1) after)).result ∧
      ((next tree).run (.opened path records lineNo reader)).state =
        ((next tree).run (.opened path records (lineNo + 1) after)).state := by
  have hfile : after.file = reader.file := LineReader.file_of_next h
  have hless := LineReader.linesAtMost_lt_of_next h
  -- the bound for the reader before the line is one step above that for the reader after it
  have hcongr : advance (tree.octets reader.file) path records
      (reader.linesAtMost (tree.octets reader.file)) (lineNo + 1) after =
        (next tree).run (.opened path records (lineNo + 1) after) := by
    rw [run_next_opened, hfile]
    exact advance_congr hless (Nat.lt_succ_self _)
  rw [← hcongr, run_next_opened]
  simp [advance, h]

/-- The end of a trace: that of its records, and if they come to their end, that of its text. -/
def endingOf (path : Path) (ending : Except Failure Unit) :
    Option Octets.TextFault → Except Failure Unit
  | none => ending
  | some fault => ending.bind fun _ => .error (faultFailure path fault)

/-- An open stream yields the records of the lines that its reader gives. -/
theorem yields_opened {lines : List (List Char)} {found : List Record}
    {ending : Except Failure Unit} {fault? : Option Octets.TextFault}
    (hreads : Record.Reads path lineNo lines found ending)
    (hgives : reader.Gives (tree.octets reader.file) lines fault?) :
    Yields tree (.opened path records lineNo reader) found (endingOf path ending fault?) := by
  -- Both the lines and the reader are taken one line further at a time.
  induction hreads generalizing reader records with
  | nothing =>
      cases hgives with
      | done hnext =>
          apply Yields.exhausted
          rw [run_next_opened]
          simp [advance, hnext]
      | fault hnext =>
          apply Yields.failed
          rw [run_next_opened]
          simp [advance, hnext]
  | blank _ ih =>
      cases hgives with
      | line hnext hrest =>
          have hfile := LineReader.file_of_next hnext
          exact (ih (hfile.symm ▸ hrest)).congr (run_next_of_blank hnext)
  | @fault lineNo line lines fault hsome hline =>
      cases hgives with
      | line hnext _ =>
          have hresult : ((next tree).run (.opened path records lineNo reader)).result =
              .error (fault.toFailure path lineNo) := by
            rw [run_next_opened]
            simp [advance, hnext, hsome, hline]
          cases fault? <;> exact .failed hresult
  | @record lineNo line lines record found ending hsome hline _ ih =>
      cases hgives with
      | @line _ after _ _ _ hnext hrest =>
          have hfile := LineReader.file_of_next hnext
          have hstep : (next tree).run (.opened path records lineNo reader) =
              ⟨.ok (some record), .opened path (records + 1) (lineNo + 1) after,
                [.parsedRecord record]⟩ := by
            rw [run_next_opened]
            simp [advance, hnext, hsome, hline]
          apply Yields.record
          · rw [hstep]
          · rw [hstep]
            exact ih (hfile.symm ▸ hrest)

/-- A trace whose file is opened yields the records of the lines that its reader gives. -/
theorem yields_of_gives {encoding : String} (hopen : readerOf tree path encoding = .ok reader)
    {lines : List (List Char)} {found : List Record} {ending : Except Failure Unit}
    {fault? : Option Octets.TextFault} (hreads : Record.Reads path 1 lines found ending)
    (hgives : reader.Gives (tree.octets reader.file) lines fault?) :
    Yields tree (.unopened path encoding) found (endingOf path ending fault?) := by
  have hrun : (openFile tree).run (.unopened path encoding) =
      ⟨.ok (), .opened path 0 1 reader, [.readingTrace path]⟩ := by
    simp [Action.run, openFile, hopen]
  have hopened : Yields tree (.opened path 0 1 reader) found (endingOf path ending fault?) :=
    yields_opened hreads hgives
  exact hopened.congr (run_next_of_openFile hrun (isOpen_opened path 0 1 reader))

/-- A trace that cannot be opened yields nothing but the failure. -/
theorem yields_of_readerOf_error {encoding : String} {failure : Failure}
    (h : readerOf tree path encoding = .error failure) :
    Yields tree (.unopened path encoding) [] (.error failure) := by
  have hopen : ((openFile tree).run (.unopened path encoding)).result = .error failure := by
    simp [Action.run, openFile, h]
  exact .failed (Action.run_bind_of_error (fun _ => pull tree) hopen).1

section Utf8

variable {encoding : String} {file : Nat} {lines : List (List Char)}

/-- A text yields the records of its lines. -/
theorem yields_iff_of_decodeAll_ok (hopen : readerOf tree path encoding = .ok (.openAt file .utf8))
    {text : List Char} (hdecode : Octets.Utf8.decodeAll (tree.octets file) = .ok text)
    (hbroken : Text.Broken text lines) {found : List Record} {ending : Except Failure Unit} :
    Yields tree (.unopened path encoding) found ending ↔
      Record.Reads path 1 lines found ending := by
  have hoctets : tree.octets file = Utf8.encode text :=
    Octets.Utf8.decodeAll_eq_ok_iff.1 hdecode
  have hlines : (LineReader.openAt file .utf8).rest (tree.octets file) = lines := by
    have hrest : (LineReader.openAt file .utf8).rest (tree.octets file) =
        Text.lines (Utf8.readable (tree.octets file)) := rfl
    rw [hrest, hoctets, Octets.Utf8.readable_encode]
    exact Text.broken_iff_lines.1 hbroken
  have hgives : (LineReader.openAt file .utf8).Gives (tree.octets file) lines none :=
    hlines ▸ (LineReader.exists_gives (tree.octets file) (.openAt file .utf8) rfl).1 ⟨text, hoctets⟩
  constructor
  · intro hyields
    obtain ⟨others, other, hreads⟩ := Record.exists_reads path 1 lines
    obtain ⟨rfl, rfl⟩ := hyields.unique (yields_of_gives hopen hreads hgives)
    exact hreads
  · intro hreads
    exact yields_of_gives hopen hreads hgives

/-- Octets that are no text end in a fault, after records of the lines that come before it. -/
theorem exists_yields_of_decodeAll_error
    (hopen : readerOf tree path encoding = .ok (.openAt file .utf8)) {fault : Octets.Fault}
    (hdecode : Octets.Utf8.decodeAll (tree.octets file) = .error fault)
    (hbroken : Text.Broken (Utf8.readable (tree.octets file)) lines) :
    ∃ earlier found ending cause, earlier <+: lines ∧ Record.Reads path 1 earlier found ending ∧
      Yields tree (.unopened path encoding) found (ending.bind fun _ =>
        .error (.reported (.traceUnreadable path (.octets cause)))) := by
  have hno : ¬(LineReader.openAt file .utf8).Whole (tree.octets file) := by
    rintro ⟨text, htext⟩
    have hoctets : tree.octets file = Utf8.encode text := htext
    cases hdecode.symm.trans (Octets.Utf8.decodeAll_eq_ok_iff.2 hoctets)
  obtain ⟨earlier, cause, hearlier, hgives⟩ :=
    (LineReader.exists_gives (tree.octets file) (.openAt file .utf8) rfl).2 hno
  have hbegins : earlier <+: lines := Text.broken_iff_lines.1 hbroken ▸ hearlier
  obtain ⟨found, ending, hreads⟩ := Record.exists_reads path 1 earlier
  exact ⟨earlier, found, ending, cause, hbegins, hreads, yields_of_gives hopen hreads hgives⟩

end Utf8

/-- What a trace in UTF-8 yields.  Where its octets are those of a text, it yields the records of
the lines of the text, each with the number of its line, up to the first line that is no record.
Where they are not, it yields the records of some of the first lines of the text before the fault,
and ends with the fault, unless it has ended before with a line that is no record. -/
theorem yields_of_utf8 {encoding : String} {file : Nat}
    (hopen : readerOf tree path encoding = .ok (.openAt file .utf8)) :
    (∀ text lines, Octets.Utf8.decodeAll (tree.octets file) = .ok text → Text.Broken text lines →
      ∀ found ending, (Yields tree (.unopened path encoding) found ending ↔
          Record.Reads path 1 lines found ending) ∧
        (Record.Reads path 1 lines found ending → ∀ record ∈ found, ∃ above line,
          lines[above]? = some line ∧ line ≠ [] ∧ record.lineNo = (above + 1 : Nat) ∧
            Record.ofLine record.lineNo line = .ok record)) ∧
      ∀ fault lines, Octets.Utf8.decodeAll (tree.octets file) = .error fault →
        Text.Broken (Utf8.readable (tree.octets file)) lines →
        ∃ earlier found ending cause, earlier <+: lines ∧ Record.Reads path 1 earlier found ending ∧
          Yields tree (.unopened path encoding) found (ending.bind fun _ =>
            .error (.reported (.traceUnreadable path (.octets cause)))) := by
  constructor
  · intro text lines hdecode hbroken found ending
    refine ⟨yields_iff_of_decodeAll_ok hopen hdecode hbroken, fun hreads record hrecord => ?_⟩
    obtain ⟨above, line, hnumber, hline, hsome, hof⟩ := hreads.exists_line hrecord
    exact ⟨above, line, hline, hsome, by rw [hnumber, Nat.add_comm], hof⟩
  · intro fault lines hdecode hbroken
    exact exists_yields_of_decodeAll_error hopen hdecode hbroken

/-- Of the three lines, the first is read, the second is skipped, and the third is refused. -/
theorem yields_of_utf8_sample :
    Yields Sample.traceTree (.unopened Sample.tracePath "utf-8")
      [⟨.methodInvoke, "<A: void f()>", "café.Thé", "bu", 7, 1⟩]
      (.error (.reported (.malformedRecord Sample.tracePath 3 (.fieldCount 1)))) := by
  have hopen : readerOf Sample.traceTree Sample.tracePath "utf-8" = .ok (.openAt 0 .utf8) := by rfl
  have hdecode : Octets.Utf8.decodeAll (Sample.traceTree.octets 0) = .ok Sample.traceText :=
    Octets.Utf8.decodeAll_eq_ok_iff.2 rfl
  have hbroken : Text.Broken Sample.traceText
      ["Method.invoke;<A: void f()>;café.Thé.bu;7".toList, [], "none".toList] :=
    Text.broken_iff_lines.2 (by decide)
  apply ((yields_of_utf8 hopen).1 _ _ hdecode hbroken _ _).1.2
  have hlast : Record.ofLine (3 : Nat) "none".toList = .error (.fieldCount 1) := by rfl
  exact .record (by decide) (by rfl) (.blank (.fault (by decide) hlast))

end TraceStream
end ReflectiveCalls
