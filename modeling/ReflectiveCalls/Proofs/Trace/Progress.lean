import ReflectiveCalls.Trace.Stream

/-!
# Proofs.Trace.Progress — a trace comes to its end

Reading a trace is bounded by a count of the lines that can still come.  The count is taken from the
characters that are still decoded: a character ends at most one line, and a decoder that has come to
the end of a text gives out no more.  Every line that comes out lowers it, so a bound above the
count is never reached, and any two such bounds read the same.

- `Octets.Decoder.exists_feed_of_feed_last`: at the end of a text everything is given out.
- `Text.LineScanner.length_feed_le`: a text completes no more lines than it has characters.
- `LineReader.linesAtMost_lt_of_next`: each line that comes out lowers the count.
- `TraceStream.pullUpTo_eq_pull`: the next record does not depend on the bound.
-/

namespace ReflectiveCalls

/-! ## The end of a text -/

namespace Octets

/-- At the end of a text nothing is handed back. -/
theorem Utf8.kept_of_decodeFrom {last : Bool} {position : Nat} {done text : List Char}
    {octets kept : List UInt8} (h : decodeFrom last position done octets = .ok (text, kept))
    (hlast : last = true) : kept = [] := by
  fun_induction decodeFrom last position done octets with
  | case1 =>
      cases h
      rfl
  | case2 position done first rest c more _ ih => exact ih h
  | case3 | case6 => cases h
  -- A character that is cut off is handed back before the end only.
  | case4 => exact absurd hlast (by assumption)
  | case5 position done first rest width reason _ hcut => simp [hlast] at hcut

theorem Utf16.kept_of_decodeFrom {order : Order} {last : Bool} {position : Nat}
    {done text : List Char} {octets kept : List UInt8}
    (h : decodeFrom order last position done octets = .ok (text, kept)) (hlast : last = true) :
    kept = [] := by
  fun_induction decodeFrom order last position done octets
  case case1 =>
      cases h
      rfl
  case case4 ih | case9 ih => exact ih h
  -- Half a unit and half a pair are handed back before the end only.
  case case3 | case7 => exact absurd hlast (by assumption)
  all_goals cases h

namespace Decoder

variable {encoding : Encoding} {decoder after : Decoder} {text : List Char}

/-- A decoder that has kept nothing is left as an outcome that hands nothing back is kept. -/
theorem eq_of_keep {outcome : Except Fault (List Char × List UInt8)}
    (h : keep encoding outcome = .ok (text, after))
    (hkept : ∀ text kept, outcome = .ok (text, kept) → kept = []) : after = ⟨encoding, []⟩ := by
  unfold keep at h
  split at h
  · next text kept =>
      cases h
      rw [hkept _ _ rfl]
  · cases h

theorem exists_feed_of_feedMarked_last {data : List UInt8}
    (h : feedMarked true data = .ok (text, after)) :
    ∃ later, after.feed true [] = .ok ([], later) := by
  have hkept : ∀ order position octets text kept,
      Utf16.decode order true position octets = .ok (text, kept) → kept = [] :=
    fun _ _ _ _ _ hdecoded => Utf16.kept_of_decodeFrom hdecoded rfl
  unfold feedMarked at h
  split at h
  · rw [eq_of_keep h (hkept _ _ _)]
    exact ⟨_, rfl⟩
  · rw [eq_of_keep h (hkept _ _ _)]
    exact ⟨_, rfl⟩
  · split at h
    · cases h
    · next hdecoded =>
        split at h
        · cases h
        · cases h
          rw [hkept _ _ _ _ _ hdecoded]
          exact ⟨_, rfl⟩

/-- At the end of a text everything is given out: asked once more, a decoder has nothing to give. -/
theorem exists_feed_of_feed_last {block : List UInt8}
    (h : decoder.feed true block = .ok (text, after)) :
    ∃ later, after.feed true [] = .ok ([], later) := by
  have hutf8 : ∀ octets text kept, Utf8.decode true octets = .ok (text, kept) → kept = [] :=
    fun _ _ _ hdecoded => Utf8.kept_of_decodeFrom hdecoded rfl
  have hnone : (⟨.utf8, []⟩ : Decoder).feed true [] = .ok ([], ⟨.utf8, []⟩) := by
    simp [feed, keep, Utf8.decode, Utf8.decodeFrom]
  unfold feed at h
  dsimp only at h
  cases hencoding : decoder.encoding with
  | utf8 =>
      rw [hencoding] at h
      rw [eq_of_keep h (hutf8 _)]
      exact ⟨_, hnone⟩
  | utf8Marked =>
      rw [hencoding] at h
      dsimp only at h
      split at h
      · next hshort =>
          -- What agrees with the mark but is shorter is kept, and never given out.
          cases h
          simp only [feed, List.append_nil, if_pos hshort]
          exact ⟨_, rfl⟩
      · split at h
        · rw [eq_of_keep h (hutf8 _)]
          exact ⟨_, hnone⟩
        · rw [eq_of_keep h (hutf8 _)]
          exact ⟨_, hnone⟩
  | utf16 =>
      rw [hencoding] at h
      exact exists_feed_of_feedMarked_last h
  | utf16In order =>
      rw [hencoding] at h
      rw [eq_of_keep h fun _ _ hdecoded => Utf16.kept_of_decodeFrom hdecoded rfl]
      exact ⟨_, rfl⟩
  | ascii =>
      rw [hencoding] at h
      dsimp only at h
      split at h
      · cases h
        exact ⟨_, rfl⟩
      · cases h
  | latin1 =>
      rw [hencoding] at h
      cases h
      exact ⟨_, rfl⟩
  | installed codec memory =>
      rw [hencoding] at h
      dsimp only at h
      split at h
      · next hdecoded =>
          cases h
          rcases codec.flushes hdecoded with ⟨⟨later, kept⟩, hlater⟩
          simp only [feed, List.append_nil, hlater]
          exact ⟨_, rfl⟩
      · cases h

end Decoder
end Octets

/-! ## Lines from characters -/

namespace Text.LineScanner

theorem length_feedOnto_le (done : List (List Char)) (begun : List Char) (pending : Bool)
    (text : List Char) :
    let fed := feedOnto done begun pending text
    fed.1.length + fed.2.begun.length + fed.2.pending.toNat ≤
      done.length + begun.length + pending.toNat + text.length := by
  fun_induction feedOnto done begun pending text with
  | case1 => simp
  -- A carriage return was pending, so the line before the character is complete.
  | case2 done begun rest added ih | case3 done begun rest added _ ih
  | case4 done begun c rest added _ _ ih =>
      have hadded : added.length = done.length + 1 := rfl
      simp only [List.length_cons, List.length_nil, Bool.toNat_true, Bool.toNat_false] at ih ⊢
      omega
  | case5 done begun pending rest _ ih | case6 done begun pending rest _ _ ih
  | case7 done begun pending c rest _ _ _ ih =>
      simp only [List.length_cons, List.length_nil, Bool.toNat_true, Bool.toNat_false] at ih ⊢
      omega

/-- A text completes no more lines than it has characters, those of the line that had been begun
counted in. -/
theorem length_feed_le (scanner : LineScanner) (text : List Char) :
    (scanner.feed text).1.length + (scanner.feed text).2.begun.length +
        (scanner.feed text).2.pending.toNat ≤
      scanner.begun.length + scanner.pending.toNat + text.length := by
  have hle := length_feedOnto_le [] scanner.begun scanner.pending text
  simp only [feed, List.length_reverse]
  simpa using hle

theorem length_finish_le (scanner : LineScanner) :
    scanner.finish.length ≤ scanner.begun.length + scanner.pending.toNat := by
  unfold finish
  split
  · next hopen =>
      cases hpending : scanner.pending with
      | true => simp
      | false =>
          cases hbegun : scanner.begun with
          | nil => simp [hpending, hbegun] at hopen
          | cons c rest => simp
  · simp

end Text.LineScanner

/-! ## The lines that are left -/

namespace LineReader

variable {octets : List UInt8} {reader after : LineReader} {line : List Char}

/-- A line that was ready is off the count. -/
theorem linesAtMost_lt_of_take (h : reader.take = (some line, after)) :
    after.linesAtMost octets < reader.linesAtMost octets := by
  unfold take at h
  split at h
  · cases h
  · next hready =>
      cases h
      simp [linesAtMost, hready]

/-- Scanning a text that has been decoded completes no more lines than it has characters. -/
theorem length_after_le {block : List UInt8} {text : List Char} {decoder : Octets.Decoder} :
    let fed := reader.after block text decoder
    fed.ready.length + fed.scanner.begun.length + fed.scanner.pending.toNat ≤
      reader.scanner.begun.length + reader.scanner.pending.toNat + text.length :=
  reader.scanner.length_feed_le text

/-- What is left after the block that is read next. -/
theorem drop_block (octets : List UInt8) (reader : LineReader) :
    octets.drop (reader.place + (reader.block octets).length) =
      (octets.drop reader.place).drop blockSize := by
  rw [List.drop_drop, block, List.length_take, List.length_drop]
  -- A block that is cut short reaches the end of the file.
  rcases Nat.le_total blockSize (octets.length - reader.place) with hfull | hshort
  · rw [Nat.min_eq_left hfull]
  · rw [Nat.min_eq_right hshort, List.drop_eq_nil_of_le (by omega),
      List.drop_eq_nil_of_le (by omega)]

/-- There is no further block exactly at the end of the file. -/
theorem block_eq_nil_iff : reader.block octets = [] ↔ octets.drop reader.place = [] := by
  rw [block, List.take_eq_nil_iff]
  exact or_iff_right (by decide)

/-- Decoding a block does not raise the count of a reader that has no line ready. -/
theorem linesAtMost_after_le {text : List Char} {decoder : Octets.Decoder}
    (hready : reader.ready = []) (hblock : reader.block octets ≠ [])
    (hfeed : reader.decoder.feed false (reader.block octets) = .ok (text, decoder)) :
    (reader.after (reader.block octets) text decoder).linesAtMost octets ≤
      reader.linesAtMost octets := by
  -- The characters of the block are off those that are still to be decoded.
  have hcount : charactersIn reader.decoder (octets.drop reader.place) =
      text.length + charactersIn decoder ((octets.drop reader.place).drop blockSize) := by
    rw [charactersIn, if_neg (mt block_eq_nil_iff.2 hblock)]
    rw [block] at hfeed
    rw [hfeed]
  have hscanned := @length_after_le reader (reader.block octets) text decoder
  have hleft := drop_block octets reader
  simp only [linesAtMost, hready, hcount, List.length_nil]
  simp only [LineReader.after, hleft] at hscanned ⊢
  omega

/-- At the end of the file, completing the line that has been begun does not raise the count. -/
theorem linesAtMost_atEnd_le {text : List Char} {decoder : Octets.Decoder}
    (hready : reader.ready = []) (hblock : reader.block octets = [])
    (hfeed : reader.decoder.feed true [] = .ok (text, decoder)) :
    (reader.atEnd text decoder).linesAtMost octets ≤ reader.linesAtMost octets := by
  have hend : octets.drop reader.place = [] := block_eq_nil_iff.1 hblock
  have hcount : charactersIn reader.decoder (octets.drop reader.place) = text.length := by
    rw [hend, charactersIn, if_pos rfl, hfeed]
  -- The decoder has given out everything.
  have hnothing : charactersIn decoder (octets.drop (reader.atEnd text decoder).place) = 0 := by
    rcases Octets.Decoder.exists_feed_of_feed_last hfeed with ⟨later, hlater⟩
    have hstill : octets.drop (reader.atEnd text decoder).place = [] := hend
    rw [hstill, charactersIn, if_pos rfl, hlater]
    rfl
  have hscanned := @length_after_le reader [] text decoder
  have hfinish := (reader.after [] text decoder).scanner.length_finish_le
  have hdecoder : (reader.atEnd text decoder).decoder = decoder := rfl
  simp only [linesAtMost, hready, hcount, hdecoder, hnothing, List.length_nil]
  simp only [atEnd, Text.LineScanner.start, List.length_append, List.length_nil, Bool.toNat_false]
  omega

/-- Each line that comes out lowers the count of those that are left. -/
theorem linesAtMost_lt_of_next (h : reader.next octets = .ok (some line, after)) :
    after.linesAtMost octets < reader.linesAtMost octets := by
  -- A line is ready, or the file has ended, or another block is decoded and it goes on from there.
  fun_induction next octets reader with
  | case1 reader => exact linesAtMost_lt_of_take (Except.ok.inj h)
  | case2 => cases h
  | case3 reader hready block hblock text decoder hfeed =>
      have hempty : reader.ready = [] := by
        simpa using hready
      exact Nat.lt_of_lt_of_le (linesAtMost_lt_of_take (Except.ok.inj h))
        (linesAtMost_atEnd_le hempty hblock hfeed)
  | case4 => cases h
  | case5 reader hready block hblock text decoder hfeed ih =>
      have hempty : reader.ready = [] := by
        simpa using hready
      exact Nat.lt_of_lt_of_le (ih h) (linesAtMost_after_le hempty hblock hfeed)

theorem file_take {found : Option (List Char)} (h : reader.take = (found, after)) :
    after.file = reader.file := by
  unfold take at h
  split at h <;> cases h <;> rfl

/-- A reader goes on reading the same file. -/
theorem file_of_next {found : Option (List Char)} (h : reader.next octets = .ok (found, after)) :
    after.file = reader.file := by
  fun_induction next octets reader with
  | case1 reader => exact file_take (Except.ok.inj h)
  | case2 => cases h
  | case3 reader hready block hblock text decoder hfeed =>
      exact (file_take (Except.ok.inj h) :)
  | case4 => cases h
  | case5 reader hready block hblock text decoder hfeed ih => exact ih h

end LineReader

/-! ## Bounds that are never reached -/

namespace TraceStream

variable {tree : Tree} {octets : List UInt8} {path : Path}

/-- Any two bounds above the count read the same. -/
theorem advance_congr {records lineNo bound other : Nat} {reader : LineReader}
    (hbound : reader.linesAtMost octets < bound) (hother : reader.linesAtMost octets < other) :
    advance octets path records bound lineNo reader =
      advance octets path records other lineNo reader := by
  induction bound generalizing other lineNo reader with
  | zero => omega
  | succ bound ih =>
      cases other with
      | zero => omega
      | succ other =>
          unfold advance
          cases hnext : reader.next octets with
          | error fault => rfl
          | ok found =>
              rcases found with ⟨_ | line, after⟩
              · rfl
              · -- What is left after the line is below both bounds, one step further.
                have hafter := LineReader.linesAtMost_lt_of_next hnext
                have hrest := @ih (lineNo + 1) other after (by omega) (by omega)
                simp only [hrest]

/-- A record leaves the stream open, with fewer lines left than before. -/
theorem state_of_advance {records lineNo bound : Nat} {reader : LineReader} {record : Record}
    (h : (advance octets path records bound lineNo reader).result = .ok (some record)) :
    ∃ next after, after.file = reader.file ∧
      after.linesAtMost octets < reader.linesAtMost octets ∧
      (advance octets path records bound lineNo reader).state =
        .opened path (records + 1) next after := by
  induction bound generalizing lineNo reader with
  | zero => cases h
  | succ bound ih =>
      unfold advance at h ⊢
      cases hnext : reader.next octets with
      | error fault => simp [hnext] at h
      | ok found =>
          rcases found with ⟨_ | line, after⟩
          · simp [hnext] at h
          · have hafter := LineReader.linesAtMost_lt_of_next hnext
            have hfile := LineReader.file_of_next hnext
            simp only [hnext] at h ⊢
            by_cases hempty : line.isEmpty = true
            · -- An empty line is skipped, and the record is one of the lines after it.
              simp only [hempty, if_true] at h ⊢
              rcases ih h with ⟨next, last, hlastFile, hlast, hstate⟩
              exact ⟨next, last, hlastFile.trans hfile, Nat.lt_trans hlast hafter, hstate⟩
            · simp only [hempty] at h ⊢
              cases hrecord : Record.ofLine lineNo line with
              | error fault => simp [hrecord] at h
              | ok found => exact ⟨lineNo + 1, after, hfile, hafter, by simp⟩

/-- How many lines a stream has left does not bound what is read next, as long as the bound is
above it. -/
theorem pullUpTo_eq_pull {stream : TraceStream} {bound : Nat}
    (hbound : stream.linesAtMost tree < bound) :
    (pullUpTo tree bound).run stream = (pull tree).run stream := by
  cases stream with
  | opened path records lineNo reader =>
      exact advance_congr hbound (Nat.lt_succ_self _)
  | unopened path encoding => rfl
  | ended => rfl

/-- A record that is pulled leaves fewer lines. -/
theorem linesAtMost_lt_of_pull {stream : TraceStream} {record : Record}
    (h : ((pull tree).run stream).result = .ok (some record)) :
    ((pull tree).run stream).state.linesAtMost tree < stream.linesAtMost tree := by
  cases stream with
  | opened path records lineNo reader =>
      rcases state_of_advance h with ⟨next, after, hfile, hafter, hstate⟩
      have hrun : ((pull tree).run (.opened path records lineNo reader)).state =
          .opened path (records + 1) next after := hstate
      rw [hrun]
      simp only [linesAtMost, hfile]
      exact hafter
  | unopened path encoding => cases h
  | ended => cases h

end TraceStream
end ReflectiveCalls
