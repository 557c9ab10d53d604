import Mathlib.Tactic.SplitIfs
import ReflectiveCalls.Text.Lines

/-!
# Proofs.Text.Lines — where lines end

The lines of a text are said by a grammar: a line runs up to a line feed, up to a carriage return
with a line feed after it, or up to a carriage return that has none after it; what comes after the
last line end is a line if it is not empty.  A scanner that takes the text in pieces finds the same
lines.

- `Text.Broken`: a text and its lines; `Text.broken_iff_lines`: they are those of `Text.lines`.
- `Text.LineScanner.feed_append`: a text in two pieces.
- `Text.unifyLineEnds_of_not_mem`: a text in which the line ends are line feeds already.
-/

namespace ReflectiveCalls
namespace Text

/-! ## Lines as a grammar -/

/-- No line ends within. -/
def Endless (line : List Char) : Prop := '\n' ∉ line ∧ '\r' ∉ line

/-- A text and its lines, without their ends. -/
inductive Broken : List Char → List (List Char) → Prop
  | nothing : Broken [] []
  | last {line : List Char} (hline : Endless line) (hsome : line ≠ []) : Broken line [line]
  | lineFeed {line rest : List Char} {lines : List (List Char)} (hline : Endless line)
      (hrest : Broken rest lines) : Broken (line ++ '\n' :: rest) (line :: lines)
  | both {line rest : List Char} {lines : List (List Char)} (hline : Endless line)
      (hrest : Broken rest lines) : Broken (line ++ '\r' :: '\n' :: rest) (line :: lines)
  | carriageReturn {line rest : List Char} {lines : List (List Char)} (hline : Endless line)
      (halone : rest.head? ≠ some '\n') (hrest : Broken rest lines) :
      Broken (line ++ '\r' :: rest) (line :: lines)

theorem endless_nil : Endless [] := ⟨List.not_mem_nil, List.not_mem_nil⟩

theorem endless_cons {c : Char} {line : List Char} :
    Endless (c :: line) ↔ c ≠ '\n' ∧ c ≠ '\r' ∧ Endless line := by
  simp only [Endless, List.mem_cons, not_or]
  constructor
  · rintro ⟨⟨hfeed, hline⟩, hreturn, hline'⟩
    exact ⟨Ne.symm hfeed, Ne.symm hreturn, hline, hline'⟩
  · rintro ⟨hfeed, hreturn, hline, hline'⟩
    exact ⟨⟨Ne.symm hfeed, hline⟩, Ne.symm hreturn, hline'⟩

theorem endless_append_singleton {line : List Char} {c : Char} (h : Endless line) (hfeed : c ≠ '\n')
    (hreturn : c ≠ '\r') : Endless (line ++ [c]) := by
  constructor
  · simpa [h.1] using hfeed.symm
  · simpa [h.2] using hreturn.symm

namespace LineScanner

/-! ## Scanning in pieces -/

theorem feedOnto_append (done : List (List Char)) (begun : List Char) (pending : Bool)
    (text more : List Char) :
    feedOnto done begun pending (text ++ more) =
      feedOnto (feedOnto done begun pending text).1 (feedOnto done begun pending text).2.begun
        (feedOnto done begun pending text).2.pending more := by
  induction text generalizing done begun pending with
  | nil => rfl
  | cons c rest ih =>
      simp only [List.cons_append, feedOnto]
      split_ifs <;> exact ih ..

/-- The lines found do not depend on those found before. -/
theorem feedOnto_eq (done : List (List Char)) (begun : List Char) (pending : Bool)
    (text : List Char) :
    feedOnto done begun pending text =
      ((feedOnto [] begun pending text).1 ++ done, (feedOnto [] begun pending text).2) := by
  induction text generalizing done begun pending with
  | nil => rfl
  | cons c rest ih =>
      simp only [feedOnto]
      -- where a line is complete, both sides go on with it on top
      split_ifs with hpending hfeed hreturn hfeed hreturn
      · rw [ih, ih [begun.reverse]]; simp
      · rw [ih, ih [begun.reverse]]; simp
      · rw [ih, ih [begun.reverse]]; simp
      · rw [ih, ih [begun.reverse]]; simp
      · exact ih ..
      · exact ih ..

@[simp] theorem feed_nil (scanner : LineScanner) : scanner.feed [] = ([], scanner) := rfl

/-- The lines of two pieces are those of the first, and then those of the second. -/
theorem feed_append (scanner : LineScanner) (text more : List Char) :
    scanner.feed (text ++ more) =
      ((scanner.feed text).1 ++ ((scanner.feed text).2.feed more).1,
        ((scanner.feed text).2.feed more).2) := by
  simp only [feed, feedOnto_append]
  rw [feedOnto_eq]
  simp

/-! ## The lines of a text that is complete -/

/-- The lines of what is left of a text, with the one that has been begun. -/
def complete (scanner : LineScanner) (text : List Char) : List (List Char) :=
  (scanner.feed text).1 ++ (scanner.feed text).2.finish

theorem complete_nil (scanner : LineScanner) : scanner.complete [] = scanner.finish := rfl

/-- The text may be cut anywhere. -/
theorem complete_append (scanner : LineScanner) (text more : List Char) :
    scanner.complete (text ++ more) =
      (scanner.feed text).1 ++ (scanner.feed text).2.complete more := by
  simp [complete, feed_append]

theorem complete_cons (scanner : LineScanner) (c : Char) (text : List Char) :
    scanner.complete (c :: text) = (scanner.feed [c]).1 ++ (scanner.feed [c]).2.complete text :=
  complete_append scanner [c] text

@[simp] theorem complete_lineFeed (begun text : List Char) :
    complete ⟨begun, false⟩ ('\n' :: text) = begun.reverse :: start.complete text := by
  rw [complete_cons]; rfl

@[simp] theorem complete_carriageReturn (begun text : List Char) :
    complete ⟨begun, false⟩ ('\r' :: text) = complete ⟨begun, true⟩ text := by
  rw [complete_cons]; rfl

theorem complete_other {c : Char} (begun text : List Char) (hfeed : c ≠ '\n') (hreturn : c ≠ '\r') :
    complete ⟨begun, false⟩ (c :: text) = complete ⟨c :: begun, false⟩ text := by
  rw [complete_cons]; simp [feed, feedOnto, hfeed, hreturn]

/-- After a carriage return, a line feed belongs to the same line end. -/
@[simp] theorem complete_pending_lineFeed (begun text : List Char) :
    complete ⟨begun, true⟩ ('\n' :: text) = begun.reverse :: start.complete text := by
  rw [complete_cons]; rfl

/-- After a carriage return, anything but a line feed is on the next line. -/
theorem complete_pending (begun : List Char) {text : List Char} (halone : text.head? ≠ some '\n') :
    complete ⟨begun, true⟩ text = begun.reverse :: start.complete text := by
  cases text with
  | nil => rfl
  | cons c rest =>
      have hfeed : c ≠ '\n' := by simpa using halone
      rw [complete_cons, complete_cons start]
      by_cases hreturn : c = '\r'
      · subst hreturn; rfl
      · simp [feed, feedOnto, start, hfeed, hreturn]

theorem complete_endless {line : List Char} (h : Endless line) (begun text : List Char) :
    complete ⟨begun, false⟩ (line ++ text) = complete ⟨line.reverse ++ begun, false⟩ text := by
  induction line generalizing begun with
  | nil => rfl
  | cons c line ih =>
      obtain ⟨hfeed, hreturn, hline⟩ := endless_cons.1 h
      rw [List.cons_append, complete_other _ _ hfeed hreturn, ih hline]
      simp

/-- What is found is what the grammar says, with the line that has been begun put back, and its
carriage return if one is pending. -/
theorem broken_complete (text : List Char) :
    ∀ begun : List Char, Endless begun.reverse →
      Broken (begun.reverse ++ text) (complete ⟨begun, false⟩ text) ∧
        Broken (begun.reverse ++ '\r' :: text) (complete ⟨begun, true⟩ text) := by
  induction text with
  | nil =>
      intro begun hbegun
      refine ⟨?_, .carriageReturn hbegun (by simp) .nothing⟩
      cases begun with
      | nil => exact .nothing
      | cons c begun => simpa [complete_nil, finish] using Broken.last hbegun (by simp)
  | cons c text ih =>
      intro begun hbegun
      -- the lines of the text when a line starts with `c`
      have hfresh : ∀ begun : List Char, Endless begun.reverse →
          Broken (begun.reverse ++ c :: text) (complete ⟨begun, false⟩ (c :: text)) := by
        intro begun hbegun
        by_cases hfeed : c = '\n'
        · subst hfeed
          rw [complete_lineFeed]
          exact .lineFeed hbegun (ih [] endless_nil).1
        by_cases hreturn : c = '\r'
        · subst hreturn
          rw [complete_carriageReturn]
          exact (ih begun hbegun).2
        · rw [complete_other _ _ hfeed hreturn]
          simpa using (ih (c :: begun)
            (by simpa using endless_append_singleton hbegun hfeed hreturn)).1
      refine ⟨hfresh begun hbegun, ?_⟩
      by_cases hfeed : c = '\n'
      · subst hfeed
        rw [complete_pending_lineFeed]
        exact .both hbegun (ih [] endless_nil).1
      · have halone : (c :: text).head? ≠ some '\n' := by simpa using hfeed
        rw [complete_pending _ halone]
        exact .carriageReturn hbegun halone (hfresh [] endless_nil)

end LineScanner

theorem lines_eq_complete (text : List Char) : lines text = LineScanner.start.complete text := rfl

theorem lines_endless_append {line : List Char} (h : Endless line) (text : List Char) :
    lines (line ++ text) = LineScanner.complete ⟨line.reverse, false⟩ text := by
  rw [lines_eq_complete, LineScanner.start, LineScanner.complete_endless h, List.append_nil]

/-- The lines of a text are those that the grammar gives it. -/
theorem broken_iff_lines {text : List Char} {broken : List (List Char)} :
    Broken text broken ↔ lines text = broken := by
  constructor
  · intro h
    induction h with
    | nothing => rfl
    | @last line hline hsome =>
        rw [← List.append_nil line, lines_endless_append hline]
        simp [LineScanner.complete_nil, LineScanner.finish, hsome]
    | @lineFeed line rest broken hline _ ih =>
        rw [lines_endless_append hline, LineScanner.complete_lineFeed, List.reverse_reverse,
          ← lines_eq_complete, ih]
    | @both line rest broken hline _ ih =>
        rw [lines_endless_append hline, LineScanner.complete_carriageReturn,
          LineScanner.complete_pending_lineFeed, List.reverse_reverse, ← lines_eq_complete, ih]
    | @carriageReturn line rest broken hline halone _ ih =>
        rw [lines_endless_append hline, LineScanner.complete_carriageReturn,
          LineScanner.complete_pending _ halone, List.reverse_reverse, ← lines_eq_complete, ih]
  · rintro rfl
    exact (LineScanner.broken_complete text [] endless_nil).1

/-- Every text has lines. -/
theorem broken_lines (text : List Char) : Broken text (lines text) := broken_iff_lines.2 rfl

/-! ## Line ends made alike -/

theorem unifyOnto_of_not_mem {text : List Char} (h : '\r' ∉ text) (done : List Char) :
    unifyOnto done text = done.reverse ++ text := by
  induction text generalizing done with
  | nil => simp [unifyOnto]
  | cons c rest ih =>
      rw [List.mem_cons, not_or] at h
      have hstep : unifyOnto done (c :: rest) = unifyOnto (c :: done) rest := by
        rw [unifyOnto]
        · exact fun _ heq _ => h.1 heq.symm
        · exact fun heq => h.1 heq.symm
      rw [hstep, ih h.2]
      simp

/-- A text without carriage returns has its line ends as they are to be. -/
theorem unifyLineEnds_of_not_mem {text : List Char} (h : '\r' ∉ text) :
    unifyLineEnds text = text := unifyOnto_of_not_mem h []

end Text
end ReflectiveCalls
