import ReflectiveCalls.Proofs.Action
import ReflectiveCalls.Proofs.Trace.Progress

/-!
# Proofs.Trace.Iteration — what a trace yields

A trace is run through by asking for the next record until there is none.  What comes out, and how
it ends, is a relation of its own here, free of the bounds by which reading is organised; and doing
a step with each record that is left is doing it with each record of that list.

- `TraceStream.Yields`: the records that come out of a stream, and how it ends.
- `TraceStream.exists_yields_iff`: every stream yields one list of records and has one end.
- `Action.each`: a step done with each item of a list; `Action.result_each_eq_error_iff` tells where
  it fails.
- `TraceStream.run_forEach`: a step done with each record of a stream;
  `TraceStream.yields_forEach_of_error`: the records that are left where it fails.
-/

namespace ReflectiveCalls

/-! ## Steps over a list -/

namespace Action

variable {σ α : Type}

/-- A step done with each item, up to the first with which it fails. -/
def each (step : α → Action σ Unit) : List α → Action σ Unit
  | [] => return ()
  | item :: rest => do
      step item
      each step rest

theorem run_each_cons_of_ok {step : α → Action σ Unit} {item : α} {state : σ}
    (h : ((step item).run state).result = .ok ()) (rest : List α) :
    ((each step (item :: rest)).run state).result =
        ((each step rest).run ((step item).run state).state).result ∧
      ((each step (item :: rest)).run state).state =
        ((each step rest).run ((step item).run state).state).state :=
  run_bind_of_ok (fun _ => each step rest) h

theorem run_each_cons_of_error {step : α → Action σ Unit} {item : α} {state : σ}
    {failure : Failure} (h : ((step item).run state).result = .error failure) (rest : List α) :
    ((each step (item :: rest)).run state).result = .error failure ∧
      ((each step (item :: rest)).run state).state = ((step item).run state).state :=
  run_bind_of_error (fun _ => each step rest) h

/-- A step that succeeds with the first items goes on with the others. -/
theorem run_each_append_of_ok {step : α → Action σ Unit} {before : List α} {state : σ}
    (h : ((each step before).run state).result = .ok ()) (after : List α) :
    ((each step (before ++ after)).run state).result =
        ((each step after).run ((each step before).run state).state).result ∧
      ((each step (before ++ after)).run state).state =
        ((each step after).run ((each step before).run state).state).state := by
  induction before generalizing state with
  | nil => exact ⟨rfl, rfl⟩
  | cons item rest ih =>
      cases hitem : ((step item).run state).result with
      | error failure => cases (run_each_cons_of_error hitem rest).1.symm.trans h
      | ok value =>
          have hrest := run_each_cons_of_ok hitem rest
          have hall := run_each_cons_of_ok hitem (rest ++ after)
          have hthen := ih (hrest.1.symm.trans h)
          rw [List.cons_append, hall.1, hall.2, hrest.2]
          exact hthen

/-- A step that is done with each item fails exactly if it fails with some item, those before being
done, and it fails as it does there. -/
theorem result_each_eq_error_iff {step : α → Action σ Unit} {items : List α} {state : σ}
    {failure : Failure} :
    ((each step items).run state).result = .error failure ↔
      ∃ before item after, items = before ++ item :: after ∧
        ((each step before).run state).result = .ok () ∧
        ((step item).run ((each step before).run state).state).result = .error failure := by
  constructor
  · intro h
    induction items generalizing state with
    | nil => cases h
    | cons first rest ih =>
        cases hfirst : ((step first).run state).result with
        | error fault =>
            cases (run_each_cons_of_error hfirst rest).1.symm.trans h
            exact ⟨[], first, rest, rfl, rfl, hfirst⟩
        | ok value =>
            have hrest := run_each_cons_of_ok hfirst rest
            rcases ih (hrest.1.symm.trans h) with ⟨before, item, after, rfl, hbefore, hitem⟩
            have hmore := run_each_cons_of_ok hfirst before
            exact ⟨first :: before, item, after, rfl, hmore.1.trans hbefore, hmore.2 ▸ hitem⟩
  · rintro ⟨before, item, after, rfl, hbefore, hitem⟩
    rw [(run_each_append_of_ok hbefore _).1]
    exact (run_each_cons_of_error hitem after).1

end Action

namespace TraceStream

variable {tree : Tree} {stream : TraceStream}

/-! ## What a stream yields -/

/-- Asked again and again for the next record, the stream gives the records, and then it ends: with
no further record, or with a failure. -/
inductive Yields (tree : Tree) : TraceStream → List Record → Except Failure Unit → Prop
  | exhausted {stream : TraceStream} (h : ((next tree).run stream).result = .ok none) :
      Yields tree stream [] (.ok ())
  | failed {stream : TraceStream} {failure : Failure}
      (h : ((next tree).run stream).result = .error failure) :
      Yields tree stream [] (.error failure)
  | record {stream : TraceStream} {record : Record} {rest : List Record}
      {ending : Except Failure Unit} (h : ((next tree).run stream).result = .ok (some record))
      (hrest : Yields tree ((next tree).run stream).state rest ending) :
      Yields tree stream (record :: rest) ending

/-- A stream yields one list of records and has one end. -/
theorem Yields.unique {records others : List Record} {ending other : Except Failure Unit}
    (h : Yields tree stream records ending) (hother : Yields tree stream others other) :
    others = records ∧ other = ending := by
  -- Both look at the same next step, so they end together or go on together.
  induction h generalizing others with
  | exhausted h =>
      cases hother with
      | exhausted => exact ⟨rfl, rfl⟩
      | failed hother => cases h.symm.trans hother
      | record hother => cases h.symm.trans hother
  | failed h =>
      cases hother with
      | exhausted hother => cases h.symm.trans hother
      | failed hother =>
          cases h.symm.trans hother
          exact ⟨rfl, rfl⟩
      | record hother => cases h.symm.trans hother
  | record h _ ih =>
      cases hother with
      | exhausted hother => cases h.symm.trans hother
      | failed hother => cases h.symm.trans hother
      | record hother hrest =>
          cases h.symm.trans hother
          rcases ih hrest with ⟨rfl, rfl⟩
          exact ⟨rfl, rfl⟩

/-! ## Open streams -/

/-- The file of the stream has been opened, or the stream is at its end. -/
def IsOpen (stream : TraceStream) : Prop :=
  ∀ tree, (openFile tree).run stream = ⟨.ok (), stream, []⟩

theorem isOpen_opened (path : Path) (records lineNo : Nat) (reader : LineReader) :
    (opened path records lineNo reader).IsOpen := fun _ => rfl

theorem run_next (h : stream.IsOpen) : (next tree).run stream = (pull tree).run stream := by
  rw [next, Action.run_bind, h tree]
  simp only [List.nil_append]

/-- A stream from which a record has come is open. -/
theorem isOpen_of_pull {record : Record}
    (h : ((pull tree).run stream).result = .ok (some record)) :
    ((pull tree).run stream).state.IsOpen := by
  cases stream with
  | opened path records lineNo reader =>
      rcases state_of_advance h with ⟨next, after, -, -, hstate⟩
      have hrun : ((pull tree).run (.opened path records lineNo reader)).state =
          .opened path (records + 1) next after := hstate
      exact hrun ▸ isOpen_opened path _ next after
  | unopened path encoding => cases h
  | ended => cases h

/-- An open stream that gives a record has fewer lines left, and stays open. -/
theorem linesAtMost_lt_of_next_some {record : Record} (hopen : stream.IsOpen)
    (h : ((next tree).run stream).result = .ok (some record)) :
    ((next tree).run stream).state.linesAtMost tree < stream.linesAtMost tree ∧
      ((next tree).run stream).state.IsOpen := by
  rw [run_next hopen] at h ⊢
  exact ⟨linesAtMost_lt_of_pull h, isOpen_of_pull h⟩

/-- An open stream comes to its end, since fewer lines are left after each record. -/
theorem exists_yields_of_isOpen (tree : Tree) (h : stream.IsOpen) :
    ∃ records ending, Yields tree stream records ending := by
  -- The induction is on the lines that are left: a record that is pulled leaves fewer.
  induction hcount : stream.linesAtMost tree using Nat.strongRecOn generalizing stream with
  | ind count ih =>
      cases hresult : ((pull tree).run stream).result with
      | error failure =>
          exact ⟨[], .error failure, .failed ((congrArg Outcome.result (run_next h)).trans hresult)⟩
      | ok found =>
          have hnext : ((next tree).run stream).result = .ok found :=
            (congrArg Outcome.result (run_next h)).trans hresult
          cases found with
          | none => exact ⟨[], .ok (), .exhausted hnext⟩
          | some record =>
              obtain ⟨hless, hafter⟩ := linesAtMost_lt_of_next_some h hnext
              rcases ih _ (hcount ▸ hless) hafter rfl with ⟨rest, ending, hrest⟩
              exact ⟨record :: rest, ending, .record hnext hrest⟩

/-- A stream that is opened first goes on as the open stream. -/
theorem run_next_of_openFile {after : TraceStream} {events : List Event}
    (hopen : (openFile tree).run stream = ⟨.ok (), after, events⟩) (hafter : after.IsOpen) :
    ((next tree).run stream).result = ((next tree).run after).result ∧
      ((next tree).run stream).state = ((next tree).run after).state := by
  rw [run_next hafter, next, Action.run_bind, hopen]
  exact ⟨rfl, rfl⟩

/-- Opening fails, or leaves an open stream. -/
theorem openFile_cases (tree : Tree) (stream : TraceStream) :
    (∃ failure, ((openFile tree).run stream).result = .error failure) ∨
      ∃ after events, (openFile tree).run stream = ⟨.ok (), after, events⟩ ∧ after.IsOpen := by
  cases stream with
  | opened path records lineNo reader => exact Or.inr ⟨_, _, rfl, isOpen_opened path _ _ _⟩
  | ended => exact Or.inr ⟨_, _, rfl, fun _ => rfl⟩
  | unopened path encoding =>
      cases hreader : readerOf tree path encoding with
      | error failure => exact Or.inl ⟨failure, by simp [Action.run, openFile, hreader]⟩
      | ok reader =>
          exact Or.inr ⟨.opened path 0 1 reader, [.readingTrace path],
            by simp [Action.run, openFile, hreader], isOpen_opened path 0 1 reader⟩

/-- What a stream yields depends on its next step alone. -/
theorem Yields.congr {other : TraceStream} {records : List Record} {ending : Except Failure Unit}
    (h : Yields tree stream records ending)
    (hnext : ((next tree).run other).result = ((next tree).run stream).result ∧
      ((next tree).run other).state = ((next tree).run stream).state) :
    Yields tree other records ending := by
  cases h with
  | exhausted h => exact .exhausted (hnext.1.trans h)
  | failed h => exact .failed (hnext.1.trans h)
  | record h hrest => exact .record (hnext.1.trans h) (hnext.2 ▸ hrest)

/-- Every stream yields one list of records and has one end. -/
theorem exists_yields_iff (tree : Tree) (stream : TraceStream) :
    ∃ records ending, ∀ others other,
      Yields tree stream others other ↔ others = records ∧ other = ending := by
  have hexists : ∃ records ending, Yields tree stream records ending := by
    rcases openFile_cases tree stream with ⟨failure, hfailure⟩ | ⟨after, events, hopen, hafter⟩
    · exact ⟨[], .error failure, .failed (Action.run_bind_of_error (fun _ => pull tree) hfailure).1⟩
    · rcases exists_yields_of_isOpen tree hafter with ⟨records, ending, hyields⟩
      exact ⟨records, ending, hyields.congr (run_next_of_openFile hopen hafter)⟩
  rcases hexists with ⟨records, ending, hyields⟩
  refine ⟨records, ending, fun others other => ⟨hyields.unique, ?_⟩⟩
  rintro ⟨rfl, rfl⟩
  exact hyields

/-! ## Steps over a stream -/

section Steps

variable {σ : Type} (step : Record → Action σ Unit)

/-- An open stream is asked for its next record, under a bound that is not reached. -/
theorem run_pullUpTo_of_isOpen (hopen : stream.IsOpen) {lines : Nat}
    (hlines : stream.linesAtMost tree < lines) (state : σ) :
    (Action.onSecond (pullUpTo tree lines) : Action (σ × TraceStream) _).run (state, stream) =
      ⟨((next tree).run stream).result, (state, ((next tree).run stream).state),
        ((next tree).run stream).events⟩ := by
  rw [Action.run_onSecond, pullUpTo_eq_pull hlines, run_next hopen]

/-- The step is done with the next record.  If it fails with it, no further record is asked for. -/
theorem run_forEachUpTo_of_record (hopen : stream.IsOpen) {lines : Nat}
    (hlines : stream.linesAtMost tree < lines) {record : Record}
    (h : ((next tree).run stream).result = .ok (some record)) (bound : Nat) (state : σ) :
    let stepped := (step record).run state
    let left := ((next tree).run stream).state
    let outcome := (forEachUpTo tree lines step (bound + 1)).run (state, stream)
    (stepped.result = .ok () →
      let later := (forEachUpTo tree lines step bound).run (stepped.state, left)
      outcome.result = later.result ∧ outcome.state = later.state) ∧
    ∀ failure, stepped.result = .error failure →
      outcome.result = .error failure ∧ outcome.state = (stepped.state, left) := by
  have hpull := run_pullUpTo_of_isOpen hopen hlines state
  rw [h] at hpull
  intro stepped left outcome
  simp only [outcome, forEachUpTo, Action.run_bind, hpull, Action.run_onFirst]
  constructor
  · intro hstepped
    simp only [stepped] at hstepped ⊢
    rw [hstepped]
    exact ⟨rfl, rfl⟩
  · intro failure hstepped
    simp only [stepped] at hstepped ⊢
    rw [hstepped]
    exact ⟨rfl, rfl⟩

/-- A step done with each record of an open stream, under bounds that are not reached. -/
theorem run_forEachUpTo {records : List Record} {ending : Except Failure Unit}
    (hyields : Yields tree stream records ending) (hopen : stream.IsOpen) {lines bound : Nat}
    (hlines : stream.linesAtMost tree < lines) (hbound : stream.linesAtMost tree < bound)
    (state : σ) :
    let steps := (Action.each step records).run state
    let outcome := (forEachUpTo tree lines step bound).run (state, stream)
    outcome.result = (steps.result.bind fun _ => ending) ∧ outcome.state.1 = steps.state := by
  -- Each record takes a line, so the bound stays above the lines that are left.
  induction bound generalizing stream records state with
  | zero => omega
  | succ bound ih =>
      have hpull := run_pullUpTo_of_isOpen hopen hlines state
      intro steps outcome
      cases hyields with
      | exhausted h =>
          rw [h] at hpull
          simp [outcome, steps, forEachUpTo, Action.run_bind, hpull, Action.each, Except.bind]
      | failed h =>
          rw [h] at hpull
          simp [outcome, steps, forEachUpTo, Action.run_bind, hpull, Action.each, Except.bind]
      | @record _ record rest _ h hrest =>
          have hrun := run_forEachUpTo_of_record step hopen hlines h bound state
          cases hstep : ((step record).run state).result with
          | error failure =>
              have hsteps := Action.run_each_cons_of_error hstep rest
              have houtcome := hrun.2 failure hstep
              simp [outcome, steps, houtcome, hsteps, Except.bind]
          | ok value =>
              obtain ⟨hless, hafter⟩ := linesAtMost_lt_of_next_some hopen h
              have hsteps := Action.run_each_cons_of_ok hstep rest
              have houtcome := hrun.1 hstep
              simp only [outcome, steps, houtcome, hsteps]
              exact ih hrest hafter (by omega) (by omega) ((step record).run state).state

/-- When the step fails with a record of an open stream, the records after that one are left. -/
theorem yields_forEachUpTo_of_error {before later : List Record} {record : Record}
    {ending : Except Failure Unit} {failure : Failure}
    (hyields : Yields tree stream (before ++ record :: later) ending) (hopen : stream.IsOpen)
    {lines bound : Nat} (hlines : stream.linesAtMost tree < lines)
    (hbound : stream.linesAtMost tree < bound) {state : σ}
    (hbefore : ((Action.each step before).run state).result = .ok ())
    (hrecord : ((step record).run ((Action.each step before).run state).state).result =
      .error failure) :
    Yields tree ((forEachUpTo tree lines step bound).run (state, stream)).state.2 later ending := by
  induction bound generalizing stream before state with
  | zero => omega
  | succ bound ih =>
      cases before with
      | nil =>
          cases hyields with
          | record h hrest =>
              have houtcome :=
                (run_forEachUpTo_of_record step hopen hlines h bound state).2 failure hrecord
              rw [houtcome.2]
              exact hrest
      | cons first before =>
          cases hyields with
          | record h hrest =>
              cases hfirst : ((step first).run state).result with
              | error fault =>
                  cases (Action.run_each_cons_of_error hfirst before).1.symm.trans hbefore
              | ok value =>
                  obtain ⟨hless, hafter⟩ := linesAtMost_lt_of_next_some hopen h
                  have hsteps := Action.run_each_cons_of_ok hfirst before
                  have houtcome :=
                    (run_forEachUpTo_of_record step hopen hlines h bound state).1 hfirst
                  rw [houtcome.2]
                  exact ih hrest hafter (by omega) (by omega) (hsteps.1 ▸ hbefore)
                    (hsteps.2 ▸ hrecord)

/-- A step done with each record that is left is done with each record that the stream yields; if it
never fails, the end is that of the stream. -/
theorem run_forEach {records : List Record} {ending : Except Failure Unit}
    (hyields : Yields tree stream records ending) (state : σ) :
    let steps := (Action.each step records).run state
    let outcome := (forEach tree step).run (state, stream)
    outcome.result = (steps.result.bind fun _ => ending) ∧ outcome.state.1 = steps.state := by
  intro steps outcome
  rcases openFile_cases tree stream with ⟨failure, hfailure⟩ | ⟨after, events, hopen, hafter⟩
  · -- A file that cannot be opened gives no records, and its failure is the end.
    have hfailed : Yields tree stream [] (.error failure) :=
      .failed (Action.run_bind_of_error (fun _ => pull tree) hfailure).1
    rcases hfailed.unique hyields with ⟨rfl, rfl⟩
    simp [outcome, steps, forEach, Action.run_bind, hfailure, Action.each, Except.bind]
  · have hnext := run_next_of_openFile hopen hafter
    have hthen := run_forEachUpTo step (hyields.congr ⟨hnext.1.symm, hnext.2.symm⟩)
      hafter (Nat.lt_succ_self _) (Nat.lt_succ_self _) state
    simp only [outcome, forEach, Action.run_bind, Action.run_onSecond, hopen, Action.run_state]
    exact hthen

/-- When the step fails with a record, the records after that one are left in the stream. -/
theorem yields_forEach_of_error {before later : List Record} {record : Record}
    {ending : Except Failure Unit} {failure : Failure}
    (hyields : Yields tree stream (before ++ record :: later) ending) {state : σ}
    (hbefore : ((Action.each step before).run state).result = .ok ())
    (hrecord : ((step record).run ((Action.each step before).run state).state).result =
      .error failure) :
    Yields tree ((forEach tree step).run (state, stream)).state.2 later ending := by
  rcases openFile_cases tree stream with ⟨fault, hfault⟩ | ⟨after, events, hopen, hafter⟩
  · -- A file that cannot be opened gives no records at all.
    have hfailed : Yields tree stream [] (.error fault) :=
      .failed (Action.run_bind_of_error (fun _ => pull tree) hfault).1
    cases (List.append_eq_nil_iff.1 (hfailed.unique hyields).1).2
  · have hnext := run_next_of_openFile hopen hafter
    have hthen := yields_forEachUpTo_of_error step
      (hyields.congr ⟨hnext.1.symm, hnext.2.symm⟩) hafter (Nat.lt_succ_self _)
      (Nat.lt_succ_self _) hbefore hrecord
    simp only [forEach, Action.run_bind, Action.run_onSecond, hopen, Action.run_state]
    exact hthen

end Steps

/-- Reading all records gives those that the stream yields, provided that it does not fail. -/
theorem result_records {yielded : List Record} {ending : Except Failure Unit}
    (hyields : Yields tree stream yielded ending) :
    ((records tree).run stream).result = ending.map fun _ => yielded := by
  -- Collecting never fails, so only the end of the stream can make it fail.
  let collect : Record → Action (List Record) Unit := fun record done =>
    ⟨.ok (), record :: done, []⟩
  have hcollect : ∀ items done,
      ((Action.each collect items).run done).result = .ok () ∧
        ((Action.each collect items).run done).state = items.reverse ++ done := by
    intro items
    induction items with
    | nil => exact fun done => ⟨rfl, rfl⟩
    | cons item rest ih =>
        intro done
        have hitem : ((collect item).run done).result = .ok () := rfl
        have hstate : ((collect item).run done).state = item :: done := rfl
        have hsteps := Action.run_each_cons_of_ok hitem rest
        rw [hsteps.1, hsteps.2, hstate]
        simpa using ih (item :: done)
  have hrun := run_forEach collect hyields []
  dsimp only at hrun
  rw [(hcollect yielded []).1, (hcollect yielded []).2, List.append_nil] at hrun
  change ((forEach tree collect).run ([], stream)).result.map
    (fun _ => ((forEach tree collect).run ([], stream)).state.1.reverse) = _
  rw [hrun.1, hrun.2, List.reverse_reverse]
  rfl

end TraceStream
end ReflectiveCalls
