import ReflectiveCalls.Index.FromTrace
import ReflectiveCalls.Proofs.Attribution
import ReflectiveCalls.Proofs.History
import ReflectiveCalls.Proofs.Trace.Iteration

/-!
# Proofs.Index.Streaming — a trace added as it is read

The records of a trace are added while it is read, so a record that is refused ends the reading, and
a line that cannot be read ends the adding.  The outcome is that of reading the trace first: the
records that come out of it are added one after the other, and only if none is refused does the end
of the trace count.

- `Builder.run_addTrace`: adding a trace is adding the records that it yields.
- `Builder.Refused`: the first record that is refused, and what it leaves.
- `Index.run_ofRecords`: the index of records is what a builder has recorded with all of them.
- `Index.ofTrace_eq_ofRecords`: the index of a trace, or else the failure and what is left behind.
-/

namespace ReflectiveCalls

open ReflectiveCalls.Action (Keeps)

namespace Builder

variable {tree : Tree}

/-! ## Records one after the other -/

theorem addRecords_eq_each (tree : Tree) (records : List Record) :
    addRecords tree records = Action.each (addRecord tree) records := by
  induction records with
  | nil => rfl
  | cons record rest ih => rw [addRecords, ih, Action.each]

/-- Adding what is left of a stream is adding the records that it yields; if none is refused, the
end is that of the stream. -/
theorem run_addStream {stream : TraceStream} {records : List Record}
    {ending : Except Failure Unit} (hyields : TraceStream.Yields tree stream records ending)
    (state : Model × Builder) :
    ((addStream tree).run (state, stream)).result =
        (((addRecords tree records).run state).result.bind fun _ => ending) ∧
      ((addStream tree).run (state, stream)).state.1 =
        ((addRecords tree records).run state).state := by
  rw [addRecords_eq_each]
  exact TraceStream.run_forEach (addRecord tree) hyields state

/-- Adding a trace is adding the records that it yields; if none is refused, the end is that of the
trace. -/
theorem run_addTrace {path : Path} {encoding : String} {records : List Record}
    {ending : Except Failure Unit}
    (hyields : TraceStream.Yields tree (.unopened path encoding) records ending)
    (state : Model × Builder) :
    ((addTrace tree path encoding).run state).result =
        (((addRecords tree records).run state).result.bind fun _ => ending) ∧
      ((addTrace tree path encoding).run state).state =
        ((addRecords tree records).run state).state :=
  run_addStream hyields state

/-- One of the records is refused, while those before it are taken by a new builder over the model;
`failure` is why, and `left` is what has become of the model then. -/
def Refused (tree : Tree) (model : Model) (records : List Record) (failure : Failure)
    (left : Model) : Prop :=
  ∃ before record after, records = before ++ record :: after ∧
    let taking := (addRecords tree before).run (model, .empty)
    let refusing := (addRecord tree record).run taking.state
    taking.result = .ok () ∧ refusing.result = .error failure ∧ refusing.state.1 = left

/-- Adding records fails exactly if one of them is refused, and ends there. -/
theorem result_addRecords_eq_error_iff {records : List Record} {model : Model}
    {failure : Failure} :
    ((addRecords tree records).run (model, .empty)).result = .error failure ↔
      Refused tree model records failure
        ((addRecords tree records).run (model, .empty)).state.1 := by
  unfold Refused
  simp only [addRecords_eq_each]
  rw [Action.result_each_eq_error_iff]
  constructor
  · rintro ⟨before, record, after, rfl, hbefore, hrecord⟩
    refine ⟨before, record, after, rfl, hbefore, hrecord, ?_⟩
    rw [(Action.run_each_append_of_ok hbefore _).2, (Action.run_each_cons_of_error hrecord after).2]
  · rintro ⟨before, record, after, rfl, hbefore, hrecord, -⟩
    exact ⟨before, record, after, rfl, hbefore, hrecord⟩

/-! ## The index is not given away -/

/-- The builder is as open as before. -/
abbrev AsOpen (before after : Model × Builder) : Prop := after.2.built = before.2.built

instance : Std.Refl AsOpen := ⟨fun _ => rfl⟩

instance : IsTrans (Model × Builder) AsOpen := ⟨fun _ _ _ hfirst hthen => hthen.trans hfirst⟩

theorem built_recordAll (operation : Operation) (target : String) (methods : List MethodDecl)
    (builder : Builder) :
    ((recordAll operation target methods).run builder).state.built = builder.built := by
  have hrecord : ∀ method (builder : Builder),
      ((record operation target method).run builder).state.built = builder.built := by
    intro method builder
    unfold record
    cases method.identity with
    | error fault => rfl
    | ok key => cases method.signature <;> rfl
  -- A method that has no signature ends the recording, and leaves the builder as it is.
  induction methods generalizing builder with
  | nil => rfl
  | cons method rest ih =>
      cases hresult : ((record operation target method).run builder).result with
      | error failure =>
          rw [recordAll, (Action.run_bind_of_error _ hresult).2]
          exact hrecord method builder
      | ok value =>
          rw [recordAll, (Action.run_bind_of_ok _ hresult).2, ih]
          exact hrecord method builder

theorem keeps_asOpen_addRecord (tree : Tree) (record : Record) :
    Keeps AsOpen (addRecord tree record) := by
  -- The steps on the model do not touch the builder at all.
  refine Keeps.bind (fun state => congrArg built (run_checkOpen state.2).1) fun _ => ?_
  refine Keeps.bind (fun state => rfl) fun methods => ?_
  exact Keeps.bind (fun state => rfl) fun _ state => built_recordAll _ _ methods state.2

theorem keeps_asOpen_addRecords (tree : Tree) (records : List Record) :
    Keeps AsOpen (addRecords tree records) := by
  induction records with
  | nil => exact Keeps.pure ()
  | cons record rest ih => exact Keeps.bind (keeps_asOpen_addRecord tree record) fun _ => ih

/-- Records that are all taken give an index. -/
theorem result_build_addRecords (tree : Tree) (records : List Record) (model : Model) :
    let state := ((addRecords tree records).run (model, .empty)).state
    (build.run state.2).result = .ok ⟨state.2.recorded⟩ := by
  intro state
  have hopen : state.2.built = false := keeps_asOpen_addRecords tree records (model, .empty)
  exact (@World.building_result_iff ⟨tree, state.1, state.2⟩ _).2 ⟨hopen, rfl⟩

end Builder

/-- A list of records that are all taken is a history. -/
theorem World.run_map_addRecord {world : World} {records : List Record}
    (h : ((Builder.addRecords world.tree records).run
      (world.model, world.builder)).result = .ok ()) :
    let adding := (Builder.addRecords world.tree records).run (world.model, world.builder)
    world.run (records.map .addRecord) = ⟨world.tree, adding.state.1, adding.state.2⟩ ∧
      world.taken (records.map .addRecord) = records := by
  induction records generalizing world with
  | nil => exact ⟨rfl, rfl⟩
  | cons record rest ih =>
      rcases Action.exists_of_bind_ok h with ⟨_, hfirst, hrest, hstate⟩
      have hadding : (world.adding record).result = .ok () := hfirst
      rcases @ih (world.after (.addRecord record)) hrest with ⟨hrun, htaken⟩
      intro adding
      have hadded : adding.state = _ := hstate
      rw [hadded]
      refine ⟨hrun, ?_⟩
      rw [List.map_cons, taken, takes_of_ok hadding, htaken, List.singleton_append]

namespace Index

/-! ## Indexes of lists and of traces -/

variable {tree : Tree} {model : Model}

/-- The index of records is what a builder has recorded when it has taken them all. -/
theorem run_ofRecords (tree : Tree) (records : List Record) (model : Model) :
    let adding := (Builder.addRecords tree records).run (model, .empty)
    ((ofRecords tree records).run model).result =
        (adding.result.map fun _ => ⟨adding.state.2.recorded⟩) ∧
      ((ofRecords tree records).run model).state = adding.state.1 := by
  intro adding
  have hbuild := Builder.result_build_addRecords tree records model
  change ((Builder.addRecords tree records >>= fun _ => Action.onSecond Builder.build).run
    (model, .empty)).result = _ ∧ ((Builder.addRecords tree records >>= fun _ =>
      Action.onSecond Builder.build).run (model, .empty)).state.1 = _
  cases hresult : adding.result with
  | error failure =>
      have hrun := Action.run_bind_of_error (fun _ => Action.onSecond Builder.build) hresult
      exact ⟨hrun.1, congrArg Prod.fst hrun.2⟩
  | ok value =>
      have hrun := Action.run_bind_of_ok (fun _ => Action.onSecond Builder.build) hresult
      exact ⟨hrun.1.trans hbuild, (congrArg Prod.fst hrun.2).trans rfl⟩

/-- There is an index of records exactly if all of them are taken. -/
theorem exists_ofRecords_iff {records : List Record} :
    (∃ index, ((ofRecords tree records).run model).result = .ok index) ↔
      ((Builder.addRecords tree records).run (model, .empty)).result = .ok () := by
  rw [(run_ofRecords tree records model).1]
  cases ((Builder.addRecords tree records).run (model, .empty)).result <;> simp [Except.map]

/-- The index of a trace is what a builder has recorded when it has taken all records that the trace
yields and the trace has ended without a failure. -/
theorem run_ofTrace {path : Path} {encoding : String} {records : List Record}
    {ending : Except Failure Unit}
    (hyields : TraceStream.Yields tree (.unopened path encoding) records ending) (model : Model) :
    let adding := (Builder.addRecords tree records).run (model, .empty)
    ((ofTrace tree path encoding).run model).result =
        ((adding.result.bind fun _ => ending).map fun _ => ⟨adding.state.2.recorded⟩) ∧
      ((ofTrace tree path encoding).run model).state = adding.state.1 := by
  intro adding
  have hadd := Builder.run_addTrace hyields (model, .empty)
  have hbuild := Builder.result_build_addRecords tree records model
  change ((Builder.addTrace tree path encoding >>= fun _ => Action.onSecond Builder.build).run
    (model, .empty)).result = _ ∧ ((Builder.addTrace tree path encoding >>= fun _ =>
      Action.onSecond Builder.build).run (model, .empty)).state.1 = _
  -- The index is built from where the adding of the trace ended.
  rw [← hadd.1]
  cases hresult : ((Builder.addTrace tree path encoding).run (model, .empty)).result with
  | error failure =>
      have hrun := Action.run_bind_of_error (fun _ => Action.onSecond Builder.build) hresult
      rw [hrun.1, hrun.2, hadd.2]
      exact ⟨rfl, rfl⟩
  | ok value =>
      have hrun := Action.run_bind_of_ok (fun _ => Action.onSecond Builder.build) hresult
      rw [hrun.1, hrun.2, Action.run_onSecond, hadd.2]
      exact ⟨hbuild, rfl⟩

/-- The index of a trace is that of the records that the trace yields, if it yields them without a
failure.  Otherwise the failure is that of the first of these records that is refused, and the model
is left as it was when that record had been refused; or, if none is refused, it is the failure with
which the trace ended, and the model is left as it was when all of them had been added. -/
theorem ofTrace_eq_ofRecords (tree : Tree) (path : Path) (encoding : String) (model : Model) :
    ∃ records ending,
      (∀ others last, TraceStream.Yields tree (.unopened path encoding) others last ↔
        others = records ∧ last = ending) ∧
      ((TraceStream.records tree).run (.unopened path encoding)).result =
        ending.map (fun _ => records) ∧
      let traced := (ofTrace tree path encoding).run model
      let listed := (ofRecords tree records).run model
      let adding := (Builder.addRecords tree records).run (model, .empty)
      (∀ index, traced.result = .ok index ↔ ending = .ok () ∧ listed.result = .ok index) ∧
      (∀ failure, traced.result = .error failure ↔
        Builder.Refused tree model records failure traced.state ∨
          adding.result = .ok () ∧ ending = .error failure ∧ traced.state = adding.state.1) ∧
      traced.state = listed.state := by
  rcases TraceStream.exists_yields_iff tree (.unopened path encoding) with
    ⟨records, ending, hiff⟩
  have hyields := (hiff records ending).2 ⟨rfl, rfl⟩
  refine ⟨records, ending, hiff, TraceStream.result_records hyields, ?_⟩
  intro traced listed adding
  have htraced : traced.result = _ ∧ traced.state = adding.state.1 := run_ofTrace hyields model
  have hlisted : listed.result = _ ∧ listed.state = adding.state.1 :=
    run_ofRecords tree records model
  have hrefused : ∀ failure, adding.result = .error failure ↔
      Builder.Refused tree model records failure adding.state.1 := fun failure =>
    Builder.result_addRecords_eq_error_iff
  -- Either some record is refused, or it is up to the end of the trace.
  refine ⟨fun index => ?_, fun failure => ?_, htraced.2.trans hlisted.2.symm⟩
  · rw [htraced.1, hlisted.1]
    cases adding.result <;> cases ending <;> simp [Except.map, Except.bind]
  · rw [htraced.1, htraced.2, ← hrefused]
    cases adding.result <;> cases ending <;> simp [Except.map, Except.bind]

end Index

/-! ## A trace in an installed encoding -/

namespace Sample

/-- The character of an octet in ISO 8859-15, which is that of ISO 8859-1 but for eight. -/
def latin9Char (octet : UInt8) : Char :=
  match octet with
  | 0xA4 => '€'
  | 0xA6 => 'Š'
  | 0xA8 => 'š'
  | 0xB4 => 'Ž'
  | 0xB8 => 'ž'
  | 0xBC => 'Œ'
  | 0xBD => 'œ'
  | 0xBE => 'Ÿ'
  | octet => Char.ofNat octet.toNat

/-- ISO 8859-15 decodes octet by octet, and so never keeps any. -/
def latin9 : Octets.Codec where
  fresh := 0
  decode _ _ data := .ok (data.map latin9Char, 0, [])
  flushes h := by
    cases h
    exact ⟨_, rfl⟩

/-- A trace in ISO 8859-15, where that is installed. -/
def priced : Tree :=
  let octets := "Class.forName;shop.".toUTF8.toList ++ [0xA4] ++ ";shop.Cart.add;4\n".toUTF8.toList
  let codec (name : String) : Except String Octets.Codec :=
    if name = "iso8859-15" then .ok latin9 else Runtime.usual.codec name
  ⟨[("prices.trace", .file 0)], [], [octets], { Runtime.usual with codec := codec }⟩

def pricesPath : Path := ⟨.here, ["prices.trace"]⟩

end Sample

/-- The trace is decoded as its encoding says: it has the index of a call of a class with the euro
sign. -/
theorem Index.ofTrace_eq_ofRecords_sample :
    let euro : Record := ⟨.classForName, "shop.€", "shop.Cart", "add", 4, 1⟩
    ∃ index,
      ((ofTrace Sample.priced Sample.pricesPath "iso8859-15").run Sample.model).result = .ok index ∧
        ((ofRecords Sample.priced [euro]).run Sample.model).result = .ok index := by
  intro euro
  obtain ⟨records, ending, -, hrecords, hindex, -⟩ :=
    ofTrace_eq_ofRecords Sample.priced Sample.pricesPath "iso8859-15" Sample.model
  have hread : ((TraceStream.records Sample.priced).run
      (.unopened Sample.pricesPath "iso8859-15")).result.toOption = some [euro] := by
    decide +kernel
  have hlisted : ((ofRecords Sample.priced [euro]).run Sample.model).result.isOk = true := by
    decide +kernel
  obtain ⟨index, hlisted⟩ := Action.exists_eq_ok_of_isOk hlisted
  rw [hrecords] at hread
  cases ending with
  | error failure => cases hread
  | ok value =>
      cases hread
      exact ⟨index, (hindex index).2 ⟨rfl, hlisted⟩, hlisted⟩

end ReflectiveCalls
