import Mathlib.Data.List.Forall2
import ReflectiveCalls.Proofs.Index.Acceptance

/-!
# Proofs.Index.Verdict — what decides whether a record is taken

Over textual class data a record is refused for its class, for the name of its method or for its
target, and for nothing else: not for its line, and not for what the builder has recorded.  So two
runs over records go in step as soon as the verdicts on their records do, whatever the builders have
recorded and whatever the two models look like.

- `Record.verdict`: whether a record is taken (`Builder.run_addRecord_of_open`).
- `Model.Awaits`: a model that some records have led to, and that further ones will find textual.
- `Builder.run_addRecords_of_mirrors`: runs go in step if the verdicts mirror each other.
- `Index.run_ofRecords_of_mirrors`: the same of the indexes of two lists of records.
-/

namespace ReflectiveCalls

open ReflectiveCalls.Action (Matched Mirrors)

/-- Everything that may refuse a record. -/
def Record.verdict (record : Record) (tree : Tree) : Action Model Unit := do
  let decl ← Model.sourceClass tree record.sourceClass
  if (decl.methodsNamed record.sourceMethod).isEmpty then
    Action.report (.unknownSourceMethod record.sourceClass record.sourceMethod)
  else
    Builder.checkTarget record

/-! ## Models that wait for records -/

namespace Model

/-- The known model is the one that the records that are done lead to, and all classes to which
these and the records to come lead are textual. -/
structure Awaits (model : Model) (tree : Tree) (done records : List Record) (known : Model) :
    Prop where
  covers : model.Covers tree done known
  textual : ∀ decl, model.Reaches tree (done ++ records) decl → decl.Textual

namespace Awaits

variable {tree : Tree} {model known : Model} {record : Record} {done records : List Record}

theorem start (hmodel : model.Coherent)
    (htextual : ∀ decl, model.Reaches tree records decl → decl.Textual) :
    model.Awaits tree [] records model where
  covers := .start hmodel tree
  textual := htextual

/-- The class of the next record, if it is found, is textual. -/
theorem textual_of_sourceClass (h : model.Awaits tree done (record :: records) known)
    {decl : ClassDecl}
    (hfinding : ((sourceClass tree record.sourceClass).run known).result = .ok decl) :
    decl.Textual := by
  have hreached : model.Reaches tree (done ++ [record]) decl :=
    Reaches.append_singleton_iff.2 (.inr (h.covers.sourceClass hfinding).1)
  exact h.textual decl (hreached.mono (by simp))

/-- Once the next record is taken, the model waits for those after it. -/
theorem addRecord (h : model.Awaits tree done (record :: records) known) {builder : Builder}
    (hadded : ((Builder.addRecord tree record).run (known, builder)).result = .ok ()) :
    model.Awaits tree (done ++ [record]) records
      ((Builder.addRecord tree record).run (known, builder)).state.1 where
  covers := (h.covers.addRecord hadded).2
  textual := by simpa using h.textual

end Awaits

end Model

namespace Builder

variable {tree : Tree} {model known otherModel otherKnown : Model}
  {builder otherBuilder : Builder} {done otherDone records others : List Record}

/-- A builder that is open takes a record of textual data, or refuses it, by the verdict alone. -/
theorem run_addRecord_of_open {record : Record} (hopen : builder.built = false)
    (htextual : ∀ decl, ((Model.sourceClass tree record.sourceClass).run known).result = .ok decl →
      decl.Textual) :
    ((addRecord tree record).run (known, builder)).result =
        ((record.verdict tree).run known).result ∧
      ((addRecord tree record).run (known, builder)).state.1 =
        ((record.verdict tree).run known).state := by
  have hopened := run_checkOpen builder
  unfold addRecord Record.verdict
  simp only [Action.run_bind, Action.run_onFirst, Action.run_onSecond, hopened.1, hopened.2.2 hopen,
    Model.resolve]
  cases hfinding : ((Model.sourceClass tree record.sourceClass).run known).result with
  | error failure => exact ⟨rfl, rfl⟩
  | ok decl =>
      rcases Model.methodsMeant_cases decl record.sourceClass record.sourceMethod record.line
          ((Model.sourceClass tree record.sourceClass).run known).state with
        ⟨hstate, ⟨hnamed, hmeant⟩ | ⟨hnil, hmeant⟩ | ⟨method, hmethod, fault, hfault, -⟩⟩
      · -- Methods are meant, so it is up to the target; recording them cannot fail.
        have hcheck := run_checkTarget record
          ((Model.sourceClass tree record.sourceClass).run known).state
        have hrecording : ((recordAll record.operation record.target
            (decl.attributed record.sourceMethod record.line)).run builder).result = .ok () :=
          result_recordAll (fun method hmethod => (htextual decl hfinding).2 method
            (ClassDecl.mem_of_mem_attributed hmethod)) _ _ _
        cases hchecked : ((checkTarget record).run
            ((Model.sourceClass tree record.sourceClass).run known).state).result <;>
          simp [hmeant, hstate, hnamed, hchecked, hcheck.1, hrecording]
      · simp [hmeant, hstate, hnil]
      · rcases ((htextual decl hfinding).2 method hmethod).exists_signature with
          ⟨signature, hsignature⟩
        cases hfault.symm.trans hsignature

/-- Records of which the verdicts mirror each other go the same way: the same one is refused with
the same failure, or none is, and the models stay in the relation. -/
theorem run_addRecords_of_mirrors {states : Model → Model → Prop} {pairs : Record → Record → Prop}
    (hverdict : ∀ record other, pairs record other →
      Mirrors states Eq (record.verdict tree) (other.verdict tree))
    (hpairs : List.Forall₂ pairs records others)
    (hawaits : model.Awaits tree done records known)
    (hotherAwaits : otherModel.Awaits tree otherDone others otherKnown)
    (hopen : builder.built = false) (hotherOpen : otherBuilder.built = false)
    (hstates : states known otherKnown) :
    ((addRecords tree others).run (otherKnown, otherBuilder)).result =
        ((addRecords tree records).run (known, builder)).result ∧
      states ((addRecords tree records).run (known, builder)).state.1
        ((addRecords tree others).run (otherKnown, otherBuilder)).state.1 := by
  -- Both runs come to the next record with models in the relation, whatever has been recorded.
  induction hpairs generalizing done otherDone known otherKnown builder otherBuilder with
  | nil => exact ⟨rfl, hstates⟩
  | @cons record other records others hpair _ ih =>
      have hfirst := run_addRecord_of_open hopen fun _ => hawaits.textual_of_sourceClass
      have hother := run_addRecord_of_open hotherOpen fun _ => hotherAwaits.textual_of_sourceClass
      rcases hverdict record other hpair known otherKnown hstates with ⟨hmatched, hmodels⟩
      have hresult : ((addRecord tree other).run (otherKnown, otherBuilder)).result =
          ((addRecord tree record).run (known, builder)).result := by
        rw [hfirst.1, hother.1, hmatched.eq]
      rw [← hfirst.2, ← hother.2] at hmodels
      cases hadded : ((addRecord tree record).run (known, builder)).result with
      | error failure =>
          have hrefused := Action.run_bind_of_error (fun _ => addRecords tree records) hadded
          have hotherRefused := Action.run_bind_of_error (fun _ => addRecords tree others)
            (hresult.trans hadded)
          rw [addRecords, addRecords, hrefused.1, hrefused.2, hotherRefused.1, hotherRefused.2]
          exact ⟨rfl, hmodels⟩
      | ok value =>
          have htaken := Action.run_bind_of_ok (fun _ => addRecords tree records) hadded
          have hotherTaken := Action.run_bind_of_ok (fun _ => addRecords tree others)
            (hresult.trans hadded)
          rw [addRecords, addRecords, htaken.1, htaken.2, hotherTaken.1, hotherTaken.2]
          have hstillOpen := (keeps_asOpen_addRecord tree record (known, builder)).trans hopen
          have hotherStillOpen :=
            (keeps_asOpen_addRecord tree other (otherKnown, otherBuilder)).trans hotherOpen
          exact ih (hawaits.addRecord hadded) (hotherAwaits.addRecord (hresult.trans hadded))
            hstillOpen hotherStillOpen hmodels

end Builder

namespace Index

/-- Lists of records of which the verdicts mirror each other both have an index, or they fail in the
same way; the models that are left stand in the relation. -/
theorem run_ofRecords_of_mirrors {tree : Tree} {model other : Model} {records others : List Record}
    {states : Model → Model → Prop} {pairs : Record → Record → Prop}
    (hverdict : ∀ record otherRecord, pairs record otherRecord →
      Mirrors states Eq (record.verdict tree) (otherRecord.verdict tree))
    (hpairs : List.Forall₂ pairs records others)
    (hmodel : model.Coherent) (htextual : ∀ decl, model.Reaches tree records decl → decl.Textual)
    (hother : other.Coherent)
    (hotherTextual : ∀ decl, other.Reaches tree others decl → decl.Textual)
    (hstates : states model other) :
    let outcome := (ofRecords tree records).run model
    let otherOutcome := (ofRecords tree others).run other
    ((∃ index, outcome.result = .ok index) ↔ ∃ index, otherOutcome.result = .ok index) ∧
      (∀ failure, outcome.result = .error failure ↔ otherOutcome.result = .error failure) ∧
      states outcome.state otherOutcome.state := by
  intro outcome otherOutcome
  have hadding := Builder.run_addRecords_of_mirrors hverdict hpairs (.start hmodel htextual)
    (.start hother hotherTextual) (rfl : Builder.empty.built = false)
    (rfl : Builder.empty.built = false) hstates
  have hrun := run_ofRecords tree records model
  have hotherRun := run_ofRecords tree others other
  refine ⟨?_, fun failure => ?_, ?_⟩
  · rw [exists_ofRecords_iff, exists_ofRecords_iff, hadding.1]
  · rw [hrun.1, hotherRun.1, hadding.1]
    cases ((Builder.addRecords tree records).run (model, .empty)).result <;> simp [Except.map]
  · rw [hrun.2, hotherRun.2]
    exact hadding.2

end Index
end ReflectiveCalls
