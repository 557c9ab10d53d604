import ReflectiveCalls.Proofs.Index.RecordOrder
import ReflectiveCalls.Proofs.Index.Verdict

/-!
# Proofs.Index.LineErasure — records whose lines are not known

The line of a call narrows down in which of several methods of one name it stands, and does nothing
else.  So records without their lines are taken or refused as before, with the same failure and the
same classes loaded; and what they are attributed to only grows, by methods of the same class and
name.

- `Record.Unlined`: a record as it is, or without its line; the line has no part in the verdict on
  it.
- `Index.run_ofRecords_unlined`: the two runs go in step.
- `Index.ofRecords_unlined`: the index with the lines against the one without.
-/

namespace ReflectiveCalls

open ReflectiveCalls.Action (Mirrors)

/-- A textual method equals itself. -/
theorem MethodDecl.Textual.same_self {method : MethodDecl} (h : method.Textual) :
    method.same method = true := by
  obtain ⟨key, hkey⟩ := h.exists_identity
  exact (MethodDecl.same_iff hkey method).2 hkey

/-! ## Attribution without a line -/

namespace ClassDecl

variable {decl : ClassDecl} {name : String}

/-- Where the line is unknown, all methods of the name may be meant. -/
theorem attributed_unknownLine : decl.attributed name unknownLine = decl.methodsNamed name := by
  simp [attributed]

end ClassDecl

/-! ## Records without lines -/

namespace Record

/-- The other record is this one, with its line or without it. -/
def Unlined (record other : Record) : Prop :=
  other = record ∨ other = { record with line := unknownLine }

variable {record other : Record}

theorem Unlined.verdict_eq (h : record.Unlined other) (tree : Tree) :
    other.verdict tree = record.verdict tree := by
  rcases h with rfl | rfl <;> rfl

theorem Unlined.sourceClass_eq (h : record.Unlined other) :
    other.sourceClass = record.sourceClass := by
  rcases h with rfl | rfl <;> rfl

/-- Without its line, a record tells no less than with it. -/
theorem Unlined.tells (h : record.Unlined other) {model : Model} {operation : Operation}
    {method : MethodDecl} {target : String} (htells : record.Tells model operation method target) :
    other.Tells model operation method target := by
  rcases h with rfl | rfl
  · exact htells
  · obtain ⟨hoperation, htarget, decl, hclass, hmethod⟩ := htells
    refine ⟨hoperation, htarget, decl, hclass, ?_⟩
    rw [ClassDecl.attributed_unknownLine]
    exact ClassDecl.mem_methodsNamed_of_mem_attributed hmethod

/-- What a record tells without its line, of some method of the name, it tells with the line too, of
one that may be another. -/
theorem Unlined.exists_tells (h : record.Unlined other) {model : Model} {operation : Operation}
    {method : MethodDecl} {target : String} (htells : other.Tells model operation method target) :
    record.operation = operation ∧ record.target = target ∧
      ∃ decl, model.class? record.sourceClass = some decl ∧
        method ∈ decl.methodsNamed record.sourceMethod ∧
        ∃ narrowed ∈ decl.attributed record.sourceMethod record.line,
          record.Tells model operation narrowed target := by
  have hnamed : record.operation = operation ∧ record.target = target ∧
      ∃ decl, model.class? record.sourceClass = some decl ∧
        method ∈ decl.methodsNamed record.sourceMethod := by
    obtain ⟨hoperation, htarget, decl, hclass, hmethod⟩ := htells
    have hmem := ClassDecl.mem_methodsNamed_of_mem_attributed hmethod
    rcases h with rfl | rfl
    · exact ⟨hoperation, htarget, decl, hclass, hmem⟩
    · exact ⟨hoperation, htarget, decl, hclass, hmem⟩
  obtain ⟨hoperation, htarget, decl, hclass, hmem⟩ := hnamed
  -- The line leaves at least one of the methods of the name.
  have hsome : decl.attributed record.sourceMethod record.line ≠ [] :=
    mt ClassDecl.attributed_eq_nil_iff.1 (List.ne_nil_of_mem hmem)
  obtain ⟨narrowed, hnarrowed⟩ := List.exists_mem_of_ne_nil _ hsome
  exact ⟨hoperation, htarget, decl, hclass, hmem, narrowed, hnarrowed,
    hoperation, htarget, decl, hclass, hnarrowed⟩

end Record

namespace Index

variable {tree : Tree} {model : Model} {records others : List Record}

/-- Records without their lines have an index exactly if they have one with them, and otherwise fail
in the same way; the model is left the same. -/
theorem run_ofRecords_unlined (hmodel : model.Coherent)
    (htextual : ∀ decl, model.Reaches tree records decl → decl.Textual)
    (hlines : List.Forall₂ Record.Unlined records others) :
    ((∃ index, ((ofRecords tree records).run model).result = .ok index) ↔
        ∃ other, ((ofRecords tree others).run model).result = .ok other) ∧
      (∀ failure, ((ofRecords tree records).run model).result = .error failure ↔
        ((ofRecords tree others).run model).result = .error failure) ∧
      ((ofRecords tree records).run model).state = ((ofRecords tree others).run model).state := by
  have hverdict : ∀ record other : Record, record.Unlined other →
      Mirrors Eq Eq (record.verdict tree) (other.verdict tree) := by
    intro record other hline
    rw [hline.verdict_eq]
    exact Mirrors.refl _
  have hotherTextual : ∀ decl, model.Reaches tree others decl → decl.Textual := by
    rintro decl (hdecl | ⟨other, hother, havailable⟩)
    · exact htextual decl (.inl hdecl)
    · obtain ⟨record, hrecord, hline⟩ : ∃ record ∈ records, record.Unlined other :=
        exists_of_forall₂_of_mem hlines.flip hother
      exact htextual decl (.inr ⟨record, hrecord, hline.sourceClass_eq ▸ havailable⟩)
  exact run_ofRecords_of_mirrors hverdict hlines hmodel htextual hmodel hotherTextual rfl

/-- For textual class data, in the model as in the class files of the records, the lines of records
only narrow down what the records are attributed to.  Without some of the lines, the records have an
index exactly if they have one with them; if they have none, the failure is the same; and the same
classes are loaded.  If there are indexes, then every target that is listed with the lines is listed
without them, and a target that is listed without them comes from a record that lists it, with the
lines, for some method of the same class and name. -/
theorem ofRecords_unlined {classPath : Option Path} (hmodel : (Model.empty classPath).Grows model)
    (htextual : model.Textual)
    (hfiles : ∀ record ∈ records, ∀ path decl,
      model.classFile? record.sourceClass = .ok (some path) →
      Model.readClass tree path = .ok decl → decl.Textual)
    (hlines : List.Forall₂ Record.Unlined records others) :
    let lined := (ofRecords tree records).run model
    let unlined := (ofRecords tree others).run model
    ((∃ index, lined.result = .ok index) ↔ ∃ other, unlined.result = .ok other) ∧
      (∀ failure, lined.result = .error failure ↔ unlined.result = .error failure) ∧
      lined.state = unlined.state ∧
      ∀ index other, lined.result = .ok index → unlined.result = .ok other →
        ∀ operation container target,
          (index.Records operation container target → other.Records operation container target) ∧
          (other.Records operation container target → ∃ record ∈ records,
            record.operation = operation ∧ record.target = target ∧
            ∃ decl, lined.state.class? record.sourceClass = some decl ∧
              (∃ method ∈ decl.methodsNamed record.sourceMethod, method.same container = true) ∧
              ∃ method ∈ decl.methodsNamed record.sourceMethod,
                index.Records operation method target) := by
  intro lined unlined
  have hcoherent := hmodel.coherent (Model.coherent_empty classPath)
  have hreached : ∀ decl, model.Reaches tree records decl → decl.Textual :=
    fun decl hdecl => hdecl.of_files htextual hfiles
  obtain ⟨hexists, hfailures, hstate⟩ := run_ofRecords_unlined hcoherent hreached hlines
  refine ⟨hexists, hfailures, hstate, ?_⟩
  intro index other hindex hother operation container target
  have hcovers := (covers_of_ofRecords_ok hcoherent hindex).2
  have hknown : lined.state.Textual := fun decl hdecl =>
    hreached decl ((hcovers.mem_classes_iff decl).1 hdecl)
  have hrecords := records_ofRecords_iff hcoherent hindex hknown operation
  have hothers := records_ofRecords_iff hcoherent hother (hstate ▸ hknown) operation
  rw [← hstate] at hothers
  -- Each record of the one list stands beside one of the other, in either direction.
  constructor
  · intro h
    obtain ⟨record, hrecord, method, htells, hsame⟩ := (hrecords container target).1 h
    obtain ⟨erased, herased, hline⟩ := exists_of_forall₂_of_mem hlines hrecord
    exact (hothers container target).2 ⟨erased, herased, method, hline.tells htells, hsame⟩
  · intro h
    obtain ⟨erased, herased, method, htells, hsame⟩ := (hothers container target).1 h
    obtain ⟨record, hrecord, hline⟩ : ∃ record ∈ records, record.Unlined erased :=
      exists_of_forall₂_of_mem hlines.flip herased
    obtain ⟨hoperation, htarget, decl, hclass, hnamed, narrowed, hnarrowed, hlined⟩ :=
      hline.exists_tells htells
    have htextual : narrowed.Textual :=
      (hknown decl (List.mem_of_find?_eq_some hclass)).2 narrowed
        (ClassDecl.mem_of_mem_attributed hnarrowed)
    have hlisted : index.Records operation narrowed target :=
      (hrecords narrowed target).2 ⟨record, hrecord, narrowed, hlined, htextual.same_self⟩
    exact ⟨record, hrecord, hoperation, htarget, decl, hclass, ⟨method, hnamed, hsame⟩,
      narrowed, ClassDecl.mem_methodsNamed_of_mem_attributed hnarrowed, hlisted⟩

/-- Without the line that singles out one of two methods, a call is still taken, and listed wherever
it was. -/
theorem ofRecords_unlined_sample :
    let erased := { Sample.callOfItem with line := unknownLine }
    let others := [Sample.callFromItem, erased, Sample.callOfCart]
    List.Forall₂ Record.Unlined Sample.calls others ∧
      ∃ index other, ((ofRecords Sample.tree Sample.calls).run Sample.model).result = .ok index ∧
        ((ofRecords Sample.tree others).run Sample.model).result = .ok other ∧
        ∀ operation container target,
          index.Records operation container target → other.Records operation container target := by
  intro erased others
  have hlines : List.Forall₂ Record.Unlined Sample.calls others :=
    .cons (.inl rfl) (.cons (.inr rfl) (.cons (.inl rfl) .nil))
  have htextual : Sample.model.Textual := by
    decide +kernel
  obtain ⟨hexists, -, -, hviews⟩ := ofRecords_unlined Sample.model_grown htextual
    (fun record hrecord path decl hpath hread =>
      (Sample.files_plain record hrecord path decl hpath hread).textual) hlines
  obtain ⟨index, hindex⟩ := Action.exists_eq_ok_of_isOk Sample.isOk_calls
  obtain ⟨other, hother⟩ := hexists.1 ⟨index, hindex⟩
  exact ⟨hlines, index, other, hindex, hother, fun operation container target =>
    (hviews index other hindex hother operation container target).1⟩

end Index
end ReflectiveCalls
