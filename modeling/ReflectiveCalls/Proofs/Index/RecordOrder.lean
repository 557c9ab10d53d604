import ReflectiveCalls.Proofs.Index.Acceptance
import ReflectiveCalls.Proofs.Index.Agreement

/-!
# Proofs.Index.RecordOrder — records in another order

A record asks two things of the model: the class of its call site, which is loaded if need be, and
its target, which has to be known already.  The first does not depend on the records before, the
second does.  So records in another order have an index exactly if each target is still known where
its record stands now, and then it is the same index.

- `World.accounts_ofRecords`: the index of a list of records holds what the records say.
- `Index.agrees_of_tells_iff`: records that tell the same have indexes that agree.
- `Index.agrees_of_perm`: records have indexes that agree, in whatever order they have one.
- `Index.ofRecords_perm`: when records in another order have an index.
-/

namespace ReflectiveCalls

variable {tree : Tree} {model : Model} {records others : List Record}

namespace World

/-! ## Records as a history -/

/-- The index of records holds what the records say. -/
theorem accounts_ofRecords (hmodel : model.Coherent) {index : Index}
    (h : ((Index.ofRecords tree records).run model).result = .ok index)
    (textual : ((Index.ofRecords tree records).run model).state.Textual) :
    ∃ builder : Builder, index.recorded = builder.recorded ∧
      Accounts ⟨tree, ((Index.ofRecords tree records).run model).state, builder⟩ records := by
  have hadding := Index.exists_ofRecords_iff.1 ⟨index, h⟩
  have hofRecords := Index.run_ofRecords tree records model
  rcases @run_map_addRecord (start tree model) _ hadding with ⟨hrun, htaken⟩
  have hindex := hofRecords.1.symm.trans h
  rw [hadding] at hindex
  cases hindex
  rw [hofRecords.2] at textual ⊢
  have haccounts := accounts_run (.start hmodel tree) (records.map .addRecord) (hrun ▸ textual)
  rw [hrun, htaken] at haccounts
  exact ⟨_, rfl, haccounts⟩

end World

/-- An index lists a target for a textual method exactly if one of the records tells so. -/
theorem Index.records_ofRecords_iff (hmodel : model.Coherent) {index : Index}
    (h : ((Index.ofRecords tree records).run model).result = .ok index)
    (textual : ((Index.ofRecords tree records).run model).state.Textual) (operation : Operation)
    (container : MethodDecl) (target : String) :
    index.Records operation container target ↔ ∃ record ∈ records, ∃ method,
      record.Tells ((Index.ofRecords tree records).run model).state operation method target ∧
        method.same container = true := by
  obtain ⟨builder, hrecorded, haccounts⟩ := World.accounts_ofRecords hmodel h textual
  have hsound := haccounts.sound.receivers operation
  constructor
  · rintro ⟨names, hnames, htarget⟩
    obtain ⟨key, hkey, rfl⟩ := Index.names_eq_ok_iff.1 hnames
    rw [hrecorded] at htarget
    obtain ⟨record, hrecord, method, htells, hmethod⟩ :=
      (haccounts.has_iff operation key target).1 (hsound.mem_targets_iff.1 htarget)
    exact ⟨record, hrecord, method, htells, (MethodDecl.same_iff hmethod container).2 hkey⟩
  · rintro ⟨record, hrecord, method, htells, hsame⟩
    obtain ⟨-, -, decl, hdecl, hmem⟩ := id htells
    obtain ⟨key, -, hmethod, -⟩ := haccounts.coherent.exists_key_and_signature textual hdecl
      (ClassDecl.mem_of_mem_attributed hmem)
    have hkey := (MethodDecl.same_iff hmethod container).1 hsame
    have hhas := (haccounts.has_iff operation key target).2
      ⟨record, hrecord, method, htells, hmethod⟩
    refine ⟨_, Index.names_eq_ok_iff.2 ⟨key, hkey, rfl⟩, ?_⟩
    rw [hrecorded]
    exact hsound.mem_targets_iff.2 hhas

/-! ## Records that tell the same -/

/-- Two lists of records, over models of their own, have indexes that agree if they tell the same
and all methods that are known after the first are known after the second. -/
theorem Index.agrees_of_tells_iff {otherTree : Tree} {other : Model} (hmodel : model.Coherent)
    (hother : other.Coherent) {index otherIndex : Index}
    (hindex : ((Index.ofRecords tree records).run model).result = .ok index)
    (hotherIndex : ((Index.ofRecords otherTree others).run other).result = .ok otherIndex)
    (htextual : ((Index.ofRecords tree records).run model).state.Textual)
    (hotherTextual : ((Index.ofRecords otherTree others).run other).state.Textual)
    (hmethods : ∀ signature method,
      ((Index.ofRecords tree records).run model).state.method? signature = some method →
      ((Index.ofRecords otherTree others).run other).state.method? signature = some method)
    (htells : ∀ operation method target,
      (∃ record ∈ records,
        record.Tells ((Index.ofRecords tree records).run model).state operation method target) ↔
      ∃ record ∈ others,
        record.Tells ((Index.ofRecords otherTree others).run other).state operation method target) :
    index.Agrees otherIndex := by
  rcases World.accounts_ofRecords hmodel hindex htextual with ⟨builder, hrecorded, haccounts⟩
  rcases World.accounts_ofRecords hother hotherIndex hotherTextual with
    ⟨otherBuilder, hotherRecorded, hotherAccounts⟩
  refine agrees_of_has_iff hotherAccounts.coherent hotherTextual
    (hrecorded ▸ haccounts.sound.mono hmethods) (hotherRecorded ▸ hotherAccounts.sound) ?_
  intro operation key target
  rw [hrecorded, hotherRecorded, haccounts.has_iff, hotherAccounts.has_iff]
  -- What is recorded under a key is what is told of the methods that count as it.
  constructor
  · rintro ⟨record, hrecord, method, hrecordTells, hkey⟩
    rcases (htells operation method target).1 ⟨record, hrecord, hrecordTells⟩ with
      ⟨found, hfound, hfoundTells⟩
    exact ⟨found, hfound, method, hfoundTells, hkey⟩
  · rintro ⟨record, hrecord, method, hrecordTells, hkey⟩
    rcases (htells operation method target).2 ⟨record, hrecord, hrecordTells⟩ with
      ⟨found, hfound, hfoundTells⟩
    exact ⟨found, hfound, method, hfoundTells, hkey⟩

/-! ## Models with the same classes -/

namespace Model.Coherent

variable {other : Model}

theorem classOf?_congr (h : model.Coherent) (hother : other.Coherent)
    (hclasses : ∀ decl, decl ∈ model.classes ↔ decl ∈ other.classes) (key : Json.Key) :
    model.classOf? key = other.classOf? key := by
  refine Option.ext fun decl => ?_
  rw [h.classOf?_eq_some_iff, hother.classOf?_eq_some_iff, hclasses]

theorem class?_congr (h : model.Coherent) (hother : other.Coherent)
    (hclasses : ∀ decl, decl ∈ model.classes ↔ decl ∈ other.classes) (name : String) :
    model.class? name = other.class? name :=
  h.classOf?_congr hother hclasses (.text name)

theorem method?_congr (h : model.Coherent) (hother : other.Coherent)
    (hclasses : ∀ decl, decl ∈ model.classes ↔ decl ∈ other.classes) (signature : String) :
    model.method? signature = other.method? signature := by
  refine Option.ext fun method => ?_
  simp only [h.method?_eq_some_iff, hother.method?_eq_some_iff, hclasses]

end Model.Coherent

/-! ## Records in another order -/

namespace Model

theorem Reaches.perm {decl : ClassDecl} (hperm : others.Perm records) :
    model.Reaches tree others decl ↔ model.Reaches tree records decl :=
  ⟨fun h => h.mono hperm.subset, fun h => h.mono hperm.symm.subset⟩

end Model

namespace Index

/-- If records have an index in either of two orders, then it shows the same in both. -/
theorem agrees_of_perm (hmodel : model.Coherent)
    (htextual : ∀ decl, model.Reaches tree records decl → decl.Textual)
    (hperm : others.Perm records) {index other : Index}
    (hindex : ((ofRecords tree records).run model).result = .ok index)
    (hother : ((ofRecords tree others).run model).result = .ok other) : index.Agrees other := by
  have hcovers := (covers_of_ofRecords_ok hmodel hindex).2
  have hotherCovers := (covers_of_ofRecords_ok hmodel hother).2
  -- Either way, the model ends with the classes to which the records lead.
  have hclasses : ∀ decl, decl ∈ ((ofRecords tree records).run model).state.classes ↔
      decl ∈ ((ofRecords tree others).run model).state.classes := by
    intro decl
    rw [hcovers.mem_classes_iff, hotherCovers.mem_classes_iff, Model.Reaches.perm hperm]
  have hknown : ((ofRecords tree records).run model).state.Textual := fun decl hdecl =>
    htextual decl ((hcovers.mem_classes_iff decl).1 hdecl)
  have hotherKnown : ((ofRecords tree others).run model).state.Textual := fun decl hdecl =>
    hknown decl ((hclasses decl).2 hdecl)
  have hsame := hcovers.coherent.class?_congr hotherCovers.coherent hclasses
  have hmethods := hcovers.coherent.method?_congr hotherCovers.coherent hclasses
  refine agrees_of_tells_iff hmodel hmodel hindex hother hknown hotherKnown
    (fun signature _ hmethod => (hmethods signature).symm.trans hmethod) ?_
  -- Each record tells the same in both models, and the two lists have the same records.
  intro operation method target
  simp only [Record.Tells, hsame, hperm.mem_iff]

/-- For textual class data, in the model as in the class files of the records, records that have an
index also have one in another order exactly if each target that has to name a method is, where its
record stands now, the signature of a method of some class that was registered at the start or that
is the class of this record or of one before.  In whatever orders they have an index, it shows the
same: the same names, call sites, counts and rows. -/
theorem ofRecords_perm {classPath : Option Path} (hmodel : (Model.empty classPath).Grows model)
    (htextual : model.Textual)
    (hfiles : ∀ record ∈ records, ∀ path decl,
      model.classFile? record.sourceClass = .ok (some path) →
      Model.readClass tree path = .ok decl → decl.Textual)
    (hperm : others.Perm records) :
    ((∃ index, ((ofRecords tree records).run model).result = .ok index) →
        ((∃ other, ((ofRecords tree others).run model).result = .ok other) ↔
          ∀ before record after, others = before ++ record :: after →
            record.TargetKnown model tree before)) ∧
      ∀ index other, ((ofRecords tree records).run model).result = .ok index →
        ((ofRecords tree others).run model).result = .ok other → index.Agrees other := by
  have hcoherent := hmodel.coherent (Model.coherent_empty classPath)
  have hreached : ∀ decl, model.Reaches tree records decl → decl.Textual :=
    fun decl hdecl => hdecl.of_files htextual hfiles
  refine ⟨?_, fun index other => agrees_of_perm hcoherent hreached hperm⟩
  rintro ⟨index, hindex⟩
  rcases covers_of_ofRecords_ok hcoherent hindex with ⟨hacceptable, hcovers⟩
  -- The classes stand side by side in the model that the records left, so they can in any order.
  have hjoin : model.Joinable tree others :=
    (hcovers.joinable fun decl hdecl => hreached decl ((hcovers.mem_classes_iff decl).1 hdecl)).mono
      hperm.subset
  rw [exists_ofRecords_iff_acceptable hcoherent hjoin]
  constructor
  · intro h before record after hsplit
    exact (h before record after hsplit).2
  · -- Whether the source of a record is known does not depend on its place.
    intro h before record after hsplit
    refine ⟨?_, h before record after hsplit⟩
    have hrecord : record ∈ records := hperm.subset (hsplit ▸ by simp)
    rcases List.append_of_mem hrecord with ⟨earlier, later, hrecords⟩
    exact (hacceptable earlier record later hrecords).1

theorem ofRecords_perm_sample :
    let others := [Sample.callOfCart, Sample.callFromItem, Sample.callOfItem]
    others.Perm Sample.calls ∧
      (∀ before record after, others = before ++ record :: after →
        record.TargetKnown Sample.model Sample.tree before) ∧
      ∃ index other, ((ofRecords Sample.tree Sample.calls).run Sample.model).result = .ok index ∧
        ((ofRecords Sample.tree others).run Sample.model).result = .ok other ∧
        index.Agrees other := by
  intro others
  have hperm : others.Perm Sample.calls := by
    decide
  have hother : ((ofRecords Sample.tree others).run Sample.model).result.isOk = true := by
    decide +kernel
  have htextual : Sample.model.Textual := by
    decide +kernel
  rcases Action.exists_eq_ok_of_isOk Sample.isOk_calls with ⟨index, hindex⟩
  rcases Action.exists_eq_ok_of_isOk hother with ⟨other, hother⟩
  rcases ofRecords_perm Sample.model_grown htextual
    (fun record hrecord path decl hpath hread =>
      (Sample.files_plain record hrecord path decl hpath hread).textual) hperm with ⟨hiff, hagrees⟩
  exact ⟨hperm, (hiff ⟨index, hindex⟩).1 ⟨other, hother⟩, index, other, hindex, hother,
    hagrees index other hindex hother⟩

/-- The order does matter: a call of a method whose class is only loaded for a later record is
refused, though the records have an index in another order. -/
theorem ofRecords_order_matters :
    let others := [Sample.callOfItem, Sample.callFromItem, Sample.callOfCart]
    (Model.empty (some Sample.classPath)).Grows Sample.model ∧ Sample.model.Textual ∧
      (∀ record ∈ Sample.calls, ∀ path decl,
        Sample.model.classFile? record.sourceClass = .ok (some path) →
        Model.readClass Sample.tree path = .ok decl → decl.Textual) ∧
      others.Perm Sample.calls ∧
      (∃ index, ((ofRecords Sample.tree Sample.calls).run Sample.model).result = .ok index) ∧
      ¬ ∃ other, ((ofRecords Sample.tree others).run Sample.model).result = .ok other := by
  intro others
  have hrefused : ((ofRecords Sample.tree others).run Sample.model).result.isOk = false := by
    decide +kernel
  refine ⟨Sample.model_grown, by decide +kernel, ?_, by decide,
    Action.exists_eq_ok_of_isOk Sample.isOk_calls, ?_⟩
  · intro record hrecord path decl hpath hread
    exact (Sample.files_plain record hrecord path decl hpath hread).textual
  · rintro ⟨other, hother⟩
    rw [hother] at hrefused
    cases hrefused

end Index
end ReflectiveCalls
