import Mathlib.Data.List.Pairwise
import ReflectiveCalls.Proofs.Index.Recorded
import ReflectiveCalls.Proofs.Index.Streaming
import ReflectiveCalls.Proofs.Program.Availability

/-!
# Proofs.Index.Acceptance — which records are taken

Adding a record may load the class of its call site, and what it loads is there for the records that
follow.  All the same, whether a list of records is taken can be told beforehand, from the model one
starts with and the class files: after some records, the model has the classes that it had and those
of the records, and no others.

- `Model.Reaches`: the classes to which records lead.
- `Record.Acceptable`: what is asked of a record that comes after others.
- `Model.Covers`: the model has grown as far as some records lead, and no further; it holds after
  any records that are taken (`Model.Covers.addRecords`).
- `Model.Covers.addRecords_of_acceptable`: records that are acceptable one after the other are taken
  if the classes to which they lead are `Model.Joinable`.
- `Index.ofRecords_iff_acceptable`: for plain class data, records have an index exactly if they are
  acceptable one after the other.
-/

namespace ReflectiveCalls

/-! ## What records lead to -/

/-- The class is one of the model, or it can be had as the class of one of the records. -/
def Model.Reaches (model : Model) (tree : Tree) (records : List Record) (decl : ClassDecl) : Prop :=
  decl ∈ model.classes ∨ ∃ record ∈ records, model.Available tree record.sourceClass decl

namespace Record

/-- The class of the call site can be had, and it declares a method of the name. -/
def SourceKnown (record : Record) (model : Model) (tree : Tree) : Prop :=
  ∃ decl, model.Available tree record.sourceClass decl ∧
    ∃ method ∈ decl.methods, method.name = .str record.sourceMethod

/-- If the target has to name a method, it is the signature of a method of some class to which the
records before and this one lead. -/
def TargetKnown (record : Record) (model : Model) (tree : Tree) (before : List Record) : Prop :=
  record.operation.targetsMethod = true → ∃ decl, model.Reaches tree (before ++ [record]) decl ∧
    ∃ method ∈ decl.methods, method.signature = .ok record.target

/-- What is asked of a record that comes after others. -/
def Acceptable (record : Record) (model : Model) (tree : Tree) (before : List Record) : Prop :=
  record.SourceKnown model tree ∧ record.TargetKnown model tree before

end Record

namespace Model

variable {tree : Tree} {model known : Model} {records done : List Record} {decl : ClassDecl}

namespace Reaches

theorem append_singleton_iff {record : Record} :
    model.Reaches tree (records ++ [record]) decl ↔
      model.Reaches tree records decl ∨ model.Available tree record.sourceClass decl := by
  simp only [Reaches, List.mem_append, List.mem_singleton, or_and_right, exists_or,
    exists_eq_left, or_assoc]

theorem mono {others : List Record} (h : model.Reaches tree records decl)
    (hsubset : records ⊆ others) : model.Reaches tree others decl :=
  h.imp_right fun ⟨record, hrecord, havailable⟩ => ⟨record, hsubset hrecord, havailable⟩

/-- What holds of the classes of the model and of the class files of the records holds of every
class to which they lead. -/
theorem of_files {p : ClassDecl → Prop} (h : model.Reaches tree records decl)
    (hclasses : ∀ decl ∈ model.classes, p decl)
    (hfiles : ∀ record ∈ records, ∀ path decl,
      model.classFile? record.sourceClass = .ok (some path) →
      readClass tree path = .ok decl → p decl) : p decl := by
  rcases h with hdecl | ⟨record, hrecord, hclass | ⟨-, ⟨path, hpath, -, hread, -⟩, -⟩⟩
  · exact hclasses decl hdecl
  · exact hclasses decl (List.mem_of_find?_eq_some hclass)
  · exact hfiles record hrecord path decl hpath hread

/-- A class to which records lead can be had under its own name. -/
theorem available (hmodel : model.Coherent) (h : model.Reaches tree records decl) {name : String}
    (hname : decl.name = .str name) : model.Available tree name decl := by
  rcases h with hdecl | ⟨record, -, havailable⟩
  · exact Or.inl (hmodel.class?_eq_some_iff.2 ⟨hdecl, hname⟩)
  · have hsame : record.sourceClass = name := by
      simpa using havailable.name_eq.symm.trans hname
    exact hsame ▸ havailable

end Reaches

/-- The classes to which the records lead can stand side by side in one model. -/
structure Joinable (model : Model) (tree : Tree) (records : List Record) : Prop where
  textual : ∀ decl, model.Reaches tree records decl → decl.Textual
  apart : ∀ decl other, model.Reaches tree records decl → model.Reaches tree records other →
    decl ≠ other → decl.Apart other

theorem Joinable.mono {others : List Record} (h : model.Joinable tree records)
    (hsubset : others ⊆ records) : model.Joinable tree others where
  textual := fun decl hdecl => h.textual decl (hdecl.mono hsubset)
  apart := fun decl other hdecl hother =>
    h.apart decl other (hdecl.mono hsubset) (hother.mono hsubset)

/-! ## A model that has grown with its records -/

/-- The known model is the one that the records lead to: it has grown out of the model, and its
classes are those that the records reach. -/
structure Covers (model : Model) (tree : Tree) (records : List Record) (known : Model) : Prop where
  started : model.Coherent
  coherent : known.Coherent
  grown : known.Extends model
  mem_classes_iff : ∀ decl, decl ∈ known.classes ↔ model.Reaches tree records decl

theorem Covers.start (hmodel : model.Coherent) (tree : Tree) : model.Covers tree [] model where
  started := hmodel
  coherent := hmodel
  grown := .refl model
  mem_classes_iff := by simp [Reaches]

namespace Covers

theorem joinable (h : model.Covers tree records known) (htextual : known.Textual) :
    model.Joinable tree records where
  textual := fun decl hdecl => htextual decl ((h.mem_classes_iff decl).2 hdecl)
  apart := fun decl other hdecl hother hne =>
    h.coherent.pairwise_apart.forall ((h.mem_classes_iff decl).2 hdecl)
      ((h.mem_classes_iff other).2 hother) hne

theorem available_of_class? (h : model.Covers tree done known) {name : String}
    (hclass : known.class? name = some decl) : model.Available tree name decl := by
  rcases h.coherent.class?_eq_some_iff.1 hclass with ⟨hdecl, hname⟩
  exact ((h.mem_classes_iff decl).1 hdecl).available h.started hname

theorem class?_eq_none (h : model.Covers tree done known) {name : String}
    (hnone : known.class? name = none) : model.class? name = none := by
  cases hclass : model.class? name with
  | none => rfl
  | some found => cases hnone.symm.trans (h.grown.class?_eq_some hclass)

/-- The class of a call site is the one that can be had, and once it is found, the model has grown
as far as the record leads. -/
theorem sourceClass (h : model.Covers tree done known) {record : Record}
    (hresult : ((Model.sourceClass tree record.sourceClass).run known).result = .ok decl) :
    model.Available tree record.sourceClass decl ∧ model.Covers tree (done ++ [record])
      ((Model.sourceClass tree record.sourceClass).run known).state := by
  rcases sourceClass_cases h.coherent hresult with ⟨hclass, hstate⟩ | ⟨hnone, hfiles, hregister⟩
  · -- The class was there already, so the record leads no further.
    have havailable := h.available_of_class? hclass
    have hdecl := (h.coherent.class?_eq_some_iff.1 hclass).1
    rw [hstate]
    refine ⟨havailable, h.started, h.coherent, h.grown, ?_⟩
    intro other
    rw [Reaches.append_singleton_iff, h.mem_classes_iff]
    constructor
    · exact Or.inl
    · rintro (hother | hother)
      · exact hother
      · exact havailable.unique hother ▸ (h.mem_classes_iff decl).1 hdecl
  · -- The class was registered just now, and it is what the record leads to.
    have hcoherent := h.coherent.register hregister
    have hclasses := classes_of_register hregister
    have hdecl : decl ∈ ((Model.sourceClass tree record.sourceClass).run known).state.classes := by
      simp [hclasses]
    have havailable : model.Available tree record.sourceClass decl :=
      Or.inr ⟨h.class?_eq_none hnone, (files_congr h.grown.classPath).1 hfiles,
        hcoherent.pairwise_methods hdecl⟩
    refine ⟨havailable, h.started, hcoherent,
      (h.coherent.extends_register hregister).trans h.grown, ?_⟩
    intro other
    rw [hclasses, List.mem_append, List.mem_singleton, Reaches.append_singleton_iff,
      h.mem_classes_iff]
    refine or_congr_right ⟨?_, havailable.unique⟩
    rintro rfl
    exact havailable

/-- A class that can be had is found, if it can stand beside those that are registered. -/
theorem exists_sourceClass (h : model.Covers tree done known) {record : Record}
    (hjoin : model.Joinable tree (done ++ [record]))
    (havailable : model.Available tree record.sourceClass decl) :
    ((Model.sourceClass tree record.sourceClass).run known).result = .ok decl := by
  cases hclass : known.class? record.sourceClass with
  | some found =>
      rw [run_sourceClass_of_class? hclass, havailable.unique (h.available_of_class? hclass)]
  | none =>
      -- What the model had at the start it has still, so the class is in its file.
      rcases havailable with hmodel | ⟨-, hfiles, hdistinct⟩
      · cases hclass.symm.trans (h.grown.class?_eq_some hmodel)
      · have hnone := h.class?_eq_none hclass
        have hreached : model.Reaches tree (done ++ [record]) decl :=
          Reaches.append_singleton_iff.2 (Or.inr (Or.inr ⟨hnone, hfiles, hdistinct⟩))
        have hname : decl.name = .str record.sourceClass := by
          rcases hfiles with ⟨path, -, -, -, hname⟩
          exact hname
        have hsigned : ∀ method ∈ decl.methods, ∃ signature, method.signature = .ok signature :=
          fun method hmethod => ((hjoin.textual decl hreached).2 method hmethod).exists_signature
        -- No registered class has the name, so each of them is another one.
        have hapart : ∀ other ∈ known.classes, other.Apart decl := by
          intro other hother
          have hotherReached := (h.mem_classes_iff other).1 hother
          refine hjoin.apart other decl (Reaches.append_singleton_iff.2 (Or.inl hotherReached))
            hreached ?_
          rintro rfl
          have hfound := h.coherent.class?_eq_some_iff.2 ⟨hother, hname⟩
          cases hclass.symm.trans hfound
        rcases h.coherent.exists_register (Json.key?_eq_text_iff.2 hname) hclass hsigned hdistinct
          hapart with ⟨after, hregister⟩
        exact (run_sourceClass_of_files h.coherent hclass
          ((files_congr h.grown.classPath).2 hfiles) hregister).1

end Covers

/-! ## Methods of call sites -/

/-- Methods are meant if the class declares one of the name and all have signatures. -/
theorem result_methodsMeant {methodName : String}
    (hsigned : ∀ method ∈ decl.methods, ∃ signature, method.signature = .ok signature)
    (hnamed : decl.methodsNamed methodName ≠ []) (className : String) (line : Int) (known : Model) :
    ((methodsMeant decl className methodName line).run known).result =
      .ok (decl.attributed methodName line) := by
  rcases methodsMeant_cases decl className methodName line known with
    ⟨-, ⟨-, hresult⟩ | ⟨hnil, -⟩ | ⟨method, hmethod, fault, hfault, -⟩⟩
  · exact hresult
  · exact absurd hnil hnamed
  · rcases hsigned method hmethod with ⟨signature, hsignature⟩
    cases hfault.symm.trans hsignature

end Model

/-! ## Adding records -/

namespace Builder

variable {tree : Tree} {record : Record} {known : Model} {builder : Builder} {decl : ClassDecl}

theorem result_recordAll {methods : List MethodDecl} (h : ∀ method ∈ methods, method.Textual)
    (operation : Operation) (target : String) (builder : Builder) :
    ((recordAll operation target methods).run builder).result = .ok () := by
  induction methods generalizing builder with
  | nil => rfl
  | cons method rest ih =>
      have hmethod := h method List.mem_cons_self
      rcases hmethod.exists_identity with ⟨key, hkey⟩
      rcases hmethod.exists_signature with ⟨signature, hsignature⟩
      have hfirst := (run_record hkey hsignature operation target builder).1
      rw [recordAll, (Action.run_bind_of_ok _ hfirst).1]
      exact ih (fun other hother => h other (List.mem_cons_of_mem _ hother)) _

/-- A record that is taken: its class was found, and declares a method of the name; its target, if
it has to name a method, is known then, and finding the class is all that happened to the model. -/
theorem exists_of_addRecord_ok
    (h : ((addRecord tree record).run (known, builder)).result = .ok ()) :
    let finding := (Model.sourceClass tree record.sourceClass).run known
    ∃ decl, finding.result = .ok decl ∧ decl.methodsNamed record.sourceMethod ≠ [] ∧
      (record.operation.targetsMethod = true →
        finding.state.containsMethod record.target = true) ∧
      ((addRecord tree record).run (known, builder)).state.1 = finding.state := by
  intro finding
  rcases Action.exists_of_bind_ok h with ⟨_, -, hafter, hstate⟩
  rw [Action.run_onSecond, (run_checkOpen builder).1] at hafter hstate
  rcases Action.exists_of_bind_ok hafter with ⟨methods, hresolve, hafter, hafterState⟩
  have hresolve : ((Model.resolve tree record.sourceClass record.sourceMethod record.line).run
      known).result = .ok methods := hresolve
  rcases Action.exists_of_bind_ok hresolve with ⟨decl, hfinding, hmeant, hmeantState⟩
  have hrun := Model.run_methodsMeant decl record.sourceClass record.sourceMethod record.line
    finding.state
  have hresolved : ((Model.resolve tree record.sourceClass record.sourceMethod record.line).run
      known).state = finding.state := hmeantState.trans hrun.1
  rw [Action.run_onFirst] at hafter hafterState
  simp only [hresolved] at hafter hafterState
  -- What is left after the methods are found looks at the model, and changes the builder alone.
  have hcheck := run_checkTarget record finding.state
  rcases Action.exists_of_bind_ok hafter with ⟨_, htarget, -, hlastState⟩
  refine ⟨decl, hfinding, ?_, hcheck.2.1 htarget, ?_⟩
  · rcases hrun.2 methods hmeant with ⟨rfl, hne⟩
    exact mt ClassDecl.attributed_eq_nil_iff.2 hne
  · exact (congrArg Prod.fst ((hstate.trans hafterState).trans hlastState)).trans hcheck.1

/-- A record is taken if its class is found, is textual and declares a method of the name, and its
target, if it has to name a method, is known then. -/
theorem result_addRecord (hopen : builder.built = false)
    (hfinding : ((Model.sourceClass tree record.sourceClass).run known).result = .ok decl)
    (htextual : decl.Textual) (hnamed : decl.methodsNamed record.sourceMethod ≠ [])
    (htarget : record.operation.targetsMethod = true →
      ((Model.sourceClass tree record.sourceClass).run known).state.containsMethod record.target =
        true) :
    ((addRecord tree record).run (known, builder)).result = .ok () := by
  have hsigned : ∀ method ∈ decl.methods, ∃ signature, method.signature = .ok signature :=
    fun method hmethod => (htextual.2 method hmethod).exists_signature
  have hmeant := Model.result_methodsMeant hsigned hnamed record.sourceClass record.line
    ((Model.sourceClass tree record.sourceClass).run known).state
  have hresolve := Action.run_bind_of_ok (fun decl =>
    Model.methodsMeant decl record.sourceClass record.sourceMethod record.line) hfinding
  have hresult := hresolve.1.trans hmeant
  have hstate := hresolve.2.trans (Model.run_methodsMeant decl record.sourceClass
    record.sourceMethod record.line _).1
  have hopened := run_checkOpen builder
  have hcheck := run_checkTarget record
    ((Model.sourceClass tree record.sourceClass).run known).state
  have hrecording : ∀ before : Builder, ((recordAll record.operation record.target
      (decl.attributed record.sourceMethod record.line)).run before).result = .ok () :=
    result_recordAll (fun method hmethod =>
      htextual.2 method (ClassDecl.mem_of_mem_attributed hmethod)) _ _
  -- None of the steps of adding fails, and only the first part of them touches the model.
  unfold addRecord
  rw [← Model.resolve] at hresult hstate
  simp only [Action.run_bind, Action.run_onFirst, Action.run_onSecond, hopened.2.2 hopen, hopened.1,
    hresult, hstate, hcheck.2.2 htarget, hcheck.1, hrecording]

end Builder

namespace Model.Covers

variable {tree : Tree} {model known : Model} {done : List Record} {builder : Builder}

theorem containsMethod_iff (h : model.Covers tree done known) {signature : String} :
    known.containsMethod signature = true ↔
      ∃ decl, model.Reaches tree done decl ∧ ∃ method ∈ decl.methods,
        method.signature = .ok signature := by
  simp only [h.coherent.containsMethod_iff, h.mem_classes_iff]

/-- A record that is taken was acceptable, and leaves the model as grown as it leads to. -/
theorem addRecord (h : model.Covers tree done known) {record : Record}
    (hresult : ((Builder.addRecord tree record).run (known, builder)).result = .ok ()) :
    record.Acceptable model tree done ∧ model.Covers tree (done ++ [record])
      ((Builder.addRecord tree record).run (known, builder)).state.1 := by
  rcases Builder.exists_of_addRecord_ok hresult with ⟨decl, hfinding, hnamed, htarget, hstate⟩
  rcases h.sourceClass hfinding with ⟨havailable, hcovers⟩
  rw [hstate]
  refine ⟨⟨⟨decl, havailable, ClassDecl.methodsNamed_ne_nil_iff.1 hnamed⟩, ?_⟩, hcovers⟩
  intro htargets
  exact hcovers.containsMethod_iff.1 (htarget htargets)

/-- An acceptable record is taken, if the classes to which it leads can stand side by side. -/
theorem addRecord_of_acceptable (h : model.Covers tree done known) {record : Record}
    (hacceptable : record.Acceptable model tree done)
    (hjoin : model.Joinable tree (done ++ [record])) (hopen : builder.built = false) :
    ((Builder.addRecord tree record).run (known, builder)).result = .ok () := by
  rcases hacceptable with ⟨⟨decl, havailable, hnamed⟩, htarget⟩
  have hfinding := h.exists_sourceClass hjoin havailable
  have hcovers := (h.sourceClass hfinding).2
  have hreached : model.Reaches tree (done ++ [record]) decl :=
    Reaches.append_singleton_iff.2 (Or.inr havailable)
  refine Builder.result_addRecord hopen hfinding (hjoin.textual decl hreached)
    (ClassDecl.methodsNamed_ne_nil_iff.2 hnamed) ?_
  intro htargets
  exact hcovers.containsMethod_iff.2 (htarget htargets)

/-- Records that are all taken were acceptable one after the other, and leave the model as grown as
they lead to. -/
theorem addRecords (h : model.Covers tree done known) {records : List Record}
    (hresult : ((Builder.addRecords tree records).run (known, builder)).result = .ok ()) :
    (∀ before record after, records = before ++ record :: after →
        record.Acceptable model tree (done ++ before)) ∧
      model.Covers tree (done ++ records)
        ((Builder.addRecords tree records).run (known, builder)).state.1 := by
  -- The record that was taken joins those that are done, and the invariant goes with it.
  induction records generalizing done known builder with
  | nil =>
      rw [List.append_nil]
      exact ⟨by simp, h⟩
  | cons first rest ih =>
      rcases Action.exists_of_bind_ok hresult with ⟨_, hfirst, hrest, hstate⟩
      rcases h.addRecord hfirst with ⟨hacceptable, hcovers⟩
      rcases ih hcovers hrest with ⟨hrestAcceptable, hrestCovers⟩
      rw [List.append_assoc] at hrestCovers
      refine ⟨?_, (congrArg Prod.fst hstate) ▸ hrestCovers⟩
      -- A record is either the first one or comes after it.
      intro before record after hsplit
      cases before with
      | nil =>
          cases hsplit
          simpa using hacceptable
      | cons head before =>
          cases hsplit
          simpa using hrestAcceptable before record after rfl

/-- Records that are acceptable one after the other are all taken, if the classes to which they lead
can stand side by side. -/
theorem addRecords_of_acceptable (h : model.Covers tree done known) {records : List Record}
    (hacceptable : ∀ before record after, records = before ++ record :: after →
      record.Acceptable model tree (done ++ before))
    (hjoin : model.Joinable tree (done ++ records)) (hopen : builder.built = false) :
    ((Builder.addRecords tree records).run (known, builder)).result = .ok () := by
  -- The rest finds a model that has grown by the first record, as its acceptability supposes.
  induction records generalizing done known builder with
  | nil => rfl
  | cons first rest ih =>
      have hsplit : done ++ first :: rest = (done ++ [first]) ++ rest := by
        simp
      rw [hsplit] at hjoin
      have hfirstAcceptable : first.Acceptable model tree done := by
        simpa using hacceptable [] first rest rfl
      have hfirst := h.addRecord_of_acceptable hfirstAcceptable
        (hjoin.mono (List.subset_append_left _ _)) hopen
      have hstillOpen := (Builder.keeps_asOpen_addRecord tree first (known, builder)).trans hopen
      rw [Builder.addRecords, (Action.run_bind_of_ok _ hfirst).1]
      refine ih (h.addRecord hfirst).2 ?_ hjoin hstillOpen
      intro before record after hrest
      simpa using hacceptable (first :: before) record after (by rw [hrest]; rfl)

end Model.Covers

/-! ## Indexes of lists -/

/-- Plain classes can stand side by side. -/
theorem Model.joinable_of_plain {tree : Tree} {model : Model} {records : List Record}
    (hmodel : model.Coherent) (hplain : ∀ decl, model.Reaches tree records decl → decl.Plain) :
    model.Joinable tree records where
  textual := fun decl hdecl => (hplain decl hdecl).textual
  apart := by
    intro decl other hdecl hother hne
    refine (hplain decl hdecl).apart (hplain other hother) fun heq => hne ?_
    -- Under one name, only one class can be had.
    rcases Json.isText_iff.1 (hplain decl hdecl).textual.1 with ⟨name, hname⟩
    exact (hother.available hmodel (heq ▸ hname)).unique (hdecl.available hmodel hname)

namespace Index

variable {tree : Tree} {model : Model} {records : List Record}

/-- Records with an index were acceptable one after the other, and leave the model as grown as they
lead to. -/
theorem covers_of_ofRecords_ok (hmodel : model.Coherent) {index : Index}
    (h : ((ofRecords tree records).run model).result = .ok index) :
    (∀ before record after, records = before ++ record :: after →
        record.Acceptable model tree before) ∧
      model.Covers tree records ((ofRecords tree records).run model).state := by
  have hadding := exists_ofRecords_iff.1 ⟨index, h⟩
  have hcovers := (Model.Covers.start hmodel tree).addRecords hadding
  rw [(run_ofRecords tree records model).2]
  simpa using hcovers

/-- Records have an index exactly if they are acceptable one after the other, provided that the
classes to which they lead can stand side by side. -/
theorem exists_ofRecords_iff_acceptable (hmodel : model.Coherent)
    (hjoin : model.Joinable tree records) :
    (∃ index, ((ofRecords tree records).run model).result = .ok index) ↔
      ∀ before record after, records = before ++ record :: after →
        record.Acceptable model tree before := by
  constructor
  · rintro ⟨index, hindex⟩
    exact (covers_of_ofRecords_ok hmodel hindex).1
  · intro hacceptable
    have hstart := Model.Covers.start hmodel tree
    refine exists_ofRecords_iff.2 (hstart.addRecords_of_acceptable ?_ ?_ rfl)
    · simpa using hacceptable
    · simpa using hjoin

/-- For plain class data, in the model as in the class files of the records, a list of records has
an index exactly if each record is acceptable where it stands: the class of its call site is
registered at the start, or is what the class file of that name holds, under different signatures;
it declares a method of the name; and a target that has to name a method is the signature of a
method of some class that was registered at the start or that is the class of this record or of one
before.  If there is an index, then the classes that are registered in the end are those of the
start and those of the records. -/
theorem ofRecords_iff_acceptable {classPath : Option Path}
    (hmodel : (Model.empty classPath).Grows model) (hclasses : ∀ decl ∈ model.classes, decl.Plain)
    (hfiles : ∀ record ∈ records, ∀ path decl,
      model.classFile? record.sourceClass = .ok (some path) →
      Model.readClass tree path = .ok decl → decl.Plain) :
    let outcome := (ofRecords tree records).run model
    ((∃ index, outcome.result = .ok index) ↔
        ∀ before record after, records = before ++ record :: after →
          record.Acceptable model tree before) ∧
      ∀ index, outcome.result = .ok index →
        ∀ decl, decl ∈ outcome.state.classes ↔ model.Reaches tree records decl := by
  intro outcome
  -- Plain classes cannot get into each other's way, since a signature tells the class it is from.
  have hcoherent := hmodel.coherent (Model.coherent_empty classPath)
  have hplain : ∀ decl, model.Reaches tree records decl → decl.Plain :=
    fun decl hdecl => hdecl.of_files hclasses hfiles
  refine ⟨exists_ofRecords_iff_acceptable hcoherent (Model.joinable_of_plain hcoherent hplain), ?_⟩
  intro index hindex
  exact (covers_of_ofRecords_ok hcoherent hindex).2.mem_classes_iff

end Index

namespace Sample

/-- The data of a method without parameters or body on the given lines. -/
def methodData (types : List String) (first last : Int) : Json :=
  .obj [("name", .str "add"), ("return_type", .str "void"),
    ("parameter_types", .arr (types.map .str)),
    ("line_range", .obj [("start", .int first), ("end", .int last)])]

theorem cart_plain : cart.Plain where
  read := ⟨.obj [("name", .str "shop.Cart"),
    ("methods", .arr [methodData ["int"] 3 5, methodData ["long", "int"] 7 9])], by rfl⟩
  textual := by decide +kernel
  colonless := by decide +kernel

/-- A call in a method of a class that is not loaded yet. -/
def callFromItem : Record := ⟨.classForName, "shop.Cart", "shop.Item", "drop", unknownLine, 1⟩

/-- A call of the method of that class. -/
def callOfItem : Record := call .methodInvoke "<shop.Item: void drop()>" 8

/-- A call that has nothing to do with that class. -/
def callOfCart : Record := call .classForName "shop.Cart" 4

/-- The three calls. -/
def calls : List Record := [callFromItem, callOfItem, callOfCart]

/-- The class files of the calls hold nothing but plain class data. -/
theorem files_plain : ∀ record ∈ calls, ∀ path decl,
    model.classFile? record.sourceClass = .ok (some path) →
    Model.readClass tree path = .ok decl → decl.Plain := by
  have hcheck : ∀ record ∈ calls,
      (match model.classFile? record.sourceClass with
        | .ok (some path) =>
            match Model.readClass tree path with
            | .ok decl => decide (decl.Textual ∧ ':' ∉ decl.name.plain.toList)
            | .error _ => true
        | .ok none | .error _ => true) = true := by
    decide +kernel
  intro record hrecord path decl hpath hread
  have hdecl := hcheck record hrecord
  simp only [hpath, hread, decide_eq_true_eq] at hdecl
  exact ⟨Model.exists_data_of_readClass hread, hdecl.1, hdecl.2⟩

theorem isOk_calls : ((Index.ofRecords tree calls).run model).result.isOk = true := by
  decide +kernel

theorem model_grown : (Model.empty (some classPath)).Grows model :=
  Model.grows_registerAll model_built

end Sample

/-- A class is loaded for a call in one of its methods, and so the call of that method is taken
after it; all records are acceptable where they stand. -/
theorem Index.ofRecords_iff_acceptable_sample :
    ((Index.ofRecords Sample.tree Sample.calls).run Sample.model).result.isOk = true ∧
      ∀ before record after, Sample.calls = before ++ record :: after →
        record.Acceptable Sample.model Sample.tree before := by
  have hiff := (Index.ofRecords_iff_acceptable Sample.model_grown
    (fun decl hdecl => List.mem_singleton.1 hdecl ▸ Sample.cart_plain) Sample.files_plain).1
  exact ⟨Sample.isOk_calls, hiff.1 (Action.exists_eq_ok_of_isOk Sample.isOk_calls)⟩

end ReflectiveCalls
