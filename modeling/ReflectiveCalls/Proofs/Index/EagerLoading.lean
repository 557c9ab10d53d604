import ReflectiveCalls.Proofs.Index.RecordOrder

/-!
# Proofs.Index.EagerLoading — classes registered beforehand

Classes are loaded when the first record of a call in them comes.  They might as well be registered
beforehand: a model that has all of them from the start takes the same records, needs no class file
any more, and gives an index that shows the same.

- `Model.Ready`: all classes that the records need are registered.
- `Index.state_ofRecords_of_ready`: records on such a model; it is left alone.
- `Model.classes_subset_of_further`: what was loaded is among the classes that were registered
  beforehand.
- `Index.ofRecords_eager`: the index on the one model and on the other.
-/

namespace ReflectiveCalls

namespace Model

variable {model other : Model} {tree : Tree} {records : List Record}

/-! ## Models with more classes -/

theorem containsClass_iff {name : String} :
    model.containsClass name = true ↔ some (.text name) ∈ model.classes.map (·.name.key?) := by
  simp [containsClass, class?, classOf?, ClassDecl.hasKey]

namespace Coherent

theorem class?_mono (h : model.Coherent) (hother : other.Coherent)
    (hclasses : model.classes ⊆ other.classes) {name : String} {decl : ClassDecl}
    (hclass : model.class? name = some decl) : other.class? name = some decl := by
  obtain ⟨hdecl, hname⟩ := h.class?_eq_some_iff.1 hclass
  exact hother.class?_eq_some_iff.2 ⟨hclasses hdecl, hname⟩

theorem method?_mono (h : model.Coherent) (hother : other.Coherent)
    (hclasses : model.classes ⊆ other.classes) {signature : String} {method : MethodDecl}
    (hmethod : model.method? signature = some method) :
    other.method? signature = some method := by
  obtain ⟨⟨decl, hdecl, hmem⟩, hsignature⟩ := h.method?_eq_some_iff.1 hmethod
  exact hother.method?_eq_some_iff.2 ⟨⟨decl, hclasses hdecl, hmem⟩, hsignature⟩

end Coherent

/-! ## Models that are ready for their records -/

/-- The class of each record is registered. -/
def Ready (model : Model) (records : List Record) : Prop :=
  ∀ record ∈ records, ∃ decl, model.class? record.sourceClass = some decl

/-- Where all classes are registered, the records lead no further. -/
theorem Ready.covers (h : model.Ready records) (hmodel : model.Coherent) (tree : Tree) :
    model.Covers tree records model where
  started := hmodel
  coherent := hmodel
  grown := .refl model
  mem_classes_iff := by
    intro decl
    constructor
    · exact Or.inl
    · rintro (hdecl | ⟨record, hrecord, havailable⟩)
      · exact hdecl
      · obtain ⟨found, hfound⟩ := h record hrecord
        have hregistered : model.Available tree record.sourceClass found := Or.inl hfound
        obtain rfl : decl = found := hregistered.unique havailable
        exact (hmodel.class?_eq_some_iff.1 hfound).1

/-- What is loaded for records is among the classes of a model that was made with further classes,
each as its class file has it, if the names of all that is loaded are there. -/
theorem classes_subset_of_further {lazy eager known : Model} {further : List ClassDecl}
    (heager : eager.Coherent) (hclasses : eager.classes = lazy.classes ++ further)
    (hfurther : ∀ decl ∈ further, ∃ name, lazy.Files tree name decl)
    (hcovers : lazy.Covers tree records known)
    (hloaded : ∀ name, known.containsClass name = true → eager.containsClass name = true) :
    known.classes ⊆ eager.classes := by
  have hstarted : lazy.classes ⊆ eager.classes := hclasses ▸ List.subset_append_left _ _
  intro decl hdecl
  rcases (hcovers.mem_classes_iff decl).1 hdecl with
    hlazy | ⟨record, -, hlazy | ⟨hnone, hfiles, -⟩⟩
  · exact hstarted hlazy
  · exact hstarted (hcovers.started.class?_eq_some_iff.1 hlazy).1
  · -- The class was read from its file, and the other model has a class of its name.
    obtain ⟨_, _, _, _, hname⟩ := id hfiles
    have hknown := hcovers.coherent.class?_eq_some_iff.2 ⟨hdecl, hname⟩
    obtain ⟨found, hfound⟩ := Option.isSome_iff_exists.1
      (hloaded record.sourceClass (by simp [containsClass, hknown]))
    obtain ⟨hmem, hfoundName⟩ := heager.class?_eq_some_iff.1 hfound
    rw [hclasses, List.mem_append] at hmem
    rcases hmem with hstart | hlater
    · cases hnone.symm.trans (hcovers.started.class?_eq_some_iff.2 ⟨hstart, hfoundName⟩)
    · -- That class is what the file of the same name holds, so it is the same class.
      obtain ⟨name, hfoundFiles⟩ := hfurther found hlater
      obtain ⟨_, _, _, _, hfilesName⟩ := id hfoundFiles
      obtain rfl : name = record.sourceClass := by
        simpa using hfilesName.symm.trans hfoundName
      obtain rfl : found = decl := hfiles.unique hfoundFiles
      exact hclasses ▸ List.mem_append_right _ hlater

end Model

/-! ## Records on a model that is ready -/

namespace Builder

variable {tree : Tree} {known : Model} {builder : Builder}

/-- Records whose classes are registered leave the model alone. -/
theorem state_addRecords_of_ready {records : List Record} (hready : known.Ready records)
    (h : ((addRecords tree records).run (known, builder)).result = .ok ()) :
    ((addRecords tree records).run (known, builder)).state.1 = known := by
  induction records generalizing builder with
  | nil => rfl
  | cons record rest ih =>
      obtain ⟨_, hfirst, hrest, hstate⟩ := Action.exists_of_bind_ok h
      obtain ⟨found, hclass⟩ := hready record List.mem_cons_self
      obtain ⟨_, -, -, -, hfinding⟩ := exists_of_addRecord_ok hfirst
      have hmodel : ((addRecord tree record).run (known, builder)).state.1 = known := by
        rw [hfinding, Model.run_sourceClass_of_class? hclass]
      have hpair : ((addRecord tree record).run (known, builder)).state =
          (known, ((addRecord tree record).run (known, builder)).state.2) := Prod.ext hmodel rfl
      rw [hpair] at hrest hstate
      rw [addRecords, hstate]
      exact ih (fun other hother => hready other (List.mem_cons_of_mem _ hother)) hrest

end Builder

/-- A record that was acceptable where classes are loaded is acceptable on a model that has them all
from the start. -/
theorem Record.Acceptable.of_covers {lazy eager known : Model} {tree otherTree : Tree}
    {records before : List Record} {record : Record} (h : record.Acceptable lazy tree before)
    (hcovers : lazy.Covers tree records known) (heager : eager.Coherent)
    (hclasses : known.classes ⊆ eager.classes) (hsubset : before ++ [record] ⊆ records) :
    record.Acceptable eager otherTree before := by
  have hreached : ∀ decl, lazy.Reaches tree (before ++ [record]) decl → decl ∈ eager.classes :=
    fun decl hdecl => hclasses ((hcovers.mem_classes_iff decl).2 (hdecl.mono hsubset))
  obtain ⟨⟨decl, havailable, hnamed⟩, htarget⟩ := h
  constructor
  · have hdecl := hreached decl (Model.Reaches.append_singleton_iff.2 (Or.inr havailable))
    exact ⟨decl, Or.inl (heager.class?_eq_some_iff.2 ⟨hdecl, havailable.name_eq⟩), hnamed⟩
  · intro htargets
    obtain ⟨other, hother, hsigned⟩ := htarget htargets
    exact ⟨other, Or.inl (hreached other hother), hsigned⟩

namespace Index

variable {tree otherTree : Tree} {lazy eager : Model} {records : List Record}

/-- An index of records on a model that is ready for them leaves the model alone. -/
theorem state_ofRecords_of_ready (hready : eager.Ready records) {index : Index}
    (h : ((ofRecords otherTree records).run eager).result = .ok index) :
    ((ofRecords otherTree records).run eager).state = eager := by
  rw [(run_ofRecords otherTree records eager).2]
  exact Builder.state_addRecords_of_ready hready (exists_ofRecords_iff.1 ⟨index, h⟩)

/-- Records that have an index where classes are loaded have one that shows the same on every model
that has these classes from the start, whatever the files are then. -/
theorem exists_agrees_of_classes_subset (hlazy : lazy.Coherent) {index : Index}
    (hindex : ((ofRecords tree records).run lazy).result = .ok index) (heager : eager.Coherent)
    (htextual : eager.Textual)
    (hclasses : ((ofRecords tree records).run lazy).state.classes ⊆ eager.classes)
    (otherTree : Tree) :
    ∃ other, ((ofRecords otherTree records).run eager).result = .ok other ∧
      ((ofRecords otherTree records).run eager).state = eager ∧ index.Agrees other := by
  obtain ⟨hacceptable, hcovers⟩ := covers_of_ofRecords_ok hlazy hindex
  have hknown : ((ofRecords tree records).run lazy).state.Textual :=
    fun decl hdecl => htextual decl (hclasses hdecl)
  obtain ⟨_, -, haccounts⟩ := World.accounts_ofRecords hlazy hindex hknown
  -- What a record finds on the way, it finds on the other model from the start.
  have hsame : ∀ record ∈ records, ∃ decl,
      ((ofRecords tree records).run lazy).state.class? record.sourceClass = some decl ∧
        eager.class? record.sourceClass = some decl := by
    intro record hrecord
    obtain ⟨decl, hdecl⟩ := haccounts.registered record hrecord
    exact ⟨decl, hdecl, haccounts.coherent.class?_mono heager hclasses hdecl⟩
  have hready : eager.Ready records := fun record hrecord =>
    (hsame record hrecord).imp fun _ hdecl => hdecl.2
  have hjoin := (hready.covers heager otherTree).joinable htextual
  obtain ⟨other, hother⟩ := (exists_ofRecords_iff_acceptable heager hjoin).2
    fun before record after hsplit =>
      (hacceptable before record after hsplit).of_covers hcovers heager hclasses
        (by rw [hsplit]; simp)
  -- Nothing is loaded, so the other index is over the model that it started with.
  have hstate := state_ofRecords_of_ready hready hother
  refine ⟨other, hother, hstate, agrees_of_tells_iff hlazy heager hindex hother hknown
    (hstate.symm ▸ htextual) ?_ ?_⟩
  · intro signature method hmethod
    rw [hstate]
    exact haccounts.coherent.method?_mono heager hclasses hmethod
  · intro operation method target
    rw [hstate]
    refine exists_congr fun record => and_congr_right fun hrecord => ?_
    obtain ⟨decl, hfinal, hfirst⟩ := hsame record hrecord
    simp only [Record.Tells, hfinal, hfirst]

/-- Let records have an index on a model of some classes, into which further classes are loaded on
the way.  On a model of the same classes and then further ones, each of which is textual and is what
the class file of its own name holds, the records have an index as well, provided that the names of
all classes of the first model are there in the end.  Nothing is loaded into that model, whatever
its class path and the files are, and the two indexes show the same. -/
theorem ofRecords_eager {classes further : List ClassDecl} {classPath otherPath : Option Path}
    (hlazy : Model.ofClasses classes classPath = .ok lazy) {index : Index}
    (hindex : ((ofRecords tree records).run lazy).result = .ok index)
    (heager : Model.ofClasses (classes ++ further) otherPath = .ok eager)
    (htextual : eager.Textual)
    (hfurther : ∀ decl ∈ further, ∃ name, lazy.Files tree name decl)
    (hloaded : ∀ name, ((ofRecords tree records).run lazy).state.containsClass name = true →
      eager.containsClass name = true)
    (otherTree : Tree) :
    ∃ other, ((ofRecords otherTree records).run eager).result = .ok other ∧
      ((ofRecords otherTree records).run eager).state = eager ∧ index.Agrees other := by
  have hlazyCoherent := Model.coherent_ofClasses hlazy
  have heagerCoherent := Model.coherent_ofClasses heager
  have hsplit : eager.classes = lazy.classes ++ further := by
    rw [Model.classes_of_ofClasses heager, Model.classes_of_ofClasses hlazy]
  have hcovers := (covers_of_ofRecords_ok hlazyCoherent hindex).2
  have hclasses := Model.classes_subset_of_further heagerCoherent hsplit hfurther hcovers hloaded
  exact exists_agrees_of_classes_subset hlazyCoherent hindex heagerCoherent htextual hclasses
    otherTree

end Index

namespace Sample

/-- The path of the class file in the sample. -/
def itemPath : Path := ⟨.here, ["classes", "shop", "Item.json"]⟩

/-- The class of that file. -/
def item : ClassDecl :=
  match Model.readClass tree itemPath with
  | .ok decl => decl
  | .error _ => cart

theorem item_name : item.name = .str "shop.Item" := by
  have hkey : item.hasKey (.text "shop.Item") = true := by
    decide +kernel
  simpa [ClassDecl.hasKey, Json.key?_eq_text_iff] using hkey

theorem files_item : model.Files tree "shop.Item" item := by
  have hisOk : (Model.readClass tree itemPath).isOk = true := by
    decide +kernel
  obtain ⟨decl, hdecl⟩ := Action.exists_eq_ok_of_isOk hisOk
  have hread : Model.readClass tree itemPath = .ok item := by
    rw [item, hdecl]
  exact ⟨itemPath, by rfl, by rfl, hread, item_name⟩

end Sample

/-- With the second class registered beforehand, the calls have an index that shows the same, where
there are no files at all. -/
theorem Index.ofRecords_eager_sample :
    ∃ eager index other, Model.ofClasses ([Sample.cart] ++ [Sample.item]) none = .ok eager ∧
      ((ofRecords Sample.tree Sample.calls).run Sample.model).result = .ok index ∧
        ((ofRecords (.withFolder []) Sample.calls).run eager).result = .ok other ∧
        ((ofRecords (.withFolder []) Sample.calls).run eager).state = eager ∧
        index.Agrees other := by
  have hisOk : (Model.ofClasses ([Sample.cart] ++ [Sample.item]) none).isOk = true := by
    decide +kernel
  obtain ⟨eager, heager⟩ := Action.exists_eq_ok_of_isOk hisOk
  obtain ⟨index, hindex⟩ := Action.exists_eq_ok_of_isOk Sample.isOk_calls
  have hclasses := Model.classes_of_ofClasses heager
  have htextual : eager.Textual := by
    rw [Model.Textual, hclasses]
    decide +kernel
  have hfurther : ∀ decl ∈ [Sample.item], ∃ name, Sample.model.Files Sample.tree name decl := by
    intro decl hdecl
    rw [List.mem_singleton.1 hdecl]
    exact ⟨"shop.Item", Sample.files_item⟩
  -- The calls end with two classes, of the names that the other model has from the start.
  have hloaded : ∀ name,
      ((ofRecords Sample.tree Sample.calls).run Sample.model).state.containsClass name = true →
        eager.containsClass name = true := by
    have hnames : ((ofRecords Sample.tree Sample.calls).run Sample.model).state.classes.map
        (·.name.key?) = [Sample.cart, Sample.item].map (·.name.key?) := by
      decide +kernel
    intro name hname
    rw [Model.containsClass_iff, hnames] at hname
    rw [Model.containsClass_iff, hclasses]
    exact hname
  obtain ⟨other, hother, hstate, hagrees⟩ := ofRecords_eager Sample.model_built hindex heager
    htextual hfurther hloaded (.withFolder [])
  exact ⟨eager, index, other, heager, hindex, hother, hstate, hagrees⟩

end ReflectiveCalls
