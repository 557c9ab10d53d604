import ReflectiveCalls.Proofs.Index.RecordOrder
import ReflectiveCalls.Proofs.Index.Verdict
import ReflectiveCalls.Proofs.Program.Alike

/-!
# Proofs.Index.DeclarationOrder — declarations in another order

Classes may be given to a model in any order, and a class may declare its methods in any order.
Neither decides whether the model is accepted.  The order of methods decides which of two methods
that cover a line is meant, so where no line is covered twice under one name it decides nothing, and
all records tell the same.

- `Record.mirrors_verdict`: over models that are alike, a record is taken or refused alike.
- `Model.Alike.tells_iff`: over models that are alike, a record tells the same.
- `Index.ofRecords_rearranged`: models of rearranged classes have indexes that show the same.
-/

namespace ReflectiveCalls

open ReflectiveCalls.Action (Matched Mirrors)

/-! ## Records over models that are alike -/

namespace ClassDecl

theorem Alike.mem_methodsNamed_iff {decl like : ClassDecl} (h : decl.Alike like) {name : String}
    {method : MethodDecl} : method ∈ like.methodsNamed name ↔ method ∈ decl.methodsNamed name := by
  rw [ClassDecl.mem_methodsNamed_iff, ClassDecl.mem_methodsNamed_iff, h.methods]

theorem Alike.isEmpty_methodsNamed {decl like : ClassDecl} (h : decl.Alike like) (name : String) :
    (like.methodsNamed name).isEmpty = (decl.methodsNamed name).isEmpty := by
  rw [Bool.eq_iff_iff, List.isEmpty_iff, List.isEmpty_iff, List.eq_nil_iff_forall_not_mem,
    List.eq_nil_iff_forall_not_mem]
  simp only [h.mem_methodsNamed_iff]

end ClassDecl

namespace Builder

theorem mirrors_checkTarget (record : Record) :
    Mirrors Model.Alike Eq (checkTarget record) (checkTarget record) := by
  unfold checkTarget
  split
  · refine Mirrors.bind Mirrors.state fun model other halike => ?_
    rw [Model.containsMethod, Model.containsMethod, halike.method?_eq]
    split
    · exact Mirrors.pure rfl
    · exact Mirrors.report _
  · exact Mirrors.pure rfl

end Builder

/-- Over models that are alike, a record is taken, or it is refused in the same way. -/
theorem Record.mirrors_verdict (record : Record) (tree : Tree) :
    Mirrors Model.Alike Eq (record.verdict tree) (record.verdict tree) := by
  refine Mirrors.bind (Model.mirrors_sourceClass tree record.sourceClass) fun decl like halike => ?_
  rw [halike.isEmpty_methodsNamed]
  split
  · exact Mirrors.report _
  · exact Builder.mirrors_checkTarget record

/-- Over models that are alike, a record tells the same. -/
theorem Model.Alike.tells_iff {model other : Model} (h : model.Alike other) {record : Record}
    {operation : Operation} {method : MethodDecl} {target : String} :
    record.Tells other operation method target ↔ record.Tells model operation method target := by
  have hclass := h.classOf?_rel (.text record.sourceClass)
  unfold Record.Tells class?
  generalize model.classOf? (.text record.sourceClass) = found at hclass ⊢
  generalize other.classOf? (.text record.sourceClass) = otherFound at hclass ⊢
  cases hclass with
  | none => simp
  | some halike => simp [halike.attributed]

/-! ## Declarations in another order -/

namespace Index

variable {tree : Tree} {classPath : Option Path} {classes others : List ClassDecl}
  {model other : Model} {records : List Record}

/-- If classes come in another order, and the methods of each class too, they make up a model
exactly if they did before.  For textual class data, with classes in which no known line is covered
by two methods of one name, two such models with one class path show the same: records have an index
over the one exactly if they have one over the other; if they have none, the failure is the same;
and if they have one over both, the two show the same, in the exported value, the counts and every
other view. Classes that are loaded on demand come from the same files over both models. -/
theorem ofRecords_rearranged (hrearranged : Model.Rearranged classes others) :
    ((∃ model, Model.ofClasses classes classPath = .ok model) ↔
        ∃ other, Model.ofClasses others classPath = .ok other) ∧
      ((∀ decl ∈ classes, decl.Textual) → (∀ decl ∈ classes, decl.Unambiguous) →
        (∀ record ∈ records, ∀ path decl,
          (Model.empty classPath).classFile? record.sourceClass = .ok (some path) →
          Model.readClass tree path = .ok decl → decl.Textual) →
        ∀ model other, Model.ofClasses classes classPath = .ok model →
          Model.ofClasses others classPath = .ok other →
          let outcome := (ofRecords tree records).run model
          let otherOutcome := (ofRecords tree records).run other
          ((∃ index, outcome.result = .ok index) ↔
              ∃ otherIndex, otherOutcome.result = .ok otherIndex) ∧
            (∀ failure, outcome.result = .error failure ↔ otherOutcome.result = .error failure) ∧
            ∀ index otherIndex, outcome.result = .ok index →
              otherOutcome.result = .ok otherIndex → index.Agrees otherIndex) := by
  refine ⟨Model.exists_ofClasses_rearranged_iff hrearranged classPath, ?_⟩
  intro hclasses hlines hfiles model other hmodel hother outcome otherOutcome
  have halike := hrearranged.alike hlines hmodel hother
  have htextual : model.Textual := by
    intro decl hdecl
    rw [Model.classes_of_ofClasses hmodel] at hdecl
    exact hclasses decl hdecl
  have hotherTextual : other.Textual := by
    intro decl hdecl
    rw [Model.classes_of_ofClasses hother] at hdecl
    exact hrearranged.forall_mem (fun _ _ hsame => hsame.textual) hclasses decl hdecl
  -- Whatever is loaded on demand comes from the same files on both sides.
  have hreached : ∀ known : Model, known.classPath = classPath → known.Textual →
      ∀ decl, known.Reaches tree records decl → decl.Textual := by
    intro known hpath hknown decl hdecl
    refine hdecl.of_files hknown fun record hrecord path found hfile hread => ?_
    have hsame : known.classFile? record.sourceClass =
        (Model.empty classPath).classFile? record.sourceClass := Model.classFile?_congr hpath _
    exact hfiles record hrecord path found (hsame.symm.trans hfile) hread
  have hmodelReached := hreached model (Model.classPath_of_ofClasses hmodel) htextual
  have hotherReached := hreached other (Model.classPath_of_ofClasses hother) hotherTextual
  have hpairs : List.Forall₂ Eq records records := List.forall₂_refl _
  have hverdict : ∀ record otherRecord : Record, record = otherRecord →
      Mirrors Model.Alike Eq (record.verdict tree) (otherRecord.verdict tree) := by
    rintro record _ rfl
    exact record.mirrors_verdict tree
  rcases run_ofRecords_of_mirrors hverdict hpairs halike.coherent hmodelReached
    halike.otherCoherent hotherReached halike with ⟨hexists, hfailures, hleft⟩
  refine ⟨hexists, hfailures, fun index otherIndex hindex hotherIndex => ?_⟩
  have hcovers := (covers_of_ofRecords_ok halike.coherent hindex).2
  have hotherCovers := (covers_of_ofRecords_ok halike.otherCoherent hotherIndex).2
  refine agrees_of_tells_iff halike.coherent halike.otherCoherent hindex hotherIndex
    (fun decl hdecl => hmodelReached decl ((hcovers.mem_classes_iff decl).1 hdecl))
    (fun decl hdecl => hotherReached decl ((hotherCovers.mem_classes_iff decl).1 hdecl))
    (fun signature _ hmethod => (hleft.method?_eq signature).trans hmethod) ?_
  intro operation method target
  simp only [hleft.tells_iff]

end Index

/-! ## A cart and a stock -/

namespace Sample

/-- The cart with its methods in the other order. -/
def otherCart : ClassDecl := ⟨cart.name, cart.methods.reverse⟩

def stock : ClassDecl := ⟨.str "shop.Stock", [method "shop.Stock" "count" [] 2 4]⟩

theorem unambiguous : ∀ decl ∈ [cart, stock], decl.Unambiguous := by
  intro decl hdecl
  rcases List.mem_pair.1 hdecl with rfl | rfl
  · -- The two methods are on the lines 3 to 5 and 7 to 9.
    refine List.pairwise_pair.2 fun _ line _ hcovers => ?_
    simp [method, MethodDecl.covers, coversLine, LineRange.covers] at hcovers
    omega
  · exact List.pairwise_singleton _ _

theorem rearranged : Model.Rearranged [cart, stock] [stock, otherCart] :=
  ⟨[otherCart, stock],
    .cons ⟨rfl, List.reverse_perm _⟩ (.cons ⟨rfl, .refl _⟩ .nil), .swap _ _ _⟩

/-- The classes make up a model, and over it the calls have an index. -/
def isIndexed (classes : List ClassDecl) : Bool :=
  match Model.ofClasses classes (some classPath) with
  | .ok model => ((Index.ofRecords tree calls).run model).result.isOk
  | .error _ => false

theorem exists_of_isIndexed {classes : List ClassDecl} (h : isIndexed classes = true) :
    ∃ model index, Model.ofClasses classes (some classPath) = .ok model ∧
      ((Index.ofRecords tree calls).run model).result = .ok index := by
  unfold isIndexed at h
  cases hmodel : Model.ofClasses classes (some classPath) with
  | error failure =>
      rw [hmodel] at h
      cases h
  | ok model =>
      rw [hmodel] at h
      rcases Action.exists_eq_ok_of_isOk h with ⟨index, hindex⟩
      exact ⟨model, index, rfl, hindex⟩

end Sample

/-- With the classes and the methods of the cart in another order, the calls have the same index. -/
theorem Index.ofRecords_rearranged_sample :
    ∃ model other index otherIndex,
      Model.ofClasses [Sample.cart, Sample.stock] (some Sample.classPath) = .ok model ∧
        Model.ofClasses [Sample.stock, Sample.otherCart] (some Sample.classPath) = .ok other ∧
        ((Index.ofRecords Sample.tree Sample.calls).run model).result = .ok index ∧
        ((Index.ofRecords Sample.tree Sample.calls).run other).result = .ok otherIndex ∧
        index.toJson = otherIndex.toJson ∧ index.summary = otherIndex.summary := by
  have hindexed : Sample.isIndexed [Sample.cart, Sample.stock] = true ∧
      Sample.isIndexed [Sample.stock, Sample.otherCart] = true := by
    decide +kernel
  have hclasses : ∀ decl ∈ [Sample.cart, Sample.stock], decl.Textual := by
    decide +kernel
  have hfiles : ∀ record ∈ Sample.calls, ∀ path decl,
      (Model.empty (some Sample.classPath)).classFile? record.sourceClass = .ok (some path) →
      Model.readClass Sample.tree path = .ok decl → decl.Textual :=
    fun record hrecord path decl hpath hread =>
      (Sample.files_plain record hrecord path decl hpath hread).textual
  rcases Sample.exists_of_isIndexed hindexed.1 with ⟨model, index, hmodel, hindex⟩
  rcases Sample.exists_of_isIndexed hindexed.2 with ⟨other, otherIndex, hother, hotherIndex⟩
  have hagrees := ((Index.ofRecords_rearranged Sample.rearranged).2 hclasses Sample.unambiguous
    hfiles model other hmodel hother).2.2 index otherIndex hindex hotherIndex
  exact ⟨model, other, index, otherIndex, hmodel, hother, hindex, hotherIndex, hagrees.toJson,
    hagrees.summary⟩

end ReflectiveCalls
