import Mathlib.Data.List.Pairwise
import ReflectiveCalls.Proofs.Overloads
import ReflectiveCalls.Proofs.Program.Construction

/-!
# Proofs.Program.Alike — models that differ in the order of declarations

The order in which a class declares its methods decides to which of them a call is attributed only
where several methods of one name cover its line.  Where there are none, classes and models that
differ in the order of declarations alone are alike: they answer every question in the same way, and
they stay alike when classes are loaded.

- `ClassDecl.Unambiguous`: no known line is covered by two methods of one name.
- `ClassDecl.Alike`, `Model.Alike`: classes and models that nothing but an order tells apart.
- `Model.Rearranged.alike`: rearranged unambiguous classes make up models that are alike.
- `Model.mirrors_sourceClass`: the class of a call site is found, loaded or missed alike.
-/

namespace ReflectiveCalls

open ReflectiveCalls.Action (Matched Mirrors)

/-! ## Classes -/

/-- If the methods have one name, no known line is covered by both. -/
def MethodDecl.LinesApart (method other : MethodDecl) : Prop :=
  method.name = other.name →
    ∀ line, line ≠ unknownLine → ¬(method.covers line = true ∧ other.covers line = true)

instance : Std.Symm MethodDecl.LinesApart where
  symm := fun _ _ h hname line hline hcover => h hname.symm line hline hcover.symm

namespace ClassDecl

/-- No known line is covered by two different methods of one name. -/
def Unambiguous (decl : ClassDecl) : Prop := decl.methods.Pairwise MethodDecl.LinesApart

/-- The classes have one name and the same methods, and calls are attributed to the same ones. -/
structure Alike (decl other : ClassDecl) : Prop where
  name : other.name = decl.name
  methods : ∀ method, method ∈ other.methods ↔ method ∈ decl.methods
  attributed : ∀ name line method,
    method ∈ other.attributed name line ↔ method ∈ decl.attributed name line

variable {decl other : ClassDecl}

theorem Alike.refl (decl : ClassDecl) : decl.Alike decl :=
  ⟨rfl, fun _ => Iff.rfl, fun _ _ _ => Iff.rfl⟩

/-- In an unambiguous class, at most one method of a name covers a line. -/
theorem Unambiguous.eq_of_covers (h : decl.Unambiguous) {name : String} {line : Int}
    {method found : MethodDecl} (hmethod : method ∈ decl.methodsNamed name)
    (hfound : found ∈ decl.methodsNamed name) (hcovers : method.covers line = true)
    (hfoundCovers : found.covers line = true) : method = found := by
  rcases mem_methodsNamed_iff.1 hmethod with ⟨hmem, hname⟩
  rcases mem_methodsNamed_iff.1 hfound with ⟨hfoundMem, hfoundName⟩
  by_contra hne
  exact h.forall hmem hfoundMem hne (hname.trans hfoundName.symm) line
    (MethodDecl.covers_eq_true_iff.1 hcovers).1 ⟨hcovers, hfoundCovers⟩

/-- In an unambiguous class, a call is attributed to the method of the name that covers its line, or
to all methods of the name if none does. -/
theorem Unambiguous.mem_attributed_iff (h : decl.Unambiguous) {name : String} {line : Int}
    {method : MethodDecl} :
    method ∈ decl.attributed name line ↔ method ∈ decl.methodsNamed name ∧
      ((∃ found ∈ decl.methodsNamed name, found.covers line = true) →
        method.covers line = true) := by
  unfold attributed
  by_cases hseveral : 2 ≤ (decl.methodsNamed name).length ∧ line ≠ unknownLine
  · rw [if_pos hseveral]
    cases hfirst : (decl.methodsNamed name).find? (·.covers line) with
    | none =>
        have hnone : ¬∃ found ∈ decl.methodsNamed name, found.covers line = true := by
          rintro ⟨found, hfound, hcovers⟩
          exact List.find?_eq_none.1 hfirst found hfound hcovers
        exact ⟨fun hmethod => ⟨hmethod, fun hsome => absurd hsome hnone⟩, fun hmethod => hmethod.1⟩
    | some first =>
        have hmem := List.mem_of_find?_eq_some hfirst
        have hcovers : first.covers line = true := by
          simpa using List.find?_some hfirst
        constructor
        · intro hmethod
          rcases List.mem_singleton.1 hmethod with rfl
          exact ⟨hmem, fun _ => hcovers⟩
        · rintro ⟨hmethod, hif⟩
          have hsame := h.eq_of_covers hmethod hmem (hif ⟨first, hmem, hcovers⟩) hcovers
          exact List.mem_singleton.2 hsame
  · rw [if_neg hseveral]
    constructor
    · intro hmethod
      refine ⟨hmethod, ?_⟩
      rintro ⟨found, hfound, hcovers⟩
      -- A line that is covered is known, so the method is alone in its name.
      have hfew : ¬2 ≤ (decl.methodsNamed name).length := fun htwo =>
        hseveral ⟨htwo, (MethodDecl.covers_eq_true_iff.1 hcovers).1⟩
      have hone : (decl.methodsNamed name).length = 1 := by
        have hsome := List.length_pos_of_mem hmethod
        omega
      rcases List.length_eq_one_iff.1 hone with ⟨only, honly⟩
      rw [honly, List.mem_singleton] at hmethod hfound
      rw [hmethod, ← hfound]
      exact hcovers
    · exact fun hmethod => hmethod.1

/-- Classes of which one is unambiguous and the other has its methods in another order are alike. -/
theorem Rearranged.alike (h : decl.Rearranged other) (hdecl : decl.Unambiguous) :
    decl.Alike other where
  name := h.name
  methods := fun _ => h.methods.mem_iff
  attributed := by
    intro name line method
    have hother : other.Unambiguous := h.methods.symm.pairwise hdecl fun hapart => symm hapart
    have hnamed : ∀ found, found ∈ other.methodsNamed name ↔ found ∈ decl.methodsNamed name :=
      fun found => (h.methods.filter _).mem_iff
    rw [hdecl.mem_attributed_iff, hother.mem_attributed_iff]
    simp only [hnamed]

end ClassDecl

/-! ## Models -/

namespace Model

/-- The models have the same class path, and each class of the one has one like it in the other. -/
structure Alike (model other : Model) : Prop where
  coherent : model.Coherent
  otherCoherent : other.Coherent
  classPath : other.classPath = model.classPath
  classes : ∀ decl ∈ model.classes, ∃ like ∈ other.classes, decl.Alike like
  otherClasses : ∀ like ∈ other.classes, ∃ decl ∈ model.classes, decl.Alike like

namespace Alike

variable {model other : Model}

/-- Under one name, either both models have a class, and the two are alike, or none has. -/
theorem classOf?_rel (h : model.Alike other) (key : Json.Key) :
    Option.Rel ClassDecl.Alike (model.classOf? key) (other.classOf? key) := by
  cases hclass : model.classOf? key with
  | some decl =>
      rcases h.coherent.classOf?_eq_some_iff.1 hclass with ⟨hdecl, hkey⟩
      rcases h.classes decl hdecl with ⟨like, hlike, halike⟩
      rw [h.otherCoherent.classOf?_eq_some_iff.2 ⟨hlike, halike.name ▸ hkey⟩]
      exact .some halike
  | none =>
      cases hother : other.classOf? key with
      | none => exact .none
      | some like =>
          rcases h.otherCoherent.classOf?_eq_some_iff.1 hother with ⟨hlike, hkey⟩
          rcases h.otherClasses like hlike with ⟨decl, hdecl, halike⟩
          cases hclass.symm.trans (h.coherent.classOf?_eq_some_iff.2 ⟨hdecl, halike.name ▸ hkey⟩)

theorem containsClass_eq (h : model.Alike other) (name : String) :
    other.containsClass name = model.containsClass name := by
  have hclass := h.classOf?_rel (.text name)
  unfold containsClass class?
  generalize model.classOf? (.text name) = found at hclass ⊢
  generalize other.classOf? (.text name) = otherFound at hclass ⊢
  cases hclass <;> rfl

theorem probeClass_eq (h : model.Alike other) (tree : Tree) (name : String) :
    other.probeClass tree name = model.probeClass tree name := by
  unfold probeClass
  rw [classFile?_congr h.classPath]

theorem method?_eq (h : model.Alike other) (signature : String) :
    other.method? signature = model.method? signature := by
  have hmem : ∀ method, (∃ like ∈ other.classes, method ∈ like.methods) ↔
      ∃ decl ∈ model.classes, method ∈ decl.methods := by
    intro method
    constructor
    · rintro ⟨like, hlike, hmethod⟩
      rcases h.otherClasses like hlike with ⟨decl, hdecl, halike⟩
      exact ⟨decl, hdecl, (halike.methods method).1 hmethod⟩
    · rintro ⟨decl, hdecl, hmethod⟩
      rcases h.classes decl hdecl with ⟨like, hlike, halike⟩
      exact ⟨like, hlike, (halike.methods method).2 hmethod⟩
  refine Option.ext fun method => ?_
  rw [h.coherent.method?_eq_some_iff, h.otherCoherent.method?_eq_some_iff, hmem]

end Alike

/-- Rearranged unambiguous classes make up models that are alike. -/
theorem Rearranged.alike {classes others : List ClassDecl} (h : Rearranged classes others)
    (hclasses : ∀ decl ∈ classes, decl.Unambiguous) {classPath : Option Path} {model other : Model}
    (hmodel : ofClasses classes classPath = .ok model)
    (hother : ofClasses others classPath = .ok other) : model.Alike other := by
  rcases h with ⟨shuffled, hmethods, hperm⟩
  refine ⟨coherent_ofClasses hmodel, coherent_ofClasses hother,
    (classPath_of_ofClasses hother).trans (classPath_of_ofClasses hmodel).symm, ?_, ?_⟩
  · intro decl hdecl
    rw [classes_of_ofClasses hmodel] at hdecl
    rw [classes_of_ofClasses hother]
    rcases exists_of_forall₂_of_mem hmethods hdecl with ⟨like, hlike, hsame⟩
    exact ⟨like, hperm.mem_iff.1 hlike, hsame.alike (hclasses decl hdecl)⟩
  · intro like hlike
    rw [classes_of_ofClasses hother] at hlike
    rw [classes_of_ofClasses hmodel]
    rcases exists_of_forall₂_of_mem hmethods.flip (hperm.mem_iff.2 hlike) with
      ⟨decl, hdecl, hsame⟩
    exact ⟨decl, hdecl, hsame.alike (hclasses decl hdecl)⟩

/-! ## Registering -/

/-- Whether methods can be signed depends on which signatures are taken, in whatever order. -/
theorem matched_signMethods {taken others : List (String × MethodDecl)}
    (h : ∀ signature, signature ∈ others.map (·.1) ↔ signature ∈ taken.map (·.1))
    (methods : List MethodDecl) :
    Matched (fun _ _ => True) (signMethods taken methods) (signMethods others methods) := by
  induction methods generalizing taken others with
  | nil => exact .given trivial
  | cons method rest ih =>
      cases hsignature : method.signature with
      | error fault =>
          simp only [signMethods, hsignature]
          exact .failed _
      | ok signature =>
          rw [signMethods_cons_of_ok hsignature, signMethods_cons_of_ok hsignature]
          by_cases htaken : signature ∈ taken.map (·.1)
          · rw [if_pos htaken, if_pos ((h signature).2 htaken)]
            exact .failed _
          · rw [if_neg htaken, if_neg (mt (h signature).1 htaken)]
            apply ih
            intro text
            rw [List.map_append, List.map_append, List.mem_append, List.mem_append, h]

namespace Alike

variable {model other after otherAfter : Model} {decl : ClassDecl}

theorem mem_signatures_iff (h : model.Alike other) (signature : String) :
    signature ∈ other.methods.map (·.1) ↔ signature ∈ model.methods.map (·.1) := by
  have hknown : ∀ {known : Model}, known.Coherent →
      (signature ∈ known.methods.map (·.1) ↔ ∃ method, known.method? signature = some method) := by
    intro known hcoherent
    simp [hcoherent.method?_eq_some_iff_mem]
  rw [hknown h.coherent, hknown h.otherCoherent, h.method?_eq]

/-- Models that are alike stay so when a class is registered in both. -/
theorem register (h : model.Alike other) (hmodel : model.register decl = .ok after)
    (hother : other.register decl = .ok otherAfter) : after.Alike otherAfter := by
  refine ⟨h.coherent.register hmodel, h.otherCoherent.register hother, ?_, ?_, ?_⟩
  · calc otherAfter.classPath = other.classPath :=
          (h.otherCoherent.extends_register hother).classPath
      _ = model.classPath := h.classPath
      _ = after.classPath := (h.coherent.extends_register hmodel).classPath.symm
  · intro found hfound
    rw [classes_of_register hmodel, List.mem_append, List.mem_singleton] at hfound
    rw [classes_of_register hother]
    rcases hfound with hfound | rfl
    · rcases h.classes found hfound with ⟨like, hlike, halike⟩
      exact ⟨like, List.mem_append_left _ hlike, halike⟩
    · exact ⟨found, by simp, .refl found⟩
  · intro like hlike
    rw [classes_of_register hother, List.mem_append, List.mem_singleton] at hlike
    rw [classes_of_register hmodel]
    rcases hlike with hlike | rfl
    · rcases h.otherClasses like hlike with ⟨found, hfound, halike⟩
      exact ⟨found, List.mem_append_left _ hfound, halike⟩
    · exact ⟨like, by simp, .refl like⟩

/-- In models that are alike, a class is registered or refused alike. -/
theorem matched_register (h : model.Alike other) (decl : ClassDecl) :
    Matched Alike (model.register decl) (other.register decl) := by
  have hkinds : Matched (fun _ _ => True) (model.register decl) (other.register decl) := by
    unfold Model.register
    cases decl.name.identity with
    | error fault => exact .failed _
    | ok key =>
        have hclass := h.classOf?_rel key
        have hsigned := matched_signMethods h.mem_signatures_iff decl.methods
        dsimp only
        generalize model.classOf? key = found at hclass ⊢
        generalize other.classOf? key = otherFound at hclass ⊢
        generalize signMethods model.methods decl.methods = signed at hsigned ⊢
        generalize signMethods other.methods decl.methods = otherSigned at hsigned ⊢
        -- The name is taken in both models or in none, and so is one of the signatures.
        cases hclass with
        | some _ => exact .failed _
        | none =>
            cases hsigned with
            | failed failure => exact .failed failure
            | given _ => exact .given trivial
  exact hkinds.imp fun after otherAfter hmodel hother _ => h.register hmodel hother

end Alike

/-! ## Classes of call sites -/

/-- In models that are alike, a search for a class ends alike. -/
theorem mirrors_loadClass (tree : Tree) (name : String) :
    Mirrors Alike Eq (loadClass tree name) (loadClass tree name) := by
  refine Mirrors.bind Mirrors.state fun model other halike => ?_
  rw [halike.containsClass_eq, halike.probeClass_eq]
  split
  · exact Mirrors.pure rfl
  refine Mirrors.bind (Mirrors.log _ _) fun _ _ _ => ?_
  refine Mirrors.bind (Mirrors.ofExcept (.refl (model.probeClass tree name))) ?_
  rintro probe _ rfl
  split
  · -- What the file holds is registered in both models or in none.
    refine Mirrors.bind (Mirrors.ofExcept (.refl _)) ?_
    rintro decl _ rfl
    refine Mirrors.bind (Mirrors.ofExcept (halike.matched_register decl))
      fun after otherAfter h => ?_
    refine Mirrors.bind (Mirrors.put h) fun _ _ _ => ?_
    exact Mirrors.bind (Mirrors.log _ _) fun _ _ _ => Mirrors.pure rfl
  · exact Mirrors.bind (Mirrors.log _ _) fun _ _ _ => Mirrors.pure rfl

theorem mirrors_registeredClass (name : String) :
    Mirrors Alike ClassDecl.Alike (registeredClass name) (registeredClass name) := by
  refine Mirrors.bind Mirrors.state fun model other halike => ?_
  have hclass := halike.classOf?_rel (.text name)
  unfold class?
  generalize model.classOf? (.text name) = found at hclass ⊢
  generalize other.classOf? (.text name) = otherFound at hclass ⊢
  cases hclass with
  | some h => exact Mirrors.pure h
  | none => exact Mirrors.report _

/-- In models that are alike, the class of a call site is found, loaded or missed alike. -/
theorem mirrors_sourceClass (tree : Tree) (name : String) :
    Mirrors Alike ClassDecl.Alike (sourceClass tree name) (sourceClass tree name) := by
  refine Mirrors.bind Mirrors.state fun model other halike => ?_
  rw [halike.containsClass_eq]
  split
  · exact mirrors_registeredClass name
  · exact Mirrors.bind (mirrors_loadClass tree name) fun _ _ _ => mirrors_registeredClass name

end Model
end ReflectiveCalls
