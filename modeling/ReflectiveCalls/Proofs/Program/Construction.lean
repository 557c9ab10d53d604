import Mathlib.Data.List.Forall2
import ReflectiveCalls.Proofs.Program.Availability

/-!
# Proofs.Program.Construction — which classes make up a model

A model is made by registering classes one after the other, each against what is registered before.
Whether all of them are accepted can be said of the classes as a whole, without an order: each has a
name and each of their methods a signature, and no name and no signature comes twice.

- `Model.Compatible`: classes that can stand side by side in one model.
- `Model.exists_ofClasses_iff`: just those make up a model.
- `Model.Rearranged`: the same classes in another order, each with its methods in another order.
- `Model.exists_ofClasses_rearranged_iff`: rearranged classes are accepted or refused alike.
-/

namespace ReflectiveCalls

/-- The other class has the same name and the same methods, in some order. -/
structure ClassDecl.Rearranged (decl other : ClassDecl) : Prop where
  name : other.name = decl.name
  methods : other.methods.Perm decl.methods

theorem ClassDecl.Rearranged.textual {decl other : ClassDecl} (h : decl.Rearranged other)
    (hdecl : decl.Textual) : other.Textual :=
  ⟨h.name ▸ hdecl.1, fun method hmethod => hdecl.2 method (h.methods.mem_iff.1 hmethod)⟩

namespace Model

/-! ## Classes side by side -/

/-- The classes can stand side by side: names can identify something and methods have signatures,
and no two names and no two signatures are the same. -/
structure Compatible (classes : List ClassDecl) : Prop where
  named : ∀ name ∈ classes.map (·.name), ∃ key, name.key? = some key
  distinctNames : ((classes.map (·.name)).map (·.key?)).Nodup
  signed : ∀ method ∈ classes.flatMap (·.methods), ∃ signature, method.signature = .ok signature
  distinctSignatures : (classes.flatMap (·.methods)).Pairwise fun method other =>
    method.signature ≠ other.signature

/-- Only the names and the methods of classes matter to whether they can stand side by side, and no
order of these. -/
theorem Compatible.perm {classes others : List ClassDecl} (h : Compatible classes)
    (hnames : (classes.map (·.name)).Perm (others.map (·.name)))
    (hmethods : (classes.flatMap (·.methods)).Perm (others.flatMap (·.methods))) :
    Compatible others where
  named := fun name hname => h.named name (hnames.mem_iff.2 hname)
  distinctNames := (hnames.map _).nodup_iff.1 h.distinctNames
  signed := fun method hmethod => h.signed method (hmethods.mem_iff.2 hmethod)
  distinctSignatures := hmethods.pairwise h.distinctSignatures fun hne => hne.symm

/-- The classes of a coherent model stand side by side. -/
theorem Coherent.compatible {model : Model} (h : model.Coherent) : Compatible model.classes where
  named := by
    intro name hname
    rcases List.mem_map.1 hname with ⟨decl, hdecl, rfl⟩
    exact h.named decl hdecl
  distinctNames := by
    rw [List.map_map]
    exact h.distinctNames
  signed := by
    intro method hmethod
    rcases List.mem_flatMap.1 hmethod with ⟨decl, hdecl, hmem⟩
    rcases h.exists_signature hdecl hmem with ⟨signature, hsignature, -⟩
    exact ⟨signature, hsignature⟩
  distinctSignatures := h.pairwise_signature_ne

/-- The first of some classes can be registered if all of them can stand side by side with those
that are registered. -/
theorem Coherent.exists_register_of_compatible {model : Model} (h : model.Coherent)
    {decl : ClassDecl} {rest : List ClassDecl}
    (hcompatible : Compatible (model.classes ++ decl :: rest)) :
    ∃ after, model.register decl = .ok after := by
  rcases hcompatible with ⟨hnamed, hnames, hsigned, hsignatures⟩
  rcases hnamed decl.name (List.mem_map_of_mem (by simp)) with ⟨key, hkey⟩
  have hdistinct := List.pairwise_flatMap.1 hsignatures
  -- No class that is registered has the name, nor a method of one of the signatures.
  have hfree : model.classOf? key = none := by
    refine List.find?_eq_none.2 fun other hother hsame => ?_
    rw [List.map_map, List.map_append, List.nodup_append] at hnames
    refine hnames.2.2 _ (List.mem_map_of_mem hother) _ (List.mem_map_of_mem List.mem_cons_self) ?_
    exact (beq_iff_eq.1 hsame).trans hkey.symm
  have hapart : ∀ other ∈ model.classes, other.Apart decl := fun other hother =>
    (List.pairwise_append.1 hdistinct.2).2.2 other hother decl List.mem_cons_self
  refine h.exists_register hkey hfree (fun method hmethod => hsigned method ?_)
    (hdistinct.1 decl (by simp)) hapart
  exact List.mem_flatMap.2 ⟨decl, by simp, hmethod⟩

/-- Classes can be registered one after the other exactly if they can stand side by side with those
that are registered. -/
theorem exists_registerAll_iff {model : Model} (h : model.Coherent) {classes : List ClassDecl} :
    (∃ after, model.registerAll classes = .ok after) ↔ Compatible (model.classes ++ classes) := by
  constructor
  · rintro ⟨after, hafter⟩
    have hcompatible := ((grows_registerAll hafter).coherent h).compatible
    rw [classes_of_registerAll hafter] at hcompatible
    exact hcompatible
  · intro hcompatible
    -- By induction on the classes: the first one joins those that are registered.
    induction classes generalizing model with
    | nil => exact ⟨model, rfl⟩
    | cons decl rest ih =>
        rcases h.exists_register_of_compatible hcompatible with ⟨middle, hregister⟩
        have hclasses := classes_of_register hregister
        rcases ih (h.register hregister) (by simpa [hclasses] using hcompatible) with
          ⟨after, hafter⟩
        exact ⟨after, registerAll_cons_eq_ok_iff.2 ⟨middle, hregister, hafter⟩⟩

/-- Classes make up a model exactly if they can stand side by side. -/
theorem exists_ofClasses_iff {classes : List ClassDecl} {classPath : Option Path} :
    (∃ model, ofClasses classes classPath = .ok model) ↔ Compatible classes :=
  exists_registerAll_iff (coherent_empty classPath)

theorem classPath_of_ofClasses {classes : List ClassDecl} {classPath : Option Path} {model : Model}
    (h : ofClasses classes classPath = .ok model) : model.classPath = classPath :=
  ((grows_registerAll h).toExtends (coherent_empty classPath)).classPath

/-! ## Classes in another order -/

/-- The other classes are these in another order, each with its methods in another order. -/
def Rearranged (classes others : List ClassDecl) : Prop :=
  ∃ shuffled, List.Forall₂ ClassDecl.Rearranged classes shuffled ∧ shuffled.Perm others

section Rearranged

variable {classes others : List ClassDecl}

/-- What holds of classes whatever the order of their methods holds of rearranged ones. -/
theorem Rearranged.forall_mem {p : ClassDecl → Prop} (h : Rearranged classes others)
    (hp : ∀ decl other, decl.Rearranged other → p decl → p other)
    (hclasses : ∀ decl ∈ classes, p decl) : ∀ other ∈ others, p other := by
  rcases h with ⟨shuffled, hmethods, hperm⟩
  intro other hother
  obtain ⟨decl, hdecl, hsame⟩ : ∃ decl ∈ classes, decl.Rearranged other :=
    exists_of_forall₂_of_mem hmethods.flip (hperm.mem_iff.2 hother)
  exact hp decl other hsame (hclasses decl hdecl)

theorem Rearranged.names (h : Rearranged classes others) :
    (classes.map (·.name)).Perm (others.map (·.name)) := by
  rcases h with ⟨shuffled, hmethods, hperm⟩
  have hsame : classes.map (·.name) = shuffled.map (·.name) := by
    clear hperm
    induction hmethods with
    | nil => rfl
    | cons hdecl _ ih => simp [hdecl.name, ih]
  rw [hsame]
  exact hperm.map _

theorem Rearranged.methods (h : Rearranged classes others) :
    (classes.flatMap (·.methods)).Perm (others.flatMap (·.methods)) := by
  rcases h with ⟨shuffled, hmethods, hperm⟩
  have hsame : (classes.flatMap (·.methods)).Perm (shuffled.flatMap (·.methods)) := by
    clear hperm
    induction hmethods with
    | nil => exact .refl _
    | cons hdecl _ ih => simpa using hdecl.methods.symm.append ih
  exact hsame.trans (hperm.flatMap_right _)

/-- Rearranged classes are accepted exactly if the classes are. -/
theorem exists_ofClasses_rearranged_iff (h : Rearranged classes others)
    (classPath : Option Path) :
    (∃ model, ofClasses classes classPath = .ok model) ↔
      ∃ other, ofClasses others classPath = .ok other := by
  rw [exists_ofClasses_iff, exists_ofClasses_iff]
  constructor
  · exact fun hcompatible => hcompatible.perm h.names h.methods
  · exact fun hcompatible => hcompatible.perm h.names.symm h.methods.symm

end Rearranged

end Model
end ReflectiveCalls
