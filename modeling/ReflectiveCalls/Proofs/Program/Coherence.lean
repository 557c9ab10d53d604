import Mathlib.Logic.Relation
import ReflectiveCalls.Proofs.Program.Identity

/-!
# Proofs.Program.Coherence — classes and signatures in step

A model keeps its classes and, apart from them, the methods of the classes under their signatures.
Registering a class is the only way in which either grows, so what registering keeps holds of every
model.

- `Model.Coherent`: no two classes share a name, and the table of methods lists exactly the methods
  of the classes, each under its own signature and no two under the same one.
- `Model.Grows`: a model to which classes were registered, one after the other.
- `Model.Grows.coherent`: growing keeps a model coherent.
- `Model.Extends`: a later model knows all that an earlier one knew, in the same order.
-/

namespace ReflectiveCalls

/-! ## Looking up by a key -/

/-- Where keys are distinct, looking up finds exactly what has the key. -/
theorem find?_key_eq_some_iff {α κ : Type} [BEq κ] [LawfulBEq κ] {key : α → κ} {items : List α}
    (distinct : (items.map key).Nodup) {wanted : κ} {item : α} :
    items.find? (fun item => key item == wanted) = some item ↔
      item ∈ items ∧ key item = wanted := by
  induction items with
  | nil => simp
  | cons first rest ih =>
      have hrest := (List.nodup_cons.1 distinct).2
      have hfirst : ∀ other ∈ rest, key other ≠ key first := by
        intro other hother heq
        exact (List.nodup_cons.1 distinct).1 (heq ▸ List.mem_map_of_mem hother)
      by_cases hkey : key first = wanted
      · -- The first item has the key, and no later one does.
        constructor
        · intro h
          have heq : first = item := by
            simpa [List.find?_cons, hkey] using h
          exact heq ▸ ⟨List.mem_cons_self, hkey⟩
        · rintro ⟨hmem, hitem⟩
          rcases List.mem_cons.1 hmem with rfl | hmem
          · simp [hkey]
          · exact absurd (hitem.trans hkey.symm) (hfirst item hmem)
      · have hne : (key first == wanted) = false := by
          simpa using hkey
        rw [List.find?_cons, hne, ih hrest]
        constructor
        · rintro ⟨hmem, hitem⟩
          exact ⟨List.mem_cons_of_mem _ hmem, hitem⟩
        · rintro ⟨hmem, hitem⟩
          rcases List.mem_cons.1 hmem with rfl | hmem
          · exact absurd hitem hkey
          · exact ⟨hmem, hitem⟩

namespace Model

/-! ## Registering -/

/-- A signature that is taken ends the signing, and one that is free is put into the table. -/
theorem signMethods_cons_of_ok {taken : List (String × MethodDecl)} {method : MethodDecl}
    {rest : List MethodDecl} {signature : String} (h : method.signature = .ok signature) :
    signMethods taken (method :: rest) =
      if signature ∈ taken.map (·.1) then .error (.reported (.model (.duplicateMethod signature)))
      else signMethods (taken ++ [(signature, method)]) rest := by
  have hany : taken.any (·.1 == signature) = true ↔ signature ∈ taken.map (·.1) := by
    simp
  rw [signMethods, h]
  exact if_congr hany rfl rfl

/-- Signing a further method first: it has a signature, and that one is free. -/
theorem signMethods_cons_eq_ok_iff {taken all : List (String × MethodDecl)} {method : MethodDecl}
    {rest : List MethodDecl} :
    signMethods taken (method :: rest) = .ok all ↔
      ∃ signature, method.signature = .ok signature ∧ signature ∉ taken.map (·.1) ∧
        signMethods (taken ++ [(signature, method)]) rest = .ok all := by
  cases hsignature : method.signature with
  | error fault => simp [signMethods, hsignature]
  | ok signature =>
      rw [signMethods_cons_of_ok hsignature]
      by_cases htaken : signature ∈ taken.map (·.1)
      · -- A taken signature ends the signing.
        rw [if_pos htaken]
        constructor
        · intro h
          cases h
        · rintro ⟨other, heq, hfree, -⟩
          exact absurd (Except.ok.inj heq ▸ htaken) hfree
      · rw [if_neg htaken]
        constructor
        · intro h
          exact ⟨signature, rfl, htaken, h⟩
        · rintro ⟨other, heq, -, h⟩
          cases heq
          exact h

/-- Signing succeeds exactly if every method has a signature and none is taken or repeated. -/
theorem signMethods_eq_ok_iff {taken all : List (String × MethodDecl)} {methods : List MethodDecl}
    (distinct : (taken.map (·.1)).Nodup) :
    signMethods taken methods = .ok all ↔
      ∃ added, all = taken ++ added ∧ added.map (·.2) = methods ∧
        (∀ entry ∈ added, entry.2.signature = .ok entry.1) ∧ (all.map (·.1)).Nodup := by
  induction methods generalizing taken with
  | nil =>
      constructor
      · intro h
        cases h
        exact ⟨[], by simp, rfl, by simp, distinct⟩
      · rintro ⟨added, rfl, hmethods, -, -⟩
        have hadded : added = [] := List.map_eq_nil_iff.1 hmethods
        simp [signMethods, hadded]
  | cons method rest ih =>
      have hdistinct : ∀ signature, signature ∉ taken.map (·.1) →
          ((taken ++ [(signature, method)]).map (·.1)).Nodup := by
        intro signature hfree
        rw [List.map_append, List.nodup_append]
        refine ⟨distinct, by simp, ?_⟩
        intro text htext other hother heq
        have hother : other = signature := by
          simpa using hother
        exact hfree (hother ▸ heq ▸ htext)
      rw [signMethods_cons_eq_ok_iff]
      constructor
      · rintro ⟨signature, hsignature, hfree, hrest⟩
        rcases (ih (hdistinct signature hfree)).1 hrest with
          ⟨added, rfl, hmethods, hsigned, hnodup⟩
        refine ⟨(signature, method) :: added, by simp, by simp [hmethods], ?_, hnodup⟩
        intro entry hentry
        rcases List.mem_cons.1 hentry with rfl | hentry
        · exact hsignature
        · exact hsigned entry hentry
      · rintro ⟨added, rfl, hmethods, hsigned, hnodup⟩
        rcases List.map_eq_cons_iff.1 hmethods with ⟨⟨signature, decl⟩, more, rfl, rfl, hmore⟩
        -- A signature that is taken would stand in the table twice.
        have hfree : signature ∉ taken.map (·.1) := by
          intro htaken
          rw [List.map_append, List.nodup_append] at hnodup
          exact hnodup.2.2 signature htaken signature (by simp) rfl
        refine ⟨signature, hsigned _ List.mem_cons_self, hfree,
          (ih (hdistinct signature hfree)).2 ?_⟩
        exact ⟨more, by simp, hmore,
          fun entry hentry => hsigned entry (List.mem_cons_of_mem _ hentry), hnodup⟩

/-- Registering succeeds exactly if the class has a name that is free and its methods can be
signed; it then stands last. -/
theorem register_eq_ok_iff {model after : Model} {decl : ClassDecl} :
    model.register decl = .ok after ↔
      ∃ key methods, decl.name.key? = some key ∧ model.classOf? key = none ∧
        signMethods model.methods decl.methods = .ok methods ∧
        after = { model with classes := model.classes ++ [decl], methods := methods } := by
  unfold register
  cases hname : decl.name.identity with
  | error fault =>
      have hkey : ∀ key, decl.name.key? ≠ some key := by
        intro key hkey
        rw [Json.identity_eq_ok_iff.2 hkey] at hname
        cases hname
      simp [hkey]
  | ok key =>
      have hkey := Json.identity_eq_ok_iff.1 hname
      cases hclass : model.classOf? key with
      | some other => simp [hkey, hclass]
      | none =>
          cases hsigned : signMethods model.methods decl.methods with
          | error failure => simp [hclass]
          | ok methods => simp [hkey, hclass, eq_comm]

/-- Registering fails if the name can identify nothing, if the name is taken, or if the methods
cannot be signed, whichever comes first. -/
theorem register_eq_error_iff {model : Model} {decl : ClassDecl} {failure : Failure} :
    model.register decl = .error failure ↔
      (∃ fault, decl.name.identity = .error fault ∧ failure = .escaped (.shape fault)) ∨
        ∃ key, decl.name.key? = some key ∧
          ((model.classOf? key).isSome = true ∧
              failure = .reported (.model (.duplicateClass decl.name)) ∨
            model.classOf? key = none ∧
              signMethods model.methods decl.methods = .error failure) := by
  simp only [← Json.identity_eq_ok_iff]
  unfold register
  cases hname : decl.name.identity with
  | error fault => simp [@eq_comm _ failure]
  | ok key =>
      cases hclass : model.classOf? key with
      | some other => simp [hclass, @eq_comm _ failure]
      | none =>
          cases hsigned : signMethods model.methods decl.methods with
          | error failure => simp [hclass]
          | ok methods => simp [hclass]

/-- Classes are registered one after the other, each on top of those before. -/
theorem registerAll_cons_eq_ok_iff {model after : Model} {decl : ClassDecl}
    {rest : List ClassDecl} :
    model.registerAll (decl :: rest) = .ok after ↔
      ∃ middle, model.register decl = .ok middle ∧ middle.registerAll rest = .ok after := by
  rw [registerAll]
  cases model.register decl <;> simp

/-! ## Tables of methods -/

section Tables

variable {table : List (String × MethodDecl)}

/-- Where methods stand under their own signatures, a signature stands in the table exactly if one
of the methods has it. -/
theorem mem_signatures_iff {signature : String}
    (hsigned : ∀ entry ∈ table, entry.2.signature = .ok entry.1) :
    signature ∈ table.map (·.1) ↔
      ∃ method ∈ table.map (·.2), method.signature = .ok signature := by
  constructor
  · intro h
    obtain ⟨entry, hentry, rfl⟩ := List.mem_map.1 h
    exact ⟨entry.2, List.mem_map_of_mem hentry, hsigned entry hentry⟩
  · rintro ⟨method, hmethod, hsignature⟩
    obtain ⟨entry, hentry, rfl⟩ := List.mem_map.1 hmethod
    rw [hsigned entry hentry] at hsignature
    cases hsignature
    exact List.mem_map_of_mem hentry

theorem nodup_signatures_iff (hsigned : ∀ entry ∈ table, entry.2.signature = .ok entry.1) :
    (table.map (·.1)).Nodup ↔
      (table.map (·.2)).Pairwise fun method other => method.signature ≠ other.signature := by
  rw [List.Nodup, List.pairwise_map, List.pairwise_map]
  apply List.Pairwise.iff_of_mem
  intro entry other hentry hother
  rw [hsigned entry hentry, hsigned other hother, ne_eq, ne_eq, Except.ok.injEq]

end Tables

/-! ## Coherence -/

/-- The classes and the table of methods are in step. -/
structure Coherent (model : Model) : Prop where
  /-- The name of each class can identify something. -/
  named : ∀ decl ∈ model.classes, ∃ key, decl.name.key? = some key
  distinctNames : (model.classes.map (·.name.key?)).Nodup
  listed : model.methods.map (·.2) = model.classes.flatMap (·.methods)
  signed : ∀ entry ∈ model.methods, entry.2.signature = .ok entry.1
  distinctSignatures : (model.methods.map (·.1)).Nodup

theorem coherent_empty (classPath : Option Path) : (empty classPath).Coherent where
  named := by simp [empty]
  distinctNames := by simp [empty]
  listed := rfl
  signed := by simp [empty]
  distinctSignatures := by simp [empty]

namespace Coherent

variable {model after : Model} {decl : ClassDecl}

/-- A coherent model stays so when a class is registered. -/
theorem register (h : model.Coherent) (hregister : model.register decl = .ok after) :
    after.Coherent := by
  rcases register_eq_ok_iff.1 hregister with ⟨key, methods, hkey, hfree, hsign, rfl⟩
  rcases (signMethods_eq_ok_iff h.distinctSignatures).1 hsign with
    ⟨added, rfl, hadded, hsigned, hnodup⟩
  constructor
  case named =>
    intro other hother
    rcases List.mem_append.1 hother with hother | hother
    · exact h.named other hother
    · exact ⟨key, List.mem_singleton.1 hother ▸ hkey⟩
  case distinctNames =>
    -- The name was free, so no class counted as its key.
    have hnew : ∀ other ∈ model.classes, other.name.key? ≠ some key := by
      intro other hother
      simpa [ClassDecl.hasKey] using List.find?_eq_none.1 hfree other hother
    simpa [List.nodup_append, h.distinctNames, hkey] using hnew
  case listed => simp [h.listed, hadded]
  case signed =>
    intro entry hentry
    rcases List.mem_append.1 hentry with hentry | hentry
    · exact h.signed entry hentry
    · exact hsigned entry hentry
  case distinctSignatures => exact hnodup

/-- The class of a key is the one whose name counts as the key. -/
theorem classOf?_eq_some_iff (h : model.Coherent) {key : Json.Key} :
    model.classOf? key = some decl ↔ decl ∈ model.classes ∧ decl.name.key? = some key :=
  find?_key_eq_some_iff h.distinctNames

/-- The method of a signature stands in the table under that signature. -/
theorem method?_eq_some_iff_mem (h : model.Coherent) {signature : String} {method : MethodDecl} :
    model.method? signature = some method ↔ (signature, method) ∈ model.methods := by
  unfold method?
  rw [Option.map_eq_some_iff]
  constructor
  · rintro ⟨⟨text, decl⟩, hfind, rfl⟩
    rcases (find?_key_eq_some_iff h.distinctSignatures).1 hfind with ⟨hmem, rfl⟩
    exact hmem
  · intro hmem
    exact ⟨_, (find?_key_eq_some_iff h.distinctSignatures).2 ⟨hmem, rfl⟩, rfl⟩

/-- The method of a signature is the one, among those of the classes, that has the signature. -/
theorem method?_eq_some_iff (h : model.Coherent) {signature : String} {method : MethodDecl} :
    model.method? signature = some method ↔
      (∃ decl ∈ model.classes, method ∈ decl.methods) ∧ method.signature = .ok signature := by
  -- The methods of the classes are the methods of the table.
  rw [h.method?_eq_some_iff_mem, ← List.mem_flatMap, ← h.listed]
  constructor
  · intro hmem
    exact ⟨List.mem_map_of_mem hmem, h.signed _ hmem⟩
  · rintro ⟨hmem, hsignature⟩
    rcases List.mem_map.1 hmem with ⟨⟨text, decl⟩, hentry, rfl⟩
    have htext := h.signed _ hentry
    rw [hsignature] at htext
    cases htext
    exact hentry

/-- There is a method of a signature exactly if some class declares one. -/
theorem containsMethod_iff (h : model.Coherent) {signature : String} :
    model.containsMethod signature = true ↔
      ∃ decl ∈ model.classes, ∃ method ∈ decl.methods, method.signature = .ok signature := by
  unfold containsMethod
  rw [Option.isSome_iff_exists]
  constructor
  · rintro ⟨method, hmethod⟩
    rcases h.method?_eq_some_iff.1 hmethod with ⟨⟨decl, hdecl, hmem⟩, hsignature⟩
    exact ⟨decl, hdecl, method, hmem, hsignature⟩
  · rintro ⟨decl, hdecl, method, hmem, hsignature⟩
    exact ⟨method, h.method?_eq_some_iff.2 ⟨⟨decl, hdecl, hmem⟩, hsignature⟩⟩

/-- Each method of a class has a signature, and it is the method of that signature. -/
theorem exists_signature (h : model.Coherent) {method : MethodDecl}
    (hdecl : decl ∈ model.classes) (hmethod : method ∈ decl.methods) :
    ∃ signature, method.signature = .ok signature ∧ model.method? signature = some method := by
  have hmem : method ∈ model.methods.map (·.2) := by
    rw [h.listed]
    exact List.mem_flatMap.2 ⟨decl, hdecl, hmethod⟩
  rcases List.mem_map.1 hmem with ⟨⟨signature, decl⟩, hentry, rfl⟩
  exact ⟨signature, h.signed _ hentry, h.method?_eq_some_iff_mem.2 hentry⟩

/-- The methods of a class of textual data can be identified, and found by their signatures. -/
theorem exists_key_and_signature (h : model.Coherent) (htextual : model.Textual) {name : String}
    (hclass : model.class? name = some decl) {method : MethodDecl}
    (hmethod : method ∈ decl.methods) :
    ∃ key signature, method.identity = .ok key ∧ method.signature = .ok signature ∧
      model.method? signature = some method := by
  have hdecl := (h.classOf?_eq_some_iff.1 hclass).1
  rcases ((htextual decl hdecl).2 method hmethod).exists_identity with ⟨key, hkey⟩
  rcases h.exists_signature hdecl hmethod with ⟨signature, hsignature, hfound⟩
  exact ⟨key, signature, hkey, hsignature, hfound⟩

/-- What has a signature in a model of textual data is textual, and its signature is that one. -/
theorem textual_of_method? (h : model.Coherent) (htextual : model.Textual) {signature : String}
    {method : MethodDecl} (hmethod : model.method? signature = some method) :
    method.Textual ∧ method.signature = .ok signature := by
  rcases h.method?_eq_some_iff.1 hmethod with ⟨⟨decl, hdecl, hmem⟩, hsignature⟩
  exact ⟨(htextual decl hdecl).2 method hmem, hsignature⟩

/-- In a model of textual data, no two signatures lead to methods that count as the same. -/
theorem signature_eq_of_identity (h : model.Coherent) (htextual : model.Textual)
    {signature other : String} {method otherMethod : MethodDecl} {key : MethodKey}
    (hmethod : model.method? signature = some method) (hkey : method.identity = .ok key)
    (hother : model.method? other = some otherMethod) (hotherKey : otherMethod.identity = .ok key) :
    signature = other := by
  rcases h.textual_of_method? htextual hmethod with ⟨hmethodTextual, hsignature⟩
  rcases h.textual_of_method? htextual hother with ⟨-, hotherSignature⟩
  have heq := hmethodTextual.signature_eq hkey hotherKey
  rw [hsignature, hotherSignature] at heq
  exact (Except.ok.inj heq).symm

/-- The methods of all classes have signatures, no two of them the same. -/
theorem pairwise_signature_ne (h : model.Coherent) :
    (model.classes.flatMap (·.methods)).Pairwise fun method other =>
      method.signature ≠ other.signature := by
  rw [← h.listed]
  exact (nodup_signatures_iff h.signed).1 h.distinctSignatures

/-- No two classes have names that are equal. -/
theorem pairwise_name_not_same (h : model.Coherent) :
    model.classes.Pairwise fun decl other => decl.name.same other.name = false := by
  refine List.Pairwise.imp_of_mem ?_ (List.pairwise_map.1 h.distinctNames)
  intro decl other hdecl _ hne
  rcases h.named decl hdecl with ⟨key, hkey⟩
  rw [Bool.eq_false_iff]
  intro hsame
  exact hne (hkey.trans ((Json.same_iff hkey _).1 hsame).symm)

end Coherent

/-! ## Growth -/

/-- The second model is the first one with a further class registered. -/
def Registers (before after : Model) : Prop := ∃ decl, before.register decl = .ok after

/-- The second model is the first one with further classes registered, one after the other. -/
abbrev Grows : Model → Model → Prop := Relation.ReflTransGen Registers

/-- The later model knows what the earlier one knows, and nothing else before it. -/
structure Extends (later earlier : Model) : Prop where
  classPath : later.classPath = earlier.classPath
  classes : earlier.classes <+: later.classes
  methods : earlier.methods <+: later.methods

namespace Extends

variable {later earlier earliest : Model}

theorem refl (model : Model) : model.Extends model := ⟨rfl, List.prefix_rfl, List.prefix_rfl⟩

theorem trans (h : later.Extends earlier) (hearlier : earlier.Extends earliest) :
    later.Extends earliest :=
  ⟨h.classPath.trans hearlier.classPath, hearlier.classes.trans h.classes,
    hearlier.methods.trans h.methods⟩

/-- A class that is known stays the class of its name. -/
theorem class?_eq_some (h : later.Extends earlier) {name : String} {decl : ClassDecl}
    (hclass : earlier.class? name = some decl) : later.class? name = some decl :=
  h.classes.find?_eq_some hclass

/-- A method that is known stays the method of its signature. -/
theorem method?_eq_some (h : later.Extends earlier) {signature : String} {method : MethodDecl}
    (hmethod : earlier.method? signature = some method) :
    later.method? signature = some method := by
  unfold method? at hmethod ⊢
  rcases Option.map_eq_some_iff.1 hmethod with ⟨entry, hfind, rfl⟩
  rw [h.methods.find?_eq_some hfind]
  rfl

/-- Textual data were textual before. -/
theorem textual (h : later.Extends earlier) (htextual : later.Textual) : earlier.Textual :=
  fun decl hdecl => htextual decl (h.classes.subset hdecl)

end Extends

/-- Registering a class leaves what is known in place. -/
theorem Coherent.extends_register {model after : Model} {decl : ClassDecl} (h : model.Coherent)
    (hregister : model.register decl = .ok after) : after.Extends model := by
  rcases register_eq_ok_iff.1 hregister with ⟨_, methods, -, -, hsign, rfl⟩
  rcases (signMethods_eq_ok_iff h.distinctSignatures).1 hsign with ⟨added, rfl, -⟩
  exact ⟨rfl, ⟨[decl], rfl⟩, ⟨added, rfl⟩⟩

namespace Grows

variable {before after : Model}

theorem coherent (h : before.Grows after) (hbefore : before.Coherent) : after.Coherent := by
  induction h with
  | refl => exact hbefore
  | tail _ hregister ih =>
      rcases hregister with ⟨decl, hregister⟩
      exact ih.register hregister

theorem toExtends (h : before.Grows after) (hbefore : before.Coherent) : after.Extends before := by
  induction h with
  | refl => exact .refl before
  | tail hgrows hregister ih =>
      rcases hregister with ⟨decl, hregister⟩
      exact ((coherent hgrows hbefore).extends_register hregister).trans ih

end Grows

/-- Classes registered one after the other make a model grow. -/
theorem grows_registerAll {model after : Model} {classes : List ClassDecl}
    (h : model.registerAll classes = .ok after) : model.Grows after := by
  induction classes generalizing model with
  | nil =>
      cases h
      exact .refl
  | cons decl rest ih =>
      obtain ⟨middle, hregister, hrest⟩ := registerAll_cons_eq_ok_iff.1 h
      exact .head ⟨decl, hregister⟩ (ih hrest)

/-- A model of given classes is coherent. -/
theorem coherent_ofClasses {classes : List ClassDecl} {classPath : Option Path} {model : Model}
    (h : ofClasses classes classPath = .ok model) : model.Coherent :=
  (grows_registerAll h).coherent (coherent_empty classPath)

end Model
end ReflectiveCalls
