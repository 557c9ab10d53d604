import ReflectiveCalls.Proofs.Program.Availability

/-!
# Proofs.Program.OnDemand — a class is loaded whole or not at all

A class that is not known is looked for in its class file.  Much can go wrong on the way: the name
may lead to no file, the octets to no text, the text to no value and the value to no class; the
class may have another name, a method of it no signature, and a signature may be taken.  The model
is put in place when all of this is settled, so it has the whole class then, and is left alone
otherwise.

- `Model.Adds`: one class, and nothing else, is added to a model.
- `Model.register_eq_ok_iff_adds`: registering adds the class, if that can be done.
- `Model.run_resolveClass`: resolving a class is looking it up once it has been searched for.
- `Model.Coherent.resolveClass_cases`: the ways in which resolving ends, in terms of class files.
- `Model.loadClass_atomic`: what a search leaves, however it ends.
-/

namespace ReflectiveCalls
namespace Model

variable {tree : Tree} {model after : Model} {name : String} {decl : ClassDecl}

/-! ## One class more -/

/-- The later model is the earlier one with the class added.  The class stands last.  Its methods
stand last in the table, in the order of their declaration and each under its own signature; no two
of the signatures are equal, and none was known before. -/
structure Adds (earlier : Model) (decl : ClassDecl) (signatures : List String) (later : Model) :
    Prop where
  classPath : later.classPath = earlier.classPath
  classes : later.classes = earlier.classes ++ [decl]
  signed : decl.methods.map (·.signature) = signatures.map .ok
  methods : later.methods = earlier.methods ++ signatures.zip decl.methods
  distinct : signatures.Nodup
  unknown : ∀ signature ∈ signatures, earlier.containsMethod signature = false

/-- For the methods that follow, the signature of a method counts among those that are taken. -/
theorem not_mem_taken_append_iff {taken : List (String × MethodDecl)} {signature other : String}
    {method : MethodDecl} :
    other ∉ (taken ++ [(signature, method)]).map (·.1) ↔
      other ∉ taken.map (·.1) ∧ other ≠ signature := by
  rw [List.map_append, List.mem_append, not_or]
  simp

/-- Methods that are signed come after those that are taken, under signatures that are free, each
under its own. -/
theorem signMethods_eq_ok_iff_exists_signatures {taken all : List (String × MethodDecl)}
    {methods : List MethodDecl} :
    signMethods taken methods = .ok all ↔
      ∃ signatures : List String, methods.map (·.signature) = signatures.map .ok ∧
        all = taken ++ signatures.zip methods ∧ signatures.Nodup ∧
        ∀ signature ∈ signatures, signature ∉ taken.map (·.1) := by
  -- On the methods, for any that are taken: each that is signed is taken for the rest.
  induction methods generalizing taken with
  | nil =>
      constructor
      · intro h
        cases h
        exact ⟨[], rfl, by simp, .nil, by simp⟩
      · rintro ⟨signatures, -, rfl, -, -⟩
        simp [signMethods]
  | cons method rest ih =>
      rw [signMethods_cons_eq_ok_iff]
      constructor
      · rintro ⟨signature, hsignature, hfree, hrest⟩
        rcases ih.1 hrest with ⟨signatures, hsigned, hall, hdistinct, hunknown⟩
        refine ⟨signature :: signatures, ?_, ?_, ?_, ?_⟩
        · rw [List.map_cons, List.map_cons, hsignature, hsigned]
        · rw [hall, List.zip_cons_cons, List.append_assoc, List.singleton_append]
        · exact List.nodup_cons.2
            ⟨fun hmem => (not_mem_taken_append_iff.1 (hunknown signature hmem)).2 rfl, hdistinct⟩
        · intro other hother
          rcases List.mem_cons.1 hother with rfl | hother
          · exact hfree
          · exact (not_mem_taken_append_iff.1 (hunknown other hother)).1
      · rintro ⟨signatures, hsigned, rfl, hdistinct, hunknown⟩
        rcases List.map_eq_cons_iff.1 hsigned.symm with
          ⟨signature, others, rfl, hsignature, hothers⟩
        rw [List.nodup_cons] at hdistinct
        refine ⟨signature, hsignature.symm, hunknown signature List.mem_cons_self, ih.2 ?_⟩
        refine ⟨others, hothers.symm, by simp, hdistinct.2, fun other hother => ?_⟩
        refine not_mem_taken_append_iff.2 ⟨hunknown other (List.mem_cons_of_mem _ hother), ?_⟩
        rintro rfl
        exact hdistinct.1 hother

theorem containsMethod_eq_false_iff {signature : String} :
    model.containsMethod signature = false ↔ signature ∉ model.methods.map (·.1) := by
  rw [containsMethod, method?, Option.isSome_map, ← Bool.not_eq_true, List.find?_isSome]
  simp

/-- A class named by a text is registered exactly if the name is free and the class can be added. -/
theorem register_eq_ok_iff_adds (hname : decl.name = .str name) :
    model.register decl = .ok after ↔
      model.containsClass name = false ∧ ∃ signatures, model.Adds decl signatures after := by
  have hkey : decl.name.key? = some (.text name) := Json.key?_eq_text_iff.2 hname
  have hfree : model.classOf? (.text name) = none ↔ model.containsClass name = false := by
    rw [containsClass, class?, Option.isSome_eq_false_iff, Option.isNone_iff_eq_none]
  rw [register_eq_ok_iff]
  constructor
  · rintro ⟨key, methods, hkey', hnone, hsign, rfl⟩
    cases hkey.symm.trans hkey'
    rcases signMethods_eq_ok_iff_exists_signatures.1 hsign with
      ⟨signatures, hsigned, hmethods, hdistinct, hunknown⟩
    exact ⟨hfree.1 hnone, signatures, rfl, rfl, hsigned, hmethods, hdistinct,
      fun signature hsignature => containsMethod_eq_false_iff.2 (hunknown signature hsignature)⟩
  · rintro ⟨hnone, signatures, hadds⟩
    refine ⟨_, after.methods, hkey, hfree.2 hnone, ?_, ?_⟩
    · refine signMethods_eq_ok_iff_exists_signatures.2 ⟨signatures, hadds.signed, hadds.methods,
        hadds.distinct, fun signature hsignature => ?_⟩
      exact containsMethod_eq_false_iff.1 (hadds.unknown signature hsignature)
    · rw [← hadds.classPath, ← hadds.classes]

/-! ## Searching -/

/-- A search for a class that is known does nothing. -/
theorem run_loadClass_of_containsClass (h : model.containsClass name = true) (tree : Tree) :
    (loadClass tree name).run model = ⟨.ok true, model, []⟩ := by
  simp [loadClass, h]

/-- A search finds a class exactly if there is a class of the name when it has ended. -/
theorem result_loadClass_eq_true_iff (tree : Tree) (name : String) (model : Model) :
    ((loadClass tree name).run model).result = .ok true ↔
      ((loadClass tree name).run model).state.containsClass name = true := by
  by_cases hknown : model.containsClass name = true
  · simp [run_loadClass_of_containsClass hknown, hknown]
  · rcases loadClass_cases tree name model with
      ⟨hstate, found, hresult, hfound⟩ | ⟨hstate, failure, hresult, -⟩ |
        ⟨-, hresult, path, decl, -, -, hread, hregister⟩
    · -- Nothing was loaded, so the class is as unknown as before.
      have hnot : found ≠ true := mt hfound hknown
      simp [hstate, hresult, hknown, hnot]
    · simp [hstate, hresult, hknown]
    · have hname := (readNamed_eq_ok_iff.1 hread).2
      have hmem : decl ∈ ((loadClass tree name).run model).state.classes := by
        simp [classes_of_register hregister]
      exact ⟨fun _ => containsClass_iff_exists_name.2 ⟨decl, hmem, hname⟩, fun _ => hresult⟩

/-- Resolving a class is a search for it and then a look at what is registered. -/
theorem run_resolveClass (tree : Tree) (name : String) (model : Model) :
    let loaded := (loadClass tree name).run model
    (resolveClass tree name).run model =
      ⟨loaded.result.map fun found => if found then loaded.state.class? name else none,
        loaded.state, loaded.events⟩ := by
  intro loaded
  rw [resolveClass, Action.run_bind]
  cases hresult : ((loadClass tree name).run model).result with
  | error failure => simp [loaded, Except.map]
  | ok found => cases found <;> simp [loaded, Except.map]

/-- A class that is known is resolved as it is. -/
theorem run_resolveClass_of_class? (h : model.class? name = some decl) (tree : Tree) :
    (resolveClass tree name).run model = ⟨.ok (some decl), model, []⟩ := by
  have hknown : model.containsClass name = true := Option.isSome_iff_exists.2 ⟨decl, h⟩
  rw [run_resolveClass, run_loadClass_of_containsClass hknown]
  simp [Except.map, h]

/-- A class that is not known is read from its file and registered, if that can be done. -/
theorem Coherent.run_resolveClass_of_files (h : model.Coherent) (hnone : model.class? name = none)
    (hfiles : model.Files tree name decl) (hregister : model.register decl = .ok after) :
    ((resolveClass tree name).run model).result = .ok (some decl) ∧
      ((resolveClass tree name).run model).state = after := by
  obtain ⟨hresult, hstate⟩ := run_loadClass_of_files hnone hfiles hregister
  obtain ⟨-, -, -, -, hname⟩ := hfiles
  have hclass : after.class? name = some decl := by
    apply (h.register hregister).class?_eq_some_iff.2
    exact ⟨by simp [classes_of_register hregister], hname⟩
  rw [run_resolveClass, hresult, hstate]
  exact ⟨by simp [Except.map, hclass], rfl⟩

/-- A class is resolved to the one that is registered, and the model is left alone; or it is read
from its file and registered; or it cannot be had, and the model is left alone. -/
theorem Coherent.resolveClass_cases (h : model.Coherent) (tree : Tree) (name : String) :
    let outcome := (resolveClass tree name).run model
    (∃ decl, model.class? name = some decl ∧ outcome = ⟨.ok (some decl), model, []⟩) ∨
      (model.class? name = none ∧ ∃ decl, model.Files tree name decl ∧
        model.register decl = .ok outcome.state ∧ outcome.result = .ok (some decl)) ∨
      (model.class? name = none ∧ outcome.state = model ∧
        (∀ decl, outcome.result ≠ .ok (some decl)) ∧
          ∀ decl, model.Files tree name decl → ∀ after, model.register decl ≠ .ok after) := by
  intro outcome
  cases hclass : model.class? name with
  | some decl => exact .inl ⟨decl, rfl, run_resolveClass_of_class? hclass tree⟩
  | none =>
      right
      by_cases hloads : ∃ decl after, model.Files tree name decl ∧ model.register decl = .ok after
      · left
        obtain ⟨decl, after, hfiles, hregister⟩ := hloads
        obtain ⟨hresult, hstate⟩ := h.run_resolveClass_of_files hclass hfiles hregister
        exact ⟨rfl, decl, hfiles, hstate ▸ hregister, hresult⟩
      · right
        have hbarred : ∀ decl, model.Files tree name decl →
            ∀ after, model.register decl ≠ .ok after := by
          intro decl hfiles after hregister
          exact hloads ⟨decl, after, hfiles, hregister⟩
        have houtcome : outcome = _ := run_resolveClass tree name model
        rcases loadClass_cases tree name model with
          ⟨hstate, found, hresult, hfound⟩ | ⟨hstate, failure, hresult, -⟩ |
            ⟨-, -, path, decl, hpath, hfile, hread, hregister⟩
        · -- What is not known before is not found by a search that leaves the model alone.
          have hnot : found = false := by
            rw [← Bool.not_eq_true]
            intro htrue
            simpa [containsClass, hclass] using hfound htrue
          rw [houtcome, hresult, hstate, hnot]
          exact ⟨rfl, rfl, by simp [Except.map], hbarred⟩
        · rw [houtcome, hresult, hstate]
          exact ⟨rfl, rfl, by simp [Except.map], hbarred⟩
        · obtain ⟨hclassRead, hname⟩ := readNamed_eq_ok_iff.1 hread
          exact absurd ⟨decl, _, ⟨path, hpath, hfile, hclassRead, hname⟩, hregister⟩ hloads

/-- A search for a class finds it exactly if a class of just that name is registered in the end.  If
it finds none, or fails for any reason, the model is as it was.  The model is also as it was if the
class was known; otherwise the class has been added to it, and it is the one that the value in its
class file describes.  A class that is not known is found and added whenever its class file is
there, describes a class of just that name, and can be added.  Resolving a class ends as the search
does: in no class if none is found, in the same failure if it fails, and else in a class of the
name, which is registered by then. -/
theorem loadClass_atomic (tree : Tree) (name : String) (model : Model) :
    let loaded := (loadClass tree name).run model
    let resolved := (resolveClass tree name).run model
    (loaded.result = .ok true ↔ ∃ decl ∈ loaded.state.classes, decl.name = .str name) ∧
      (loaded.result ≠ .ok true → loaded.state = model) ∧
      (loaded.state = model ∨
        model.containsClass name = false ∧ ∃ path data decl signatures,
          model.classFile? name = .ok (some path) ∧ tree.isFile path = .ok true ∧
            readValue tree path = .ok data ∧ ClassDecl.ofJson data = .ok decl ∧
            decl.name = .str name ∧ model.Adds decl signatures loaded.state) ∧
      (model.containsClass name = false → ∀ path data decl signatures after,
        model.classFile? name = .ok (some path) → tree.isFile path = .ok true →
          readValue tree path = .ok data → ClassDecl.ofJson data = .ok decl →
          decl.name = .str name → model.Adds decl signatures after →
            loaded.result = .ok true ∧ loaded.state = after) ∧
      resolved.state = loaded.state ∧
      (resolved.result = .ok none ↔ loaded.result = .ok false) ∧
      (∀ failure, resolved.result = .error failure ↔ loaded.result = .error failure) ∧
      (loaded.result = .ok true → ∃ decl, loaded.state.class? name = some decl ∧
        decl.name = .str name ∧ resolved.result = .ok (some decl)) := by
  intro loaded resolved
  have hfound : loaded.result = .ok true ↔ loaded.state.containsClass name = true :=
    result_loadClass_eq_true_iff tree name model
  have hstate : resolved.state = loaded.state := by
    rw [show resolved = _ from run_resolveClass tree name model]
  have hresult : resolved.result =
      loaded.result.map fun found => if found then loaded.state.class? name else none := by
    rw [show resolved = _ from run_resolveClass tree name model]
  -- What a search finds can be looked up when it has ended.
  have hlookUp : loaded.result = .ok true →
      ∃ decl, loaded.state.class? name = some decl ∧ decl.name = .str name := by
    intro htrue
    obtain ⟨decl, hclass⟩ := Option.isSome_iff_exists.1 (hfound.1 htrue)
    exact ⟨decl, hclass, name_of_class? hclass⟩
  refine ⟨hfound.trans containsClass_iff_exists_name, ?unfound, ?added, ?loads, hstate, ?nothing,
    ?failed, ?resolved⟩
  case unfound =>
    intro hnot
    rcases loadClass_cases tree name model with ⟨hsame, -⟩ | ⟨hsame, -⟩ | ⟨-, htrue, -⟩
    · exact hsame
    · exact hsame
    · exact absurd htrue hnot
  case added =>
    rcases loadClass_cases tree name model with
      ⟨hsame, -⟩ | ⟨hsame, -⟩ | ⟨hunknown, -, path, decl, hpath, hfile, hread, hregister⟩
    · exact .inl hsame
    · exact .inl hsame
    · obtain ⟨hclass, hname⟩ := readNamed_eq_ok_iff.1 hread
      obtain ⟨data, hdata, hdecl⟩ := readClass_eq_ok_iff.1 hclass
      obtain ⟨-, signatures, hadds⟩ := (register_eq_ok_iff_adds hname).1 hregister
      exact .inr ⟨hunknown, path, data, decl, signatures, hpath, hfile, hdata, hdecl, hname, hadds⟩
  case loads =>
    intro hunknown path data decl signatures after hpath hfile hdata hdecl hname hadds
    have hread : readClass tree path = .ok decl := readClass_eq_ok_iff.2 ⟨data, hdata, hdecl⟩
    have hnone : model.class? name = none := by
      simpa [containsClass] using hunknown
    exact run_loadClass_of_files hnone ⟨path, hpath, hfile, hread, hname⟩
      ((register_eq_ok_iff_adds hname).2 ⟨hunknown, signatures, hadds⟩)
  case nothing =>
    rw [hresult]
    rcases hend : loaded.result with failure | (_ | _)
    · simp [Except.map]
    · simp [Except.map]
    · obtain ⟨decl, hclass, -⟩ := hlookUp hend
      simp [Except.map, hclass]
  case failed =>
    intro failure
    rw [hresult]
    cases loaded.result <;> simp [Except.map]
  case resolved =>
    intro htrue
    obtain ⟨decl, hclass, hname⟩ := hlookUp htrue
    exact ⟨decl, hclass, hname, by rw [hresult, htrue, Except.map, if_pos rfl, hclass]⟩

end Model
end ReflectiveCalls
