import ReflectiveCalls.Proofs.Attribution

/-!
# Proofs.Program.Availability — classes that can be had

The class of a call site is had from the model, if it is registered, or else from its class file.
Which classes can be had is settled by the files and the model one starts with, as long as no two of
them get into each other's way.

- `ClassDecl.Apart`: two classes without a common signature; `ClassDecl.Plain.apart` gives it for
  class data without colons in the names of classes.
- `Model.Coherent.exists_register`: a class apart from the others can be registered.
- `Model.Files`, `Model.Available`: the class that the file of a name holds, and the class that can
  be had under a name, at most one (`Model.Available.unique`).
- `Model.FromData`: a model whose classes are read from class data; it remains one as it grows.
- `Model.state_sourceClass_cases`, `Model.sourceClass_cases`, `Model.run_sourceClass_of_files`: the
  class of a call site, registered before or read and registered now.
-/

namespace ReflectiveCalls

/-! ## Signatures -/

namespace MethodDecl

theorem parameterTexts_map_str (position : Nat) (texts : List String) :
    parameterTexts position (texts.map .str) = .ok texts := by
  induction texts generalizing position with
  | nil => rfl
  | cons text rest ih => simp [parameterTexts, ih]

theorem Textual.exists_signature {method : MethodDecl} (h : method.Textual) :
    ∃ signature, method.signature = .ok signature := by
  rcases exists_texts h.2.2.2 with ⟨texts, htexts⟩
  unfold signature
  rw [htexts, parameterTexts_map_str]
  exact ⟨_, rfl⟩

/-- The name of the declaring class is what stands in a signature before the first colon. -/
theorem takeWhile_toList_signature {method : MethodDecl} {signature : String}
    (hcolon : ':' ∉ method.declaringClass.plain.toList) (h : method.signature = .ok signature) :
    signature.toList.takeWhile (· != ':') = '<' :: method.declaringClass.plain.toList := by
  unfold MethodDecl.signature at h
  cases htexts : parameterTexts 0 method.parameterTypes with
  | error fault => simp [htexts] at h
  | ok texts =>
      simp only [htexts, Except.ok.injEq] at h
      have hparts : ∃ rest,
          signature.toList = ('<' :: method.declaringClass.plain.toList) ++ ':' :: rest := by
        refine ⟨' ' :: (method.returnType.plain ++ " " ++ method.name.plain ++ "(" ++
          ",".intercalate texts ++ ")>").toList, ?_⟩
        simp [← h, signatureText]
      have hbefore : ∀ c ∈ '<' :: method.declaringClass.plain.toList, (c != ':') = true := by
        intro c hc
        rw [bne_iff_ne]
        rintro rfl
        rcases List.mem_cons.1 hc with heq | hc
        · cases heq
        · exact hcolon hc
      rcases hparts with ⟨rest, hparts⟩
      rw [hparts, List.takeWhile_append_of_pos hbefore, List.takeWhile_cons_of_neg (by simp),
        List.append_nil]

end MethodDecl

/-! ## Class data -/

namespace ClassDecl

/-- No method of the one class has a signature that a method of the other one has. -/
def Apart (decl other : ClassDecl) : Prop :=
  ∀ method ∈ decl.methods, ∀ found ∈ other.methods, method.signature ≠ found.signature

instance : Std.Symm Apart :=
  ⟨fun _ _ h method hmethod found hfound => (h found hfound method hmethod).symm⟩

theorem declaringClass_of_ofJson {owner data : Json} {method : MethodDecl}
    (h : MethodDecl.ofJson owner data = .ok method) : method.declaringClass = owner := by
  -- Each part is read in turn, and only where all of them are read is there a method.
  unfold MethodDecl.ofJson at h
  simp only [bind, Except.bind, pure, Except.pure] at h
  repeat' split at h
  all_goals cases h
  rfl

/-- The methods of a class that is read from class data name it as their own. -/
theorem declaringClass_of_mem_methods {data : Json} {decl : ClassDecl}
    (h : ClassDecl.ofJson data = .ok decl) {method : MethodDecl} (hmethod : method ∈ decl.methods) :
    method.declaringClass = decl.name := by
  unfold ClassDecl.ofJson at h
  simp only [bind, Except.bind, pure, Except.pure] at h
  repeat' split at h
  all_goals cases h
  next hmethods =>
    rcases exists_of_mem_mapM hmethods hmethod with ⟨item, -, hitem⟩
    exact declaringClass_of_ofJson hitem

/-- The class is read from class data that hold texts for all names and types, and there is no colon
in its name. -/
structure Plain (decl : ClassDecl) : Prop where
  read : ∃ data, ClassDecl.ofJson data = .ok decl
  textual : decl.Textual
  colonless : ':' ∉ decl.name.plain.toList

theorem Plain.takeWhile_toList_signature {decl : ClassDecl} (h : decl.Plain) {method : MethodDecl}
    (hmethod : method ∈ decl.methods) {signature : String}
    (hsignature : method.signature = .ok signature) :
    signature.toList.takeWhile (· != ':') = '<' :: decl.name.plain.toList := by
  rcases h.read with ⟨data, hread⟩
  have howner := declaringClass_of_mem_methods hread hmethod
  have hcolon : ':' ∉ method.declaringClass.plain.toList := howner ▸ h.colonless
  rw [MethodDecl.takeWhile_toList_signature hcolon hsignature, howner]

/-- Plain classes of different names are apart. -/
theorem Plain.apart {decl other : ClassDecl} (h : decl.Plain) (hother : other.Plain)
    (hne : decl.name ≠ other.name) : decl.Apart other := by
  intro method hmethod found hfound heq
  rcases Json.isText_iff.1 h.textual.1 with ⟨name, hname⟩
  rcases Json.isText_iff.1 hother.textual.1 with ⟨otherName, hotherName⟩
  rcases (h.textual.2 method hmethod).exists_signature with ⟨signature, hsignature⟩
  -- The common signature begins with the name of either class.
  have hfirst := h.takeWhile_toList_signature hmethod hsignature
  have hsecond := hother.takeWhile_toList_signature hfound (heq ▸ hsignature)
  rw [hfirst, hname, hotherName] at hsecond
  have hnames : name = otherName := String.toList_inj.1 (List.cons.inj hsecond).2
  rw [hname, hotherName, hnames] at hne
  exact hne rfl

end ClassDecl

namespace Model

variable {tree : Tree} {model : Model} {name : String} {decl : ClassDecl}

/-! ## Names -/

/-- There is a class of a name exactly if one of the classes has just that name. -/
theorem containsClass_iff_exists_name :
    model.containsClass name = true ↔ ∃ decl ∈ model.classes, decl.name = .str name := by
  simp [containsClass, class?, classOf?, ClassDecl.hasKey, Json.key?_eq_text_iff]

/-- The class of a name has just that name. -/
theorem name_of_class? (h : model.class? name = some decl) : decl.name = .str name := by
  have hkey := List.find?_some h
  exact Json.key?_eq_text_iff.1 (beq_iff_eq.1 hkey)

/-! ## Registering -/

theorem exists_signed {methods : List MethodDecl}
    (h : ∀ method ∈ methods, ∃ signature, method.signature = .ok signature) :
    ∃ added : List (String × MethodDecl), added.map (·.2) = methods ∧
      ∀ entry ∈ added, entry.2.signature = .ok entry.1 := by
  induction methods with
  | nil => exact ⟨[], rfl, by simp⟩
  | cons method rest ih =>
      rcases h method List.mem_cons_self with ⟨signature, hsignature⟩
      rcases ih fun other hother => h other (List.mem_cons_of_mem _ hother) with
        ⟨added, hmethods, hsigned⟩
      refine ⟨(signature, method) :: added, by simp [hmethods], ?_⟩
      intro entry hentry
      rcases List.mem_cons.1 hentry with rfl | hentry
      · exact hsignature
      · exact hsigned entry hentry

/-- Methods with signatures can be put into a table exactly if no two signatures, of methods that
are there or that are put there, are the same. -/
theorem exists_signMethods_iff {taken : List (String × MethodDecl)} {methods : List MethodDecl}
    (hsigned : ∀ entry ∈ taken, entry.2.signature = .ok entry.1)
    (hdistinct : (taken.map (·.1)).Nodup)
    (hmethods : ∀ method ∈ methods, ∃ signature, method.signature = .ok signature) :
    (∃ all, signMethods taken methods = .ok all) ↔
      (taken.map (·.2) ++ methods).Pairwise fun method other =>
        method.signature ≠ other.signature := by
  constructor
  · rintro ⟨all, hall⟩
    obtain ⟨added, rfl, rfl, hadded, hnodup⟩ := (signMethods_eq_ok_iff hdistinct).1 hall
    rw [← List.map_append]
    exact (nodup_signatures_iff fun entry hentry =>
      (List.mem_append.1 hentry).elim (hsigned entry) (hadded entry)).1 hnodup
  · intro hpairwise
    obtain ⟨added, rfl, hadded⟩ := exists_signed hmethods
    rw [← List.map_append] at hpairwise
    have hnodup := (nodup_signatures_iff fun entry hentry =>
      (List.mem_append.1 hentry).elim (hsigned entry) (hadded entry)).2 hpairwise
    exact ⟨_, (signMethods_eq_ok_iff hdistinct).2 ⟨added, rfl, rfl, hadded, hnodup⟩⟩

namespace Coherent

theorem pairwise_apart (h : model.Coherent) : model.classes.Pairwise ClassDecl.Apart :=
  (List.pairwise_flatMap.1 h.pairwise_signature_ne).2

theorem pairwise_methods (h : model.Coherent) (hdecl : decl ∈ model.classes) :
    decl.methods.Pairwise fun method other => method.signature ≠ other.signature :=
  (List.pairwise_flatMap.1 h.pairwise_signature_ne).1 decl hdecl

theorem class?_eq_some_iff (h : model.Coherent) :
    model.class? name = some decl ↔ decl ∈ model.classes ∧ decl.name = .str name := by
  rw [class?, h.classOf?_eq_some_iff, Json.key?_eq_text_iff]

/-- A class can be registered if its name is free, its methods have signatures, no two of them the
same, and it is apart from all classes that are registered. -/
theorem exists_register (h : model.Coherent) {key : Json.Key} (hkey : decl.name.key? = some key)
    (hfree : model.classOf? key = none)
    (hsigned : ∀ method ∈ decl.methods, ∃ signature, method.signature = .ok signature)
    (hdistinct : decl.methods.Pairwise fun method other => method.signature ≠ other.signature)
    (hapart : ∀ other ∈ model.classes, other.Apart decl) :
    ∃ after, model.register decl = .ok after := by
  -- Two equal signatures could stand in the table, in the class, or one here and one there.
  have hpairwise : (model.methods.map (·.2) ++ decl.methods).Pairwise fun method other =>
      method.signature ≠ other.signature := by
    rw [h.listed]
    refine List.pairwise_append.2 ⟨h.pairwise_signature_ne, hdistinct, ?_⟩
    intro method hmethod other hother
    rcases List.mem_flatMap.1 hmethod with ⟨holder, hholder, hmem⟩
    exact hapart holder hholder method hmem other hother
  rcases (exists_signMethods_iff h.signed h.distinctSignatures hsigned).2 hpairwise with ⟨_, hsign⟩
  exact ⟨_, register_eq_ok_iff.2 ⟨key, _, hkey, hfree, hsign, rfl⟩⟩

end Coherent

theorem classes_of_register {after : Model} (h : model.register decl = .ok after) :
    after.classes = model.classes ++ [decl] := by
  rcases register_eq_ok_iff.1 h with ⟨key, methods, -, -, -, rfl⟩
  rfl

theorem classes_of_registerAll {classes : List ClassDecl} {after : Model}
    (h : model.registerAll classes = .ok after) : after.classes = model.classes ++ classes := by
  induction classes generalizing model with
  | nil =>
      cases h
      exact (List.append_nil _).symm
  | cons decl rest ih =>
      obtain ⟨middle, hregister, hrest⟩ := registerAll_cons_eq_ok_iff.1 h
      rw [ih hrest, classes_of_register hregister, List.append_assoc, List.singleton_append]

/-- A model is made of the classes that it was given, in their order. -/
theorem classes_of_ofClasses {classes : List ClassDecl} {classPath : Option Path}
    (h : ofClasses classes classPath = .ok model) : model.classes = classes :=
  classes_of_registerAll h

/-! ## Class files -/

/-- The class file of the name holds the class, which has that very name. -/
def Files (model : Model) (tree : Tree) (name : String) (decl : ClassDecl) : Prop :=
  ∃ path, model.classFile? name = .ok (some path) ∧ tree.isFile path = .ok true ∧
    readClass tree path = .ok decl ∧ decl.name = .str name

/-- Class files are looked for in the class path, whatever classes there are. -/
theorem classFile?_congr {later : Model} (h : later.classPath = model.classPath) (name : String) :
    later.classFile? name = model.classFile? name := by
  unfold classFile?
  rw [h]

theorem files_congr {later : Model} (h : later.classPath = model.classPath) :
    later.Files tree name decl ↔ model.Files tree name decl := by
  unfold Files
  rw [classFile?_congr h]

theorem Files.unique {other : ClassDecl} (h : model.Files tree name decl)
    (hother : model.Files tree name other) : other = decl := by
  rcases h with ⟨path, hpath, -, hread, -⟩
  rcases hother with ⟨otherPath, hotherPath, -, hotherRead, -⟩
  cases hpath.symm.trans hotherPath
  exact Except.ok.inj (hotherRead.symm.trans hread)

/-- The class that a file describes is the one that its value describes. -/
theorem readClass_eq_ok_iff {path : Path} :
    readClass tree path = .ok decl ↔
      ∃ data, readValue tree path = .ok data ∧ ClassDecl.ofJson data = .ok decl := by
  unfold readClass
  cases readValue tree path with
  | error failure => simp
  | ok data => cases hdecl : ClassDecl.ofJson data <;> simp [Except.mapError, hdecl]

/-- A class that is read from a file is read from class data. -/
theorem exists_data_of_readClass {path : Path} (h : readClass tree path = .ok decl) :
    ∃ data, ClassDecl.ofJson data = .ok decl := by
  rcases readClass_eq_ok_iff.1 h with ⟨data, -, hdecl⟩
  exact ⟨data, hdecl⟩

theorem readNamed_eq_ok_iff {path : Path} :
    readNamed tree path name = .ok decl ↔
      readClass tree path = .ok decl ∧ decl.name = .str name := by
  unfold readNamed
  cases readClass tree path with
  | error failure => simp
  | ok found =>
      by_cases hkey : found.hasKey (.text name) = true
      · have hname : found.name = .str name := by
          simpa [ClassDecl.hasKey, Json.key?_eq_text_iff] using hkey
        simp only [hkey, if_true, Except.ok.injEq]
        constructor
        · rintro rfl
          exact ⟨rfl, hname⟩
        · exact fun h => h.1
      · have hname : found.name ≠ .str name := by
          simpa [ClassDecl.hasKey, Json.key?_eq_text_iff] using hkey
        simp only [hkey]
        constructor
        · intro h
          cases h
        · rintro ⟨h, hother⟩
          cases h
          exact absurd hother hname

/-! ## Models of class data -/

/-- Every class of the model is read from class data. -/
def FromData (model : Model) : Prop :=
  ∀ decl ∈ model.classes, ∃ data, ClassDecl.ofJson data = .ok decl

/-- A model of class data that grows by class files remains one. -/
theorem GrowsFrom.fromData {before after : Model} (h : GrowsFrom tree before after)
    (hbefore : before.FromData) : after.FromData := by
  induction h with
  | refl => exact hbefore
  | tail _ hloads ih =>
      rcases hloads with ⟨path, name, decl, hread, hregister⟩
      intro other hother
      rw [classes_of_register hregister] at hother
      rcases List.mem_append.1 hother with hother | hother
      · exact ih other hother
      · rcases List.mem_singleton.1 hother with rfl
        exact exists_data_of_readClass (readNamed_eq_ok_iff.1 hread).1

/-! ## Classes of call sites -/

/-- The class can be had under the name: it is registered, or else its class file holds it, and no
two of its methods have the same signature. -/
def Available (model : Model) (tree : Tree) (name : String) (decl : ClassDecl) : Prop :=
  model.class? name = some decl ∨
    (model.class? name = none ∧ model.Files tree name decl ∧
      decl.methods.Pairwise fun method other => method.signature ≠ other.signature)

namespace Available

theorem name_eq (h : model.Available tree name decl) : decl.name = .str name := by
  rcases h with hclass | ⟨-, ⟨path, -, -, -, hname⟩, -⟩
  · exact name_of_class? hclass
  · exact hname

/-- At most one class can be had under a name. -/
theorem unique {other : ClassDecl} (h : model.Available tree name decl)
    (hother : model.Available tree name other) : other = decl := by
  rcases h with hclass | ⟨hnone, hfiles, -⟩
  · rcases hother with hotherClass | ⟨hotherNone, -, -⟩
    · exact Option.some.inj (hotherClass.symm.trans hclass)
    · cases hotherNone.symm.trans hclass
  · rcases hother with hotherClass | ⟨-, hotherFiles, -⟩
    · cases hnone.symm.trans hotherClass
    · exact hfiles.unique hotherFiles

end Available

/-- Looking for the class of a call site, found or not, leaves the model alone; or the class was not
registered, and now it is the one that its file holds. -/
theorem state_sourceClass_cases (tree : Tree) (name : String) (model : Model) :
    let outcome := (sourceClass tree name).run model
    outcome.state = model ∨
      (model.class? name = none ∧
        ∃ decl, model.Files tree name decl ∧ model.register decl = .ok outcome.state) := by
  intro outcome
  cases hclass : model.class? name with
  | some found =>
      -- A registered class is at hand, and its file is not looked at.
      left
      exact congrArg Outcome.state (run_sourceClass_of_class? hclass tree)
  | none =>
      have hunknown : ¬ model.containsClass name = true := by
        simp [containsClass, hclass]
      -- The model is the one that the search leaves, since looking the class up changes nothing.
      have hlast : outcome.state = ((loadClass tree name).run model).state := by
        simp only [outcome]
        rw [sourceClass, Action.run_state_bind, if_neg hunknown]
        cases hload : ((loadClass tree name).run model).result with
        | error failure => exact (Action.run_bind_of_error _ hload).2
        | ok loaded =>
            rw [(Action.run_bind_of_ok _ hload).2, run_registeredClass]
      rw [hlast]
      rcases loadClass_cases tree name model with
        ⟨hsame, -⟩ | ⟨hsame, -⟩ | ⟨-, -, path, decl, hpath, hfile, hread, hregister⟩
      · exact .inl hsame
      · exact .inl hsame
      · rcases readNamed_eq_ok_iff.1 hread with ⟨hclassRead, hname⟩
        exact .inr ⟨rfl, decl, ⟨path, hpath, hfile, hclassRead, hname⟩, hregister⟩

/-- The class of a call site, if there is one, was registered before, or it has been read from its
file and registered. -/
theorem sourceClass_cases (h : model.Coherent)
    (hresult : ((sourceClass tree name).run model).result = .ok decl) :
    (model.class? name = some decl ∧ ((sourceClass tree name).run model).state = model) ∨
      (model.class? name = none ∧ model.Files tree name decl ∧
        model.register decl = .ok ((sourceClass tree name).run model).state) := by
  have hregistered := class?_of_sourceClass_ok hresult
  rcases state_sourceClass_cases tree name model with
    hsame | ⟨hnone, found, hfiles, hregister⟩
  · exact .inl ⟨hsame ▸ hregistered, hsame⟩
  · -- The class that has been registered is the only one of its name.
    rcases hfiles with ⟨path, hpath, hfile, hread, hname⟩
    have hfound := ((h.register hregister).class?_eq_some_iff).2
      ⟨by simp [classes_of_register hregister], hname⟩
    rw [hfound] at hregistered
    cases hregistered
    exact .inr ⟨hnone, ⟨path, hpath, hfile, hread, hname⟩, hregister⟩

/-- A search for a class that is not registered reads it from its file, if it can be registered
then. -/
theorem run_loadClass_of_files (hnone : model.class? name = none)
    (hfiles : model.Files tree name decl) {after : Model}
    (hregister : model.register decl = .ok after) :
    ((loadClass tree name).run model).result = .ok true ∧
      ((loadClass tree name).run model).state = after := by
  rcases hfiles with ⟨path, hpath, hfile, hread, hname⟩
  have hunknown : model.containsClass name = false := by
    simp [containsClass, hnone]
  have hprobe := probeClass_eq_found_iff.2 ⟨hpath, hfile⟩
  have hnamed := readNamed_eq_ok_iff.2 ⟨hread, hname⟩
  simp [loadClass, hunknown, hprobe, hnamed, hregister]

/-- A class that is not registered is read from its file, if it can be registered then. -/
theorem run_sourceClass_of_files (h : model.Coherent) (hnone : model.class? name = none)
    (hfiles : model.Files tree name decl) {after : Model}
    (hregister : model.register decl = .ok after) :
    ((sourceClass tree name).run model).result = .ok decl ∧
      ((sourceClass tree name).run model).state = after := by
  have hload := run_loadClass_of_files hnone hfiles hregister
  rcases hfiles with ⟨-, -, -, -, hname⟩
  have hclass := ((h.register hregister).class?_eq_some_iff).2
    ⟨by simp [classes_of_register hregister], hname⟩
  rw [sourceClass, Action.run_state_bind, if_neg (by simp [containsClass, hnone])]
  have hrun := Action.run_bind_of_ok (fun _ => registeredClass name) hload.1
  rw [hrun.1, hrun.2, hload.2, run_registeredClass, hclass]
  exact ⟨rfl, rfl⟩

end Model
end ReflectiveCalls
