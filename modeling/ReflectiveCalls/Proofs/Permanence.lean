import ReflectiveCalls.Proofs.Attribution
import ReflectiveCalls.Proofs.History

/-!
# Proofs.Permanence — what is known is never revised

Classes are only ever added to a model, and files are only read for classes that are not known.  So
an answer that was given from a registered class is given again at every later time, whatever has
happened to the files meanwhile.

- `Failure.OfModel`: the failures with which a search for a class can end.  That a class has no
  method of some name is none of them.
- `Model.settled_of_resolve_ok`, `Model.settled_of_resolve_unknown`: a resolution that gave methods,
  or found that a class has none of the name, ends in the same way in every later model.
- `World.never_revised_run`: over any history classes, signatures and resolutions stay as they are.
-/

namespace ReflectiveCalls

/-! ## Failures of a search -/

/-- The failure is about the program model or its files, or nothing reports it. -/
def Failure.OfModel : Failure → Prop
  | .reported (.model _) | .escaped _ => True
  | _ => False

/-- The class and the method name of a call site, when the result is that the class has no method of
the name. -/
def Failure.unknownMethod? {α : Type} : Except Failure α → Option (String × String)
  | .error (.reported (.unknownSourceMethod className methodName)) => some (className, methodName)
  | _ => none

theorem Failure.unknownMethod?_eq_some_iff {α : Type} {result : Except Failure α}
    {className methodName : String} :
    unknownMethod? result = some (className, methodName) ↔
      result = .error (.reported (.unknownSourceMethod className methodName)) := by
  constructor
  · intro h
    unfold unknownMethod? at h
    split at h
    · cases h
      rfl
    · cases h
  · rintro rfl
    rfl

theorem ShapeFault.ofModel_toFailure (path : Path) (fault : ShapeFault) :
    (fault.toFailure path).OfModel := by
  cases fault <;> trivial

namespace Model

variable {tree : Tree} {path : Path} {name : String} {model : Model} {failure : Failure}

theorem ofModel_of_readValue_error (h : readValue tree path = .error failure) :
    failure.OfModel := by
  unfold readValue at h
  dsimp only at h
  repeat' split at h
  all_goals
    cases h
    try trivial

theorem ofModel_of_readClass_error (h : readClass tree path = .error failure) :
    failure.OfModel := by
  unfold readClass at h
  cases hvalue : readValue tree path with
  | error fault =>
      simp only [hvalue, Except.error.injEq] at h
      exact h ▸ ofModel_of_readValue_error hvalue
  | ok value =>
      simp only [hvalue] at h
      cases hdecl : ClassDecl.ofJson value with
      | error fault =>
          rw [hdecl] at h
          cases h
          exact fault.ofModel_toFailure path
      | ok decl =>
          rw [hdecl] at h
          cases h

theorem ofModel_of_readNamed_error (h : readNamed tree path name = .error failure) :
    failure.OfModel := by
  unfold readNamed at h
  cases hclass : readClass tree path with
  | error fault =>
      simp only [hclass, Except.error.injEq] at h
      exact h ▸ ofModel_of_readClass_error hclass
  | ok decl =>
      simp only [hclass] at h
      split at h
      · cases h
      · cases h
        trivial

theorem ofModel_of_signMethods_error {taken : List (String × MethodDecl)}
    {methods : List MethodDecl} (h : signMethods taken methods = .error failure) :
    failure.OfModel := by
  induction methods generalizing taken with
  | nil => cases h
  | cons method rest ih =>
      unfold signMethods at h
      split at h
      · cases h
        trivial
      · split at h
        · cases h
          trivial
        · exact ih h

theorem ofModel_of_register_error {decl : ClassDecl} (h : model.register decl = .error failure) :
    failure.OfModel := by
  rcases register_eq_error_iff.1 h with ⟨_, -, rfl⟩ | ⟨_, -, ⟨-, rfl⟩ | ⟨-, hsign⟩⟩
  · trivial
  · trivial
  · exact ofModel_of_signMethods_error hsign

theorem ofModel_of_probeClass_error (h : model.probeClass tree name = .error failure) :
    failure.OfModel := by
  have hfile : ∀ fault, model.classFile? name = .error fault → fault.OfModel := by
    intro fault hfault
    unfold classFile? at hfault
    dsimp only at hfault
    repeat' split at hfault
    all_goals
      cases hfault
      try trivial
  unfold probeClass at h
  split at h
  · next hfault =>
      cases h
      exact hfile _ hfault
  · cases h
  · split at h
    · cases h
      trivial
    · cases h

/-- A search for a class can only fail for reasons of the model and its files. -/
theorem ofModel_of_loadClass_error
    (h : ((loadClass tree name).run model).result = .error failure) : failure.OfModel := by
  rcases loadClass_cases tree name model with
    ⟨-, found, hresult, -⟩ | ⟨-, fault, hresult, hfault⟩ | ⟨-, hresult, -⟩
  · cases hresult.symm.trans h
  · cases hresult.symm.trans h
    rcases hfault with hprobe | ⟨path, -, hread | ⟨decl, -, hregister⟩⟩
    · exact ofModel_of_probeClass_error hprobe
    · exact ofModel_of_readNamed_error hread
    · exact ofModel_of_register_error hregister
  · cases hresult.symm.trans h

/-- The class of a call site is not found for reasons of the model and its files, or because there
is no class of the name. -/
theorem ofModel_of_sourceClass_error
    (h : ((sourceClass tree name).run model).result = .error failure) :
    failure.OfModel ∨ failure = .reported (.unknownSourceClass name) := by
  have hregistered : ∀ before : Model,
      ((registeredClass name).run before).result = .error failure →
        failure = .reported (.unknownSourceClass name) := by
    intro before hresult
    rw [run_registeredClass] at hresult
    cases hclass : before.class? name with
    | some decl => simp [hclass] at hresult
    | none => simpa [hclass, eq_comm] using hresult
  rw [sourceClass, Action.run_state_bind] at h
  split at h
  · exact Or.inr (hregistered model h)
  · cases hload : ((loadClass tree name).run model).result with
    | error fault =>
        have heq := (Action.run_bind_of_error (fun _ => registeredClass name) hload).1.symm.trans h
        exact Or.inl (Except.error.inj heq ▸ ofModel_of_loadClass_error hload)
    | ok loaded =>
        have hrun := (Action.run_bind_of_ok (fun _ => registeredClass name) hload).1
        exact Or.inr (hregistered _ (hrun.symm.trans h))

/-! ## Resolutions that stand -/

/-- Which methods are meant depends on the class alone, not on the model. -/
theorem run_methodsMeant_congr (decl : ClassDecl) (className methodName : String) (line : Int)
    (model other : Model) :
    (methodsMeant decl className methodName line).run other =
      ⟨((methodsMeant decl className methodName line).run model).result, other,
        ((methodsMeant decl className methodName line).run model).events⟩ := by
  unfold methodsMeant
  dsimp only
  split
  · rfl
  · next method _ => cases hsignature : method.signature <;> simp
  · split
    · next method _ => cases hsignature : method.signature <;> simp
    · simp

/-- Resolving in a class that is registered reads no files. -/
theorem run_resolve_of_class? {className : String} {decl : ClassDecl}
    (hclass : model.class? className = some decl) (tree : Tree) (methodName : String)
    (line : Int) :
    (resolve tree className methodName line).run model =
      (methodsMeant decl className methodName line).run model := by
  rw [resolve, Action.run_bind, run_sourceClass_of_class? hclass]
  simp only [List.nil_append]

variable {className methodName : String} {line : Int} {later : Model}

/-- A resolution that came as far as the class is repeated in every later model: it ends in the
same way, whatever the files are, and leaves the model alone. -/
theorem settled_of_sourceClass_ok {decl : ClassDecl}
    (hsource : ((sourceClass tree className).run model).result = .ok decl)
    (hlater : later.Extends ((resolve tree className methodName line).run model).state) :
    ∃ events, ∀ files, (resolve files className methodName line).run later =
      ⟨((resolve tree className methodName line).run model).result, later, events⟩ := by
  have hfirst := Action.run_bind_of_ok
    (fun decl => methodsMeant decl className methodName line) hsource
  have hmeant := run_methodsMeant_congr decl className methodName line
    ((sourceClass tree className).run model).state later
  -- The class was registered when the first resolution ended, so it is registered later.
  have hclass : later.class? className = some decl := by
    rw [resolve, hfirst.2, (run_methodsMeant decl className methodName line _).1] at hlater
    exact hlater.class?_eq_some (class?_of_sourceClass_ok hsource)
  refine ⟨((methodsMeant decl className methodName line).run later).events, fun files => ?_⟩
  rw [run_resolve_of_class? hclass, resolve, hfirst.1, hmeant]

/-- Methods that a resolution gave are given again in every later model, without a look at the
files and without a change to the model. -/
theorem settled_of_resolve_ok {methods : List MethodDecl}
    (h : ((resolve tree className methodName line).run model).result = .ok methods)
    (hlater : later.Extends ((resolve tree className methodName line).run model).state) :
    ∃ events, ∀ files,
      (resolve files className methodName line).run later = ⟨.ok methods, later, events⟩ := by
  rcases Action.exists_of_bind_ok h with ⟨decl, hsource, -, -⟩
  rw [← h]
  exact settled_of_sourceClass_ok hsource hlater

/-- A method that a class was found to lack is found lacking in every later model. -/
theorem settled_of_resolve_unknown
    (h : ((resolve tree className methodName line).run model).result =
      .error (.reported (.unknownSourceMethod className methodName)))
    (hlater : later.Extends ((resolve tree className methodName line).run model).state) :
    ∃ events, ∀ files, (resolve files className methodName line).run later =
      ⟨.error (.reported (.unknownSourceMethod className methodName)), later, events⟩ := by
  cases hsource : ((sourceClass tree className).run model).result with
  | ok decl =>
      rw [← h]
      exact settled_of_sourceClass_ok hsource hlater
  | error failure =>
      -- A search for the class never fails for want of a method.
      have heq := (Action.run_bind_of_error
        (fun decl => methodsMeant decl className methodName line) hsource).1.symm.trans h
      rcases ofModel_of_sourceClass_error hsource with hfailure | hfailure
      · rw [Except.error.inj heq] at hfailure
        exact hfailure.elim
      · rw [Except.error.inj heq] at hfailure
        cases hfailure

end Model

/-! ## Over a history -/

namespace World

/-- Whatever happens to a model and to the files, nothing that was known is revised.  The classes
that were registered come first among those that are registered later, in the same order; a
signature that was known leads to the same method; methods that a resolution gave are given by every
later one with the same arguments, whatever the files are then and without a change to the model;
and a method that a class was found to lack is found lacking by every later one. -/
theorem never_revised_run {classes : List ClassDecl} {classPath : Option Path} (world : World)
    (built : Model.ofClasses classes classPath = .ok world.model) (moves later : List Move) :
    let before := world.run moves
    let after := before.run later
    before.model.classes <+: after.model.classes ∧
      (∀ signature method, before.model.method? signature = some method →
        after.model.method? signature = some method) ∧
      ∀ className methodName line,
        let resolve := fun files => Model.resolve files className methodName line
        let resolved := ((resolve before.tree).run before.model).result
        let afterwards := (before.run (.resolve className methodName line :: later)).model
        let unknown := Failure.reported (.unknownSourceMethod className methodName)
        (∀ methods, resolved = .ok methods → ∃ events, ∀ files,
          (resolve files).run afterwards = ⟨.ok methods, afterwards, events⟩) ∧
        (resolved = .error unknown → ∃ events, ∀ files,
          (resolve files).run afterwards = ⟨.error unknown, afterwards, events⟩) := by
  intro before after
  have hcoherent : before.model.Coherent := coherent_run built moves
  have hextends : after.model.Extends before.model :=
    (before.grows_run later).toExtends hcoherent
  refine ⟨hextends.classes, fun signature method => hextends.method?_eq_some, ?_⟩
  intro className methodName line resolve resolved afterwards unknown
  have hresolved := before.grows_after (.resolve className methodName line)
  have hafterwards : afterwards.Extends
      (before.after (.resolve className methodName line)).model :=
    (grows_run _ later).toExtends (hresolved.coherent hcoherent)
  exact ⟨fun methods h => Model.settled_of_resolve_ok h hafterwards,
    fun h => Model.settled_of_resolve_unknown h hafterwards⟩

/-- A class is read from its file to find one method in it and to find that it lacks another one;
the file vanishes, and both answers stand. -/
theorem never_revised_run_sample :
    let world := start Sample.tree Sample.model
    let resolve := fun files methodName => Model.resolve files "shop.Item" methodName (-1)
    let afterwards := fun methodName => (world.run
      [.resolve "shop.Item" methodName (-1), .changeFiles (.withFolder []),
        .loadClass "shop.Gone"]).model
    let unknown := Failure.reported (.unknownSourceMethod "shop.Item" "lift")
    (∃ methods events, ((resolve world.tree "drop").run world.model).result = .ok methods ∧
      ∀ files, (resolve files "drop").run (afterwards "drop") =
        ⟨.ok methods, afterwards "drop", events⟩) ∧
      ((resolve world.tree "lift").run world.model).result = .error unknown ∧
      ∃ events, ∀ files, (resolve files "lift").run (afterwards "lift") =
        ⟨.error unknown, afterwards "lift", events⟩ := by
  intro world resolve afterwards unknown
  have hnever := (never_revised_run world Sample.model_built []
    [.changeFiles (.withFolder []), .loadClass "shop.Gone"]).2.2 "shop.Item"
  have hfound : ((resolve world.tree "drop").run world.model).result.isOk = true := by
    decide +kernel
  have hlacking : ((resolve world.tree "lift").run world.model).result = .error unknown :=
    Failure.unknownMethod?_eq_some_iff.1 (by decide +kernel)
  rcases Action.exists_eq_ok_of_isOk hfound with ⟨methods, hmethods⟩
  rcases (hnever "drop" (-1)).1 methods hmethods with ⟨events, hdrop⟩
  exact ⟨⟨methods, events, hmethods, hdrop⟩, hlacking, (hnever "lift" (-1)).2 hlacking⟩

end World
end ReflectiveCalls
