import ReflectiveCalls.Proofs.Index.Soundness
import ReflectiveCalls.Proofs.Program.Availability

/-!
# Proofs.Index.Refusal — what a refused record leaves behind

Adding a record goes through several steps, each of which may refuse it: the builder has to be open,
the class of the call site has to be found, a method of it has to be meant, the target has to be
known, and each of the methods meant has to be identified before the target is recorded for it.
Only the last step touches what is recorded, and it does so method by method.

- `MethodDecl.not_identified`: the methods of class data that have a signature and still count as
  nothing are those whose return type is an array or an object.
- `World.model_after_addRecord`: what a record does to the model, taken or refused.
- `World.refused_leaves`: a refused record leaves the model as it is or adds the class of the call
  site, and leaves what is recorded as it is, but for one case: it is attributed to several methods,
  and one after the first cannot be identified.
- `World.refused_leaves_part`: in that case part of the record stays.
-/

namespace ReflectiveCalls

/-! ## Methods that cannot be identified -/

namespace Json

/-- Arrays and objects, and they alone, identify nothing. -/
theorem identity_eq_error_iff {value : Json} {fault : ShapeFault} :
    value.identity = .error fault ↔
      (value.kind = .arr ∨ value.kind = .obj) ∧ fault = .noIdentity value.kind := by
  cases value with
  | float value => cases hwhole : value.toInt? <;> simp [identity, key?, kind, hwhole]
  | _ => simp [identity, key?, kind, eq_comm]

end Json

namespace MethodDecl

theorem eq_map_str_of_parameterTexts {position : Nat} {types : List Json} {texts : List String}
    (h : parameterTexts position types = .ok texts) : types = texts.map .str := by
  induction types generalizing position texts with
  | nil =>
      cases h
      rfl
  | cons type rest ih =>
      cases type with
      | str text =>
          rw [parameterTexts] at h
          cases hrest : parameterTexts (position + 1) rest with
          | error fault => simp [hrest] at h
          | ok others =>
              simp only [hrest, Except.ok.injEq] at h
              rw [← h, ih hrest]
              rfl
      | _ => cases h

/-- A method whose class and name are texts and that has a signature is identified unless its return
type is an array or an object. -/
theorem not_identified {method : MethodDecl} {owner name signature : String} {fault : ShapeFault}
    (howner : method.declaringClass = .str owner) (hname : method.name = .str name)
    (hsignature : method.signature = .ok signature) (hfault : method.identity = .error fault) :
    (method.returnType.kind = .arr ∨ method.returnType.kind = .obj) ∧
      fault = .noIdentity method.returnType.kind := by
  -- A signature joins the parameter types, so they are texts.
  have htypes : ∃ texts : List String, method.parameterTypes = texts.map .str := by
    unfold MethodDecl.signature at hsignature
    cases htexts : parameterTexts 0 method.parameterTypes with
    | error fault => simp [htexts] at hsignature
    | ok texts => exact ⟨texts, eq_map_str_of_parameterTexts htexts⟩
  rcases htypes with ⟨texts, htypes⟩
  have hkeys : method.parameterTypes.mapM Json.identity = .ok (texts.map .text) := by
    rw [Json.mapM_identity_eq_ok_iff, Json.keyed_text_iff]
    exact htypes
  apply Json.identity_eq_error_iff.1
  unfold MethodDecl.identity at hfault
  rw [howner, hname, hkeys] at hfault
  cases hreturn : method.returnType.identity with
  | error cause => simpa [hreturn, bind, Except.bind] using hfault
  | ok key => simp [hreturn, bind, Except.bind, pure, Except.pure] at hfault

end MethodDecl

/-! ## What a record does to the model -/

/-- Resolving a call site does to the model what finding its class does. -/
theorem Model.state_resolve (tree : Tree) (className methodName : String) (line : Int)
    (model : Model) :
    ((resolve tree className methodName line).run model).state =
      ((sourceClass tree className).run model).state := by
  unfold resolve
  cases hclass : ((sourceClass tree className).run model).result with
  | error failure => exact (Action.run_bind_of_error _ hclass).2
  | ok decl =>
      calc _ = ((methodsMeant decl className methodName line).run
              ((sourceClass tree className).run model).state).state :=
            (Action.run_bind_of_ok _ hclass).2
        _ = ((sourceClass tree className).run model).state := (run_methodsMeant ..).1

/-- Adding a record, taken or refused, does to the model what finding its class does; or it leaves
the model alone. -/
theorem Builder.model_addRecord (tree : Tree) (record : Record) (model : Model)
    (builder : Builder) :
    let outcome := (addRecord tree record).run (model, builder)
    outcome.state.1 = model ∨
      outcome.state.1 = ((Model.sourceClass tree record.sourceClass).run model).state := by
  intro outcome
  have hresolved :=
    Model.state_resolve tree record.sourceClass record.sourceMethod record.line model
  simp only [outcome, addRecord, Action.run_bind, Action.run_onFirst, Action.run_onSecond]
  cases (checkOpen.run builder).result with
  | error failure => exact .inl rfl
  | ok _ =>
      right
      cases ((Model.resolve tree record.sourceClass record.sourceMethod record.line).run
          model).result with
      | error failure => exact hresolved
      | ok methods =>
          have hchecked := (run_checkTarget record ((Model.resolve tree record.sourceClass
            record.sourceMethod record.line).run model).state).1
          cases ((checkTarget record).run ((Model.resolve tree record.sourceClass
              record.sourceMethod record.line).run model).state).result with
          | error failure => exact hchecked.trans hresolved
          | ok _ => exact hchecked.trans hresolved

namespace World

/-- A record that is added, taken or refused, leaves the model as it is; or its class was not
registered, and now it is the one that its class file holds. -/
theorem model_after_addRecord (world : World) (record : Record) :
    let after := world.after (.addRecord record)
    after.model = world.model ∨
      (world.model.class? record.sourceClass = none ∧
        ∃ decl, world.model.Files world.tree record.sourceClass decl ∧
          world.model.register decl = .ok after.model) := by
  intro after
  rcases Builder.model_addRecord world.tree record world.model world.builder with hsame | hclass
  · exact .inl hsame
  · have hafter : after.model = _ := hclass
    rw [hafter]
    exact Model.state_sourceClass_cases world.tree record.sourceClass world.model

/-- The classes of a model of class data, and those that are loaded into it, are read from class
data. -/
theorem fromData_run {classes : List ClassDecl} {classPath : Option Path} {model : Model}
    (built : Model.ofClasses classes classPath = .ok model)
    (data : ∀ decl ∈ classes, ∃ data, ClassDecl.ofJson data = .ok decl) (tree : Tree)
    (moves : List Move) : ((start tree model).run moves).model.FromData := by
  have hstart : (start tree model).model.FromData := by
    intro decl hdecl
    exact data decl (Model.classes_of_ofClasses built ▸ hdecl)
  suffices hrun : ∀ world : World, world.model.FromData → (world.run moves).model.FromData from
    hrun _ hstart
  induction moves with
  | nil => exact fun world h => h
  | cons move rest ih =>
      exact fun world h => ih (world.after move) ((world.growsFrom_after move).fromData h)

end World

/-! ## A record that is given up half-way -/

namespace Sample

/-- Class data with two methods of one name; the return type of the second one is an array. -/
def runnerData : Json :=
  .obj [("name", .str "p.A"), ("methods", .arr [
    .obj [("name", .str "run"), ("return_type", .str "void")],
    .obj [("name", .str "run"), ("return_type", .arr [])]])]

/-- A method without parameters and lines. -/
def runMethod (returnType : Json) : MethodDecl :=
  ⟨.str "p.A", .str "run", returnType, [], none, none⟩

/-- The class that the data describe. -/
def runner : ClassDecl := ⟨.str "p.A", [runMethod (.str "void"), runMethod (.arr [])]⟩

/-- A model of that class alone. -/
def runnerModel : Model :=
  ⟨none, [runner], [("<p.A: void run()>", runMethod (.str "void")),
    ("<p.A: [] run()>", runMethod (.arr []))]⟩

/-- A call in either of the two methods. -/
def callOfRunner : Record := ⟨.classForName, "p.B", "p.A", "run", unknownLine, 0⟩

theorem runner_read : ∀ decl ∈ [runner], ∃ data, ClassDecl.ofJson data = .ok decl := by
  intro decl hdecl
  rcases List.mem_singleton.1 hdecl with rfl
  exact ⟨runnerData, by rfl⟩

theorem runnerModel_built : Model.ofClasses [runner] none = .ok runnerModel := by rfl

theorem callOfRunner_refused :
    ((World.start (.withFolder []) runnerModel).adding callOfRunner).result =
      .error (.escaped (.shape (.noIdentity .arr))) := by rfl

end Sample

/-! ## Refused records -/

namespace World

/-- A record is refused over class data.  The model is left as it is, or the class of the call site,
which was not registered, has been added to it.  What is recorded is left as it is, with the whole
builder; or else the call is attributed to several methods, and the refusal comes from one after the
first: its return type is an array or an object, so it cannot be identified.  In that case the
target stays recorded for the methods before that one, and nothing else has changed. -/
theorem refused_leaves {classes : List ClassDecl} {classPath : Option Path} {model : Model}
    (data : ∀ decl ∈ classes, ∃ data, ClassDecl.ofJson data = .ok decl)
    (built : Model.ofClasses classes classPath = .ok model) (tree : Tree) (moves : List Move)
    (record : Record) {failure : Failure}
    (refused : (((start tree model).run moves).adding record).result = .error failure) :
    let before := (start tree model).run moves
    let after := before.after (.addRecord record)
    (after.model = before.model ∨
      before.model.class? record.sourceClass = none ∧
        ∃ decl, before.model.Files before.tree record.sourceClass decl ∧
          before.model.register decl = .ok after.model) ∧
    (after.builder = before.builder ∨
      ∃ decl done method later, after.model.class? record.sourceClass = some decl ∧
        decl.attributed record.sourceMethod record.line = done ++ method :: later ∧ done ≠ [] ∧
        (method.returnType.kind = .arr ∨ method.returnType.kind = .obj) ∧
        failure = .escaped (.shape (.noIdentity method.returnType.kind)) ∧
        after.builder.built = before.builder.built ∧
        ∀ operation container target,
          Index.Records ⟨after.builder.recorded⟩ operation container target ↔
            Index.Records ⟨before.builder.recorded⟩ operation container target ∨
              (operation = record.operation ∧ target = record.target ∧
                ∃ other ∈ done, other.same container = true)) := by
  intro before after
  refine ⟨before.model_after_addRecord record, ?_⟩
  have hbefore : before.Sound := (sound_start (Model.coherent_ofClasses built) tree).run moves
  rcases hbefore.addRecord record with
    ⟨hsound, hbuilt, ⟨-, hsame⟩ |
      ⟨decl, done, rest, hclass, hmethods, hnone, hkeys, hending, hhas⟩⟩
  · exact .inl hsame
  by_cases hdone : done = []
  · exact .inl (hnone hdone)
  · right
    rcases hending with ⟨-, hresult⟩ | ⟨method, later, fault, rfl, hfault, hresult⟩
    · cases refused.symm.trans hresult
    · -- The method has a name and a signature, and its class names it as its own.
      have hattributed : ∀ other ∈ done ++ method :: later,
          other ∈ decl.methodsNamed record.sourceMethod := by
        intro other hother
        rw [← hmethods] at hother
        exact ClassDecl.mem_methodsNamed_of_mem_attributed hother
      rcases ClassDecl.mem_methodsNamed_iff.1 (hattributed method (by simp)) with ⟨hmem, hname⟩
      rcases hsound.coherent.class?_eq_some_iff.1 hclass with ⟨hdecl, hdeclName⟩
      rcases hsound.coherent.exists_signature hdecl hmem with ⟨signature, hsignature, -⟩
      have hdata : after.model.FromData :=
        (before.growsFrom_after (.addRecord record)).fromData (fromData_run built data tree moves)
      rcases hdata decl hdecl with ⟨value, hread⟩
      have howner : method.declaringClass = .str record.sourceClass :=
        (ClassDecl.declaringClass_of_mem_methods hread hmem).trans hdeclName
      rcases MethodDecl.not_identified howner hname hsignature hfault with ⟨hkind, rfl⟩
      cases refused.symm.trans hresult
      refine ⟨decl, done, method, later, hclass, hmethods, hdone, hkind, rfl, hbuilt, ?_⟩
      intro operation container target
      rw [hsound.recorded.records_iff, hbefore.recorded.records_iff]
      constructor
      · rintro ⟨key, hkey, hafter⟩
        rcases (hhas operation key target).1 hafter with
          hearlier | ⟨rfl, rfl, other, hother, hotherKey⟩
        · exact .inl ⟨key, hkey, hearlier⟩
        · exact .inr ⟨rfl, rfl, other, hother, (MethodDecl.same_iff hotherKey container).2 hkey⟩
      · rintro (⟨key, hkey, hearlier⟩ | ⟨rfl, rfl, other, hother, hequal⟩)
        · exact ⟨key, hkey, (hhas operation key target).2 (.inl hearlier)⟩
        · -- The methods before the one that fails have been identified.
          rcases hkeys other hother with ⟨key, hkey⟩
          exact ⟨key, (MethodDecl.same_iff hkey container).1 hequal,
            (hhas _ key _).2 (.inr ⟨rfl, rfl, other, hother, hkey⟩)⟩

/-- A record that is given up half-way is refused all the same and leaves the model alone, but its
target stays recorded for the first of the two methods. -/
theorem refused_leaves_sample :
    let before := start (.withFolder []) Sample.runnerModel
    (before.adding Sample.callOfRunner).result = .error (.escaped (.shape (.noIdentity .arr))) ∧
      (before.after (.addRecord Sample.callOfRunner)).model = Sample.runnerModel ∧
      ∀ operation container target,
        Index.Records ⟨(before.after (.addRecord Sample.callOfRunner)).builder.recorded⟩ operation
            container target ↔
          operation = .classForName ∧ target = "p.B" ∧
            (Sample.runMethod (.str "void")).same container = true := by
  intro before
  have hleaves := refused_leaves Sample.runner_read Sample.runnerModel_built (.withFolder []) []
    Sample.callOfRunner Sample.callOfRunner_refused
  refine ⟨Sample.callOfRunner_refused, ?_, ?_⟩
  · rcases hleaves.1 with hsame | ⟨hnone, -⟩
    · exact hsame
    · cases hnone
  · rcases hleaves.2 with
      hsame | ⟨decl, done, method, later, hclass, hmethods, hdone, -, -, -, hiff⟩
    · -- Something is recorded now, so the builder is not as it was.
      have hrecorded : (before.after (.addRecord Sample.callOfRunner)).builder.recorded =
          before.builder.recorded := congrArg (·.recorded) hsame
      cases hrecorded
    · -- Nothing was recorded before, and the first of the two methods is all that can come before
      -- another one.
      have hnothing : ∀ operation container target,
          ¬Index.Records ⟨before.builder.recorded⟩ operation container target := by
        rintro operation container target ⟨names, hnames, htarget⟩
        rcases Index.names_eq_ok_iff.1 hnames with ⟨key, -, rfl⟩
        cases operation <;> cases htarget
      cases hclass.symm.trans (rfl : _ = some Sample.runner)
      have hfirst : done = [Sample.runMethod (.str "void")] := by
        have hboth : [Sample.runMethod (.str "void"), Sample.runMethod (.arr [])] =
            done ++ method :: later := hmethods
        rcases done with _ | ⟨first, _ | ⟨second, rest⟩⟩
        · exact absurd rfl hdone
        · cases hboth
          rfl
        · cases rest <;> cases hboth
      intro operation container target
      refine ((hiff operation container target).trans
        (or_iff_right (hnothing operation container target))).trans ?_
      simp [hfirst, Sample.callOfRunner]

/-- It is not so that whatever refuses a record over class data leaves what is recorded as it
was. -/
theorem refused_leaves_part :
    ¬ ∀ (classes : List ClassDecl) (classPath : Option Path) (model : Model) (tree : Tree)
        (moves : List Move) (record : Record) (failure : Failure),
      (∀ decl ∈ classes, ∃ data, ClassDecl.ofJson data = .ok decl) →
      Model.ofClasses classes classPath = .ok model →
      (((start tree model).run moves).adding record).result = .error failure →
      ∀ operation container target,
        Index.Records ⟨(((start tree model).run moves).after (.addRecord record)).builder.recorded⟩
            operation container target ↔
          Index.Records ⟨((start tree model).run moves).builder.recorded⟩
            operation container target := by
  intro hclaim
  have hiff := hclaim [Sample.runner] none Sample.runnerModel (.withFolder []) []
    Sample.callOfRunner _ Sample.runner_read Sample.runnerModel_built Sample.callOfRunner_refused
    .classForName (Sample.runMethod (.str "void")) "p.B"
  -- The target stays recorded for the first method, where nothing had been recorded before.
  have hafter : Index.Records
      ⟨((start (.withFolder []) Sample.runnerModel).after
        (.addRecord Sample.callOfRunner)).builder.recorded⟩ .classForName
      (Sample.runMethod (.str "void")) "p.B" :=
    ⟨_, rfl, by decide +kernel⟩
  rcases hiff.1 hafter with ⟨names, hnames, htarget⟩
  have hnone : names = [] := (Except.ok.inj hnames).symm
  rw [hnone] at htarget
  cases htarget

end World
end ReflectiveCalls
