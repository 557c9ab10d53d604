import ReflectiveCalls.Proofs.Program.Growth

/-!
# Proofs.Attribution — which methods a call is attributed to

The rule by which a call site is read, said of a class alone, and what resolving and adding a record
do in terms of it.

- `ClassDecl.attributed`: the methods that a call in a method of a name, at a line, may stand in.
- `Model.exists_of_resolve_ok`: resolving gives the attributed methods of the class that is then
  registered under the name.
- `Builder.addRecord_cases`: a record is refused before anything is recorded, or else its target is
  recorded for the attributed methods.
-/

namespace ReflectiveCalls

/-- The methods of the name, in the order of their declaration; but if there are two or more, the
line is known and some of them covers it, then the first of those alone. -/
def ClassDecl.attributed (decl : ClassDecl) (name : String) (line : Int) : List MethodDecl :=
  if 2 ≤ (decl.methodsNamed name).length ∧ line ≠ unknownLine then
    match (decl.methodsNamed name).find? (·.covers line) with
    | some method => [method]
    | none => decl.methodsNamed name
  else decl.methodsNamed name

/-- The methods of a name are those of the class that have it. -/
theorem ClassDecl.mem_methodsNamed_iff {decl : ClassDecl} {name : String} {method : MethodDecl} :
    method ∈ decl.methodsNamed name ↔ method ∈ decl.methods ∧ method.name = .str name := by
  rw [methodsNamed, List.mem_filter, MethodDecl.hasName, beq_iff_eq, Json.key?_eq_text_iff]

theorem ClassDecl.methodsNamed_ne_nil_iff {decl : ClassDecl} {name : String} :
    decl.methodsNamed name ≠ [] ↔ ∃ method ∈ decl.methods, method.name = .str name := by
  constructor
  · intro h
    rcases List.exists_mem_of_ne_nil _ h with ⟨method, hmethod⟩
    exact ⟨method, mem_methodsNamed_iff.1 hmethod⟩
  · rintro ⟨method, hmethod⟩
    exact List.ne_nil_of_mem (mem_methodsNamed_iff.2 hmethod)

/-- A call is attributed to methods of the name, whatever its line. -/
theorem ClassDecl.mem_methodsNamed_of_mem_attributed {decl : ClassDecl} {name : String} {line : Int}
    {method : MethodDecl} (h : method ∈ decl.attributed name line) :
    method ∈ decl.methodsNamed name := by
  unfold attributed at h
  split at h
  · split at h
    · next first hfirst =>
        rcases List.mem_singleton.1 h with rfl
        exact List.mem_of_find?_eq_some hfirst
    · exact h
  · exact h

/-- A call is attributed to methods of the class, whatever its line. -/
theorem ClassDecl.mem_of_mem_attributed {decl : ClassDecl} {name : String} {line : Int}
    {method : MethodDecl} (h : method ∈ decl.attributed name line) : method ∈ decl.methods :=
  (mem_methodsNamed_iff.1 (mem_methodsNamed_of_mem_attributed h)).1

/-- A call can be attributed if there are methods of the name. -/
theorem ClassDecl.attributed_eq_nil_iff {decl : ClassDecl} {name : String} {line : Int} :
    decl.attributed name line = [] ↔ decl.methodsNamed name = [] := by
  unfold attributed
  split
  · split
    · next first hfirst =>
        have hne := List.ne_nil_of_mem (List.mem_of_find?_eq_some hfirst)
        simp [hne]
    · exact Iff.rfl
  · exact Iff.rfl

/-! ## Resolving -/

namespace Model

theorem run_registeredClass (name : String) (model : Model) :
    (registeredClass name).run model =
      ⟨match model.class? name with
        | some decl => .ok decl
        | none => .error (.reported (.unknownSourceClass name)), model, []⟩ := by
  unfold registeredClass
  rw [Action.run_state_bind]
  cases model.class? name <;> rfl

/-- The class of a call site is at hand if it is registered. -/
theorem run_sourceClass_of_class? {name : String} {model : Model} {decl : ClassDecl}
    (hclass : model.class? name = some decl) (tree : Tree) :
    (sourceClass tree name).run model = ⟨.ok decl, model, []⟩ := by
  have hcontains : model.containsClass name = true := by
    simp [containsClass, hclass]
  rw [sourceClass, Action.run_state_bind, if_pos hcontains, run_registeredClass, hclass]

/-- The class of a call site is the one that is registered under its name in the end. -/
theorem class?_of_sourceClass_ok {tree : Tree} {name : String} {model : Model} {decl : ClassDecl}
    (h : ((sourceClass tree name).run model).result = .ok decl) :
    ((sourceClass tree name).run model).state.class? name = some decl := by
  have hregistered : ∀ before : Model,
      ((registeredClass name).run before).result = .ok decl → before.class? name = some decl := by
    intro before hresult
    rw [run_registeredClass] at hresult
    cases hclass : before.class? name with
    | none => simp [hclass] at hresult
    | some found => simpa [hclass] using hresult
  -- With or without loading, the last step looks the class up and leaves the model alone.
  rw [sourceClass, Action.run_state_bind] at h ⊢
  split at h
  · next hknown =>
      rw [if_pos hknown, run_registeredClass]
      exact hregistered model h
  · next hunknown =>
      rw [if_neg hunknown]
      rcases Action.exists_of_bind_ok h with ⟨loaded, -, hresult, hstate⟩
      rw [hstate, run_registeredClass]
      exact hregistered _ hresult

/-- Finding the methods meant leaves the model alone.  They are those to which the call is
attributed; or the class has no method of the name; or the signature of one of its methods is asked
for, and there is none. -/
theorem methodsMeant_cases (decl : ClassDecl) (className methodName : String) (line : Int)
    (model : Model) :
    let outcome := (methodsMeant decl className methodName line).run model
    outcome.state = model ∧
      (decl.methodsNamed methodName ≠ [] ∧ outcome.result = .ok (decl.attributed methodName line) ∨
        decl.methodsNamed methodName = [] ∧
          outcome.result = .error (.reported (.unknownSourceMethod className methodName)) ∨
        ∃ method ∈ decl.methods, ∃ fault, method.signature = .error fault ∧
          outcome.result = .error (.escaped (.shape fault))) := by
  unfold methodsMeant ClassDecl.attributed
  dsimp only
  cases hnamed : decl.methodsNamed methodName with
  | nil => simp
  | cons first others =>
      have hmem : ∀ method ∈ first :: others, method ∈ decl.methods := by
        intro method hmethod
        rw [← hnamed] at hmethod
        exact (List.mem_filter.1 hmethod).1
      cases others with
      | nil =>
          -- A method that is alone in its name is meant whatever the line.
          have hfirst := hmem first List.mem_cons_self
          cases hsignature : first.signature with
          | ok signature => simp [hsignature]
          | error fault =>
              refine ⟨by simp [hsignature], Or.inr (Or.inr ⟨first, hfirst, fault, hsignature, ?_⟩)⟩
              simp [hsignature]
      | cons second rest =>
          by_cases hline : line = unknownLine
          · simp [firstCovering, hline]
          · cases hcovers : (first :: second :: rest).find? (·.covers line) with
            | none => simp [firstCovering, hline, hcovers]
            | some method =>
                have hmethod := hmem method (List.mem_of_find?_eq_some hcovers)
                cases hsignature : method.signature with
                | ok signature => simp [firstCovering, hline, hcovers, hsignature]
                | error fault =>
                    refine ⟨by simp [firstCovering, hline, hcovers, hsignature],
                      Or.inr (Or.inr ⟨method, hmethod, fault, hsignature, ?_⟩)⟩
                    simp [firstCovering, hline, hcovers, hsignature]

/-- The methods meant are those to which the call is attributed, unless there is none; finding them
leaves the model alone. -/
theorem run_methodsMeant (decl : ClassDecl) (className methodName : String) (line : Int)
    (model : Model) :
    ((methodsMeant decl className methodName line).run model).state = model ∧
      ∀ methods, ((methodsMeant decl className methodName line).run model).result = .ok methods →
        methods = decl.attributed methodName line ∧ methods ≠ [] := by
  rcases methodsMeant_cases decl className methodName line model with
    ⟨hstate, ⟨hnamed, hresult⟩ | ⟨-, hresult⟩ | ⟨-, -, fault, -, hresult⟩⟩
  · refine ⟨hstate, fun methods h => ?_⟩
    cases hresult.symm.trans h
    exact ⟨rfl, mt ClassDecl.attributed_eq_nil_iff.1 hnamed⟩
  · exact ⟨hstate, fun methods h => nomatch hresult.symm.trans h⟩
  · exact ⟨hstate, fun methods h => nomatch hresult.symm.trans h⟩

/-- Resolving that succeeds gives the methods to which the call is attributed in the class that is
then registered under the name. -/
theorem exists_of_resolve_ok {tree : Tree} {className methodName : String} {line : Int}
    {model : Model} {methods : List MethodDecl}
    (h : ((resolve tree className methodName line).run model).result = .ok methods) :
    ∃ decl, methods = decl.attributed methodName line ∧ methods ≠ [] ∧
      ((resolve tree className methodName line).run model).state.class? className = some decl := by
  rcases Action.exists_of_bind_ok h with ⟨decl, hdecl, hmeant, hstate⟩
  have hrun := run_methodsMeant decl className methodName line
    ((sourceClass tree className).run model).state
  refine ⟨decl, (hrun.2 methods hmeant).1, (hrun.2 methods hmeant).2, ?_⟩
  rw [resolve, hstate, hrun.1]
  exact class?_of_sourceClass_ok hdecl

end Model

/-! ## Adding records -/

namespace Builder

theorem run_checkTarget (record : Record) (model : Model) :
    ((checkTarget record).run model).state = model ∧
      (((checkTarget record).run model).result = .ok () ↔
        (record.operation.targetsMethod = true → model.containsMethod record.target = true)) := by
  unfold checkTarget
  by_cases htargets : record.operation.targetsMethod = true
  · by_cases hknown : model.containsMethod record.target = true <;> simp [htargets, hknown]
  · simp [htargets]

theorem run_checkOpen (builder : Builder) :
    (checkOpen.run builder).state = builder ∧
      ((checkOpen.run builder).result = .ok () ↔ builder.built = false) := by
  unfold checkOpen
  cases hbuilt : builder.built <;> simp [hbuilt]

/-- A record is refused before anything is recorded; or else the builder is open, the target is
known if it names a method, and it is recorded for the methods to which the call is attributed in
the class that is then registered under the name of its class. -/
theorem addRecord_cases (tree : Tree) (record : Record) (model : Model) (builder : Builder) :
    let outcome := (addRecord tree record).run (model, builder)
    (outcome.result ≠ .ok () ∧ outcome.state.2 = builder) ∨
      ∃ decl, outcome.state.1.class? record.sourceClass = some decl ∧
        (record.operation.targetsMethod = true →
          outcome.state.1.containsMethod record.target = true) ∧
        builder.built = false ∧
        let recording := (recordAll record.operation record.target
          (decl.attributed record.sourceMethod record.line)).run builder
        outcome.result = recording.result ∧ outcome.state.2 = recording.state := by
  unfold addRecord
  simp only [Action.run_bind, Action.run_onFirst, Action.run_onSecond]
  -- The builder comes into play again only after three steps, each of which may refuse the record.
  have hopen := run_checkOpen builder
  cases hopened : (checkOpen.run builder).result with
  | error failure =>
      left
      exact ⟨by simp, hopen.1⟩
  | ok _ =>
      simp only [hopen.1]
      cases hresolve : ((Model.resolve tree record.sourceClass record.sourceMethod
          record.line).run model).result with
      | error failure =>
          left
          exact ⟨by simp, rfl⟩
      | ok methods =>
          rcases Model.exists_of_resolve_ok hresolve with ⟨decl, rfl, -, hclass⟩
          have htarget := run_checkTarget record
            ((Model.resolve tree record.sourceClass record.sourceMethod
              record.line).run model).state
          cases hchecked : ((checkTarget record).run ((Model.resolve tree record.sourceClass
              record.sourceMethod record.line).run model).state).result with
          | error failure =>
              left
              exact ⟨by simp, rfl⟩
          | ok _ =>
              right
              simp only [htarget.1]
              exact ⟨decl, hclass, htarget.2.1 hchecked, hopen.2.1 hopened, rfl, rfl⟩

end Builder
end ReflectiveCalls
