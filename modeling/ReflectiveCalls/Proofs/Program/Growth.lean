import ReflectiveCalls.Index.Builder
import ReflectiveCalls.Proofs.Action
import ReflectiveCalls.Proofs.Program.Coherence

/-!
# Proofs.Program.Growth — what steps do to a model

Looking for a class either leaves the model as it was or registers that one class; every other step
on a model is made of such searches.  So the model that a step leaves, whether the step fails or
not, is the model before with further classes registered, each of them read from its class file.

- `Model.exists_of_load_ok`: a model that is loaded from a file is made of classes.
- `Model.loadClass_cases`: the ways in which a search for a class ends.
- `Model.Loads`, `Model.GrowsFrom`: a class read from its file and registered, and several of them.
- `Model.keeps_resolve`, `Builder.keeps_addRecord`, `Index.keeps_entities`: resolutions, records and
  queries make a model grow.
-/

namespace ReflectiveCalls

open ReflectiveCalls.Action (Keeps)

/-! ## Loading -/

namespace Model

theorem result_load (tree : Tree) (program : Path) (classPath : Option Path) :
    ((load tree program classPath).run ()).result =
      (readClasses tree program).bind fun classes => ofClasses classes classPath := by
  unfold load
  cases readClasses tree program with
  | error failure => rfl
  | ok classes => cases hmodel : ofClasses classes classPath <;> simp [hmodel, Except.bind]

/-- A model that has been loaded is made of the classes that its file lists. -/
theorem exists_of_load_ok {tree : Tree} {program : Path} {classPath : Option Path} {model : Model}
    (h : ((load tree program classPath).run ()).result = .ok model) :
    ∃ classes, readClasses tree program = .ok classes ∧
      ofClasses classes classPath = .ok model := by
  rw [result_load] at h
  cases hread : readClasses tree program with
  | error failure =>
      rw [hread] at h
      cases h
  | ok classes =>
      rw [hread] at h
      exact ⟨classes, rfl, h⟩

theorem probeClass_eq_found_iff {tree : Tree} {model : Model} {name : String} {path : Path} :
    model.probeClass tree name = .ok (some path, true) ↔
      model.classFile? name = .ok (some path) ∧ tree.isFile path = .ok true := by
  unfold probeClass
  cases model.classFile? name with
  | error failure => simp
  | ok file =>
      cases file with
      | none => simp
      | some other =>
          by_cases hpath : other = path
          · subst hpath
            cases hfile : tree.isFile other <;> simp [hfile]
          · cases hfile : tree.isFile other <;> simp [hpath, hfile]

/-- A search for a class leaves the model alone and finds the class only if it is known; or it
leaves the model alone and fails, for one of three reasons; or it registers the class that the class
file declares. -/
theorem loadClass_cases (tree : Tree) (name : String) (model : Model) :
    let outcome := (loadClass tree name).run model
    (outcome.state = model ∧
        ∃ found, outcome.result = .ok found ∧ (found = true → model.containsClass name = true)) ∨
      (outcome.state = model ∧ ∃ failure, outcome.result = .error failure ∧
        (model.probeClass tree name = .error failure ∨
          ∃ path, model.classFile? name = .ok (some path) ∧
            (readNamed tree path name = .error failure ∨
              ∃ decl, readNamed tree path name = .ok decl ∧
                model.register decl = .error failure))) ∨
      (model.containsClass name = false ∧ outcome.result = .ok true ∧
        ∃ path decl, model.classFile? name = .ok (some path) ∧ tree.isFile path = .ok true ∧
          readNamed tree path name = .ok decl ∧ model.register decl = .ok outcome.state) := by
  intro outcome
  by_cases hknown : model.containsClass name = true
  · left
    simp [outcome, loadClass, hknown]
  · have hunknown : model.containsClass name = false := by
      simpa using hknown
    -- The state is put in place by the very last step, so whatever fails before leaves it alone.
    cases hprobe : model.probeClass tree name with
    | error failure => simp [outcome, loadClass, hunknown, hprobe]
    | ok probe =>
        rcases probe with ⟨_ | path, found⟩
        · simp [outcome, loadClass, hunknown, hprobe]
        · cases found with
          | false => simp [outcome, loadClass, hunknown, hprobe]
          | true =>
              rcases probeClass_eq_found_iff.1 hprobe with ⟨hpath, hfile⟩
              cases hread : readNamed tree path name with
              | error failure =>
                  right; left
                  have hrun : outcome.state = model ∧ outcome.result = .error failure := by
                    simp [outcome, loadClass, hunknown, hprobe, hread]
                  exact ⟨hrun.1, failure, hrun.2, Or.inr ⟨path, hpath, Or.inl hread⟩⟩
              | ok decl =>
                  cases hregister : model.register decl with
                  | error failure =>
                      right; left
                      have hrun : outcome.state = model ∧ outcome.result = .error failure := by
                        simp [outcome, loadClass, hunknown, hprobe, hread, hregister]
                      exact ⟨hrun.1, failure, hrun.2,
                        Or.inr ⟨path, hpath, Or.inr ⟨decl, hread, hregister⟩⟩⟩
                  | ok after =>
                      right; right
                      have hrun : outcome.state = after ∧ outcome.result = .ok true := by
                        simp [outcome, loadClass, hunknown, hprobe, hread, hregister]
                      rw [← hrun.1] at hregister
                      exact ⟨hunknown, hrun.2, path, decl, hpath, hfile, hread, hregister⟩

/-- The second model is the first one with a further class registered, read from its class file. -/
def Loads (tree : Tree) (before after : Model) : Prop :=
  ∃ path name decl, readNamed tree path name = .ok decl ∧ before.register decl = .ok after

/-- The second model is the first one with further classes registered, one after the other, each of
them read from its class file. -/
abbrev GrowsFrom (tree : Tree) : Model → Model → Prop := Relation.ReflTransGen (Loads tree)

theorem GrowsFrom.grows {tree : Tree} {before after : Model} (h : GrowsFrom tree before after) :
    before.Grows after :=
  h.lift id fun _ _ ⟨_, _, decl, _, hregister⟩ => ⟨decl, hregister⟩

/-- A search for a class makes a model grow. -/
theorem keeps_loadClass (tree : Tree) (name : String) :
    Keeps (GrowsFrom tree) (loadClass tree name) := by
  intro model
  rcases loadClass_cases tree name model with
    ⟨hstate, -⟩ | ⟨hstate, -⟩ | ⟨-, -, path, decl, -, -, hread, hregister⟩
  · rw [hstate]
  · rw [hstate]
  · exact .single ⟨path, name, decl, hread, hregister⟩

theorem keeps_resolveClass (tree : Tree) (name : String) :
    Keeps (GrowsFrom tree) (resolveClass tree name) := by
  refine Keeps.bind (keeps_loadClass tree name) fun loaded => ?_
  cases loaded with
  | false => exact Keeps.pure none
  | true => exact Keeps.bind Keeps.state fun model => Keeps.pure _

/-! ## Resolving call sites -/

theorem keeps_registeredClass (tree : Tree) (name : String) :
    Keeps (GrowsFrom tree) (registeredClass name) := by
  refine Keeps.bind Keeps.state fun model => ?_
  cases model.class? name with
  | none => exact Keeps.report _
  | some decl => exact Keeps.pure decl

theorem keeps_sourceClass (tree : Tree) (name : String) :
    Keeps (GrowsFrom tree) (sourceClass tree name) := by
  refine Keeps.bind Keeps.state fun model => ?_
  by_cases hknown : model.containsClass name = true
  · simp only [hknown, if_true]
    exact keeps_registeredClass tree name
  · simp only [hknown]
    exact Keeps.bind (keeps_loadClass tree name) fun _ => keeps_registeredClass tree name

theorem keeps_methodsMeant (tree : Tree) (decl : ClassDecl) (className methodName : String)
    (line : Int) : Keeps (GrowsFrom tree) (methodsMeant decl className methodName line) := by
  unfold methodsMeant
  dsimp only
  split
  · exact Keeps.report _
  · exact Keeps.bind (Keeps.ofShape _) fun _ => Keeps.bind (Keeps.log _) fun _ => Keeps.pure _
  · split
    · exact Keeps.bind (Keeps.ofShape _) fun _ => Keeps.bind (Keeps.log _) fun _ => Keeps.pure _
    · exact Keeps.bind (Keeps.log _) fun _ => Keeps.pure _

/-- Resolving a call site makes a model grow. -/
theorem keeps_resolve (tree : Tree) (className methodName : String) (line : Int) :
    Keeps (GrowsFrom tree) (resolve tree className methodName line) :=
  Keeps.bind (keeps_sourceClass tree className) fun decl =>
    keeps_methodsMeant tree decl className methodName line

end Model

/-! ## Adding records -/

namespace Builder

theorem keeps_checkTarget (tree : Tree) (record : Record) :
    Keeps (Model.GrowsFrom tree) (checkTarget record) := by
  unfold checkTarget
  split
  · refine Keeps.bind Keeps.state fun model => ?_
    split
    · exact Keeps.pure ()
    · exact Keeps.report _
  · exact Keeps.pure ()

/-- Adding a record, taken or refused, makes a model grow. -/
theorem keeps_addRecord (tree : Tree) (record : Record) :
    Keeps (Order.Preimage Prod.fst (Model.GrowsFrom tree)) (addRecord tree record) := by
  refine Keeps.bind (Keeps.onSecond checkOpen) fun _ => ?_
  refine Keeps.bind (Keeps.onFirst (Model.keeps_resolve _ _ _ _)) fun methods => ?_
  exact Keeps.bind (Keeps.onFirst (keeps_checkTarget tree record)) fun _ => Keeps.onSecond _

end Builder

/-! ## Asking an index -/

namespace Index

theorem keeps_classesNamed (tree : Tree) (operation : Operation) (names : List String) :
    Keeps (Model.GrowsFrom tree) (classesNamed tree operation names) := by
  induction names with
  | nil => exact Keeps.pure []
  | cons name rest ih =>
      refine Keeps.bind (Model.keeps_resolveClass tree name) fun found => ?_
      cases found with
      | none => exact Keeps.report _
      | some decl => exact Keeps.bind ih fun decls => Keeps.pure _

/-- Asking what recorded names stand for makes a model grow. -/
theorem keeps_entities (tree : Tree) (index : Index) (operation : Operation)
    (container : MethodDecl) :
    Keeps (Model.GrowsFrom tree) (entities tree index operation container) := by
  unfold entities
  split
  · refine Keeps.bind (Keeps.bind (Keeps.ofShape _) fun names => ?_) fun _ => Keeps.pure _
    exact Keeps.bind Keeps.state fun model => Keeps.ofExcept _
  · exact Keeps.bind (Keeps.bind (Keeps.ofShape _) fun names => keeps_classesNamed _ _ _) fun _ =>
      Keeps.pure _

end Index
end ReflectiveCalls
