import Mathlib.Data.List.Perm.Basic
import ReflectiveCalls.Proofs.Index.EagerLoading
import ReflectiveCalls.Proofs.Index.Entities
import ReflectiveCalls.Proofs.Index.Soundness
import ReflectiveCalls.Proofs.Program.Construction
import ReflectiveCalls.Proofs.Program.OnDemand

/-!
# Proofs.Index.ClassQueries — what recorded class names stand for

The names that are recorded in a method make up a set, and a query goes through them in some order.
Each name may have a class loaded, which may get into the way of one that is loaded later, so a
query may be given up at different places in different orders.  Whether it is given up is not a
matter of the order, though: all classes that are missing have to have files, and they have to be
able to stand side by side with those that are registered.

- `Model.missing`: the names under which there is no class yet.
- `Index.Answered`, `Index.GivenUp`: what a query leaves that succeeds, and one that fails.
- `Index.classesNamed_cases`: a query ends in one of these ways.
- `Index.Answered.perm`: queries in different orders leave the same.
- `World.entities_classes_run`: an index asked for the classes behind its names.
-/

namespace ReflectiveCalls

/-! ## Names without a class -/

namespace Model

variable {tree : Tree} {model after : Model} {decl : ClassDecl} {name : String}
  {names others rest : List String}

/-- Those of the names under which no class is registered. -/
def missing (model : Model) (names : List String) : List String :=
  names.filter fun name => !model.containsClass name

theorem missing_cons_of_some (h : model.class? name = some decl) :
    model.missing (name :: rest) = model.missing rest := by
  simp [missing, containsClass, h]

theorem missing_cons_of_none (h : model.class? name = none) :
    model.missing (name :: rest) = name :: model.missing rest := by
  simp [missing, containsClass, h]

/-- A class that is registered is not missing any more, and nothing else changes. -/
theorem missing_of_register (hregister : model.register decl = .ok after)
    (hname : decl.name = .str name) (hnot : name ∉ rest) :
    after.missing rest = model.missing rest := by
  apply List.filter_congr
  intro other hother
  have hne : name ≠ other := ne_of_mem_of_not_mem hother hnot |>.symm
  have hcontains : after.containsClass other = model.containsClass other := by
    rw [Bool.eq_iff_iff, containsClass_iff_exists_name, containsClass_iff_exists_name,
      classes_of_register hregister]
    simp [or_and_right, exists_or, hname, hne]
  rw [hcontains]

theorem missing_perm (h : others.Perm names) : (model.missing others).Perm (model.missing names) :=
  h.filter _

/-- Each of the names leads to the file of one class. -/
theorem rightUnique_files (model : Model) (tree : Tree) : Relator.RightUnique (model.Files tree) :=
  fun _ _ _ h hother => hother.unique h

end Model

/-! ## Going through names -/

namespace Index

variable {tree : Tree} {operation : Operation} {model after otherAfter : Model} {name : String}
  {names order other rest : List String} {decl : ClassDecl} {decls others loaded : List ClassDecl}

/-- What a query leaves that succeeds: under each name the class is registered that is given for it,
and nothing has been registered but the classes of the names that were missing, each as its file has
it. -/
structure Answered (tree : Tree) (model : Model) (order : List String) (decls : List ClassDecl)
    (after : Model) : Prop where
  registered : order.map after.class? = decls.map some
  loaded : ∃ loaded, List.Forall₂ (model.Files tree) (model.missing order) loaded ∧
    model.registerAll loaded = .ok after

/-- What a query leaves that fails: the classes of names that come first in the order have been
registered, and not all that are missing could have been. -/
structure GivenUp (tree : Tree) (model : Model) (order : List String) (after : Model) : Prop where
  loaded : ∃ done rest loaded, order = done ++ rest ∧
    List.Forall₂ (model.Files tree) (model.missing done) loaded ∧
      model.registerAll loaded = .ok after
  barred : ∀ all, List.Forall₂ (model.Files tree) (model.missing order) all →
    ¬Model.Compatible (model.classes ++ all)

/-- A class that is had is given first, and the query goes on. -/
theorem run_classesNamed_cons_of_some (operation : Operation) (rest : List String)
    (h : ((Model.resolveClass tree name).run model).result = .ok (some decl)) :
    let resolved := (Model.resolveClass tree name).run model
    let later := (classesNamed tree operation rest).run resolved.state
    ((classesNamed tree operation (name :: rest)).run model).result =
        later.result.map (fun decls => decl :: decls) ∧
      ((classesNamed tree operation (name :: rest)).run model).state = later.state := by
  intro resolved later
  rw [classesNamed, Action.run_bind, h]
  simp only [Action.run_bind]
  cases later.result <;> simp [resolved, later, Except.map]

/-- A class that cannot be had ends the query. -/
theorem run_classesNamed_cons_of_not_some (operation : Operation) (rest : List String)
    (h : ∀ decl, ((Model.resolveClass tree name).run model).result ≠ .ok (some decl)) :
    (∃ failure, ((classesNamed tree operation (name :: rest)).run model).result = .error failure) ∧
      ((classesNamed tree operation (name :: rest)).run model).state =
        ((Model.resolveClass tree name).run model).state := by
  rw [classesNamed, Action.run_bind]
  rcases hresult : ((Model.resolveClass tree name).run model).result with failure | (_ | decl)
  · exact ⟨⟨failure, rfl⟩, rfl⟩
  · exact ⟨⟨_, rfl⟩, rfl⟩
  · exact absurd hresult (h decl)

/-! ### The ways in which a query ends -/

theorem Answered.cons_of_class? (h : Answered tree model rest decls after) (hmodel : model.Coherent)
    (hclass : model.class? name = some decl) :
    Answered tree model (name :: rest) (decl :: decls) after := by
  obtain ⟨hregistered, loaded, hloaded, hafter⟩ := h
  have hextends := (Model.grows_registerAll hafter).toExtends hmodel
  refine ⟨?_, loaded, ?_, hafter⟩
  · rw [List.map_cons, List.map_cons, hregistered, hextends.class?_eq_some hclass]
  · rwa [Model.missing_cons_of_some hclass]

theorem GivenUp.cons_of_class? (h : GivenUp tree model rest after)
    (hclass : model.class? name = some decl) : GivenUp tree model (name :: rest) after := by
  obtain ⟨⟨done, later, loaded, rfl, hloaded, hafter⟩, hbarred⟩ := h
  refine ⟨⟨name :: done, later, loaded, rfl, ?_, hafter⟩, ?_⟩
  · rwa [Model.missing_cons_of_some hclass]
  · rwa [Model.missing_cons_of_some hclass]

section Register

variable {middle : Model}

/-- With the first class registered, the files that are needed are those for the other names. -/
theorem forall₂_missing_cons_iff (hmodel : model.Coherent) (hclass : model.class? name = none)
    (hnot : name ∉ rest) (hfiles : model.Files tree name decl)
    (hregister : model.register decl = .ok middle) :
    List.Forall₂ (model.Files tree) (model.missing (name :: rest)) (decl :: loaded) ↔
      List.Forall₂ (middle.Files tree) (middle.missing rest) loaded := by
  have hsame : middle.Files tree = model.Files tree := by
    funext name decl
    exact propext (Model.files_congr (hmodel.extends_register hregister).classPath)
  obtain ⟨-, -, -, -, hname⟩ := id hfiles
  rw [Model.missing_cons_of_none hclass, Model.missing_of_register hregister hname hnot, hsame,
    List.forall₂_cons]
  exact and_iff_right hfiles

theorem Answered.cons_of_register (h : Answered tree middle rest decls after)
    (hmodel : model.Coherent) (hclass : model.class? name = none) (hnot : name ∉ rest)
    (hfiles : model.Files tree name decl) (hregister : model.register decl = .ok middle) :
    Answered tree model (name :: rest) (decl :: decls) after := by
  obtain ⟨hregistered, loaded, hloaded, hafter⟩ := h
  obtain ⟨-, -, -, -, hname⟩ := id hfiles
  have hmiddle := hmodel.register hregister
  have hdecl : middle.class? name = some decl :=
    hmiddle.class?_eq_some_iff.2 ⟨by simp [Model.classes_of_register hregister], hname⟩
  have hextends := (Model.grows_registerAll hafter).toExtends hmiddle
  refine ⟨?_, decl :: loaded, ?_, Model.registerAll_cons_eq_ok_iff.2 ⟨middle, hregister, hafter⟩⟩
  · rw [List.map_cons, List.map_cons, hregistered, hextends.class?_eq_some hdecl]
  · exact (forall₂_missing_cons_iff hmodel hclass hnot hfiles hregister).2 hloaded

theorem GivenUp.cons_of_register (h : GivenUp tree middle rest after)
    (hmodel : model.Coherent) (hclass : model.class? name = none) (hnot : name ∉ rest)
    (hfiles : model.Files tree name decl) (hregister : model.register decl = .ok middle) :
    GivenUp tree model (name :: rest) after := by
  obtain ⟨⟨done, later, loaded, rfl, hloaded, hafter⟩, hbarred⟩ := h
  constructor
  · have hdone : name ∉ done := fun hmem => hnot (List.mem_append_left _ hmem)
    exact ⟨name :: done, later, decl :: loaded, rfl,
      (forall₂_missing_cons_iff hmodel hclass hdone hfiles hregister).2 hloaded,
      Model.registerAll_cons_eq_ok_iff.2 ⟨middle, hregister, hafter⟩⟩
  · intro all hall hcompatible
    -- What is needed for the first name is the class that has been registered.
    rw [Model.missing_cons_of_none hclass] at hall
    obtain ⟨first, others, hfirst, -, rfl⟩ := List.forall₂_cons_left_iff.1 hall
    obtain rfl : first = decl := hfiles.unique hfirst
    rw [← Model.missing_cons_of_none hclass,
      forall₂_missing_cons_iff hmodel hclass hnot hfiles hregister] at hall
    apply hbarred others hall
    rw [Model.classes_of_register hregister, List.append_assoc]
    exact hcompatible

end Register

theorem GivenUp.of_first (hmodel : model.Coherent) (hclass : model.class? name = none)
    (hnone : ∀ decl, model.Files tree name decl → ∀ after, model.register decl ≠ .ok after) :
    GivenUp tree model (name :: rest) model := by
  constructor
  · exact ⟨[], name :: rest, [], rfl, .nil, rfl⟩
  · intro all hall hcompatible
    rw [Model.missing_cons_of_none hclass] at hall
    obtain ⟨first, others, hfirst, -, rfl⟩ := List.forall₂_cons_left_iff.1 hall
    -- If all that is needed could stand side by side, the first of it could be registered.
    obtain ⟨after, hregister⟩ := hmodel.exists_register_of_compatible hcompatible
    exact hnone first hfirst after hregister

/-- A query for classes under different names succeeds or is given up. -/
theorem classesNamed_cases (hmodel : model.Coherent) (tree : Tree) (operation : Operation)
    (distinct : order.Nodup) :
    let asked := (classesNamed tree operation order).run model
    (∃ decls, asked.result = .ok decls ∧ Answered tree model order decls asked.state) ∨
      (∃ failure, asked.result = .error failure) ∧ GivenUp tree model order asked.state := by
  -- By induction on the names that are left; each that is had leaves a model to go on with.
  induction order generalizing model with
  | nil => exact .inl ⟨[], rfl, rfl, [], .nil, rfl⟩
  | cons name rest ih =>
      obtain ⟨hnot, hrest⟩ := List.nodup_cons.1 distinct
      intro asked
      rcases hmodel.resolveClass_cases tree name with
        ⟨decl, hclass, hrun⟩ | ⟨hclass, decl, hfiles, hregister, hresult⟩ |
          ⟨hclass, hstate, hresult, hnone⟩
      · obtain ⟨hasked, hstate⟩ : asked.result = _ ∧ asked.state = _ :=
          run_classesNamed_cons_of_some operation rest (congrArg Outcome.result hrun)
        rw [hasked, hstate, hrun]
        rcases ih hmodel hrest with ⟨decls, hdecls, hanswered⟩ | ⟨⟨failure, hfailure⟩, hgivenUp⟩
        · left
          exact ⟨decl :: decls, by rw [hdecls]; rfl, hanswered.cons_of_class? hmodel hclass⟩
        · right
          exact ⟨⟨failure, by rw [hfailure]; rfl⟩, hgivenUp.cons_of_class? hclass⟩
      · obtain ⟨hasked, hstate⟩ : asked.result = _ ∧ asked.state = _ :=
          run_classesNamed_cons_of_some operation rest hresult
        rw [hasked, hstate]
        rcases ih (hmodel.register hregister) hrest with
          ⟨decls, hdecls, hanswered⟩ | ⟨⟨failure, hfailure⟩, hgivenUp⟩
        · left
          exact ⟨decl :: decls, by rw [hdecls]; rfl,
            hanswered.cons_of_register hmodel hclass hnot hfiles hregister⟩
        · right
          exact ⟨⟨failure, by rw [hfailure]; rfl⟩,
            hgivenUp.cons_of_register hmodel hclass hnot hfiles hregister⟩
      · right
        obtain ⟨hfailure, hasked⟩ : (∃ failure, asked.result = .error failure) ∧ asked.state = _ :=
          run_classesNamed_cons_of_not_some operation rest hresult
        rw [hasked, hstate]
        exact ⟨hfailure, .of_first hmodel hclass hnone⟩

/-- A query for classes that are registered gives just these and leaves the model alone. -/
theorem run_classesNamed_of_registered (h : order.map model.class? = decls.map some) (tree : Tree)
    (operation : Operation) :
    (classesNamed tree operation order).run model = ⟨.ok decls, model, []⟩ := by
  induction order generalizing decls with
  | nil =>
      rw [List.map_eq_nil_iff.1 h.symm]
      rfl
  | cons name rest ih =>
      obtain ⟨decl, others, rfl, hdecl, hothers⟩ := List.map_eq_cons_iff.1 h.symm
      rw [classesNamed, Action.run_bind, Model.run_resolveClass_of_class? hdecl.symm]
      simp [Action.run_bind, ih hothers.symm]

/-! ### Orders -/

namespace Answered

theorem compatible (h : Answered tree model order decls after) (hmodel : model.Coherent) :
    ∃ loaded, List.Forall₂ (model.Files tree) (model.missing order) loaded ∧
      Model.Compatible (model.classes ++ loaded) := by
  obtain ⟨-, loaded, hloaded, hafter⟩ := h
  exact ⟨loaded, hloaded, (Model.exists_registerAll_iff hmodel).1 ⟨after, hafter⟩⟩

/-- A query is not given up in one order if it succeeds in another. -/
theorem not_givenUp (h : Answered tree model order decls after) (hmodel : model.Coherent)
    (hperm : other.Perm order) : ¬GivenUp tree model other otherAfter := by
  intro hgivenUp
  obtain ⟨loaded, hloaded, hcompatible⟩ := h.compatible hmodel
  obtain ⟨moved, hmoved, hsame⟩ := List.perm_comp_forall₂ (Model.missing_perm hperm) hloaded
  -- The other order needs the same classes, and these can stand side by side.
  apply hgivenUp.barred moved hmoved
  have hclasses : (model.classes ++ loaded).Perm (model.classes ++ moved) :=
    hsame.symm.append_left _
  exact hcompatible.perm (hclasses.map _) (hclasses.flatMap_right _)

/-- Queries in two orders register the same classes. -/
theorem classes_perm (h : Answered tree model order decls after)
    (hother : Answered tree model other others otherAfter) (hperm : other.Perm order) :
    otherAfter.classes.Perm after.classes := by
  obtain ⟨-, loaded, hloaded, hafter⟩ := h
  obtain ⟨-, otherLoaded, hotherLoaded, hotherAfter⟩ := hother
  obtain ⟨moved, hmoved, hsame⟩ := List.perm_comp_forall₂ (Model.missing_perm hperm) hloaded
  -- Each name has one class file, so the classes that were loaded are these.
  obtain rfl : moved = otherLoaded :=
    List.right_unique_forall₂' (Model.rightUnique_files model tree) hmoved hotherLoaded
  rw [Model.classes_of_registerAll hafter, Model.classes_of_registerAll hotherAfter]
  exact hsame.append_left _

theorem coherent (h : Answered tree model order decls after) (hmodel : model.Coherent) :
    after.Coherent := by
  obtain ⟨-, loaded, -, hafter⟩ := h
  exact (Model.grows_registerAll hafter).coherent hmodel

/-- Queries in two orders leave the same classes under each name, and the same methods under each
signature. -/
theorem lookups_congr (h : Answered tree model order decls after)
    (hother : Answered tree model other others otherAfter) (hmodel : model.Coherent)
    (hperm : other.Perm order) :
    (∀ key, otherAfter.classOf? key = after.classOf? key) ∧
      ∀ signature, otherAfter.method? signature = after.method? signature := by
  have hclasses : ∀ decl, decl ∈ otherAfter.classes ↔ decl ∈ after.classes :=
    fun decl => (h.classes_perm hother hperm).mem_iff
  have hafter := h.coherent hmodel
  have hotherAfter := hother.coherent hmodel
  exact ⟨hotherAfter.classOf?_congr hafter hclasses, hotherAfter.method?_congr hafter hclasses⟩

/-- What a query in another order gives is registered here as well. -/
theorem registered_of_perm (h : Answered tree model order decls after)
    (hother : Answered tree model other others otherAfter) (hmodel : model.Coherent)
    (hperm : other.Perm order) : other.map after.class? = others.map some := by
  rw [← hother.registered]
  apply List.map_congr_left
  intro name _
  exact ((h.lookups_congr hother hmodel hperm).1 (.text name)).symm

/-- Queries in two orders give the same classes. -/
theorem decls_perm (h : Answered tree model order decls after)
    (hother : Answered tree model other others otherAfter) (hmodel : model.Coherent)
    (hperm : other.Perm order) : others.Perm decls := by
  apply (List.map_perm_map_iff (Option.some_injective ClassDecl)).1
  calc others.map some
      = other.map after.class? := (h.registered_of_perm hother hmodel hperm).symm
    List.Perm _ (order.map after.class?) := hperm.map _
    _ = decls.map some := h.registered

/-- A query gives one class for each name, in the same order. -/
theorem names_eq (h : Answered tree model order decls after) :
    decls.map (·.name) = order.map .str := by
  have hregistered := h.registered
  clear h
  induction order generalizing decls with
  | nil =>
      rw [List.map_eq_nil_iff.1 hregistered.symm]
      rfl
  | cons name rest ih =>
      obtain ⟨decl, others, rfl, hdecl, hothers⟩ := List.map_eq_cons_iff.1 hregistered.symm
      rw [List.map_cons, List.map_cons, Model.name_of_class? hdecl.symm, ih hothers.symm]

end Answered

/-- Asking for classes, once the names are found. -/
theorem run_entities_of_classes {index : Index} (hclasses : operation.targetsMethod = false)
    {container : MethodDecl} (hnames : index.names operation container = .ok names) (tree : Tree) :
    let asked := (classesNamed tree operation names).run model
    (index.entities tree operation container).run model =
      ⟨asked.result.map .classes, asked.state, asked.events⟩ := by
  intro asked
  have hnot : ¬operation.targetsMethod = true := by simp [hclasses]
  rw [entities, if_neg hnot, classes, hnames, Action.run_bind, Action.run_ofShape_ok_bind]
  cases hasked : ((classesNamed tree operation names).run model).result with
  | error failure => simp [asked, Except.map]
  | ok decls => simp [asked, Except.map]

/-- Whether a query succeeds does not depend on the order of the names, and neither does what it
leaves; if it fails, it has registered classes of names that come first. -/
theorem classesNamed_orders (hmodel : model.Coherent) (tree : Tree) (operation : Operation)
    (distinct : order.Nodup) (hperm : other.Perm order) :
    let asked := (classesNamed tree operation order).run model
    let otherAsked := (classesNamed tree operation other).run model
    (∃ decls others, asked.result = .ok decls ∧ otherAsked.result = .ok others ∧
        Answered tree model order decls asked.state ∧
          Answered tree model other others otherAsked.state) ∨
      ((∃ failure, asked.result = .error failure) ∧ GivenUp tree model order asked.state) ∧
        (∃ failure, otherAsked.result = .error failure) ∧
          GivenUp tree model other otherAsked.state := by
  intro asked otherAsked
  have hasked := classesNamed_cases hmodel tree operation distinct
  have hotherAsked := classesNamed_cases hmodel tree operation (hperm.nodup_iff.2 distinct)
  rcases hasked with ⟨decls, hdecls, hanswered⟩ | ⟨hfailure, hgivenUp⟩
  · rcases hotherAsked with ⟨others, hothers, hotherAnswered⟩ | ⟨-, hotherGivenUp⟩
    · exact .inl ⟨decls, others, hdecls, hothers, hanswered, hotherAnswered⟩
    · exact absurd hotherGivenUp (hanswered.not_givenUp hmodel hperm)
  · rcases hotherAsked with ⟨others, hothers, hotherAnswered⟩ | hotherGivenUp
    · exact absurd hgivenUp (hotherAnswered.not_givenUp hmodel hperm.symm)
    · exact .inr ⟨⟨hfailure, hgivenUp⟩, hotherGivenUp⟩

end Index

/-! ## Classes behind an index -/

/-- Asked at any later time for the classes behind the names that it lists for a method, an index
goes through the names, of which no two are equal; whether it succeeds, and what it leaves then,
does not depend on the order.  If it succeeds, it gives one class for each name, with that name; it
has registered the classes of the names that were missing, each from its file, and nothing else;
another order gives the same classes and leaves the same look-ups; and to ask once more, in any
order and whatever the files are then, gives the same and changes nothing.  If it fails, it has
registered classes of names that come first in the order, each from its file, and nothing else.
What is recorded stays as it is in either case.  The method asked about has to be one that can be
identified, as every one of textual data can. -/
theorem World.entities_classes_run {classes : List ClassDecl} {classPath : Option Path}
    {model : Model} (built : Model.ofClasses classes classPath = .ok model) (tree : Tree)
    (moves : List Move) {index : Index}
    (hindex : ((start tree model).run moves).building.result = .ok index) (later : List Move)
    {operation : Operation} (hclasses : operation.targetsMethod = false) {container : MethodDecl}
    (hcontainer : ∃ key, container.identity = .ok key) :
    let world := (start tree model).run (moves ++ .build :: later)
    let asked := (index.entities world.tree operation container).run world.model
    let ask := fun order => (Index.classesNamed world.tree operation order).run world.model
    ∃ names, index.names operation container = .ok names ∧ names.Nodup ∧
      asked = ⟨(ask names).result.map .classes, (ask names).state, (ask names).events⟩ ∧
      world.after (.askEntities index operation container) = { world with model := asked.state } ∧
      ∀ order other, order.Perm names → other.Perm names →
        ((∃ decls, (ask order).result = .ok decls) ↔ ∃ others, (ask other).result = .ok others) ∧
        (∀ decls, (ask order).result = .ok decls →
          decls.map (·.name) = order.map .str ∧
          (∃ loaded, (ask order).state.classes = world.model.classes ++ loaded ∧
            List.Forall₂ (world.model.Files world.tree) (world.model.missing order) loaded) ∧
          ∃ others, (ask other).result = .ok others ∧ others.Perm decls ∧
            (∀ key, (ask other).state.classOf? key = (ask order).state.classOf? key) ∧
            (∀ signature, (ask other).state.method? signature =
              (ask order).state.method? signature) ∧
            ∀ files, (Index.classesNamed files operation other).run (ask order).state =
              ⟨.ok others, (ask order).state, []⟩) ∧
        ∀ failure, (ask order).result = .error failure →
          ∃ done rest loaded, order = done ++ rest ∧
            (ask order).state.classes = world.model.classes ++ loaded ∧
            List.Forall₂ (world.model.Files world.tree) (world.model.missing done) loaded := by
  intro world asked ask
  have hstart := sound_start (Model.coherent_ofClasses built) tree
  have hmodel : world.model.Coherent := (hstart.run (moves ++ .build :: later)).coherent
  obtain ⟨key, hkey⟩ := hcontainer
  have hnames : index.names operation container =
      .ok ((index.recorded.get operation).targets key) :=
    Index.names_eq_ok_iff.2 ⟨key, hkey, rfl⟩
  have hdistinct : ((index.recorded.get operation).targets key).Nodup := by
    obtain ⟨-, rfl⟩ := building_result_iff.1 hindex
    exact ((hstart.run moves).recorded.receivers operation).nodup_targets key
  refine ⟨_, hnames, hdistinct, Index.run_entities_of_classes hclasses hnames world.tree, rfl, ?_⟩
  intro order other horder hother
  -- Both orders go through the same names, so the one query ends as the other does.
  have hperm : other.Perm order := hother.trans horder.symm
  have hways := Index.classesNamed_orders hmodel world.tree operation
    (horder.nodup_iff.2 hdistinct) hperm
  rcases hways with
    ⟨decls, others, hdecls, hothers, hanswered, hotherAnswered⟩ |
      ⟨⟨⟨failure, hfailure⟩, hgivenUp⟩, ⟨otherFailure, hotherFailure⟩, -⟩
  · refine ⟨iff_of_true ⟨decls, hdecls⟩ ⟨others, hothers⟩, ?answered, ?notFailed⟩
    case answered =>
      intro found hfound
      cases hdecls.symm.trans hfound
      obtain ⟨-, loaded, hloaded, hafter⟩ := id hanswered
      obtain ⟨hclassOf, hmethod⟩ := hanswered.lookups_congr hotherAnswered hmodel hperm
      refine ⟨hanswered.names_eq, ⟨loaded, Model.classes_of_registerAll hafter, hloaded⟩, others,
        hothers, hanswered.decls_perm hotherAnswered hmodel hperm, hclassOf, hmethod, ?_⟩
      intro files
      apply Index.run_classesNamed_of_registered
      exact hanswered.registered_of_perm hotherAnswered hmodel hperm
    case notFailed =>
      intro failure hfailure
      cases hdecls.symm.trans hfailure
  · have hnone : ∀ decls, (ask order).result ≠ .ok decls :=
      fun decls hdecls => nomatch hfailure.symm.trans hdecls
    have hotherNone : ∀ others, (ask other).result ≠ .ok others :=
      fun others hothers => nomatch hotherFailure.symm.trans hothers
    refine ⟨iff_of_false (not_exists.2 hnone) (not_exists.2 hotherNone), ?_, ?_⟩
    · intro decls hdecls
      exact absurd hdecls (hnone decls)
    · intro _ _
      obtain ⟨done, rest, loaded, hsplit, hloaded, hafter⟩ := hgivenUp.loaded
      exact ⟨done, rest, loaded, hsplit, Model.classes_of_registerAll hafter, hloaded⟩

namespace Sample

/-- Two classes are asked for by name in one method; neither call loads them. -/
def lookups : List Move :=
  [.addRecord (call .classForName "shop.Item" 4), .addRecord (call .classForName "shop.Cart" 4)]

/-- The index of the two calls. -/
def lookupIndex : Index := ⟨((World.start tree model).run lookups).builder.recorded⟩

/-- The method of the calls. -/
def adder : MethodDecl := method "shop.Cart" "add" ["int"] 3 5

theorem adder_textual : adder.Textual := by decide +kernel

theorem names_adder {names : List String}
    (h : lookupIndex.names .classForName adder = .ok names) :
    names.Perm ["shop.Item", "shop.Cart"] := by
  have hentries :
      (lookupIndex.recorded.get .classForName).map (fun entry => (entry.key, entry.targets)) =
        [(⟨.text "shop.Cart", .text "add", .text "void", [.text "int"]⟩,
          ["shop.Item", "shop.Cart"])] := by
    decide +kernel
  obtain ⟨entry, hreceivers, hentry⟩ := List.map_eq_singleton_iff.1 hentries
  obtain ⟨hkey, htargets⟩ := Prod.mk.inj hentry
  obtain ⟨key, hidentity, rfl⟩ := Index.names_eq_ok_iff.1 h
  have hsame : adder.identity = .ok entry.key := hkey ▸ rfl
  cases hsame.symm.trans hidentity
  rw [hreceivers, ← htargets]
  simpa [Receivers.targets, Receivers.find?, ascending] using List.mergeSort_perm entry.targets _

end Sample

/-- Of two recorded classes one is registered and the other is loaded when the index is asked, first
or last. -/
theorem World.entities_classes_run_sample :
    let world := (start Sample.tree Sample.model).run (Sample.lookups ++ [.build])
    let ask := fun order => (Index.classesNamed world.tree .classForName order).run world.model
    ((start Sample.tree Sample.model).run Sample.lookups).building.result = .ok Sample.lookupIndex ∧
      Sample.adder.Textual ∧
      ∃ names, Sample.lookupIndex.names .classForName Sample.adder = .ok names ∧
        names.Perm ["shop.Item", "shop.Cart"] ∧
        ∃ decls others, (ask ["shop.Item", "shop.Cart"]).result = .ok decls ∧
          (ask ["shop.Cart", "shop.Item"]).result = .ok others ∧ others.Perm decls ∧
          decls.map (·.name) = [.str "shop.Item", .str "shop.Cart"] := by
  intro world ask
  have hindex : ((start Sample.tree Sample.model).run Sample.lookups).building.result =
      .ok Sample.lookupIndex :=
    building_result_iff.2 ⟨by decide +kernel, rfl⟩
  obtain ⟨names, hnames, -, -, -, horders⟩ := entities_classes_run Sample.model_built Sample.tree
    Sample.lookups hindex [] (show Operation.classForName.targetsMethod = false from rfl)
    Sample.adder_textual.exists_identity
  have hperm := Sample.names_adder hnames
  have hswap : ["shop.Cart", "shop.Item"].Perm ["shop.Item", "shop.Cart"] := .swap ..
  have hisOk : (ask ["shop.Item", "shop.Cart"]).result.isOk = true := by
    decide +kernel
  obtain ⟨decls, hdecls⟩ := Action.exists_eq_ok_of_isOk hisOk
  obtain ⟨hdeclNames, -, others, hothers, hsame, -⟩ :=
    (horders _ _ hperm.symm (hswap.trans hperm.symm)).2.1 decls hdecls
  exact ⟨hindex, Sample.adder_textual, names, hnames, hperm, decls, others, hdecls, hothers, hsame,
    hdeclNames⟩

end ReflectiveCalls
