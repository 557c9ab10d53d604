import ReflectiveCalls.Proofs.Index.Exactness

/-!
# Proofs.Index.Entities — what recorded signatures stand for

A record whose target names a method is taken only if the method is known then.  Methods stay known,
so the signatures that an index lists can be looked up at any later time.

- `Index.methodsSigned_spec`: known signatures lead to one method each, and none are merged.
- `World.entities_methods_run`: an index asked for the methods behind its signatures gives exactly
  those, and leaves the model alone.
-/

namespace ReflectiveCalls

/-! ## Recorded targets -/

namespace Receivers

variable {receivers : Receivers} {model : Model}

/-- Targets are listed without repetition. -/
theorem Sound.nodup_targets (h : Sound model receivers) (key : MethodKey) :
    (receivers.targets key).Nodup := by
  unfold Receivers.targets
  cases hfind : receivers.find? key with
  | none => exact List.nodup_nil
  | some entry =>
      have hentry := (h.find?_eq_some_iff.1 hfind).1
      exact (List.mergeSort_perm entry.targets _).nodup_iff.2 (h.targets entry hentry).2

end Receivers

/-! ## Methods of signatures -/

namespace Index

variable {model later : Model}

/-- Signatures that were known at an earlier time, no two of them equal, lead to one method each:
the one of that time.  No two of the methods count as the same, so none is left out. -/
theorem methodsSigned_spec (hmodel : model.Coherent) (htextual : model.Textual)
    (hlater : later.Extends model) (operation : Operation) {texts : List String}
    (known : ∀ text ∈ texts, model.containsMethod text = true) (distinct : texts.Nodup)
    {seen : List MethodKey}
    (unseen : ∀ text ∈ texts, ∀ method key, model.method? text = some method →
      method.identity = .ok key → key ∉ seen) :
    ∃ decls, methodsSigned later operation seen texts = .ok decls ∧
      texts.map model.method? = decls.map some := by
  induction texts generalizing seen with
  | nil => exact ⟨[], rfl, rfl⟩
  | cons text rest ih =>
      rcases Option.isSome_iff_exists.1 (known text List.mem_cons_self) with ⟨method, hmethod⟩
      rcases (hmodel.textual_of_method? htextual hmethod).1.exists_identity with ⟨key, hkey⟩
      have hnew : key ∉ seen := unseen text List.mem_cons_self method key hmethod hkey
      have hrest : ∀ other ∈ rest, ∀ found otherKey, model.method? other = some found →
          found.identity = .ok otherKey → otherKey ∉ key :: seen := by
        intro other hother found otherKey hfound hotherKey hmem
        rcases List.mem_cons.1 hmem with rfl | hmem
        · -- A method of the same key would have the same signature, which does not come again.
          have heq := hmodel.signature_eq_of_identity htextual hmethod hkey hfound hotherKey
          exact (List.nodup_cons.1 distinct).1 (heq ▸ hother)
        · exact unseen other (List.mem_cons_of_mem _ hother) found otherKey hfound hotherKey hmem
      rcases ih (fun other hother => known other (List.mem_cons_of_mem _ hother))
        (List.nodup_cons.1 distinct).2 hrest with ⟨decls, hdecls, hmap⟩
      refine ⟨method :: decls, ?_, by simp [hmethod, hmap]⟩
      simp [methodsSigned, hlater.method?_eq_some hmethod, hkey, hnew, hdecls]

/-- The methods of signatures in a model of textual data: each has its signature, and if no two
signatures are equal, then no two of the methods are. -/
theorem signatures_eq_and_pairwise_not_same (hmodel : model.Coherent) (htextual : model.Textual)
    {texts : List String} {decls : List MethodDecl} (distinct : texts.Nodup)
    (hmap : texts.map model.method? = decls.map some) :
    decls.map (·.signature) = texts.map .ok ∧
      decls.Pairwise fun decl other => decl.same other = false := by
  have hsignatures : decls.map (·.signature) = texts.map .ok := by
    induction texts generalizing decls with
    | nil =>
        rw [List.map_eq_nil_iff.1 hmap.symm]
        rfl
    | cons text rest ih =>
        rcases List.map_eq_cons_iff.1 hmap.symm with ⟨decl, others, rfl, hdecl, hothers⟩
        rw [List.map_cons, List.map_cons, ih (List.nodup_cons.1 distinct).2 hothers.symm,
          (hmodel.textual_of_method? htextual hdecl.symm).2]
  -- Methods that count as the same share their signature, and no two of these do.
  have hdistinct : (decls.map (·.signature)).Nodup := by
    rw [hsignatures]
    exact List.pairwise_map.2 (distinct.imp fun hne heq => hne (Except.ok.inj heq))
  refine ⟨hsignatures, (List.pairwise_map.1 hdistinct).imp_of_mem ?_⟩
  intro decl other hdecl _ hne
  have hmem : some decl ∈ texts.map model.method? := hmap ▸ List.mem_map_of_mem hdecl
  rcases List.mem_map.1 hmem with ⟨text, -, hmethod⟩
  have hdeclTextual := (hmodel.textual_of_method? htextual hmethod).1
  rcases hdeclTextual.exists_identity with ⟨key, hkey⟩
  rw [Bool.eq_false_iff]
  intro hsame
  exact hne (hdeclTextual.signature_eq hkey ((MethodDecl.same_iff hkey other).1 hsame)).symm

/-- The names recorded for an operation on methods: they are known, and no two are equal. -/
theorem known_and_nodup_names {index : Index} (hsound : Recorded.Sound model index.recorded)
    {operation : Operation} (htargets : operation.targetsMethod = true) {container : MethodDecl}
    {texts : List String} (hnames : index.names operation container = .ok texts) :
    (∀ text ∈ texts, model.containsMethod text = true) ∧ texts.Nodup := by
  rcases names_eq_ok_iff.1 hnames with ⟨key, -, rfl⟩
  have hreceivers := hsound.receivers operation
  refine ⟨?_, hreceivers.nodup_targets key⟩
  intro text htext
  exact hsound.known operation key text htargets (hreceivers.mem_targets_iff.1 htext)

/-- Asking for methods, once the names are found and looked up. -/
theorem run_entities_of_targetsMethod {index : Index} {operation : Operation}
    (htargets : operation.targetsMethod = true) {container : MethodDecl} {texts : List String}
    (hnames : index.names operation container = .ok texts) {decls : List MethodDecl}
    (hdecls : methodsSigned model operation [] texts = .ok decls) (tree : Tree) :
    (index.entities tree operation container).run model = ⟨.ok (.methods decls), model, []⟩ := by
  simp [entities, methods, htargets, hnames, Action.run_bind, hdecls]

end Index

/-! ## Methods behind an index -/

/-- Asked at any later time for the methods behind the signatures that it lists for a method, an
index gives exactly one for each: the one that the model has under the signature, which is also its
own.  The query never fails and leaves the model alone.  The method asked about has to be one that
can be identified, as every one of textual data can. -/
theorem World.entities_methods_run {classes : List ClassDecl} {classPath : Option Path}
    {model : Model} (built : Model.ofClasses classes classPath = .ok model) (tree : Tree)
    (moves : List Move) {index : Index}
    (hindex : ((start tree model).run moves).building.result = .ok index)
    (textual : ((start tree model).run moves).model.Textual) (later : List Move)
    {operation : Operation} (htargets : operation.targetsMethod = true) {container : MethodDecl}
    (hcontainer : ∃ key, container.identity = .ok key) :
    let world := (start tree model).run (moves ++ .build :: later)
    let asked := (index.entities world.tree operation container).run world.model
    ∃ texts decls, index.names operation container = .ok texts ∧ texts.Nodup ∧
      asked.result = .ok (.methods decls) ∧ asked.state = world.model ∧
      texts.map world.model.method? = decls.map some ∧
      decls.map (·.signature) = texts.map .ok ∧
      decls.Pairwise (fun decl other => decl.same other = false) ∧
      decls.length = texts.length := by
  intro world asked
  rcases accounts_building built tree moves hindex textual with ⟨haccounts, hrecorded⟩
  have hlater : world.model.Extends ((start tree model).run moves).model :=
    (start tree model).extends_run_append (Model.coherent_ofClasses built) moves (.build :: later)
  have hsound := haccounts.sound
  rw [← hrecorded] at hsound
  rcases hcontainer with ⟨key, hkey⟩
  have hnames : index.names operation container =
      .ok ((index.recorded.get operation).targets key) :=
    Index.names_eq_ok_iff.2 ⟨key, hkey, rfl⟩
  rcases Index.known_and_nodup_names hsound htargets hnames with ⟨hknown, hdistinct⟩
  rcases Index.methodsSigned_spec haccounts.coherent textual hlater operation hknown hdistinct
    (fun _ _ _ _ _ _ => List.not_mem_nil) with ⟨decls, hdecls, hmap⟩
  have hrun : asked = ⟨.ok (.methods decls), world.model, []⟩ :=
    Index.run_entities_of_targetsMethod htargets hnames hdecls world.tree
  -- What the model of the build has under a signature, the later one has there too.
  have hmapLater : ((index.recorded.get operation).targets key).map world.model.method? =
      decls.map some := by
    rw [← hmap]
    refine List.map_congr_left fun text htext => ?_
    rcases Option.isSome_iff_exists.1 (hknown text htext) with ⟨method, hmethod⟩
    rw [hmethod, hlater.method?_eq_some hmethod]
  have hlength : decls.length = ((index.recorded.get operation).targets key).length := by
    simpa using (congrArg List.length hmap).symm
  rcases Index.signatures_eq_and_pairwise_not_same haccounts.coherent textual hdistinct hmap with
    ⟨hsignatures, hnotSame⟩
  exact ⟨_, decls, hnames, hdistinct, by rw [hrun], by rw [hrun], hmapLater, hsignatures, hnotSame,
    hlength⟩

/-- A method of a class that was loaded on the way is given for its signature, also when the class
file is gone. -/
theorem World.entities_methods_run_sample :
    let world := (start Sample.tree Sample.model).run
      (Sample.moves ++ [.build, .changeFiles (.withFolder [])])
    let container := Sample.method "shop.Cart" "add" ["long", "int"] 7 9
    ((start Sample.tree Sample.model).run Sample.moves).building.result = .ok Sample.index ∧
      ((start Sample.tree Sample.model).run Sample.moves).model.Textual ∧ container.Textual ∧
      Sample.index.names .methodInvoke container = .ok ["<shop.Item: void drop()>"] ∧
      ∃ method, world.model.method? "<shop.Item: void drop()>" = some method ∧
        method.signature = .ok "<shop.Item: void drop()>" ∧
        ((Sample.index.entities world.tree .methodInvoke container).run world.model).result =
          .ok (.methods [method]) := by
  intro world container
  have hcontainer : container.Textual := by decide +kernel
  have htargets : Operation.methodInvoke.targetsMethod = true := rfl
  rcases entities_methods_run Sample.model_built Sample.tree Sample.moves Sample.building_run
    Sample.textual_run [.changeFiles (.withFolder [])] htargets hcontainer.exists_identity with
    ⟨texts, decls, hnames, -, hresult, -, hmap, hsignatures, -⟩
  have hrecorded : Sample.index.names .methodInvoke container = .ok ["<shop.Item: void drop()>"] :=
    Index.names_eq_ok_iff.2 ⟨_, rfl, by decide +kernel⟩
  cases hrecorded.symm.trans hnames
  -- There is one signature, so one method is given.
  rcases decls with _ | ⟨method, _ | ⟨second, rest⟩⟩
  · cases hmap
  · exact ⟨Sample.building_run, Sample.textual_run, hcontainer, hrecorded, method,
      (List.cons.inj hmap).1, (List.cons.inj hsignatures).1, hresult⟩
  · cases (List.cons.inj hmap).2

end ReflectiveCalls
