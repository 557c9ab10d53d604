import Mathlib.Data.List.Nodup
import ReflectiveCalls.Proofs.History
import ReflectiveCalls.Proofs.Program.Construction

/-!
# Proofs.Program.Repetition — the first repetition in a list of classes

Classes whose names and types are texts are refused for one reason only: a name or a signature comes
again.  The check goes through the classes in order, in each of them looks at the name first and
then at the signatures in the order of declaration, and stops at the first that has been there
before.

- `foldlM_eq_error_iff`: where steps one after the other stop.
- `Model.Distinct`: classes in which no name and no signature comes twice.
- `Model.Clashes`: what of a class has been there before, in known classes or in itself;
  `Model.Coherent.register_error_iff_clashes`: registering fails for just that.
- `Model.FirstRepetition`: the first repetition in a list of classes.
- `Model.ofClasses_iff_distinct`: which classes make up a model, and what is reported otherwise.
-/

namespace ReflectiveCalls

/-! ## Where steps stop -/

/-- Steps one after the other fail exactly if one of them does, once those before it are made. -/
theorem foldlM_eq_error_iff {σ α ε : Type} {step : σ → α → Except ε σ} {items : List α} {state : σ}
    {fault : ε} :
    items.foldlM step state = .error fault ↔
      ∃ earlier item later middle, items = earlier ++ item :: later ∧
        earlier.foldlM step state = .ok middle ∧ step middle item = .error fault := by
  -- By induction on the items: the first step fails, or it leads to a state from which others fail.
  induction items generalizing state with
  | nil => simp [pure, Except.pure]
  | cons first rest ih =>
      rw [List.foldlM_cons]
      cases hstep : step state first with
      | error failure =>
          constructor
          · intro h
            exact ⟨[], first, rest, state, rfl, rfl, hstep.trans h⟩
          · rintro ⟨_ | ⟨item, earlier⟩, item', later, middle, hsplit, hearlier, hitem⟩
            · cases hsplit
              cases hearlier
              exact hstep.symm.trans hitem
            · -- The first step fails, so there is nothing after it.
              cases hsplit
              rw [List.foldlM_cons, hstep] at hearlier
              cases hearlier
      | ok next =>
          change rest.foldlM step next = .error fault ↔ _
          rw [ih]
          constructor
          · rintro ⟨earlier, item, later, middle, rfl, hearlier, hitem⟩
            refine ⟨first :: earlier, item, later, middle, rfl, ?_, hitem⟩
            rw [List.foldlM_cons, hstep]
            exact hearlier
          · rintro ⟨_ | ⟨item, earlier⟩, item', later, middle, hsplit, hearlier, hitem⟩
            · cases hsplit
              cases hearlier
              rw [hstep] at hitem
              cases hitem
            · cases hsplit
              rw [List.foldlM_cons, hstep] at hearlier
              exact ⟨earlier, item', later, middle, rfl, hearlier, hitem⟩

namespace Model

variable {model : Model} {classes others known : List ClassDecl} {decl : ClassDecl}
  {taken : List (String × MethodDecl)} {methods : List MethodDecl} {method : MethodDecl}
  {signature : String} {failure : Failure} {fault : ModelFault} {classPath : Option Path}

theorem registerAll_eq_foldlM : model.registerAll classes = classes.foldlM register model := by
  induction classes generalizing model with
  | nil => rfl
  | cons decl rest ih =>
      rw [registerAll, List.foldlM_cons]
      cases hregister : model.register decl with
      | error failure => rfl
      | ok after => exact ih

/-- A method put into the table under its signature. -/
def sign (taken : List (String × MethodDecl)) (method : MethodDecl) :
    Except Failure (List (String × MethodDecl)) :=
  signMethods taken [method]

theorem signMethods_eq_foldlM : signMethods taken methods = methods.foldlM sign taken := by
  induction methods generalizing taken with
  | nil => rfl
  | cons method rest ih =>
      rw [List.foldlM_cons, sign]
      cases hsignature : method.signature with
      | error fault =>
          simp only [signMethods, hsignature]
          rfl
      | ok signature =>
          rw [signMethods_cons_of_ok hsignature, signMethods_cons_of_ok hsignature]
          by_cases htaken : signature ∈ taken.map (·.1)
          · simp only [htaken, if_true]
            rfl
          · simp only [htaken, if_false]
            exact ih

/-- A method with a signature cannot be put into the table exactly if the signature stands there. -/
theorem sign_eq_error_iff (hsignature : method.signature = .ok signature) :
    sign taken method = .error failure ↔
      signature ∈ taken.map (·.1) ∧ failure = .reported (.model (.duplicateMethod signature)) := by
  rw [sign, signMethods_cons_of_ok hsignature]
  by_cases htaken : signature ∈ taken.map (·.1)
  · simp only [htaken, if_true, Except.error.injEq, true_and, eq_comm]
  · simp only [htaken, if_false, false_and, signMethods, reduceCtorEq]

/-! ## Clashes -/

/-- What of the class has been there before.  The name is looked at first, and then the signatures
of the methods in the order of their declaration, up to the first that is the signature of a method
of a known class or of an earlier method of the class itself. -/
inductive Clashes (known : List ClassDecl) (decl : ClassDecl) : ModelFault → Prop
  | name (hname : decl.name ∈ known.map (·.name)) : Clashes known decl (.duplicateClass decl.name)
  | signature {earlier later : List MethodDecl} {method : MethodDecl} {signature : String}
      (hname : decl.name ∉ known.map (·.name)) (hsplit : decl.methods = earlier ++ method :: later)
      (hsignature : method.signature = .ok signature)
      (hdistinct : (known.flatMap (·.methods) ++ earlier).Pairwise fun method other =>
        method.signature ≠ other.signature)
      (hrepeated : ∃ other ∈ known.flatMap (·.methods) ++ earlier,
        other.signature = .ok signature) :
      Clashes known decl (.duplicateMethod signature)

theorem isSome_class?_iff {name : String} :
    (model.class? name).isSome = true ↔ Json.str name ∈ model.classes.map (·.name) := by
  rw [← containsClass, containsClass_iff_exists_name, List.mem_map]

/-- Signing the methods of a class fails exactly if a signature among them has been there before. -/
theorem Coherent.signMethods_eq_error_iff (h : model.Coherent) (hdecl : decl.Textual) :
    signMethods model.methods decl.methods = .error failure ↔
      ∃ earlier method later signature, decl.methods = earlier ++ method :: later ∧
        method.signature = .ok signature ∧
        ((model.classes.flatMap (·.methods) ++ earlier).Pairwise fun method other =>
          method.signature ≠ other.signature) ∧
        (∃ other ∈ model.classes.flatMap (·.methods) ++ earlier,
          other.signature = .ok signature) ∧
        failure = .reported (.model (.duplicateMethod signature)) := by
  have hsigned : ∀ method ∈ decl.methods, ∃ signature, method.signature = .ok signature :=
    fun method hmethod => (hdecl.2 method hmethod).exists_signature
  rw [signMethods_eq_foldlM, foldlM_eq_error_iff]
  constructor
  · rintro ⟨earlier, method, later, middle, hsplit, hearlier, hmethod⟩
    obtain ⟨signature, hsignature⟩ := hsigned method (by simp [hsplit])
    obtain ⟨hrepeated, rfl⟩ := (sign_eq_error_iff hsignature).1 hmethod
    -- What stands in the table by then is what stood there before and the earlier methods.
    rw [← signMethods_eq_foldlM] at hearlier
    obtain ⟨added, rfl, rfl, hadded, hnodup⟩ :=
      (signMethods_eq_ok_iff h.distinctSignatures).1 hearlier
    have hall : ∀ entry ∈ model.methods ++ added, entry.2.signature = .ok entry.1 :=
      fun entry hentry => (List.mem_append.1 hentry).elim (h.signed entry) (hadded entry)
    refine ⟨_, method, later, signature, hsplit, hsignature, ?_, ?_, rfl⟩
    · rw [← h.listed, ← List.map_append]
      exact (nodup_signatures_iff hall).1 hnodup
    · rw [← h.listed, ← List.map_append]
      exact (mem_signatures_iff hall).1 hrepeated
  · rintro ⟨earlier, method, later, signature, hsplit, hsignature, hdistinct, hrepeated, rfl⟩
    have hearlierSigned : ∀ method ∈ earlier, ∃ signature, method.signature = .ok signature :=
      fun method hmethod => hsigned method (by simp [hsplit, hmethod])
    rw [← h.listed] at hdistinct hrepeated
    obtain ⟨all, hall⟩ :=
      (exists_signMethods_iff h.signed h.distinctSignatures hearlierSigned).2 hdistinct
    have htable := (signMethods_eq_ok_iff h.distinctSignatures).1 hall
    obtain ⟨added, rfl, rfl, hadded, -⟩ := htable
    rw [← List.map_append] at hrepeated
    refine ⟨_, method, later, _, hsplit, signMethods_eq_foldlM.symm.trans hall, ?_⟩
    refine (sign_eq_error_iff hsignature).2 ⟨(mem_signatures_iff ?_).2 hrepeated, rfl⟩
    exact fun entry hentry => (List.mem_append.1 hentry).elim (h.signed entry) (hadded entry)

/-- A class of texts cannot be registered exactly if it clashes with those that are. -/
theorem Coherent.register_error_iff_clashes (h : model.Coherent) (hdecl : decl.Textual) :
    model.register decl = .error failure ↔
      ∃ fault, failure = .reported (.model fault) ∧ Clashes model.classes decl fault := by
  obtain ⟨name, hname⟩ := Json.isText_iff.1 hdecl.1
  have hkey : decl.name.key? = some (.text name) := Json.key?_eq_text_iff.2 hname
  have htaken : (model.classOf? (.text name)).isSome = true ↔
      decl.name ∈ model.classes.map (·.name) := hname ▸ isSome_class?_iff
  have hfree : model.classOf? (.text name) = none ↔ decl.name ∉ model.classes.map (·.name) := by
    rw [← htaken, Option.not_isSome_iff_eq_none]
  rw [register_eq_error_iff, h.signMethods_eq_error_iff hdecl]
  constructor
  · rintro (⟨fault, hfault, -⟩ | ⟨key, hnamed, hrest⟩)
    · -- A text can identify something.
      rw [hname, Json.identity_str] at hfault
      cases hfault
    · cases hkey.symm.trans hnamed
      rcases hrest with ⟨hknown, rfl⟩ | ⟨hunknown, hsign⟩
      · exact ⟨_, rfl, .name (htaken.1 hknown)⟩
      · obtain ⟨_, _, _, _, hsplit, hsignature, hdistinct, hrepeated, rfl⟩ := hsign
        exact ⟨_, rfl, .signature (hfree.1 hunknown) hsplit hsignature hdistinct hrepeated⟩
  · rintro ⟨fault, rfl, hclash⟩
    refine .inr ⟨_, hkey, ?_⟩
    cases hclash with
    | name hknown => exact .inl ⟨htaken.2 hknown, rfl⟩
    | signature hunknown hsplit hsignature hdistinct hrepeated =>
        exact .inr ⟨hfree.2 hunknown, _, _, _, _, hsplit, hsignature, hdistinct, hrepeated, rfl⟩

/-! ## Lists of classes -/

/-- No name and no signature of the classes comes twice. -/
structure Distinct (classes : List ClassDecl) : Prop where
  names : (classes.map (·.name)).Nodup
  signatures : (classes.flatMap (·.methods)).Pairwise fun method other =>
    method.signature ≠ other.signature

/-- Classes of texts can stand side by side exactly if none of their names and signatures comes
twice. -/
theorem compatible_iff_distinct (htextual : ∀ decl ∈ classes, decl.Textual) :
    Compatible classes ↔ Distinct classes := by
  have hnamed : ∀ name ∈ classes.map (·.name), ∃ text, name = Json.str text := by
    intro name hname
    obtain ⟨decl, hdecl, rfl⟩ := List.mem_map.1 hname
    exact Json.isText_iff.1 (htextual decl hdecl).1
  constructor
  · intro h
    exact ⟨List.Nodup.of_map _ h.distinctNames, h.distinctSignatures⟩
  · intro h
    constructor
    case named =>
      intro name hname
      obtain ⟨text, rfl⟩ := hnamed name hname
      exact ⟨_, rfl⟩
    case distinctNames =>
      -- Texts count as themselves, so different ones count as different keys.
      refine List.Nodup.map_on ?_ h.names
      intro name hname other hother hkey
      obtain ⟨text, rfl⟩ := hnamed name hname
      obtain ⟨otherText, rfl⟩ := hnamed other hother
      exact congrArg Json.str (Json.Key.text.inj (Option.some.inj hkey))
    case signed =>
      intro method hmethod
      obtain ⟨decl, hdecl, hmem⟩ := List.mem_flatMap.1 hmethod
      exact ((htextual decl hdecl).2 method hmem).exists_signature
    case distinctSignatures => exact h.signatures

/-- The first repetition in a list of classes: up to some class there is none, and that class
clashes with those before it. -/
def FirstRepetition (classes : List ClassDecl) (fault : ModelFault) : Prop :=
  ∃ before decl after, classes = before ++ decl :: after ∧ Distinct before ∧
    Clashes before decl fault

/-- Making a model of classes of texts fails exactly for the first repetition in the list. -/
theorem ofClasses_eq_error_iff (htextual : ∀ decl ∈ classes, decl.Textual) :
    ofClasses classes classPath = .error failure ↔
      ∃ fault, failure = .reported (.model fault) ∧ FirstRepetition classes fault := by
  have hbefore : ∀ before after, classes = before ++ after → ∀ decl ∈ before, decl.Textual :=
    fun before after hsplit decl hdecl => htextual decl (by simp [hsplit, hdecl])
  rw [ofClasses, registerAll_eq_foldlM, foldlM_eq_error_iff]
  constructor
  · rintro ⟨before, decl, after, middle, hsplit, hmiddle, hregister⟩
    -- The classes up to the one that is refused make up a model.
    have hbuilt : ofClasses before classPath = .ok middle :=
      registerAll_eq_foldlM.trans hmiddle
    have hdistinct := (compatible_iff_distinct (hbefore before _ hsplit)).1
      (exists_ofClasses_iff.1 ⟨middle, hbuilt⟩)
    obtain ⟨fault, rfl, hclash⟩ := ((coherent_ofClasses hbuilt).register_error_iff_clashes
      (htextual decl (by simp [hsplit]))).1 hregister
    rw [classes_of_ofClasses hbuilt] at hclash
    exact ⟨fault, rfl, before, decl, after, hsplit, hdistinct, hclash⟩
  · rintro ⟨fault, rfl, before, decl, after, hsplit, hdistinct, hclash⟩
    obtain ⟨middle, hbuilt⟩ : ∃ middle, ofClasses before classPath = .ok middle :=
      exists_ofClasses_iff.2 ((compatible_iff_distinct (hbefore before _ hsplit)).2 hdistinct)
    refine ⟨before, decl, after, middle, hsplit, registerAll_eq_foldlM.symm.trans hbuilt, ?_⟩
    refine ((coherent_ofClasses hbuilt).register_error_iff_clashes
      (htextual decl (by simp [hsplit]))).2 ⟨fault, rfl, ?_⟩
    rw [classes_of_ofClasses hbuilt]
    exact hclash

/-- Classes whose names and types are texts make up a model exactly if no name of a class and no
signature of a method comes twice, whatever their order.  The model then has just these classes, in
the order of the list.  Otherwise the first repetition is reported that is met on the way through
the list. -/
theorem ofClasses_iff_distinct (classes : List ClassDecl) (classPath : Option Path)
    (htextual : ∀ decl ∈ classes, decl.Textual) :
    ((∃ model, ofClasses classes classPath = .ok model) ↔ Distinct classes) ∧
      (∀ others, classes.Perm others →
        ((∃ model, ofClasses others classPath = .ok model) ↔
          ∃ model, ofClasses classes classPath = .ok model)) ∧
      (∀ model, ofClasses classes classPath = .ok model →
        model.classes = classes ∧ model.classPath = classPath) ∧
      ∀ failure, ofClasses classes classPath = .error failure ↔
        ∃ fault, failure = .reported (.model fault) ∧ FirstRepetition classes fault := by
  refine ⟨?_, ?_, ?_, fun failure => ofClasses_eq_error_iff htextual⟩
  · rw [exists_ofClasses_iff, compatible_iff_distinct htextual]
  · intro others hperm
    have hsame : List.Forall₂ ClassDecl.Rearranged classes classes :=
      List.forall₂_same.2 fun decl _ => ⟨rfl, .refl _⟩
    exact (exists_ofClasses_rearranged_iff ⟨classes, hsame, hperm⟩ classPath).symm
  · intro model hmodel
    exact ⟨classes_of_ofClasses hmodel, classPath_of_ofClasses hmodel⟩

end Model

namespace Sample

/-- A class that declares its one method on each of the given ranges of lines. -/
def itemOn (ranges : List (Int × Int)) : ClassDecl :=
  ⟨.str "shop.Item", ranges.map fun range => method "shop.Item" "drop" [] range.1 range.2⟩

/-- The second class declares its method twice, and the third is the first one again. -/
def repeating : List ClassDecl := [cart, itemOn [(1, 2), (3, 4)], cart]

theorem distinct_cart_itemOn : Model.Distinct [cart, itemOn [(1, 2)]] :=
  (Model.compatible_iff_distinct (by decide +kernel)).1
    (Model.exists_ofClasses_iff.1 ⟨_, (rfl : Model.ofClasses _ none = .ok _)⟩)

end Sample

/-- Of the two repetitions the method is met first. -/
theorem Model.ofClasses_iff_distinct_sample :
    (∀ decl ∈ Sample.repeating, decl.Textual) ∧
      Model.ofClasses Sample.repeating none =
        .error (.reported (.model (.duplicateMethod "<shop.Item: void drop()>"))) := by
  have htextual : ∀ decl ∈ Sample.repeating, decl.Textual := by decide +kernel
  have hbefore : Model.Distinct [Sample.cart] := by
    have hcart : ∀ decl ∈ [Sample.cart], decl.Textual := by decide +kernel
    exact (Model.ofClasses_iff_distinct [Sample.cart] (some Sample.classPath) hcart).1.1
      ⟨_, Sample.model_built⟩
  have hclash : Model.Clashes [Sample.cart] (Sample.itemOn [(1, 2), (3, 4)])
      (.duplicateMethod "<shop.Item: void drop()>") := by
    have hsplit : (Sample.itemOn [(1, 2), (3, 4)]).methods =
        [Sample.method "shop.Item" "drop" [] 1 2] ++
          Sample.method "shop.Item" "drop" [] 3 4 :: [] := rfl
    refine .signature ?_ hsplit rfl Sample.distinct_cart_itemOn.signatures
      ⟨Sample.method "shop.Item" "drop" [] 1 2, ?_, rfl⟩
    · simp [Sample.cart, Sample.itemOn]
    · simp
  refine ⟨htextual, ((Model.ofClasses_iff_distinct Sample.repeating none htextual).2.2.2 _).2 ?_⟩
  exact ⟨_, rfl, [Sample.cart], _, [Sample.cart], rfl, hbefore, hclash⟩

end ReflectiveCalls
