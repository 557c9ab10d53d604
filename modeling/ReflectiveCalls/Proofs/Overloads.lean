import ReflectiveCalls.Proofs.Permanence

/-!
# Proofs.Overloads — which of the methods of a name a call site means

The rule by which a call site is read, stated without the search that carries it out: by the line
ranges of the methods and their order, and by nothing else.  Resolving follows the rule in every
model that has the class, and fails only for want of a method.

- `MethodDecl.Tag`: the line ranges of a method, wherever they stand.
- `ClassDecl.Meant`: the methods that a call site means.
- `ClassDecl.meant_iff`: the rule settles the methods that a call is attributed to.
- `World.resolve_iff_meant`: resolving gives the methods that are meant.
-/

namespace ReflectiveCalls

/-! ## Lines of a method -/

namespace MethodDecl

/-- A line range of a method: that of its declaration, of its body or of a statement of the body. -/
inductive Tag (method : MethodDecl) (range : LineRange) : Prop
  | declaration (h : method.lines = some range)
  | body {body : Body} (hbody : method.body = some body) (h : body.lines = some range)
  | statement {body : Body} {statement : Statement} (hbody : method.body = some body)
      (hstatement : statement ∈ body.statements) (h : statement.lines = some range)

/-- A line range of the method holds the line. -/
def TaggedAt (method : MethodDecl) (line : Int) : Prop :=
  ∃ range, method.Tag range ∧ range.first ≤ line ∧ line ≤ range.last

end MethodDecl

theorem coversLine_eq_true_iff {tag : Option LineRange} {line : Int} :
    coversLine tag line = true ↔
      line ≠ unknownLine ∧ ∃ range, tag = some range ∧ range.first ≤ line ∧ line ≤ range.last := by
  cases tag <;> simp [coversLine, LineRange.covers]

/-- A method covers a line that is known if one of its line ranges holds it. -/
theorem MethodDecl.covers_eq_true_iff {method : MethodDecl} {line : Int} :
    method.covers line = true ↔ line ≠ unknownLine ∧ method.TaggedAt line := by
  unfold covers
  constructor
  · intro h
    rcases Bool.or_eq_true_iff.1 h with hlines | hbody
    · obtain ⟨hline, range, hrange, hin⟩ := coversLine_eq_true_iff.1 hlines
      exact ⟨hline, range, .declaration hrange, hin⟩
    · split at hbody
      · cases hbody
      · next body hgiven =>
          rcases Bool.or_eq_true_iff.1 hbody with hlines | hstatements
          · obtain ⟨hline, range, hrange, hin⟩ := coversLine_eq_true_iff.1 hlines
            exact ⟨hline, range, .body hgiven hrange, hin⟩
          · obtain ⟨statement, hmem, hlines⟩ := List.any_eq_true.1 hstatements
            obtain ⟨hline, range, hrange, hin⟩ := coversLine_eq_true_iff.1 hlines
            exact ⟨hline, range, .statement hgiven hmem hrange, hin⟩
  · rintro ⟨hline, range, htag, hin⟩
    have hcovers : coversLine (some range) line = true :=
      coversLine_eq_true_iff.2 ⟨hline, range, rfl, hin⟩
    apply Bool.or_eq_true_iff.2
    cases htag with
    | declaration h => exact .inl (h ▸ hcovers)
    | body hbody h =>
        right
        rw [hbody]
        exact Bool.or_eq_true_iff.2 (.inl (h ▸ hcovers))
    | statement hbody hmem h =>
        right
        rw [hbody]
        exact Bool.or_eq_true_iff.2 (.inr (List.any_eq_true.2 ⟨_, hmem, h ▸ hcovers⟩))

theorem MethodDecl.covers_eq_false_iff {method : MethodDecl} {line : Int} :
    method.covers line = false ↔ line = unknownLine ∨ ¬method.TaggedAt line := by
  rw [← Bool.not_eq_true, covers_eq_true_iff, not_and_or, not_not]

/-! ## What is meant -/

namespace ClassDecl

variable {decl : ClassDecl} {name : String} {line : Int} {methods : List MethodDecl}

/-- The methods that are meant by a call in a method of the name, at the line.  A method that is
alone in its name is meant whatever the line.  Of several methods the first is meant of which a line
range holds the line, if the line is known.  If the line is unknown, or in no line range of any of
them, each of them is meant. -/
inductive Meant (decl : ClassDecl) (name : String) (line : Int) : List MethodDecl → Prop
  | only {method : MethodDecl} (hnamed : decl.methodsNamed name = [method]) :
      Meant decl name line [method]
  | first {earlier later : List MethodDecl} {method : MethodDecl}
      (hnamed : decl.methodsNamed name = earlier ++ method :: later)
      (hseveral : earlier ++ later ≠ []) (hline : line ≠ unknownLine)
      (htagged : method.TaggedAt line) (hearlier : ∀ other ∈ earlier, ¬other.TaggedAt line) :
      Meant decl name line [method]
  | all (hseveral : 2 ≤ (decl.methodsNamed name).length)
      (hnone : line = unknownLine ∨ ∀ method ∈ decl.methodsNamed name, ¬method.TaggedAt line) :
      Meant decl name line (decl.methodsNamed name)

/-- If there is a method of the name, a call is attributed to methods that are meant. -/
theorem meant_attributed (hnamed : decl.methodsNamed name ≠ []) :
    decl.Meant name line (decl.attributed name line) := by
  unfold attributed
  split
  · next hmany =>
      cases hfirst : (decl.methodsNamed name).find? (·.covers line) with
      | none =>
          -- The line is known, so a line range that holds it would make the method cover it.
          apply Meant.all hmany.1
          right
          intro method hmethod htagged
          have hcovers := MethodDecl.covers_eq_true_iff.2 ⟨hmany.2, htagged⟩
          exact List.find?_eq_none.1 hfirst method hmethod hcovers
      | some method =>
          obtain ⟨hcovers, earlier, later, hsplit, hearlier⟩ :=
            List.find?_eq_some_iff_append.1 hfirst
          -- What the search has passed by covers nothing, and so is tagged nowhere at the line.
          refine .first hsplit ?_ hmany.2 (MethodDecl.covers_eq_true_iff.1 hcovers).2 ?_
          · intro hnil
            obtain ⟨rfl, rfl⟩ := List.append_eq_nil_iff.1 hnil
            simp [hsplit] at hmany
          · intro other hother
            have hnot : other.covers line = false := by simpa using hearlier other hother
            exact (MethodDecl.covers_eq_false_iff.1 hnot).resolve_left hmany.2
  · next hfew =>
      rcases hmethods : decl.methodsNamed name with _ | ⟨method, _ | ⟨second, rest⟩⟩
      · exact absurd hmethods hnamed
      · exact .only hmethods
      · -- There are several methods here, so it is the line that is unknown.
        have hseveral : 2 ≤ (decl.methodsNamed name).length := by simp [hmethods]
        rw [← hmethods]
        exact .all hseveral (.inl (not_not.1 fun hline => hfew ⟨hseveral, hline⟩))

/-- The methods that are meant are those to which the call is attributed. -/
theorem Meant.eq_attributed (h : decl.Meant name line methods) :
    methods = decl.attributed name line ∧ decl.methodsNamed name ≠ [] := by
  unfold attributed
  cases h with
  | only hnamed => simp [hnamed]
  | @first earlier later method hnamed hseveral hline htagged hearlier =>
      have hmany : 2 ≤ (decl.methodsNamed name).length := by
        have hpos := List.length_pos_of_ne_nil hseveral
        rw [List.length_append] at hpos
        rw [hnamed, List.length_append, List.length_cons]
        omega
      -- The search passes by the methods before this one and stops here.
      have hfirst : (decl.methodsNamed name).find? (·.covers line) = some method := by
        apply List.find?_eq_some_iff_append.2
        refine ⟨MethodDecl.covers_eq_true_iff.2 ⟨hline, htagged⟩, earlier, later, hnamed, ?_⟩
        intro other hother
        rw [MethodDecl.covers_eq_false_iff.2 (.inr (hearlier other hother)), Bool.not_false]
      rw [if_pos ⟨hmany, hline⟩, hfirst, hnamed]
      simp
  | all hseveral hnone =>
      have hnonempty : decl.methodsNamed name ≠ [] := List.ne_nil_of_length_pos (by omega)
      rcases hnone with hline | hnone
      · simp [hline, hnonempty]
      · have hfirst : (decl.methodsNamed name).find? (·.covers line) = none := by
          apply List.find?_eq_none.2
          intro method hmethod hcovers
          exact hnone method hmethod (MethodDecl.covers_eq_true_iff.1 hcovers).2
        simp [hfirst, hnonempty]

/-- A call site means the methods to which the call is attributed, if there is one of the name. -/
theorem meant_iff :
    decl.Meant name line methods ↔
      decl.methodsNamed name ≠ [] ∧ methods = decl.attributed name line := by
  constructor
  · intro h
    exact h.eq_attributed.symm
  · rintro ⟨hnamed, rfl⟩
    exact meant_attributed hnamed

theorem Meant.ne_nil (h : decl.Meant name line methods) : methods ≠ [] := by
  cases h with
  | only => exact List.cons_ne_nil _ _
  | first => exact List.cons_ne_nil _ _
  | all hseveral => exact List.ne_nil_of_length_pos (by omega)

/-- The methods that are meant stand in the class in the same order. -/
theorem Meant.sublist (h : decl.Meant name line methods) : methods.Sublist decl.methods := by
  have hnamed : (decl.methodsNamed name).Sublist decl.methods := List.filter_sublist
  apply List.Sublist.trans _ hnamed
  cases h with
  | only h => exact h ▸ .refl _
  | first h => exact h ▸ List.singleton_sublist.2 (by simp)
  | all => exact .refl _

/-- The methods that are meant have the name. -/
theorem Meant.name_eq (h : decl.Meant name line methods) :
    ∀ method ∈ methods, method.name = .str name := by
  intro method hmethod
  rw [h.eq_attributed.1] at hmethod
  exact (mem_methodsNamed_iff.1 (mem_methodsNamed_of_mem_attributed hmethod)).2

end ClassDecl

/-! ## Resolving -/

namespace Model

/-- In a class that is registered, the methods of a name are resolved to those that are meant,
unless there is no method of the name. -/
theorem Coherent.resolve_cases {model : Model} (h : model.Coherent) {className : String}
    {decl : ClassDecl} (hclass : model.class? className = some decl) (tree : Tree)
    (methodName : String) (line : Int) :
    let resolved := (resolve tree className methodName line).run model
    resolved.state = model ∧
      ((∃ methods, decl.Meant methodName line methods ∧ resolved.result = .ok methods) ∨
        decl.methodsNamed methodName = [] ∧
          resolved.result = .error (.reported (.unknownSourceMethod className methodName))) := by
  intro resolved
  have hrun : resolved = (methodsMeant decl className methodName line).run model :=
    run_resolve_of_class? hclass tree methodName line
  rw [hrun]
  rcases methodsMeant_cases decl className methodName line model with
    ⟨hstate, ⟨hnamed, hresult⟩ | ⟨hnamed, hresult⟩ | ⟨method, hmethod, fault, hfault, -⟩⟩
  · exact ⟨hstate, .inl ⟨_, ClassDecl.meant_attributed hnamed, hresult⟩⟩
  · exact ⟨hstate, .inr ⟨hnamed, hresult⟩⟩
  · -- A class is registered only if each of its methods has a signature.
    have hdecl := (h.classOf?_eq_some_iff.1 hclass).1
    obtain ⟨signature, hsignature, -⟩ := h.exists_signature hdecl hmethod
    cases hfault.symm.trans hsignature

end Model

/-- At any time, a call site in a class that is registered is resolved by the rule.  It is resolved
to certain methods exactly if these are meant, and found to be unknown exactly if the class has no
method of the name; there is no other way in which resolving ends, and it leaves the model alone.
What it gives is never empty, and stands in the class in the same order under the name.  No method
covers the unknown line, whatever its line ranges are. -/
theorem World.resolve_iff_meant {classes : List ClassDecl} {classPath : Option Path} (world : World)
    (built : Model.ofClasses classes classPath = .ok world.model) (moves : List Move)
    {className : String} {decl : ClassDecl}
    (registered : (world.run moves).model.class? className = some decl) (tree : Tree)
    (methodName : String) (line : Int) :
    let model := (world.run moves).model
    let resolved := (Model.resolve tree className methodName line).run model
    resolved.state = model ∧
      (resolved.result = .error (.reported (.unknownSourceMethod className methodName)) ↔
        ∀ method ∈ decl.methods, method.name ≠ .str methodName) ∧
      (∀ methods, resolved.result = .ok methods ↔ decl.Meant methodName line methods) ∧
      ((∃ method ∈ decl.methods, method.name = .str methodName) →
        ∃ methods, resolved.result = .ok methods ∧ methods ≠ [] ∧
          methods.Sublist decl.methods ∧ ∀ method ∈ methods, method.name = .str methodName) ∧
      ∀ method ∈ decl.methods, method.covers unknownLine = false := by
  intro model resolved
  have hcovers : ∀ method ∈ decl.methods, method.covers unknownLine = false :=
    fun _ _ => MethodDecl.covers_eq_false_iff.2 (.inl rfl)
  have hunnamed : (∀ method ∈ decl.methods, method.name ≠ .str methodName) ↔
      decl.methodsNamed methodName = [] := by
    rw [← not_iff_not, ← ne_eq (decl.methodsNamed methodName), ClassDecl.methodsNamed_ne_nil_iff]
    simp
  have hcoherent : model.Coherent := coherent_run built moves
  rcases hcoherent.resolve_cases registered tree methodName line with
    ⟨hstate, ⟨methods, hmeant, hresult⟩ | ⟨hnone, hresult⟩⟩
  · have hattributed := hmeant.eq_attributed
    refine ⟨hstate, ?unknown, ?meant, ?found, hcovers⟩
    case unknown =>
      rw [hunnamed]
      simp [resolved, hresult, hattributed.2]
    case meant =>
      intro others
      rw [ClassDecl.meant_iff, ← hattributed.1]
      simp [resolved, hresult, hattributed.2, eq_comm]
    case found =>
      intro _
      exact ⟨methods, hresult, hmeant.ne_nil, hmeant.sublist, hmeant.name_eq⟩
  · refine ⟨hstate, iff_of_true hresult (hunnamed.2 hnone), ?_, ?_, hcovers⟩
    · intro methods
      rw [ClassDecl.meant_iff]
      simp [resolved, hresult, hnone]
    · rintro ⟨method, hmethod, hname⟩
      exact absurd hname (hunnamed.2 hnone method hmethod)

/-- Of two methods of one name, the line is in the second. -/
theorem World.resolve_iff_meant_sample :
    let model := ((World.start Sample.tree Sample.model).run Sample.moves).model
    Model.ofClasses [Sample.cart] (some Sample.classPath) = .ok Sample.model ∧
      model.class? "shop.Cart" = some Sample.cart ∧
      ((Model.resolve Sample.tree "shop.Cart" "add" 8).run model).result =
        .ok [Sample.method "shop.Cart" "add" ["long", "int"] 7 9] := by
  intro model
  have hclass : model.class? "shop.Cart" = some Sample.cart := by
    have hextends := (World.grows_run (World.start Sample.tree Sample.model) Sample.moves).toExtends
      (Model.coherent_ofClasses Sample.model_built)
    exact hextends.class?_eq_some rfl
  refine ⟨Sample.model_built, hclass, ?_⟩
  have hresolve := World.resolve_iff_meant (World.start Sample.tree Sample.model) Sample.model_built
    Sample.moves hclass Sample.tree "add" 8
  apply (hresolve.2.2.1 _).2
  have hnamed : Sample.cart.methodsNamed "add" = [Sample.method "shop.Cart" "add" ["int"] 3 5] ++
      Sample.method "shop.Cart" "add" ["long", "int"] 7 9 :: [] := rfl
  refine .first hnamed (by simp) (by decide) ⟨⟨7, 9⟩, .declaration rfl, by decide, by decide⟩ ?_
  rintro _ hfirst ⟨range, htag, hin⟩
  rcases List.mem_singleton.1 hfirst with rfl
  cases htag with
  | declaration h =>
      cases h
      exact absurd hin (by decide)
  | body hbody => cases hbody
  | statement hbody => cases hbody

end ReflectiveCalls
