import ReflectiveCalls.Proofs.Program.Repetition
import ReflectiveCalls.Proofs.Text.Pieces

/-!
# Proofs.Program.Signatures — what a signature tells of its method

A signature is put together of the class, the return type, the name and the parameter types of a
method, with marks between them.  As long as no part holds a mark and no parameter type is empty, it
can be taken apart in one way only: the class ends at the first colon, the return type at the next
space, the name at the parenthesis, and the parameter types at the commas.  An empty parameter type
would be lost, since no parameter and one empty parameter are written alike.

- `Signature.Legible`: texts that can be found again in a signature;
  `Signature.Legible.signatureText_inj`: no others give the same signature.
- `MethodDecl.Legible`, `ClassDecl.Legible`, `Model.Legible`: methods that are named and typed by
  such texts.
- `MethodDecl.Legible.signature_eq_iff`: their signatures are the same exactly if the methods are.
-/

namespace ReflectiveCalls

/-! ## Texts -/

namespace Signature

/-- The characters that set the parts of a signature apart. -/
def marks : List Char := [' ', ':', '(', ')', ',']

/-- None of the characters of the text is a mark. -/
def Unmarked (text : String) : Prop := ∀ mark ∈ marks, mark ∉ text.toList

-- The marks are gone through, and not all characters there are.
instance : DecidablePred Unmarked := fun text =>
  List.decidableBAll (fun mark => mark ∉ text.toList) marks

/-- Texts that can be found again in the signature that is made of them: there is no mark in any of
them, and no parameter type is empty. -/
structure Legible (declaringClass name returnType : String) (parameterTypes : List String) :
    Prop where
  declaringClass : Unmarked declaringClass
  name : Unmarked name
  returnType : Unmarked returnType
  parameterTypes : ∀ type ∈ parameterTypes, Unmarked type ∧ type ≠ ""

/-- The characters of a signature, part by part. -/
theorem toList_signatureText (declaringClass name returnType : String)
    (parameterTypes : List String) :
    (MethodDecl.signatureText declaringClass name returnType parameterTypes).toList =
      ('<' :: declaringClass.toList) ++ ':' :: ((' ' :: returnType.toList) ++ ' ' ::
        (name.toList ++ '(' ::
          ([','].intercalate (parameterTypes.map String.toList) ++ [')', '>']))) := by
  simp [MethodDecl.signatureText]

/-- Between the commas stand the types, as long as there are any. -/
theorem split_intercalate_comma {types : List String}
    (htypes : ∀ type ∈ types, Unmarked type ∧ type ≠ "") (hne : types ≠ []) :
    Text.split ',' ([','].intercalate (types.map String.toList)) = types.map String.toList := by
  refine (Text.joined_intercalate (by simpa using hne) ?_).split_eq
  intro piece hpiece
  obtain ⟨type, htype, rfl⟩ := List.mem_map.1 hpiece
  exact (htypes type htype).1 ',' (by decide)

/-- Nothing is written only where there are no types, since no type is empty. -/
theorem eq_nil_of_intercalate_comma {types : List String}
    (htypes : ∀ type ∈ types, Unmarked type ∧ type ≠ "")
    (h : [','].intercalate (types.map String.toList) = []) : types = [] := by
  by_contra hne
  have hsplit := split_intercalate_comma htypes hne
  rw [h] at hsplit
  obtain ⟨type, rest, rfl⟩ := List.exists_cons_of_ne_nil hne
  have hempty : type.toList = [] := (List.cons.inj hsplit).1.symm
  exact (htypes type List.mem_cons_self).2 (String.toList_eq_nil_iff.1 hempty)

/-- What is written of parameter types settles them. -/
theorem intercalate_comma_inj {types others : List String}
    (htypes : ∀ type ∈ types, Unmarked type ∧ type ≠ "")
    (hothers : ∀ type ∈ others, Unmarked type ∧ type ≠ "")
    (h : [','].intercalate (types.map String.toList) =
      [','].intercalate (others.map String.toList)) : types = others := by
  by_cases hnil : types = []
  · subst hnil
    exact (eq_nil_of_intercalate_comma hothers h.symm).symm
  by_cases hotherNil : others = []
  · subst hotherNil
    exact eq_nil_of_intercalate_comma htypes h
  have hsame := congrArg (Text.split ',') h
  rw [split_intercalate_comma htypes hnil, split_intercalate_comma hothers hotherNil] at hsame
  exact List.map_injective_iff.2 (fun _ _ => String.toList_inj.1) hsame

/-- A signature settles the texts that it is made of. -/
theorem Legible.signatureText_inj {declaringClass name returnType : String}
    {parameterTypes : List String} {otherClass otherName otherReturn : String}
    {otherTypes : List String} (h : Legible declaringClass name returnType parameterTypes)
    (hother : Legible otherClass otherName otherReturn otherTypes)
    (heq : MethodDecl.signatureText declaringClass name returnType parameterTypes =
      MethodDecl.signatureText otherClass otherName otherReturn otherTypes) :
    declaringClass = otherClass ∧ name = otherName ∧ returnType = otherReturn ∧
      parameterTypes = otherTypes := by
  have hlist := congrArg String.toList heq
  rw [toList_signatureText, toList_signatureText] at hlist
  -- Each part ends at the first of its marks, so the parts can be read off one after the other.
  have hcolon : ∀ {text : String}, Unmarked text → ':' ∉ '<' :: text.toList := by
    intro text htext
    exact List.not_mem_cons_of_ne_of_not_mem (by decide) (htext ':' (by decide))
  obtain ⟨hclass, hlist⟩ :=
    (Text.append_cons_eq_iff (hcolon h.declaringClass) (hcolon hother.declaringClass)).1 hlist
  obtain ⟨hreturn, hlist⟩ := (Text.append_cons_eq_iff (h.returnType ' ' (by decide))
    (hother.returnType ' ' (by decide))).1 (List.cons.inj hlist).2
  obtain ⟨hname, hlist⟩ := (Text.append_cons_eq_iff (h.name '(' (by decide))
    (hother.name '(' (by decide))).1 hlist
  refine ⟨String.toList_inj.1 (List.cons.inj hclass).2, String.toList_inj.1 hname,
    String.toList_inj.1 hreturn, ?_⟩
  exact intercalate_comma_inj h.parameterTypes hother.parameterTypes
    (List.append_cancel_right hlist)

end Signature

/-! ## Methods -/

namespace MethodDecl

variable {method other : MethodDecl}

/-- Methods named and typed by texts are the same exactly if they agree in each of these. -/
theorem Textual.same_iff (h : method.Textual) :
    method.same other = true ↔ other.declaringClass = method.declaringClass ∧
      other.name = method.name ∧ other.returnType = method.returnType ∧
      other.parameterTypes = method.parameterTypes := by
  obtain ⟨hclass, hname, hreturn, htypes⟩ := h
  obtain ⟨declaringClass, hclass⟩ := Json.isText_iff.1 hclass
  obtain ⟨name, hname⟩ := Json.isText_iff.1 hname
  obtain ⟨returnType, hreturn⟩ := Json.isText_iff.1 hreturn
  obtain ⟨types, htypes⟩ := exists_texts htypes
  have hidentity : method.identity =
      .ok ⟨.text declaringClass, .text name, .text returnType, types.map .text⟩ := by
    rw [identity_eq_ok_iff, hclass, hname, hreturn, htypes]
    exact ⟨rfl, rfl, rfl, Json.keyed_text_iff.2 rfl⟩
  rw [MethodDecl.same_iff hidentity, identity_eq_ok_iff, hclass, hname, hreturn, htypes]
  simp only [Json.key?_eq_text_iff, Json.keyed_text_iff]

/-- The method is named and typed by texts that can be found again in its signature. -/
def Legible (method : MethodDecl) : Prop :=
  ∃ declaringClass name returnType parameterTypes,
    Signature.Legible declaringClass name returnType parameterTypes ∧
      method.declaringClass = .str declaringClass ∧ method.name = .str name ∧
      method.returnType = .str returnType ∧ method.parameterTypes = parameterTypes.map .str

namespace Legible

theorem textual (h : method.Legible) : method.Textual := by
  obtain ⟨declaringClass, name, returnType, types, -, hclass, hname, hreturn, htypes⟩ := h
  refine ⟨Json.isText_iff.2 ⟨_, hclass⟩, Json.isText_iff.2 ⟨_, hname⟩,
    Json.isText_iff.2 ⟨_, hreturn⟩, ?_⟩
  intro type htype
  rw [htypes] at htype
  obtain ⟨text, -, rfl⟩ := List.mem_map.1 htype
  rfl

/-- Methods of the same signature agree in all that they are named and typed by. -/
theorem signature_eq_iff (h : method.Legible) (hother : other.Legible) :
    method.signature = other.signature ↔ method.same other = true := by
  rw [h.textual.same_iff]
  obtain ⟨declaringClass, name, returnType, types, hlegible, hclass, hname, hreturn, htypes⟩ := h
  obtain ⟨otherClass, otherName, otherReturn, otherTypes, hotherLegible, hotherClass, hotherName,
    hotherReturn, hotherTypes⟩ := hother
  simp only [signature, hclass, hname, hreturn, htypes, hotherClass, hotherName, hotherReturn,
    hotherTypes, parameterTexts_map_str, Json.plain_str, Except.ok.injEq, Json.str.injEq]
  constructor
  · intro heq
    obtain ⟨rfl, rfl, rfl, rfl⟩ := hlegible.signatureText_inj hotherLegible heq
    exact ⟨rfl, rfl, rfl, rfl⟩
  · rintro ⟨rfl, rfl, rfl, hmap⟩
    rw [List.map_injective_iff.2 (fun _ _ => Json.str.inj) hmap]

end Legible
end MethodDecl

/-! ## Models -/

/-- The methods of the class are named and typed by texts that can be found again in signatures. -/
def ClassDecl.Legible (decl : ClassDecl) : Prop := ∀ method ∈ decl.methods, method.Legible

/-- The same of all classes of the model. -/
def Model.Legible (model : Model) : Prop := ∀ decl ∈ model.classes, decl.Legible

/-- A class that is refused for a signature that has been there before declares a method that is the
same as one that is known or that it has declared before. -/
theorem Model.Coherent.exists_same_of_register_error {model : Model} {decl : ClassDecl}
    {signature : String} (h : model.Coherent) (hmodel : model.Legible)
    (hname : decl.name.IsText) (hdecl : decl.Legible)
    (hregister : model.register decl = .error (.reported (.model (.duplicateMethod signature)))) :
    ∃ earlier method later, decl.methods = earlier ++ method :: later ∧
      method.signature = .ok signature ∧
        ∃ other ∈ model.classes.flatMap (·.methods) ++ earlier, other.same method = true := by
  have htextual : decl.Textual := ⟨hname, fun method hmethod => (hdecl method hmethod).textual⟩
  obtain ⟨fault, hfault, hclash⟩ := (h.register_error_iff_clashes htextual).1 hregister
  cases hfault
  cases hclash with
  | @signature earlier later method _ _ hsplit hsignature _ hrepeated =>
      obtain ⟨other, hother, hotherSignature⟩ := hrepeated
      refine ⟨earlier, method, later, hsplit, hsignature, other, hother, ?_⟩
      have hmethodLegible : method.Legible := hdecl method (by simp [hsplit])
      have hotherLegible : other.Legible := by
        rcases List.mem_append.1 hother with hknown | hearlier
        · obtain ⟨owner, howner, hmem⟩ := List.mem_flatMap.1 hknown
          exact hmodel owner howner other hmem
        · exact hdecl other (by simp [hsplit, hearlier])
      exact (hotherLegible.signature_eq_iff hmethodLegible).1
        (hotherSignature.trans hsignature.symm)

/-- Methods that are named and typed by texts without marks, no parameter type being empty, have
signatures, and two of them have one signature exactly if they agree in class, name, return type and
parameter types.  So a class of such methods is refused for a signature only if one of the methods
is the same as a method known before, and a signature means the same method in any model and beside
it. -/
theorem MethodDecl.signature_identifies :
    (∀ method other : MethodDecl, method.Legible → other.Legible →
      (∃ signature, method.signature = .ok signature) ∧
        (method.signature = other.signature ↔ method.same other = true) ∧
        (method.same other = true ↔ other.declaringClass = method.declaringClass ∧
          other.name = method.name ∧ other.returnType = method.returnType ∧
          other.parameterTypes = method.parameterTypes)) ∧
      (∀ (model : Model) (decl : ClassDecl) (signature : String), model.Coherent →
        model.Legible → decl.name.IsText → decl.Legible →
        model.register decl = .error (.reported (.model (.duplicateMethod signature))) →
          ∃ earlier method later, decl.methods = earlier ++ method :: later ∧
            method.signature = .ok signature ∧
              ∃ other ∈ model.classes.flatMap (·.methods) ++ earlier,
                other.same method = true) ∧
      ∀ (model : Model) (target : String) (method other : MethodDecl), model.Coherent →
        model.Legible → model.method? target = some method → other.Legible →
        other.signature = .ok target → method.same other = true := by
  refine ⟨?_, ?_, ?_⟩
  · intro method other hmethod hother
    exact ⟨hmethod.textual.exists_signature, hmethod.signature_eq_iff hother,
      hmethod.textual.same_iff⟩
  · intro model decl signature hmodel hlegible hname hdecl hregister
    exact hmodel.exists_same_of_register_error hlegible hname hdecl hregister
  · intro model target method other hmodel hlegible htarget hother hsignature
    obtain ⟨⟨decl, hdecl, hmem⟩, hmethod⟩ := hmodel.method?_eq_some_iff.1 htarget
    exact ((hlegible decl hdecl method hmem).signature_eq_iff hother).1
      (hmethod.trans hsignature.symm)

namespace Sample

theorem legible_method {owner name : String} {types : List String}
    (h : Signature.Legible owner name "void" types) (first last : Int) :
    (method owner name types first last).Legible :=
  ⟨owner, name, "void", types, h, rfl, rfl, rfl, rfl⟩

theorem legible_add (first last : Int) :
    (method "shop.Cart" "add" ["int"] first last).Legible :=
  legible_method (by constructor <;> decide +kernel) first last

theorem legible_add_long : (method "shop.Cart" "add" ["long", "int"] 7 9).Legible :=
  legible_method (by constructor <;> decide +kernel) 7 9

theorem legible_model : model.Legible := by
  intro decl hdecl added hmethod
  rcases List.mem_singleton.1 hdecl with rfl
  rcases List.mem_cons.1 hmethod with rfl | hmethod
  · exact legible_add 3 5
  · rcases List.mem_singleton.1 hmethod with rfl
    exact legible_add_long

theorem legible_itemOn (ranges : List (Int × Int)) : (itemOn ranges).Legible := by
  intro drop hdrop
  obtain ⟨range, -, rfl⟩ := List.mem_map.1 hdrop
  exact legible_method (by constructor <;> decide +kernel) range.1 range.2

end Sample

/-- The two methods of the cart have different signatures; a class is refused because it declares
one method twice; and a method of the cart on other lines is the method of the cart. -/
theorem MethodDecl.signature_identifies_sample :
    (Sample.method "shop.Cart" "add" ["int"] 3 5).signature ≠
        (Sample.method "shop.Cart" "add" ["long", "int"] 7 9).signature ∧
      (∃ earlier method later,
        (Sample.itemOn [(1, 2), (3, 4)]).methods = earlier ++ method :: later ∧
          method.signature = .ok "<shop.Item: void drop()>" ∧
            ∃ other ∈ Sample.model.classes.flatMap (·.methods) ++ earlier,
              other.same method = true) ∧
      (Sample.method "shop.Cart" "add" ["int"] 3 5).same
        (Sample.method "shop.Cart" "add" ["int"] 1 2) = true := by
  obtain ⟨hsame, hrefused, htarget⟩ := MethodDecl.signature_identifies
  have hmodel := Model.coherent_ofClasses Sample.model_built
  refine ⟨?_, ?_, ?_⟩
  · intro heq
    have habsurd := (hsame _ _ (Sample.legible_add 3 5) Sample.legible_add_long).2.1.1 heq
    exact absurd habsurd (by decide +kernel)
  · exact hrefused Sample.model (Sample.itemOn [(1, 2), (3, 4)]) _ hmodel Sample.legible_model rfl
      (Sample.legible_itemOn _) rfl
  · exact htarget Sample.model "<shop.Cart: void add(int)>" _ _ hmodel Sample.legible_model rfl
      (Sample.legible_add 1 2) rfl

end ReflectiveCalls
