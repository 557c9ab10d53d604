import Mathlib.Data.List.Forall2
import ReflectiveCalls.Program.Model

/-!
# Proofs.Program.Identity — what values and methods count as

Equality of methods looks at their parts as identities: two methods are the same exactly if they
count as the same key.  Where the parts are texts, as class data are meant to be, every method
counts as some key, and the key settles its signature.

- `MethodDecl.identity_eq_ok_iff`: the key of a method, part by part.
- `MethodDecl.same_iff`: equality of methods is equality of keys.
- `MethodDecl.Textual`, `ClassDecl.Textual`, `Model.Textual`: data in which every name and every
  type is a text.
- `MethodDecl.Textual.signature_eq`: methods of one key have one signature.
-/

namespace ReflectiveCalls

/-! ## Reading one by one -/

/-- Reading items one by one succeeds exactly if each can be read. -/
theorem mapM_eq_ok_iff {α β ε : Type} {read : α → Except ε β} {items : List α} {results : List β} :
    items.mapM read = .ok results ↔
      List.Forall₂ (fun item result => read item = .ok result) items results := by
  induction items generalizing results with
  | nil => cases results <;> simp [pure, Except.pure]
  | cons item rest ih =>
      rw [List.mapM_cons]
      cases hitem : read item with
      | error fault => cases results <;> simp [bind, Except.bind, hitem]
      | ok first =>
          cases hrest : rest.mapM read with
          | error fault => cases results <;> simp [bind, Except.bind, ← ih, hrest]
          | ok others =>
              cases results <;> simp [bind, Except.bind, pure, Except.pure, ← ih, hitem, hrest]

/-- What comes out of reading items one by one comes out of reading some item. -/
theorem exists_of_mem_mapM {α β ε : Type} {read : α → Except ε β} {items : List α}
    {results : List β} (h : items.mapM read = .ok results) {result : β}
    (hresult : result ∈ results) : ∃ item ∈ items, read item = .ok result := by
  induction mapM_eq_ok_iff.1 h with
  | nil => cases hresult
  | cons hitem hrest ih =>
      rcases List.mem_cons.1 hresult with rfl | hresult
      · exact ⟨_, List.mem_cons_self, hitem⟩
      · rcases ih (mapM_eq_ok_iff.2 hrest) hresult with ⟨item, hmem, hread⟩
        exact ⟨item, List.mem_cons_of_mem _ hmem, hread⟩

/-- A member of the one of two related lists stands beside one of the other. -/
theorem exists_of_forall₂_of_mem {α β : Type} {R : α → β → Prop} {items : List α} {others : List β}
    (h : List.Forall₂ R items others) {item : α} (hitem : item ∈ items) :
    ∃ other ∈ others, R item other := by
  induction h with
  | nil => cases hitem
  | cons hfirst _ ih =>
      rcases List.mem_cons.1 hitem with rfl | hlater
      · exact ⟨_, List.mem_cons_self, hfirst⟩
      · rcases ih hlater with ⟨other, hother, hrelated⟩
        exact ⟨other, List.mem_cons_of_mem _ hother, hrelated⟩

/-! ## Values -/

namespace Json

/-- Is the value a text? -/
def IsText (value : Json) : Prop := value.kind = .str

instance : DecidablePred IsText := fun value => inferInstanceAs (Decidable (value.kind = .str))

theorem isText_iff {value : Json} : value.IsText ↔ ∃ text, value = .str text := by
  cases value <;> simp [IsText, kind]

theorem identity_eq_ok_iff {value : Json} {key : Key} :
    value.identity = .ok key ↔ value.key? = some key := by
  unfold identity
  cases value.key? <;> simp

theorem key?_eq_text_iff {value : Json} {text : String} :
    value.key? = some (.text text) ↔ value = .str text := by
  cases value with
  | float value =>
      cases hwhole : value.toInt? <;> simp [key?, hwhole]
  | _ => simp [key?]

/-- What identifies something equals what counts as the same. -/
theorem same_iff {value : Json} {key : Key} (h : value.key? = some key) (other : Json) :
    value.same other = true ↔ other.key? = some key := by
  have hsame : value.same other = (some key == other.key?) := by
    cases value with
    | arr items => simp [key?] at h
    | obj members => simp [key?] at h
    -- Between all other kinds, equality looks at what the two values count as.
    | _ => cases hother : other.key? <;> cases other <;> simp_all [same]
  rw [hsame, beq_iff_eq]
  exact eq_comm

/-- Values count as keys, one by one. -/
abbrev Keyed (values : List Json) (keys : List Key) : Prop :=
  List.Forall₂ (fun value key => value.key? = some key) values keys

theorem mapM_identity_eq_ok_iff {values : List Json} {keys : List Key} :
    values.mapM identity = .ok keys ↔ Keyed values keys := by
  rw [mapM_eq_ok_iff]
  simp only [identity_eq_ok_iff]

theorem sameItems_iff {values others : List Json} {keys : List Key} (h : Keyed values keys) :
    sameItems values others = true ↔ Keyed others keys := by
  induction h generalizing others with
  | nil =>
      cases others <;> simp [sameItems]
  | cons hkey _ ih =>
      cases others with
      | nil => simp [sameItems]
      | cons other rest => simp [sameItems, same_iff hkey, ih]

theorem keyed_text_iff {values : List Json} {texts : List String} :
    Keyed values (texts.map .text) ↔ values = texts.map .str := by
  induction texts generalizing values with
  | nil => simp
  | cons text rest ih =>
      cases values <;> simp [key?_eq_text_iff, ih]

end Json

/-! ## Methods -/

namespace MethodDecl

/-- The key of a method consists of the keys of its parts. -/
theorem identity_eq_ok_iff {method : MethodDecl} {key : MethodKey} :
    method.identity = .ok key ↔
      method.declaringClass.key? = some key.declaringClass ∧
        method.name.key? = some key.name ∧
        method.returnType.key? = some key.returnType ∧
        Json.Keyed method.parameterTypes key.parameterTypes := by
  rw [← Json.mapM_identity_eq_ok_iff, ← Json.identity_eq_ok_iff, ← Json.identity_eq_ok_iff,
    ← Json.identity_eq_ok_iff]
  unfold identity
  cases method.declaringClass.identity <;> cases method.name.identity <;>
    cases method.returnType.identity <;> cases method.parameterTypes.mapM Json.identity <;>
    simp [bind, Except.bind, pure, Except.pure]
  cases key
  simp

/-- A method equals those that count as the same. -/
theorem same_iff {method : MethodDecl} {key : MethodKey} (h : method.identity = .ok key)
    (other : MethodDecl) : method.same other = true ↔ other.identity = .ok key := by
  have hparts := identity_eq_ok_iff.1 h
  simp only [same, Bool.and_eq_true, identity_eq_ok_iff, Json.same_iff hparts.1,
    Json.same_iff hparts.2.1, Json.same_iff hparts.2.2.1, Json.sameItems_iff hparts.2.2.2,
    and_assoc]

/-! ## Textual data -/

/-- The method is named and typed by texts. -/
def Textual (method : MethodDecl) : Prop :=
  method.declaringClass.IsText ∧ method.name.IsText ∧ method.returnType.IsText ∧
    ∀ type ∈ method.parameterTypes, type.IsText

instance : DecidablePred Textual := fun method =>
  inferInstanceAs (Decidable (method.declaringClass.IsText ∧ _))

/-- A list of texts as texts. -/
theorem exists_texts {types : List Json} (h : ∀ type ∈ types, type.IsText) :
    ∃ texts : List String, types = texts.map .str := by
  induction types with
  | nil => exact ⟨[], rfl⟩
  | cons type rest ih =>
      rcases Json.isText_iff.1 (h type List.mem_cons_self) with ⟨text, rfl⟩
      rcases ih fun other hother => h other (List.mem_cons_of_mem _ hother) with ⟨texts, rfl⟩
      exact ⟨text :: texts, rfl⟩

namespace Textual

variable {method other : MethodDecl} {key : MethodKey}

/-- A method named and typed by texts counts as a key. -/
theorem exists_identity (h : method.Textual) : ∃ key, method.identity = .ok key := by
  rcases h with ⟨hclass, hname, hreturn, htypes⟩
  rcases Json.isText_iff.1 hclass with ⟨declaringClass, hclass⟩
  rcases Json.isText_iff.1 hname with ⟨name, hname⟩
  rcases Json.isText_iff.1 hreturn with ⟨returnType, hreturn⟩
  rcases exists_texts htypes with ⟨texts, htypes⟩
  refine ⟨⟨.text declaringClass, .text name, .text returnType, texts.map .text⟩, ?_⟩
  rw [identity_eq_ok_iff, hclass, hname, hreturn]
  exact ⟨rfl, rfl, rfl, Json.keyed_text_iff.2 htypes⟩

/-- A method that counts as one named and typed by texts has the signature of that one. -/
theorem signature_eq (h : method.Textual) (hmethod : method.identity = .ok key)
    (hother : other.identity = .ok key) : other.signature = method.signature := by
  rcases h with ⟨hclass, hname, hreturn, htypes⟩
  rcases Json.isText_iff.1 hclass with ⟨declaringClass, hclass⟩
  rcases Json.isText_iff.1 hname with ⟨name, hname⟩
  rcases Json.isText_iff.1 hreturn with ⟨returnType, hreturn⟩
  rcases exists_texts htypes with ⟨texts, htypes⟩
  -- The key consists of texts, so the parts of the other method are those texts too.
  rw [identity_eq_ok_iff, hclass, hname, hreturn] at hmethod
  rcases hmethod with ⟨hclassKey, hnameKey, hreturnKey, htypesKey⟩
  have hkeys : key.parameterTypes = texts.map .text :=
    Relator.RightUnique.forall₂ (fun _ _ _ ha hb => Option.some.inj (ha.symm.trans hb)) htypesKey
      (Json.keyed_text_iff.2 htypes)
  rw [identity_eq_ok_iff, ← hclassKey, ← hnameKey, ← hreturnKey, hkeys] at hother
  rcases hother with ⟨hclassOther, hnameOther, hreturnOther, htypesOther⟩
  have hclassEq := Json.key?_eq_text_iff.1 hclassOther
  have hnameEq := Json.key?_eq_text_iff.1 hnameOther
  have hreturnEq := Json.key?_eq_text_iff.1 hreturnOther
  have htypesEq := Json.keyed_text_iff.1 htypesOther
  simp only [signature, hclass, hname, hreturn, htypes, hclassEq, hnameEq, hreturnEq, htypesEq]

end Textual
end MethodDecl

/-- The class and its methods are named and typed by texts. -/
def ClassDecl.Textual (decl : ClassDecl) : Prop :=
  decl.name.IsText ∧ ∀ method ∈ decl.methods, method.Textual

instance : DecidablePred ClassDecl.Textual := fun decl =>
  inferInstanceAs (Decidable (decl.name.IsText ∧ _))

/-- The classes of the model are named and typed by texts. -/
def Model.Textual (model : Model) : Prop := ∀ decl ∈ model.classes, decl.Textual

instance : DecidablePred Model.Textual := fun model =>
  inferInstanceAs (Decidable (∀ decl ∈ model.classes, decl.Textual))

end ReflectiveCalls
