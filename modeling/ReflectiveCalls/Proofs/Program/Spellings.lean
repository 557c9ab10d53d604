import ReflectiveCalls.Program.ClassData
import ReflectiveCalls.Proofs.Program.Identity

/-!
# Proofs.Program.Spellings — the ways to write a class down

The same class can be described by many objects.  Members stand in any order, and members of other
names may stand among them; a line range or a body that is absent is left out or `null`; a list that
is empty is left out or empty.  All these objects are read as that class.  Only bounds of line
ranges are checked as they are read, and one bound that is no integer is enough for a refusal.

- `Json.Optional`, `Json.Listed`: what may stand for a part that is absent or empty.
- `ClassDecl.Spelled`: an object describes a class.
- `ClassDecl.Spoiled`: something else stands in the place of one bound.
- `ClassDecl.reads_every_spelling`: every description of a class is read as that class, and refused
  once a bound is spoiled.
-/

namespace ReflectiveCalls
namespace Json

/-! ## Members -/

/-- The names of members. -/
def names (members : List (String × Json)) : List String := members.map (·.1)

section Members

variable {members : List (String × Json)} {name : String} {value : Json}

theorem member?_of_mem (hnames : (names members).Nodup) (h : (name, value) ∈ members) :
    member? name members = some value := by
  induction members with
  | nil => cases h
  | cons entry rest ih =>
      obtain ⟨hfirst, hrest⟩ := List.nodup_cons.1 hnames
      rcases List.mem_cons.1 h with rfl | hlater
      · simp [member?]
      · -- The first member has another name, since the name stands once.
        have hother : entry.1 ≠ name := by
          rintro rfl
          exact hfirst (List.mem_map.2 ⟨_, hlater, rfl⟩)
        rw [← ih hrest hlater, member?, List.find?_cons_of_neg (by simpa using hother), member?]

theorem member?_of_notMem (h : name ∉ names members) : member? name members = none := by
  rw [member?, Option.map_eq_none_iff, List.find?_eq_none]
  rintro entry hentry hname
  exact h (beq_iff_eq.1 hname ▸ List.mem_map_of_mem hentry)

theorem require_of_mem (hnames : (names members).Nodup) (h : (name, value) ∈ members) :
    (obj members).require name = .ok value := by
  simp only [require, member?_of_mem hnames h]

theorem lookUp_of_mem (hnames : (names members).Nodup) (h : (name, value) ∈ members)
    (default : Json) : (obj members).lookUp name default = .ok value := by
  simp only [lookUp, member?_of_mem hnames h, Option.getD_some]

theorem lookUp_of_notMem (h : name ∉ names members) (default : Json) :
    (obj members).lookUp name default = .ok default := by
  simp only [lookUp, member?_of_notMem h, Option.getD_none]

theorem eq_of_mem_of_mem (hnames : (names members).Nodup) {other : Json}
    (h : (name, value) ∈ members) (hother : (name, other) ∈ members) : value = other :=
  Option.some_inj.1 ((member?_of_mem hnames h).symm.trans (member?_of_mem hnames hother))

end Members

/-! ## Parts that may be left out -/

/-- A part that may be absent: no member has the name, or `null` stands there, or a description of
the part. -/
inductive Optional {α : Type} (describes : Json → α → Prop) (members : List (String × Json))
    (name : String) : Option α → Prop
  | omitted (h : name ∉ names members) : Optional describes members name none
  | null (h : (name, Json.null) ∈ members) : Optional describes members name none
  | given {value : Json} {part : α} (h : (name, value) ∈ members) (hpart : describes value part) :
      Optional describes members name (some part)

/-- Parts that may be none: no member has the name, or an array of their descriptions stands there,
in order. -/
inductive Listed {α : Type} (describes : Json → α → Prop) (members : List (String × Json))
    (name : String) : List α → Prop
  | omitted (h : name ∉ names members) : Listed describes members name []
  | given {items : List Json} {parts : List α} (h : (name, .arr items) ∈ members)
      (hparts : List.Forall₂ describes items parts) : Listed describes members name parts

/-! ## Changes in one place -/

/-- The value of one member of that name is changed; the other members stay. -/
inductive MemberChanged (name : String) (change : Json → Json → Prop) : Json → Json → Prop
  | intro {before after : List (String × Json)} {value other : Json} (h : change value other) :
      MemberChanged name change (.obj (before ++ (name, value) :: after))
        (.obj (before ++ (name, other) :: after))

/-- One item of an array is changed; the other items stay. -/
inductive ItemChanged (change : Json → Json → Prop) : Json → Json → Prop
  | intro {before after : List Json} {item other : Json} (h : change item other) :
      ItemChanged change (.arr (before ++ item :: after)) (.arr (before ++ other :: after))

section Changes

variable {name : String} {change : Json → Json → Prop} {members : List (String × Json)}
  {data other : Json}

theorem MemberChanged.not_null : ¬ MemberChanged name change .null other := nofun

/-- An object stays an object. -/
theorem MemberChanged.exists_obj (h : MemberChanged name change data other) :
    ∃ others, other = .obj others := by
  cases h with
  | intro _ => exact ⟨_, rfl⟩

theorem member?_append_cons_of_ne {place : String} (hplace : place ≠ name)
    (before after : List (String × Json)) (value another : Json) :
    member? place (before ++ (name, another) :: after) =
      member? place (before ++ (name, value) :: after) := by
  have hname : (name == place) = false := beq_false_of_ne hplace.symm
  simp only [member?, List.find?_append, List.find?_cons, hname]

theorem MemberChanged.require_of_mem (h : MemberChanged name change (.obj members) other)
    (hnames : (names members).Nodup) {place : String} {value : Json}
    (hmem : (place, value) ∈ members) (hplace : place ≠ name) :
    other.require place = .ok value := by
  rw [← Json.require_of_mem hnames hmem]
  generalize Json.obj members = data at h
  cases h with
  | @intro before after value another _ =>
      simp only [require, member?_append_cons_of_ne hplace before after value another]

theorem MemberChanged.lookUp_of_ne (h : MemberChanged name change data other) {place : String}
    (hplace : place ≠ name) (default : Json) :
    other.lookUp place default = data.lookUp place default := by
  cases h with
  | @intro before after value another _ =>
      simp only [lookUp, member?_append_cons_of_ne hplace before after value another]

/-- The changed value is what is read in its place. -/
theorem MemberChanged.exists_changed (h : MemberChanged name change (.obj members) other)
    (hnames : (names members).Nodup) :
    ∃ value changed, (name, value) ∈ members ∧ change value changed ∧
      other.require name = .ok changed ∧ ∀ default, other.lookUp name default = .ok changed := by
  generalize hdata : Json.obj members = data at h
  cases h with
  | @intro before after value changed hchange =>
      cases hdata
      -- Only the value is new, so the names still stand once each.
      have hsame : names (before ++ (name, changed) :: after) =
          names (before ++ (name, value) :: after) := by simp [names]
      have hmem : (name, changed) ∈ before ++ (name, changed) :: after := by simp
      exact ⟨value, changed, by simp, hchange, Json.require_of_mem (hsame ▸ hnames) hmem,
        lookUp_of_mem (hsame ▸ hnames) hmem⟩

end Changes

/-! ## Reading parts -/

/-- Where a list is read as it is described and one item is changed into one that is refused, the
whole is refused: the items before it are still read. -/
theorem mapM_append_cons_of_error {α β ε : Type} {describes : α → β → Prop} {read : α → Except ε β}
    (hread : ∀ item result, describes item result → read item = .ok result) {before after : List α}
    {item other : α} {results : List β} {fault : ε}
    (h : List.Forall₂ describes (before ++ item :: after) results)
    (hother : ∀ result, describes item result → read other = .error fault) :
    (before ++ other :: after).mapM read = .error fault := by
  induction before generalizing results with
  | nil =>
      cases h with
      | cons hitem _ => rw [List.nil_append, List.mapM_cons, hother _ hitem]; rfl
  | cons first rest ih =>
      cases h with
      | cons hfirst hrest => rw [List.cons_append, List.mapM_cons, hread _ _ hfirst, ih hrest]; rfl

section Reading

variable {α : Type} {describes : Json → α → Prop} {change : Json → Json → Prop}
  {members : List (String × Json)} {name : String} {other : Json} {fault : ShapeFault}

/-- A part that may be absent is read as it is described. -/
theorem Optional.exists_lookUp {part : Option α} (h : Optional describes members name part)
    (hnames : (names members).Nodup) {read : Json → Except ShapeFault (Option α)}
    (hnull : read .null = .ok none)
    (hread : ∀ value part, describes value part → read value = .ok (some part)) :
    ∃ value, (obj members).lookUp name .null = .ok value ∧ read value = .ok part := by
  cases h with
  | omitted h => exact ⟨.null, lookUp_of_notMem h .null, hnull⟩
  | null h => exact ⟨.null, lookUp_of_mem hnames h .null, hnull⟩
  | given h hpart => exact ⟨_, lookUp_of_mem hnames h .null, hread _ _ hpart⟩

/-- Only a part that is there can be changed, and a change that its reader refuses is refused. -/
theorem Optional.exists_lookUp_of_changed {part : Option α}
    (h : Optional describes members name part) (hnames : (names members).Nodup)
    (hchanged : MemberChanged name change (.obj members) other)
    {read : Json → Except ShapeFault (Option α)} (hnull : ∀ other, ¬ change .null other)
    (hread : ∀ value part other, describes value part → change value other →
      read other = .error fault) :
    ∃ value, other.lookUp name .null = .ok value ∧ read value = .error fault := by
  obtain ⟨old, changed, hold, hchange, -, hlookUp⟩ := hchanged.exists_changed hnames
  refine ⟨changed, hlookUp .null, ?_⟩
  cases h with
  | omitted h => exact absurd (List.mem_map_of_mem hold) h
  | null h =>
      -- In `null` there is nothing to change.
      rw [eq_of_mem_of_mem hnames hold h] at hchange
      exact absurd hchange (hnull changed)
  | given h hpart =>
      rw [eq_of_mem_of_mem hnames hold h] at hchange
      exact hread _ _ _ hpart hchange

/-- Parts that may be none are run through in order. -/
theorem Listed.exists_elements {parts : List α} (h : Listed describes members name parts)
    (hnames : (names members).Nodup) :
    ∃ value items, (obj members).lookUp name (.arr []) = .ok value ∧ value.elements = .ok items ∧
      List.Forall₂ describes items parts := by
  cases h with
  | omitted h => exact ⟨.arr [], [], lookUp_of_notMem h _, rfl, .nil⟩
  | given h hparts => exact ⟨_, _, lookUp_of_mem hnames h _, rfl, hparts⟩

/-- A change of one of the parts that their reader refuses is refused, since the parts before it are
read. -/
theorem Listed.exists_elements_of_changed {parts : List α}
    (h : Listed describes members name parts) (hnames : (names members).Nodup)
    (hchanged : MemberChanged name (ItemChanged change) (.obj members) other)
    {read : Json → Except ShapeFault α}
    (hread : ∀ item part, describes item part → read item = .ok part)
    (hrefused : ∀ item part other, describes item part → change item other →
      read other = .error fault) :
    ∃ value items, other.lookUp name (.arr []) = .ok value ∧ value.elements = .ok items ∧
      items.mapM read = .error fault := by
  obtain ⟨old, changed, hold, hchange, -, hlookUp⟩ := hchanged.exists_changed hnames
  cases h with
  | omitted h => exact absurd (List.mem_map_of_mem hold) h
  | given h hparts =>
      rw [eq_of_mem_of_mem hnames hold h] at hchange
      cases hchange with
      | @intro before after item another hitem =>
          exact ⟨_, _, hlookUp _, rfl, mapM_append_cons_of_error hread hparts
            fun part hpart => hrefused item part another hpart hitem⟩

end Reading

end Json

open Json (names Optional Listed MemberChanged ItemChanged)

/-! ## Descriptions -/

/-- An object describes a line range: its bounds stand there as integers. -/
inductive LineRange.Spelled : Json → LineRange → Prop
  | obj {members : List (String × Json)} {range : LineRange} (hnames : (names members).Nodup)
      (hfirst : ("start", .int range.first) ∈ members)
      (hlast : ("end", .int range.last) ∈ members) : Spelled (.obj members) range

/-- An object describes a statement.  A text that is left out is the empty one. -/
inductive Statement.Spelled : Json → Statement → Prop
  | obj {members : List (String × Json)} {statement : Statement} (hnames : (names members).Nodup)
      (htext : ("text", statement.text) ∈ members ∨
        "text" ∉ names members ∧ statement.text = .str "")
      (hlines : Optional LineRange.Spelled members "line_range" statement.lines) :
      Spelled (.obj members) statement

/-- An object describes a body. -/
inductive Body.Spelled : Json → Body → Prop
  | obj {members : List (String × Json)} {body : Body} (hnames : (names members).Nodup)
      (hlines : Optional LineRange.Spelled members "line_range" body.lines)
      (hstatements : Listed Statement.Spelled members "statements" body.statements) :
      Spelled (.obj members) body

/-- An object describes a method of the given class.  Names and types stand for themselves. -/
inductive MethodDecl.Spelled (declaringClass : Json) : Json → MethodDecl → Prop
  | obj {members : List (String × Json)} {method : MethodDecl} (hnames : (names members).Nodup)
      (hclass : method.declaringClass = declaringClass)
      (hname : ("name", method.name) ∈ members)
      (hreturn : ("return_type", method.returnType) ∈ members)
      (hparameters : Listed Eq members "parameter_types" method.parameterTypes)
      (hlines : Optional LineRange.Spelled members "line_range" method.lines)
      (hbody : Optional Body.Spelled members "body" method.body) :
      Spelled declaringClass (.obj members) method

/-- An object describes a class. -/
inductive ClassDecl.Spelled : Json → ClassDecl → Prop
  | obj {members : List (String × Json)} {decl : ClassDecl} (hnames : (names members).Nodup)
      (hname : ("name", decl.name) ∈ members)
      (hmethods : Listed (MethodDecl.Spelled decl.name) members "methods" decl.methods) :
      Spelled (.obj members) decl

/-! ## Spoiled bounds -/

/-- The value stands in the place of one bound of a line range. -/
def LineRange.Spoiled (value data other : Json) : Prop :=
  ∃ name ∈ ["start", "end"], MemberChanged name (fun _ bound => bound = value) data other

/-- The value stands in the place of a bound in a statement. -/
def Statement.Spoiled (value data other : Json) : Prop :=
  MemberChanged "line_range" (LineRange.Spoiled value) data other

/-- The value stands in the place of a bound in a body: of its own, or of a statement. -/
def Body.Spoiled (value data other : Json) : Prop :=
  MemberChanged "line_range" (LineRange.Spoiled value) data other ∨
    MemberChanged "statements" (ItemChanged (Statement.Spoiled value)) data other

/-- The value stands in the place of a bound in a method: of its own, or in its body. -/
def MethodDecl.Spoiled (value data other : Json) : Prop :=
  MemberChanged "line_range" (LineRange.Spoiled value) data other ∨
    MemberChanged "body" (Body.Spoiled value) data other

/-- The value stands in the place of a bound in a class. -/
def ClassDecl.Spoiled (value data other : Json) : Prop :=
  MemberChanged "methods" (ItemChanged (MethodDecl.Spoiled value)) data other

/-! ## Reading descriptions -/

theorem LineRange.boundOf_int (bound : Int) : boundOf (.int bound) = .ok bound := rfl

theorem LineRange.ofJson?_of_spelled (data : Json) (range : LineRange) (h : Spelled data range) :
    ofJson? data = .ok (some range) := by
  cases h with
  | obj hnames hfirst hlast =>
      simp only [ofJson?, Json.require_of_mem hnames hfirst, Json.require_of_mem hnames hlast,
        boundOf_int, bind, Except.bind, pure, Except.pure]

/-- A text that is left out is read as the empty one. -/
theorem Statement.lookUp_text {members : List (String × Json)} (hnames : (names members).Nodup)
    {text : Json} (h : ("text", text) ∈ members ∨ "text" ∉ names members ∧ text = .str "") :
    (Json.obj members).lookUp "text" (.str "") = .ok text := by
  rcases h with hgiven | ⟨homitted, rfl⟩
  · exact Json.lookUp_of_mem hnames hgiven _
  · exact Json.lookUp_of_notMem homitted _

theorem Statement.ofJson_of_spelled (data : Json) (statement : Statement)
    (h : Spelled data statement) : ofJson data = .ok statement := by
  cases h with
  | obj hnames htext hlines =>
      have htext := lookUp_text hnames htext
      obtain ⟨lines, hfound, hlines⟩ := hlines.exists_lookUp hnames rfl LineRange.ofJson?_of_spelled
      simp only [ofJson, htext, hfound, hlines, bind, Except.bind, pure, Except.pure]

theorem Body.ofJson?_of_spelled (data : Json) (body : Body) (h : Spelled data body) :
    ofJson? data = .ok (some body) := by
  cases h with
  | obj hnames hlines hstatements =>
      obtain ⟨statements, items, hfound, hitems, hstatements⟩ := hstatements.exists_elements hnames
      obtain ⟨lines, hlooked, hlines⟩ := hlines.exists_lookUp hnames rfl
        LineRange.ofJson?_of_spelled
      have hread := mapM_eq_ok_iff.2 (hstatements.imp Statement.ofJson_of_spelled)
      simp only [ofJson?, hfound, hitems, hread, hlooked, hlines, bind, Except.bind, pure,
        Except.pure]

theorem MethodDecl.ofJson_of_spelled {declaringClass : Json} (data : Json) (method : MethodDecl)
    (h : Spelled declaringClass data method) : ofJson declaringClass data = .ok method := by
  cases h with
  | obj hnames hclass hname hreturn hparameters hlines hbody =>
      obtain ⟨types, items, hfound, hitems, hparameters⟩ := hparameters.exists_elements hnames
      obtain ⟨lines, hlooked, hlines⟩ := hlines.exists_lookUp hnames rfl
        LineRange.ofJson?_of_spelled
      obtain ⟨body, hinside, hbody⟩ := hbody.exists_lookUp hnames rfl Body.ofJson?_of_spelled
      rw [List.forall₂_eq_eq_eq] at hparameters
      simp only [ofJson, Json.require_of_mem hnames hname, Json.require_of_mem hnames hreturn,
        hfound, hitems, hlooked, hlines, hinside, hbody, hparameters, ← hclass, bind, Except.bind,
        pure, Except.pure]

theorem ClassDecl.ofJson_of_spelled (data : Json) (decl : ClassDecl) (h : Spelled data decl) :
    ofJson data = .ok decl := by
  cases h with
  | obj hnames hname hmethods =>
      obtain ⟨methods, items, hfound, hitems, hmethods⟩ := hmethods.exists_elements hnames
      have hread := mapM_eq_ok_iff.2 (hmethods.imp MethodDecl.ofJson_of_spelled)
      simp only [ofJson, Json.require_of_mem hnames hname, hfound, hitems, hread, bind,
        Except.bind, pure, Except.pure]

/-! ## Refusing spoiled bounds -/

section Refusing

variable {value : Json}

theorem LineRange.boundOf_of_ne_int (hvalue : ∀ number, value ≠ .int number) :
    boundOf value = .error (.badBound value) := by
  cases value with
  | int number => exact absurd rfl (hvalue number)
  | _ => rfl

theorem LineRange.not_spoiled_null (other : Json) : ¬ Spoiled value .null other := by
  rintro ⟨name, -, h⟩
  exact h.not_null

theorem Body.not_spoiled_null (other : Json) : ¬ Spoiled value .null other := by
  rintro (h | h) <;> exact h.not_null

section

variable (hvalue : ∀ number, value ≠ .int number) (data : Json)
include hvalue

theorem LineRange.ofJson?_of_spoiled (range : LineRange) (other : Json) (h : Spelled data range)
    (hspoiled : Spoiled value data other) : ofJson? other = .error (.badBound value) := by
  obtain ⟨name, hname, hchanged⟩ := hspoiled
  cases h with
  | obj hnames hfirst hlast =>
      obtain ⟨others, rfl⟩ := hchanged.exists_obj
      obtain ⟨-, bound, -, rfl, hbound, -⟩ := hchanged.exists_changed hnames
      have hrefused := boundOf_of_ne_int hvalue
      -- The first bound is read first, so the last one is reached only if the first one stands.
      rcases List.mem_pair.1 hname with rfl | rfl
      · simp only [ofJson?, hbound, hrefused, bind, Except.bind]
      · have hstart := hchanged.require_of_mem hnames hfirst (by decide)
        simp only [ofJson?, hstart, boundOf_int, hbound, hrefused, bind, Except.bind]

theorem Statement.ofJson_of_spoiled (statement : Statement) (other : Json)
    (h : Spelled data statement) (hspoiled : Spoiled value data other) :
    ofJson other = .error (.badBound value) := by
  cases h with
  | obj hnames htext hlines =>
      have htext := (hspoiled.lookUp_of_ne (by decide) _).trans (lookUp_text hnames htext)
      obtain ⟨lines, hfound, hlines⟩ := hlines.exists_lookUp_of_changed hnames hspoiled
        LineRange.not_spoiled_null (LineRange.ofJson?_of_spoiled hvalue)
      simp only [ofJson, htext, hfound, hlines, bind, Except.bind]

theorem Body.ofJson?_of_spoiled (body : Body) (other : Json) (h : Spelled data body)
    (hspoiled : Spoiled value data other) : ofJson? other = .error (.badBound value) := by
  cases h with
  | obj hnames hlines hstatements =>
      rcases hspoiled with hchanged | hchanged
      · -- The statements are read before the lines of the body, and are as before.
        obtain ⟨others, rfl⟩ := hchanged.exists_obj
        obtain ⟨statements, items, hfound, hitems, hstatements⟩ :=
          hstatements.exists_elements hnames
        have hsame := (hchanged.lookUp_of_ne (by decide) _).trans hfound
        have hread := mapM_eq_ok_iff.2 (hstatements.imp Statement.ofJson_of_spelled)
        obtain ⟨lines, hlooked, hlines⟩ := hlines.exists_lookUp_of_changed hnames hchanged
          LineRange.not_spoiled_null (LineRange.ofJson?_of_spoiled hvalue)
        simp only [ofJson?, hsame, hitems, hread, hlooked, hlines, bind, Except.bind]
      · obtain ⟨others, rfl⟩ := hchanged.exists_obj
        obtain ⟨statements, items, hfound, hitems, hrefused⟩ :=
          hstatements.exists_elements_of_changed hnames hchanged Statement.ofJson_of_spelled
            (Statement.ofJson_of_spoiled hvalue)
        simp only [ofJson?, hfound, hitems, hrefused, bind, Except.bind]

theorem MethodDecl.ofJson_of_spoiled {declaringClass : Json} (method : MethodDecl) (other : Json)
    (h : Spelled declaringClass data method) (hspoiled : Spoiled value data other) :
    ofJson declaringClass other = .error (.badBound value) := by
  cases h with
  | @obj members _ hnames _ hname hreturn hparameters hlines hbody =>
      obtain ⟨types, items, hfound, hitems, -⟩ := hparameters.exists_elements hnames
      -- Whichever of the ranges is spoiled, what is read before them is still there.
      obtain ⟨place, change, hplace, hchanged⟩ : ∃ place change,
          (∀ head ∈ ["name", "return_type", "parameter_types"], head ≠ place) ∧
            MemberChanged place change (.obj members) other := by
        rcases hspoiled with hchanged | hchanged <;> exact ⟨_, _, by decide, hchanged⟩
      have hname := hchanged.require_of_mem hnames hname (hplace _ (by simp))
      have hreturn := hchanged.require_of_mem hnames hreturn (hplace _ (by simp))
      have htypes := (hchanged.lookUp_of_ne (hplace _ (by simp)) _).trans hfound
      rcases hspoiled with hchanged | hchanged
      · obtain ⟨lines, hlooked, hlines⟩ := hlines.exists_lookUp_of_changed hnames hchanged
          LineRange.not_spoiled_null (LineRange.ofJson?_of_spoiled hvalue)
        simp only [ofJson, hname, hreturn, htypes, hitems, hlooked, hlines, bind, Except.bind]
      · obtain ⟨lines, hlooked, hlines⟩ := hlines.exists_lookUp hnames rfl
          LineRange.ofJson?_of_spelled
        have hlooked := (hchanged.lookUp_of_ne (by decide) _).trans hlooked
        obtain ⟨body, hinside, hbody⟩ := hbody.exists_lookUp_of_changed hnames hchanged
          Body.not_spoiled_null (Body.ofJson?_of_spoiled hvalue)
        simp only [ofJson, hname, hreturn, htypes, hitems, hlooked, hlines, hinside, hbody, bind,
          Except.bind]

theorem ClassDecl.ofJson_of_spoiled (decl : ClassDecl) (other : Json) (h : Spelled data decl)
    (hspoiled : Spoiled value data other) : ofJson other = .error (.badBound value) := by
  cases h with
  | obj hnames hname hmethods =>
      have hname := hspoiled.require_of_mem hnames hname (by decide)
      obtain ⟨methods, items, hfound, hitems, hrefused⟩ :=
        hmethods.exists_elements_of_changed hnames hspoiled MethodDecl.ofJson_of_spelled
          fun data => MethodDecl.ofJson_of_spoiled hvalue data
      simp only [ofJson, hname, hfound, hitems, hrefused, bind, Except.bind]

end

end Refusing

/-! ## A description of every class -/

section

variable {α : Type} {describes : Json → α → Prop} {members : List (String × Json)} {name : String}
  {write : α → Json}

theorem Json.Optional.of_written {part : Option α} (h : (name, part.elim .null write) ∈ members)
    (hwrite : ∀ part, describes (write part) part) : Optional describes members name part := by
  cases part with
  | none => exact .null h
  | some part => exact .given h (hwrite part)

theorem Json.Listed.of_written {parts : List α} (h : (name, .arr (parts.map write)) ∈ members)
    (hwrite : ∀ part ∈ parts, describes (write part) part) : Listed describes members name parts :=
  .given h (List.forall₂_map_left_iff.2 (List.forall₂_same.2 hwrite))

end

/-- The object of the bounds of a line range. -/
def LineRange.written (range : LineRange) : Json :=
  .obj [("start", .int range.first), ("end", .int range.last)]

/-- The object of a statement, complete. -/
def Statement.written (statement : Statement) : Json :=
  .obj [("text", statement.text), ("line_range", statement.lines.elim .null LineRange.written)]

/-- The object of a body, complete. -/
def Body.written (body : Body) : Json :=
  .obj [("line_range", body.lines.elim .null LineRange.written),
    ("statements", .arr (body.statements.map Statement.written))]

/-- The object of a method, complete. -/
def MethodDecl.written (method : MethodDecl) : Json :=
  .obj [("name", method.name), ("return_type", method.returnType),
    ("parameter_types", .arr method.parameterTypes),
    ("line_range", method.lines.elim .null LineRange.written),
    ("body", method.body.elim .null Body.written)]

/-- The object of a class, complete. -/
def ClassDecl.written (decl : ClassDecl) : Json :=
  .obj [("name", decl.name), ("methods", .arr (decl.methods.map MethodDecl.written))]

theorem LineRange.spelled_written (range : LineRange) : Spelled range.written range :=
  .obj (by simp [names]) (by simp) (by simp)

theorem Statement.spelled_written (statement : Statement) :
    Spelled statement.written statement :=
  .obj (by simp [names]) (by simp) (.of_written (by simp) LineRange.spelled_written)

theorem Body.spelled_written (body : Body) : Spelled body.written body :=
  .obj (by simp [names]) (.of_written (by simp) LineRange.spelled_written)
    (.of_written (by simp) fun statement _ => statement.spelled_written)

theorem MethodDecl.spelled_written (method : MethodDecl) :
    Spelled method.declaringClass method.written method :=
  .obj (by simp [names]) rfl (by simp) (by simp)
    (.given (by simp) (List.forall₂_same.2 fun _ _ => rfl))
    (.of_written (by simp) LineRange.spelled_written) (.of_written (by simp) Body.spelled_written)

theorem ClassDecl.spelled_written {decl : ClassDecl}
    (owned : ∀ method ∈ decl.methods, method.declaringClass = decl.name) :
    Spelled decl.written decl :=
  .obj (by simp [names]) (by simp) (.of_written (by simp)
    fun method hmethod => owned method hmethod ▸ method.spelled_written)

/-- A class whose methods are its own can be described, and whatever describes it is read as that
class, with its methods, parameter types and statements in order, whatever their number, and with
every bound as it is, however large.  If something that is no integer stands in the place of one
bound, whether of a method, of a body or of a statement, the class is refused on account of it. -/
theorem ClassDecl.reads_every_spelling {decl : ClassDecl}
    (owned : ∀ method ∈ decl.methods, method.declaringClass = decl.name) :
    Spelled decl.written decl ∧
      ∀ data, Spelled data decl →
        ofJson data = .ok decl ∧
          ∀ value other, (∀ number, value ≠ .int number) → Spoiled value data other →
            ofJson other = .error (.badBound value) := by
  refine ⟨spelled_written owned, ?_⟩
  intro data hdata
  refine ⟨ofJson_of_spelled data decl hdata, ?_⟩
  intro value other hvalue hspoiled
  exact ofJson_of_spoiled hvalue data decl other hdata hspoiled

namespace Sample

/-- A class with a method that has two statements. -/
def shelf : ClassDecl :=
  ⟨.str "shop.Shelf", [⟨.str "shop.Shelf", .str "fill", .str "void", [.str "int"],
    some ⟨3, 100000000000000000000⟩, some ⟨none, [⟨.str "", some ⟨4, 5⟩⟩, ⟨.str "return", none⟩]⟩⟩]⟩

/-- The lines of the method. -/
def fillLines : Json :=
  .obj [("end", .int 100000000000000000000), ("unit", .str "line"), ("start", .int 3)]

/-- The lines of the first statement, as far as the given value. -/
def firstLines (bound : Json) : Json := .obj [("end", bound), ("start", .int 4)]

def firstStatement (bound : Json) : Json := .obj [("line_range", firstLines bound)]

def fillBody (bound : Json) : Json :=
  .obj [("statements", .arr [firstStatement bound,
    .obj [("line_range", .null), ("text", .str "return")]])]

def fillData (bound : Json) : Json :=
  .obj [("line_range", fillLines), ("return_type", .str "void"), ("body", fillBody bound),
    ("name", .str "fill"), ("parameter_types", .arr [.str "int"])]

/-- The class, its members out of order and some of them left out or unknown. -/
def shelfData (bound : Json) : Json :=
  .obj [("note", .arr []), ("methods", .arr [fillData bound]), ("name", .str "shop.Shelf")]

theorem shelf_spelled : ClassDecl.Spelled (shelfData (.int 5)) shelf := by
  have hlines : LineRange.Spelled fillLines ⟨3, 100000000000000000000⟩ :=
    .obj (by decide) (by simp) (by simp)
  have hfirstLines : LineRange.Spelled (firstLines (.int 5)) ⟨4, 5⟩ :=
    .obj (by decide) (by simp) (by simp)
  have hfirst : Statement.Spelled (firstStatement (.int 5)) ⟨.str "", some ⟨4, 5⟩⟩ :=
    .obj (by decide) (.inr ⟨by decide, rfl⟩) (.given (by simp) hfirstLines)
  have hsecond : Statement.Spelled (.obj [("line_range", .null), ("text", .str "return")])
      ⟨.str "return", none⟩ :=
    .obj (by decide) (.inl (by simp)) (.null (by simp))
  have hbody : Body.Spelled (fillBody (.int 5))
      ⟨none, [⟨.str "", some ⟨4, 5⟩⟩, ⟨.str "return", none⟩]⟩ :=
    .obj (by decide) (.omitted (by decide))
      (.given (by simp) (.cons hfirst (.cons hsecond .nil)))
  refine .obj (by decide) (by simp [shelf]) (.given (by simp; rfl) (.cons ?method .nil))
  exact .obj (by decide) rfl (by simp) (by simp) (.given (by simp) (.cons rfl .nil))
    (.given (by simp) hlines) (.given (by simp) hbody)

theorem shelf_spoiled :
    ClassDecl.Spoiled (.bool true) (shelfData (.int 5)) (shelfData (.bool true)) := by
  have hlines : LineRange.Spoiled (.bool true) (firstLines (.int 5)) (firstLines (.bool true)) :=
    ⟨"end", by simp, @MemberChanged.intro _ _ [] [("start", .int 4)] _ _ rfl⟩
  have hfirst : Statement.Spoiled (.bool true) (firstStatement (.int 5))
      (firstStatement (.bool true)) := @MemberChanged.intro _ _ [] [] _ _ hlines
  have hbody : Body.Spoiled (.bool true) (fillBody (.int 5)) (fillBody (.bool true)) :=
    .inr (@MemberChanged.intro _ _ [] [] _ _ (@ItemChanged.intro _ [] _ _ _ hfirst))
  have hmethod : MethodDecl.Spoiled (.bool true) (fillData (.int 5)) (fillData (.bool true)) :=
    .inr (@MemberChanged.intro _ _ [_, _] _ _ _ hbody)
  exact @MemberChanged.intro _ _ [_] _ _ _ (@ItemChanged.intro _ [] [] _ _ hmethod)

end Sample

/-- A truth value is no bound, though everything else is as before. -/
theorem ClassDecl.reads_every_spelling_sample :
    (∀ method ∈ Sample.shelf.methods, method.declaringClass = Sample.shelf.name) ∧
      ofJson (Sample.shelfData (.int 5)) = .ok Sample.shelf ∧
      ofJson (Sample.shelfData (.bool true)) = .error (.badBound (.bool true)) := by
  have howned : ∀ method ∈ Sample.shelf.methods,
      method.declaringClass = Sample.shelf.name := by simp [Sample.shelf]
  obtain ⟨hread, hrefused⟩ := (reads_every_spelling howned).2 _ Sample.shelf_spelled
  exact ⟨howned, hread, hrefused (.bool true) _ nofun Sample.shelf_spoiled⟩

end ReflectiveCalls
