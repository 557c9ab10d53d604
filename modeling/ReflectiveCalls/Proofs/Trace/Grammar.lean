import Mathlib.Data.List.Basic
import Mathlib.Data.List.Induction
import Mathlib.Data.Nat.Digits.Defs
import ReflectiveCalls.Failure
import ReflectiveCalls.Proofs.Text.Pieces

/-!
# Proofs.Trace.Grammar — the lines that are records

A record is written `operation;target;class.method;number`.  The grammar says which texts are of
this form and what they mean, without the checks by which a line is read; for any other text it says
what is wrong with it first, in the order field count, operation, target, source, number.

- `Record.Parts`, `Record.Parts.Proper`: the parts of a line and what they have to be.
- `Record.Numbered`, `Record.Overlong`, `Record.Unnumbered`: what may stand in the last field.
- `Record.Refused`: what is wrong with a line.
- `Record.ReadAs`: what comes of a text, whichever it is; `Record.readAs_iff`: it is what is read.
- `Record.ofLine_exact`: a line is read as the grammar says, and never in another way.
-/

namespace ReflectiveCalls
namespace Record

variable {field text : List Char} {number : Int} {count : Nat} {fault : RecordFault}

/-! ## Sources -/

/-- A class and a method with a point between them, which is the last point of the field. -/
structure Sourced (field sourceClass sourceMethod : List Char) : Prop where
  joined : field = sourceClass ++ '.' :: sourceMethod
  someClass : sourceClass ≠ []
  someMethod : sourceMethod ≠ []
  lastPoint : '.' ∉ sourceMethod

theorem splitSource?_eq_some_iff {sourceClass sourceMethod : List Char} :
    splitSource? field = some (sourceClass, sourceMethod) ↔
      Sourced field sourceClass sourceMethod := by
  unfold splitSource?
  constructor
  · intro h
    split at h
    · cases h
    · next before after hlast =>
        obtain ⟨hjoined, hafter⟩ := Text.splitLast?_eq_some_iff.1 hlast
        split at h
        · cases h
        · next hsome =>
            cases h
            rw [Bool.or_eq_true, not_or, List.isEmpty_iff, List.isEmpty_iff] at hsome
            exact ⟨hjoined, hsome.1, hsome.2, hafter⟩
  · rintro ⟨hjoined, hclass, hmethod, hlast⟩
    rw [Text.splitLast?_eq_some_iff.2 ⟨hjoined, hlast⟩]
    simp [hclass, hmethod]

theorem splitSource?_eq_none_iff :
    splitSource? field = none ↔
      ∀ sourceClass sourceMethod, ¬Sourced field sourceClass sourceMethod := by
  simp only [← splitSource?_eq_some_iff, Option.eq_none_iff_forall_ne_some, Prod.forall, ne_eq]

/-! ## Line numbers -/

/-- The number that decimal digits spell. -/
def decimalValue (digits : List Char) : Nat :=
  Nat.ofDigits 10 (digits.reverse.map fun c => c.toNat - '0'.toNat)

theorem natOfDigits_eq_decimalValue (digits : List Char) :
    Json.natOfDigits digits = decimalValue digits := by
  unfold Json.natOfDigits decimalValue
  induction digits using List.reverseRecOn with
  | nil => rfl
  | append_singleton front c ih =>
      rw [List.foldl_append, List.foldl_cons, List.foldl_nil, ih, List.reverse_append]
      simp [Nat.ofDigits_cons, Nat.add_comm]

/-- The line number that a field gives: unknown if the field is blank, and otherwise the number that
its digits spell, of which there are not too many. -/
inductive Numbered (field : List Char) : Int → Prop
  | unknown (hblank : Text.Stripped field []) : Numbered field unknownLine
  | known {digits : List Char} (hstripped : Text.Stripped field digits) (hsome : digits ≠ [])
      (hdigits : ∀ c ∈ digits, c.isDigit = true) (hcount : digits.length ≤ 4300) :
      Numbered field (decimalValue digits)

/-- The field holds digits, so many of them that they are not read. -/
def Overlong (field : List Char) (count : Nat) : Prop :=
  ∃ digits, Text.Stripped field digits ∧ (∀ c ∈ digits, c.isDigit = true) ∧
    digits.length = count ∧ 4300 < count

/-- The field holds something that is no digit. -/
def Unnumbered (field : List Char) : Prop :=
  ∃ core, Text.Stripped field core ∧ ∃ c ∈ core, c.isDigit = false

theorem lineNumber?_of_ne_nil {core : List Char} (h : core ≠ []) :
    lineNumber? core =
      if core.all Char.isDigit then
        if 4300 < core.length then some (.error (.tooManyDigits core.length))
        else some (.ok (decimalValue core))
      else none := by
  rw [← natOfDigits_eq_decimalValue]
  cases core with
  | nil => exact absurd rfl h
  | cons c rest => rfl

theorem Numbered.lineNumber?_eq (h : Numbered field number) :
    lineNumber? (Text.trim field) = some (.ok number) := by
  cases h with
  | unknown hblank => rw [hblank.trim_eq, lineNumber?]
  | known hstripped hsome hdigits hcount =>
      rw [hstripped.trim_eq, lineNumber?_of_ne_nil hsome, if_pos (List.all_eq_true.2 hdigits),
        if_neg (Nat.not_lt.2 hcount)]

theorem Overlong.lineNumber?_eq (h : Overlong field count) :
    lineNumber? (Text.trim field) = some (.error (.tooManyDigits count)) := by
  obtain ⟨digits, hstripped, hdigits, rfl, hmany⟩ := h
  have hsome : digits ≠ [] := List.ne_nil_of_length_pos (by omega)
  rw [hstripped.trim_eq, lineNumber?_of_ne_nil hsome, if_pos (List.all_eq_true.2 hdigits),
    if_pos hmany]

theorem Unnumbered.lineNumber?_eq (h : Unnumbered field) :
    lineNumber? (Text.trim field) = none := by
  obtain ⟨core, hstripped, c, hc, hdigit⟩ := h
  have hall : ¬core.all Char.isDigit = true := by
    intro hall
    exact Bool.false_ne_true (hdigit.symm.trans (List.all_eq_true.1 hall c hc))
  rw [hstripped.trim_eq, lineNumber?_of_ne_nil (List.ne_nil_of_mem hc), if_neg hall]

/-- A field gives a line number, or it holds too many digits, or something that is no digit. -/
theorem numbered_or_overlong_or_unnumbered (field : List Char) :
    (∃ number, Numbered field number) ∨ (∃ count, Overlong field count) ∨ Unnumbered field := by
  have hstripped := Text.stripped_trim field
  by_cases hsome : Text.trim field = []
  · exact .inl ⟨unknownLine, .unknown (hsome ▸ hstripped)⟩
  · by_cases hdigits : ∀ c ∈ Text.trim field, c.isDigit = true
    · rcases Nat.lt_or_ge 4300 (Text.trim field).length with hmany | hcount
      · exact .inr (.inl ⟨_, _, hstripped, hdigits, rfl, hmany⟩)
      · exact .inl ⟨_, .known hstripped hsome hdigits hcount⟩
    · simp only [not_forall, Bool.not_eq_true] at hdigits
      obtain ⟨c, hc, hdigit⟩ := hdigits
      exact .inr (.inr ⟨_, hstripped, c, hc, hdigit⟩)

/-- A line number that is given is not negative, so it is never taken for an unknown one. -/
theorem Numbered.eq_unknownLine_iff (h : Numbered field number) :
    (number = unknownLine ↔ Text.Stripped field []) ∧ (number ≠ unknownLine → 0 ≤ number) := by
  cases h with
  | unknown hblank => simp [hblank]
  | @known digits hstripped hsome hdigits hcount =>
      have hgiven : (decimalValue digits : Int) ≠ unknownLine := by
        unfold unknownLine
        omega
      refine ⟨iff_of_false hgiven ?_, fun _ => Int.natCast_nonneg _⟩
      intro hblank
      exact hsome (hstripped.trim_eq.symm.trans hblank.trim_eq)

/-! ## Parts -/

/-- What stands between the marks of a line. -/
structure Parts where
  operation : Operation
  target : List Char
  sourceClass : List Char
  sourceMethod : List Char
  number : List Char

namespace Parts

/-- The source field. -/
def source (parts : Parts) : List Char := parts.sourceClass ++ '.' :: parts.sourceMethod

/-- The line that the parts make up. -/
def line (parts : Parts) : List Char :=
  parts.operation.token.toList ++
    ';' :: (parts.target ++ ';' :: (parts.source ++ ';' :: parts.number))

/-- The record of a call at a line number, read from a line of the trace. -/
def record (parts : Parts) (number lineNo : Int) : Record :=
  ⟨parts.operation, String.ofList parts.target, String.ofList parts.sourceClass,
    String.ofList parts.sourceMethod, number, lineNo⟩

/-- There is a target, a class and a method; the method has no point in it, and nowhere is there a
mark that would end a field. -/
structure Proper (parts : Parts) : Prop where
  target : parts.target ≠ []
  sourceClass : parts.sourceClass ≠ []
  sourceMethod : parts.sourceMethod ≠ []
  lastPoint : '.' ∉ parts.sourceMethod
  targetField : ';' ∉ parts.target
  classField : ';' ∉ parts.sourceClass
  methodField : ';' ∉ parts.sourceMethod
  numberField : ';' ∉ parts.number

theorem Proper.sourced {parts : Parts} (h : parts.Proper) :
    Sourced parts.source parts.sourceClass parts.sourceMethod :=
  ⟨rfl, h.sourceClass, h.sourceMethod, h.lastPoint⟩

/-- The four fields of the line. -/
theorem Proper.joined {parts : Parts} (h : parts.Proper) :
    Text.Joined ';' parts.line
      [parts.operation.token.toList, parts.target, parts.source, parts.number] := by
  have htoken : ';' ∉ parts.operation.token.toList := by
    cases parts.operation <;> decide
  have hsource : ';' ∉ parts.source := by
    simp [source, h.classField, h.methodField]
  exact .more htoken (.more h.targetField (.more hsource (.last h.numberField)))

end Parts

variable {parts others : Parts}

/-- Fields that are in order, the last one aside, come from parts. -/
theorem exists_parts {operation : Operation}
    {target source sourceClass sourceMethod lastField : List Char}
    (hfields : Text.Joined ';' text [operation.token.toList, target, source, lastField])
    (htarget : target ≠ []) (hsource : Sourced source sourceClass sourceMethod) :
    ∃ parts : Parts, parts.Proper ∧ parts.line = text := by
  obtain ⟨rfl, hclass, hmethod, hlast⟩ := hsource
  rcases hfields with _ | ⟨-, _ | ⟨htargetField, _ | ⟨hsourceField, hnumberField | ⟨-, hnil⟩⟩⟩⟩
  · simp only [List.mem_append, List.mem_cons, not_or] at hsourceField
    exact ⟨⟨operation, target, sourceClass, sourceMethod, lastField⟩, ⟨htarget, hclass, hmethod,
      hlast, htargetField, hsourceField.1, hsourceField.2.2, hnumberField⟩, rfl⟩
  · cases hnil

/-- The last point of a field settles class and method. -/
theorem Sourced.unique {sourceClass sourceMethod otherClass otherMethod : List Char}
    (h : Sourced field sourceClass sourceMethod) (hother : Sourced field otherClass otherMethod) :
    sourceClass = otherClass ∧ sourceMethod = otherMethod := by
  have hsome := (splitSource?_eq_some_iff.2 h).symm.trans (splitSource?_eq_some_iff.2 hother)
  simpa using hsome

/-- A line has its parts in one way only. -/
theorem Parts.eq_of_line_eq (h : parts.Proper) (hother : others.Proper)
    (hline : parts.line = others.line) : parts = others := by
  have hfields := h.joined.unique (hline ▸ hother.joined)
  simp only [List.cons.injEq, String.toList_inj, and_true] at hfields
  obtain ⟨htoken, htarget, hsource, hnumber⟩ := hfields
  obtain ⟨hclass, hmethod⟩ := h.sourced.unique (hsource ▸ hother.sourced)
  have hoperation : some parts.operation = some others.operation := by
    rw [← Operation.ofToken?_token, htoken, Operation.ofToken?_token]
  cases parts
  cases others
  simp_all

/-! ## Faults -/

/-- What is wrong with a text that is no record, apart from too many digits.  Each case says that
what comes before is in order. -/
inductive Refused (text : List Char) : RecordFault → Prop
  | fieldCount {fields : List (List Char)} (hfields : Text.Joined ';' text fields)
      (hcount : fields.length ≠ 4) : Refused text (.fieldCount fields.length)
  | unknownOperation {token target source lastField : List Char}
      (hfields : Text.Joined ';' text [token, target, source, lastField])
      (hunknown : ∀ operation : Operation, operation.token.toList ≠ token) :
      Refused text (.unknownOperation (String.ofList token))
  | emptyTarget {operation : Operation} {source lastField : List Char}
      (hfields : Text.Joined ';' text [operation.token.toList, [], source, lastField]) :
      Refused text .emptyTarget
  | badSource {operation : Operation} {target source lastField : List Char}
      (hfields : Text.Joined ';' text [operation.token.toList, target, source, lastField])
      (htarget : target ≠ [])
      (hunsourced : ∀ sourceClass sourceMethod, ¬Sourced source sourceClass sourceMethod) :
      Refused text (.badSource (String.ofList source))
  | badLineNumber {parts : Parts} (hproper : parts.Proper) (hline : parts.line = text)
      (hnumber : Unnumbered parts.number) :
      Refused text (.badLineNumber (String.ofList parts.number))

/-- What comes of a text as a line of the trace: the record of its parts; or a fault that escapes,
if nothing is wrong with it but the number of digits; or a report of what is wrong with it first. -/
inductive ReadAs (path : Path) (lineNo : Int) (text : List Char) : Except Failure Record → Prop
  | record {parts : Parts} {number : Int} (hproper : parts.Proper) (hline : parts.line = text)
      (hnumber : Numbered parts.number number) :
      ReadAs path lineNo text (.ok (parts.record number lineNo))
  | overlong {parts : Parts} {count : Nat} (hproper : parts.Proper) (hline : parts.line = text)
      (hmany : Overlong parts.number count) :
      ReadAs path lineNo text (.error (.escaped (.tooManyDigits count)))
  | malformed {fault : RecordFault} (hrefused : Refused text fault) :
      ReadAs path lineNo text (.error (.reported (.malformedRecord path lineNo fault)))

/-- Something comes of every text. -/
theorem exists_readAs (path : Path) (lineNo : Int) (text : List Char) :
    ∃ result, ReadAs path lineNo text result := by
  have hfields := Text.joined_split ';' text
  -- What has to be in order for a field to matter is settled before the field.
  by_cases hcount : (Text.split ';' text).length = 4
  · obtain ⟨token, others, hsplit⟩ := List.exists_cons_of_length_eq_add_one hcount
    rw [hsplit, List.length_cons] at hcount
    obtain ⟨target, source, lastField, rfl⟩ := List.length_eq_three.1 (Nat.succ.inj hcount)
    rw [hsplit] at hfields
    by_cases hoperation : ∃ operation : Operation, operation.token.toList = token
    · obtain ⟨operation, rfl⟩ := hoperation
      by_cases htarget : target = []
      · subst htarget
        exact ⟨_, .malformed (.emptyTarget hfields)⟩
      · by_cases hsource : ∃ sourceClass sourceMethod, Sourced source sourceClass sourceMethod
        · obtain ⟨sourceClass, sourceMethod, hsource⟩ := hsource
          obtain ⟨parts, hproper, hline⟩ := exists_parts hfields htarget hsource
          rcases numbered_or_overlong_or_unnumbered parts.number with
            ⟨number, hnumber⟩ | ⟨count, hmany⟩ | hnone
          · exact ⟨_, .record hproper hline hnumber⟩
          · exact ⟨_, .overlong hproper hline hmany⟩
          · exact ⟨_, .malformed (.badLineNumber hproper hline hnone)⟩
        · simp only [not_exists] at hsource
          exact ⟨_, .malformed (.badSource hfields htarget hsource)⟩
    · simp only [not_exists] at hoperation
      exact ⟨_, .malformed (.unknownOperation hfields hoperation)⟩
  · exact ⟨_, .malformed (.fieldCount hfields hcount)⟩

/-! ## Reading -/

variable {lineNo : Int}

theorem ofToken?_ofList_toList (operation : Operation) :
    Operation.ofToken? (String.ofList operation.token.toList) = some operation := by
  rw [String.ofList_toList, Operation.ofToken?_token]

/-- A line is read from its four fields. -/
theorem ofLine_of_joined {token target source lastField : List Char}
    (h : Text.Joined ';' text [token, target, source, lastField]) :
    ofLine lineNo text = ofFields lineNo token target source lastField := by
  rw [ofLine, h.split_eq]

/-- What a line of proper parts gives is a matter of its last field. -/
theorem Parts.Proper.ofLine_eq (h : parts.Proper) :
    ofLine lineNo parts.line =
      (lineNumber? (Text.trim parts.number)).elim
        (.error (.badLineNumber (String.ofList parts.number)))
        fun read => read.map fun number => parts.record number lineNo := by
  rw [ofLine_of_joined h.joined, ofFields, ofToken?_ofList_toList,
    splitSource?_eq_some_iff.2 h.sourced]
  have htarget : parts.target.isEmpty = false := by simp [h.target]
  rcases lineNumber? (Text.trim parts.number) with _ | _ | _
  all_goals
    simp only [htarget]
    rfl

theorem ofLine_of_numbered (h : parts.Proper) (hnumber : Numbered parts.number number) :
    ofLine lineNo parts.line = .ok (parts.record number lineNo) := by
  rw [h.ofLine_eq, hnumber.lineNumber?_eq]
  rfl

theorem ofLine_of_overlong (h : parts.Proper) (hmany : Overlong parts.number count) :
    ofLine lineNo parts.line = .error (.tooManyDigits count) := by
  rw [h.ofLine_eq, hmany.lineNumber?_eq]
  rfl

theorem Refused.ofLine_eq (h : Refused text fault) : ofLine lineNo text = .error fault := by
  cases h with
  | @fieldCount fields hfields hcount =>
      -- Fields are read only where there are four of them.
      rw [ofLine, hfields.split_eq]
      rcases fields with _ | ⟨_, _ | ⟨_, _ | ⟨_, _ | ⟨_, _ | _⟩⟩⟩⟩ <;> simp_all
  | @unknownOperation token target source lastField hfields hunknown =>
      have hnone : Operation.ofToken? (String.ofList token) = none := by
        rw [Option.eq_none_iff_forall_ne_some]
        intro operation hsome
        apply hunknown operation
        rw [← Operation.eq_token_of_ofToken? hsome, String.toList_ofList]
      rw [ofLine_of_joined hfields, ofFields, hnone]
  | emptyTarget hfields =>
      rw [ofLine_of_joined hfields, ofFields, ofToken?_ofList_toList]
      rfl
  | badSource hfields htarget hunsourced =>
      rw [ofLine_of_joined hfields, ofFields, ofToken?_ofList_toList]
      simp [htarget, splitSource?_eq_none_iff.2 hunsourced]
  | badLineNumber hproper hline hnumber =>
      rw [← hline, hproper.ofLine_eq, hnumber.lineNumber?_eq]
      rfl

/-- Class and method of the record are joined as in the line. -/
theorem Parts.source_record (parts : Parts) :
    (parts.record number lineNo).source = String.ofList parts.source := by
  apply String.toList_inj.1
  simp [Record.source, Parts.record, Parts.source]

/-- The record has no line exactly if the last field is blank, and otherwise one that is not
negative. -/
theorem Parts.hasLine_record (parts : Parts) (hnumber : Numbered parts.number number) :
    ((parts.record number lineNo).hasLine = false ↔ Text.Stripped parts.number []) ∧
      ((parts.record number lineNo).hasLine = true → 0 ≤ (parts.record number lineNo).line) := by
  obtain ⟨hunknown, hnonneg⟩ := hnumber.eq_unknownLine_iff
  simpa [Record.hasLine, Parts.record] using ⟨hunknown, hnonneg⟩

/-- What is refused is reported as a malformed record of the trace and the line number. -/
theorem Refused.toFailure_eq (h : Refused text fault) (path : Path) (lineNo : Int) :
    fault.toFailure path lineNo = .reported (.malformedRecord path lineNo fault) := by
  cases h <;> rfl

/-- A line is read as what comes of it. -/
theorem ReadAs.mapError_ofLine {path : Path} {result : Except Failure Record}
    (h : ReadAs path lineNo text result) :
    (ofLine lineNo text).mapError (·.toFailure path lineNo) = result := by
  cases h with
  | record hproper hline hnumber =>
      rw [← hline, ofLine_of_numbered hproper hnumber]
      rfl
  | overlong hproper hline hmany =>
      rw [← hline, ofLine_of_overlong hproper hmany]
      rfl
  | malformed hrefused =>
      rw [← hrefused.toFailure_eq path lineNo, hrefused.ofLine_eq]
      rfl

/-- Whatever comes of a text is what is read, and nothing else is. -/
theorem readAs_iff {path : Path} {result : Except Failure Record} :
    ReadAs path lineNo text result ↔
      (ofLine lineNo text).mapError (·.toFailure path lineNo) = result := by
  constructor
  · exact ReadAs.mapError_ofLine
  · rintro rfl
    obtain ⟨result, h⟩ := exists_readAs path lineNo text
    rwa [h.mapError_ofLine]

/-- A text is read as a record exactly if it is of the form `operation;target;class.method;number`.
It has its parts in one way, and the record holds just these: the source is class and method, and
the line is unknown exactly if there is nothing in the last field, and not negative otherwise.  Any
other text is malformed, at the line number given and with the first thing that is wrong with it;
only a text in which nothing is wrong but the number of digits escapes. -/
theorem ofLine_exact (path : Path) (lineNo : Int) (text : List Char) :
    let read := (ofLine lineNo text).mapError (·.toFailure path lineNo)
    (∀ record, read = .ok record ↔
        ∃ parts : Parts, parts.Proper ∧ parts.line = text ∧
          ∃ number, Numbered parts.number number ∧ record = parts.record number lineNo) ∧
      (∀ parts others : Parts, parts.Proper → others.Proper → parts.line = text →
        others.line = text → parts = others) ∧
      (∀ record parts, read = .ok record → Parts.Proper parts → parts.line = text →
        record.source = String.ofList parts.source ∧
          (record.hasLine = false ↔ Text.Stripped parts.number []) ∧
            (record.hasLine = true → 0 ≤ record.line)) ∧
      (∀ fault,
        read = .error (.reported (.malformedRecord path lineNo fault)) ↔ Refused text fault) ∧
      (∀ count, read = .error (.escaped (.tooManyDigits count)) ↔
        ∃ parts : Parts, parts.Proper ∧ parts.line = text ∧ Overlong parts.number count) ∧
      ((∃ record, read = .ok record) ∨
        (∃ fault, read = .error (.reported (.malformedRecord path lineNo fault))) ∨
          ∃ count, read = .error (.escaped (.tooManyDigits count))) := by
  intro read
  have hread : ∀ result, read = result ↔ ReadAs path lineNo text result := fun _ => readAs_iff.symm
  simp only [hread]
  refine ⟨?accepted, ?unique, ?meaning, ?malformed, ?escaped, ?total⟩
  case accepted =>
    intro record
    constructor
    · intro h
      cases h with
      | record hproper hline hnumber => exact ⟨_, hproper, hline, _, hnumber, rfl⟩
    · rintro ⟨parts, hproper, hline, number, hnumber, rfl⟩
      exact .record hproper hline hnumber
  case unique =>
    intro parts others hproper hother hline hotherLine
    exact Parts.eq_of_line_eq hproper hother (hline.trans hotherLine.symm)
  case meaning =>
    intro record parts h hproper hline
    cases h with
    | record hother hotherLine hnumber =>
        rcases Parts.eq_of_line_eq hproper hother (hline.trans hotherLine.symm) with rfl
        exact ⟨parts.source_record, parts.hasLine_record hnumber⟩
  case malformed =>
    intro fault
    constructor
    · intro h
      cases h with
      | malformed hrefused => exact hrefused
    · exact .malformed
  case escaped =>
    intro count
    constructor
    · intro h
      cases h with
      | overlong hproper hline hmany => exact ⟨_, hproper, hline, hmany⟩
    · rintro ⟨parts, hproper, hline, hmany⟩
      exact .overlong hproper hline hmany
  case total =>
    obtain ⟨result, hresult⟩ := exists_readAs path lineNo text
    cases hresult with
    | record hproper hline hnumber => exact .inl ⟨_, .record hproper hline hnumber⟩
    | overlong hproper hline hmany => exact .inr (.inr ⟨_, .overlong hproper hline hmany⟩)
    | malformed hrefused => exact .inr (.inl ⟨_, .malformed hrefused⟩)

/-- The class of the source may have points in it, and the number zeros before it. -/
example : ofLine 7 "Class.forName;shop.Item;shop..Cart.add; 042\t".toList =
    .ok ⟨.classForName, "shop.Item", "shop..Cart", "add", 42, 7⟩ := by
  rfl

end Record
end ReflectiveCalls
