import ReflectiveCalls.Proofs.Console.Layout
import ReflectiveCalls.Proofs.Console.Tags

/-!
# Proofs.Console.Markup — texts that can be printed

What a command says is put between the tags of a style.  It can be printed if no tag comes up in
between: a plain text has none, and neither has an escaped one, whatever it was before.

- `Markup.Names`: a name by which a tag opens and closes a style; `Markup.names_styleName`: the
  styles in use have such names.
- `Markup.Contained`: a text in which no tag comes up before the tag that closes its style;
  `Markup.contained_of_plain`, `Markup.contained_escape`: plain and escaped texts.
- `Markup.exists_written_style`: such a text can be printed in a style.
-/

namespace ReflectiveCalls

/-! ## Styles and colours -/

namespace Style

theorem Colour.inBrackets?_eq_none {opening cs : List Char} {c : Char} (hopening : c ∈ opening)
    (h : c ∉ cs) : Colour.inBrackets? opening cs = none := by
  unfold Colour.inBrackets?
  refine if_neg fun hcs => h ?_
  rw [hcs]
  simp [hopening]

/-- A word without a round bracket has no numbers that could be out of order. -/
theorem readColour_cases {word : List Char} (h : '(' ∉ Text.lower word) :
    readColour word = .ok (Text.lower word) ∨ readColour word = .error .unreadable := by
  have hcolor := Colour.inBrackets?_eq_none (by decide : '(' ∈ "color(".toList) h
  have hrgb := Colour.inBrackets?_eq_none (by decide : '(' ∈ "rgb(".toList) h
  have hcheck : Colour.check (Text.lower word) = .ok () ∨
      Colour.check (Text.lower word) = .error .unknown := by
    unfold Colour.check
    simp only [hcolor, hrgb]
    split
    · exact .inl rfl
    · split
      · exact .inl rfl
      · exact .inr rfl
  unfold readColour Colour.read
  dsimp only
  rcases hcheck with hcheck | hcheck
  · rw [hcheck]
    exact .inl rfl
  · rw [hcheck]
    exact .inr rfl

/-- A last word that is no effect asks for a colour. -/
theorem readOnto_singleton {word : List Char} (heffect : Effect.ofWord? (Text.lower word) = none)
    (hword : String.ofList (Text.lower word) ∉ ["on", "not", "link"]) (style : Style) :
    readOnto style [word] =
      (readColour word).map fun colour => { style with colour := some colour } := by
  unfold readOnto
  split
  case h_7 =>
    rw [heffect]
    cases readColour word <;> rfl
  all_goals simp_all

end Style

namespace Markup

/-- The name of a style in use asks for the modifier and then for the colour. -/
theorem exists_read_styleName (colour : Colour) (modifier : Modifier) :
    ∃ style : Style, Style.read (styleName colour modifier).toList =
        Style.readOnto style [colour.name.toList] ∧
      Style.text { style with colour := some colour.name.toList } =
        (styleName colour modifier).toList := by
  have hnone : Text.trim (styleName colour modifier).toList ≠ "none".toList := by
    cases colour <;> cases modifier <;> decide
  rw [Style.read, if_neg hnone]
  cases modifier with
  | bold =>
      have hwords : Text.words (styleName colour .bold).toList =
          ["bold".toList, colour.name.toList] := by
        cases colour <;> decide
      refine ⟨Style.plain.switched .bold true, ?_, by cases colour <;> decide⟩
      rw [hwords]
      rfl
  | none =>
      have hwords : Text.words (styleName colour .none).toList = [colour.name.toList] := by
        cases colour <;> decide
      refine ⟨Style.plain, ?_, by cases colour <;> decide⟩
      rw [hwords]

/-- The name of a style in use is its own normal form. -/
theorem normal_styleName (colour : Colour) (modifier : Modifier) :
    Style.normal (styleName colour modifier).toList = .ok (styleName colour modifier).toList := by
  have hlower : Text.lower colour.name.toList = colour.name.toList := by
    cases colour <;> decide
  have hcolour : ∀ style : Style, Style.readOnto style [colour.name.toList] =
      (Style.readColour colour.name.toList).map
        fun found => { style with colour := some found } := by
    refine Style.readOnto_singleton ?_ ?_ <;> cases colour <;> decide
  have hbracket : '(' ∉ Text.lower colour.name.toList := by
    cases colour <;> decide
  rcases exists_read_styleName colour modifier with ⟨style, hread, htext⟩
  rw [hcolour] at hread
  -- Whether the name is in the table of colours or not, it is not changed.
  rcases Style.readColour_cases hbracket with hfound | hunknown
  · rw [hfound, hlower] at hread
    rw [Style.normal, hread]
    exact congrArg Except.ok htext
  · rw [hunknown] at hread
    rw [Style.normal, hread]
    refine congrArg Except.ok ?_
    cases colour <;> cases modifier <;> decide

/-! ## Names of styles -/

/-- A tag of the name opens a style, and one that has a slash before the name closes it. -/
structure Names (name : List Char) : Prop where
  begins : ∃ c inside, name = c :: inside ∧ beginsTag c = true ∧ c ≠ '/' ∧ c ≠ '@'
  plain : ∀ c ∈ name, c ≠ '[' ∧ c ≠ ']' ∧ c ≠ '='
  trim : Text.trim name = name
  normal : normalName name = .ok name

/-- The name of a style in use. -/
theorem names_styleName (colour : Colour) (modifier : Modifier) :
    Names (styleName colour modifier).toList where
  begins := by cases colour <;> cases modifier <;> exact ⟨_, _, rfl, by decide⟩
  plain := by
    have hall : (styleName colour modifier).toList.all
        (fun c => c ≠ '[' ∧ c ≠ ']' ∧ c ≠ '=') = true := by
      cases colour <;> cases modifier <;> decide
    exact fun c hc => of_decide_eq_true (List.all_eq_true.1 hall c hc)
  trim := by cases colour <;> cases modifier <;> decide
  normal := by rw [normalName, normal_styleName]; rfl

namespace Names

variable {name : List Char} (h : Names name)
include h

theorem tagAt?_opening (rest : List Char) : tagAt? ('[' :: (name ++ ']' :: rest)) = some name := by
  rcases h.begins with ⟨c, inside, rfl, hbegins, -⟩
  exact tagAt?_tag hbegins
    (fun d hd => ⟨(h.plain d (List.mem_cons_of_mem _ hd)).1,
      (h.plain d (List.mem_cons_of_mem _ hd)).2.1⟩) rest

theorem tagAt?_closing (rest : List Char) :
    tagAt? ('[' :: (('/' :: name) ++ ']' :: rest)) = some ('/' :: name) :=
  tagAt?_tag (by decide) (fun d hd => ⟨(h.plain d hd).1, (h.plain d hd).2.1⟩) rest

theorem tagName_eq : tagName name = name :=
  List.takeWhile_eq_self_iff.2 fun c hc => by simpa using (h.plain c hc).2.2

theorem tagParameters_eq : tagParameters name = none := by
  have hnothing : name.dropWhile (· ≠ '=') = [] :=
    List.dropWhile_eq_nil_iff.2 fun c hc => by simpa using (h.plain c hc).2.2
  rw [tagParameters, hnothing]
  rfl

end Names

/-! ## Texts between tags -/

/-- The pieces are texts, after which a tag may close the style of the name. -/
inductive Closes (name : List Char) : List Piece → Prop
  | nothing : Closes name []
  | tag (place : Nat) : Closes name [.tag place ('/' :: name)]
  | text (cs : List Char) {rest : List Piece} (h : Closes name rest) :
      Closes name (.text cs :: rest)

theorem Closes.plain {name : List Char} {rest : List Piece} (h : Closes name rest)
    (before : List Char) : Closes name (plainPiece before ++ rest) := by
  unfold plainPiece
  split
  · exact h
  · exact h.text _

/-- Up to the tag that closes its style the text has no tag of its own. -/
def Contained (cs : List Char) : Prop :=
  ∀ name, Names name → ∀ place before,
    Closes name (pieces place before (cs ++ '[' :: '/' :: (name ++ [']'])))

/-- Backslashes before the closing tag may make it text. -/
theorem contained_slashes (count : Nat) : Contained (List.replicate count '\\') := by
  intro name h place before
  have hpieces := pieces_slashes_tag (h.tagAt?_closing []) count place before
  rw [List.cons_append] at hpieces
  rw [hpieces, List.append_assoc]
  refine Closes.plain (Closes.plain ?_ _) _
  rw [pieces, plainPiece]
  split
  · exact .text _ .nothing
  · exact .tag _

theorem contained_of_plain {cs : List Char} (h : '[' ∉ cs) (hlast : cs.getLast? ≠ some '\\') :
    Contained cs := by
  intro name hname place before
  rw [pieces_append_of_plain h hlast]
  exact contained_slashes 0 name hname _ _

theorem Plain.contained {text : String} (h : Plain text) : Contained text.toList :=
  contained_of_plain h.1 h.2

namespace Names

variable {name : List Char} (h : Names name)
include h

/-- A tag of the name opens its style where the text before ends. -/
theorem tagged_opening (before : StyledText) (opened : List OpenTag) (place : Nat) :
    tagged before opened place name = .ok (before, ⟨before.length, name, none⟩ :: opened) := by
  rcases h.begins with ⟨c, inside, hname, -, hslash, -⟩
  rw [tagged, h.tagName_eq, h.tagParameters_eq]
  split
  · -- The name would begin with a slash.
    cases hname
    exact absurd rfl hslash
  · rw [h.normal]
    rfl

/-- A closing tag closes the style that is open, which covers the text in between. -/
theorem tagged_closing (before : StyledText) (start place : Nat) :
    tagged before [⟨start, name, none⟩] place ('/' :: name) =
      .ok (⟨before.chars, before.spans ++ [⟨start, before.length, name⟩]⟩, []) := by
  rcases h.begins with ⟨c, inside, hname, -, -, hat⟩
  have htag : tagName ('/' :: name) = '/' :: name := by
    rw [tagName, List.takeWhile_cons_of_pos (by decide), ← tagName, h.tagName_eq]
  have hnonempty : (Text.trim name).isEmpty = false := by
    rw [h.trim, hname]
    rfl
  have hclosed : closed [⟨start, name, none⟩] place ('/' :: name) name =
      .ok (⟨start, name, none⟩, []) := by
    rw [closed, hnonempty, h.trim, h.normal]
    simp [takeTag?]
  have hclose : closeTag ⟨start, name, none⟩ before.length =
      .ok [⟨start, before.length, name⟩] := by
    have hhead : name.head? ≠ some '@' := by simpa [hname] using hat
    rw [closeTag, if_neg hhead]
    rfl
  rw [tagged, htag]
  simp only [hclosed, hclose]
  rfl

/-- Texts in the style of a tag ask for that style and no other, whether it is closed or not. -/
theorem exists_shown_of_closes {parts : List Piece} (hparts : Closes name parts) (start : Nat)
    {before : StyledText} (hbefore : before.spans = []) :
    ∃ text, shown before [⟨start, name, none⟩] parts = .ok text ∧ text.Asks (· = name) := by
  induction hparts generalizing before with
  | nothing =>
      rw [shown]
      refine ⟨_, rfl, ?_⟩
      simp [StyledText.Asks, inOrder, hbefore, OpenTag.spanTo, OpenTag.style]
  | tag place =>
      rw [shown, h.tagged_closing]
      refine ⟨_, rfl, ?_⟩
      simp [StyledText.Asks, inOrder, hbefore]
  | text cs _ ih =>
      rw [shown]
      exact ih (by simp [StyledText.append, StyledText.ofChars, hbefore])

/-- A text between an opening and a closing tag asks for the style of the tag and no other. -/
theorem exists_shown {cs : List Char} (hcs : Contained cs) :
    ∃ text, shown (.ofChars []) []
        (pieces 0 [] ('[' :: (name ++ ']' :: (cs ++ '[' :: '/' :: (name ++ [']']))))) = .ok text ∧
      text.Asks (· = name) := by
  rw [pieces_tag (h.tagAt?_opening _), shown, h.tagged_opening]
  exact h.exists_shown_of_closes (hcs name h _ _) _ rfl

end Names

theorem toList_style (text : String) (colour : Colour) (modifier : Modifier) :
    (style text colour modifier).toList =
      '[' :: ((styleName colour modifier).toList ++ ']' ::
        (text.toList ++ '[' :: '/' :: ((styleName colour modifier).toList ++ [']']))) := by
  simp [style]

theorem forM_eq_ok {α : Type} {check : α → Except Fault Unit} {items : List α}
    (h : ∀ item ∈ items, check item = .ok ()) : items.forM check = .ok () := by
  induction items with
  | nil => rfl
  | cons item rest ih =>
      rw [List.forall_mem_cons] at h
      rw [List.forM, h.1]
      exact ih h.2

/-- A text in which no tag comes up can be printed in a style. -/
theorem exists_written_style {text : String} (h : Contained text.toList) (colour : Colour)
    (modifier : Modifier) : ∃ shown, written (style text colour modifier) = .ok shown := by
  have hnames := names_styleName colour modifier
  rcases hnames.exists_shown h with ⟨text', hshown, hasks⟩
  have hstyled : styled (style text colour modifier) = .ok text' := by
    have hbracket : (style text colour modifier).toList.contains '[' = true := by
      simp [toList_style]
    rw [styled, if_pos hbracket, toList_style]
    exact hshown
  -- Laid out, the text asks for the same style, which has a normal form.
  have hcheck : checkStyle (styleName colour modifier).toList = .ok () := by
    rw [checkStyle, hnames.normal]
    rfl
  have hlines : (Layout.lines text').forM checkLine = .ok () := by
    refine forM_eq_ok fun line hline => forM_eq_ok fun span hspan => ?_
    rw [hasks.laid line hline span hspan, hcheck]
  refine ⟨Layout.written (Layout.lines text'), ?_⟩
  rw [written, hstyled]
  change (do (Layout.lines text').forM checkLine; return Layout.written _) = _
  rw [hlines]
  rfl

end Markup
end ReflectiveCalls
