import Mathlib.Data.List.TakeWhile
import ReflectiveCalls.Text.Blank
import ReflectiveCalls.Text.Split

/-!
# Proofs.Text.Pieces — texts put together and taken apart

What splitting and trimming give, said by how a text is put together: from pieces with separators
between them, or from a core with white space around it.  In either case the text settles the parts.

- `Text.Joined`: a text and its pieces.  `Text.split` finds pieces (`Text.joined_split`), and there
  are no others (`Text.Joined.split_eq`); `Text.joined_intercalate` puts pieces together.
- `Text.splitLast?_eq_some_iff`: a text around its last separator.
- `Text.Stripped`: a text and its core.  `Text.trim` leaves a core (`Text.stripped_trim`), and there
  is no other (`Text.Stripped.trim_eq`).
-/

namespace ReflectiveCalls
namespace Text

variable {separator : Char} {cs piece rest before after core : List Char}
  {pieces others : List (List Char)}

/-! ## Between separators -/

/-- A text and its pieces: there is a separator between two of them, and none in any. -/
inductive Joined (separator : Char) : List Char → List (List Char) → Prop
  | last {piece : List Char} (hpiece : separator ∉ piece) : Joined separator piece [piece]
  | more {piece rest : List Char} {pieces : List (List Char)} (hpiece : separator ∉ piece)
      (hrest : Joined separator rest pieces) :
      Joined separator (piece ++ separator :: rest) (piece :: pieces)

/-- A character that is no separator becomes part of the first piece. -/
theorem split_cons_of_ne {c : Char} (hc : c ≠ separator)
    (h : split separator rest = piece :: pieces) :
    split separator (c :: rest) = (c :: piece) :: pieces := by
  simp [split, hc, h]

/-- Splitting finds pieces of which the text is put together. -/
theorem joined_split (separator : Char) (cs : List Char) :
    Joined separator cs (split separator cs) := by
  induction cs with
  | nil => exact .last List.not_mem_nil
  | cons c rest ih =>
      by_cases hc : c = separator
      · subst hc
        rw [split, if_pos rfl]
        exact .more List.not_mem_nil ih
      · -- The first piece of the rest gets one character more, wherever it ends.
        have hmem : ∀ piece, separator ∉ piece → separator ∉ c :: piece := by
          intro piece hpiece
          exact List.not_mem_cons_of_ne_of_not_mem (Ne.symm hc) hpiece
        generalize hsplit : split separator rest = pieces at ih
        cases ih with
        | last hpiece =>
            rw [split_cons_of_ne hc hsplit]
            exact .last (hmem _ hpiece)
        | more hpiece hrest =>
            rw [split_cons_of_ne hc hsplit]
            exact .more (hmem _ hpiece) hrest

theorem split_of_not_mem (h : separator ∉ cs) : split separator cs = [cs] := by
  induction cs with
  | nil => rfl
  | cons c rest ih =>
      rw [List.mem_cons, not_or] at h
      exact split_cons_of_ne (Ne.symm h.1) (ih h.2)

/-- The first piece ends at the first separator. -/
theorem split_append_cons (h : separator ∉ piece) :
    split separator (piece ++ separator :: rest) = piece :: split separator rest := by
  induction piece with
  | nil => simp [split]
  | cons c piece ih =>
      rw [List.mem_cons, not_or] at h
      exact split_cons_of_ne (Ne.symm h.1) (ih h.2)

/-- The only pieces of which a text is put together are those that splitting finds. -/
theorem Joined.split_eq (h : Joined separator cs pieces) : split separator cs = pieces := by
  induction h with
  | last hpiece => exact split_of_not_mem hpiece
  | more hpiece _ ih => rw [split_append_cons hpiece, ih]

/-- A text is put together in one way only. -/
theorem Joined.unique (h : Joined separator cs pieces) (hother : Joined separator cs others) :
    pieces = others :=
  h.split_eq.symm.trans hother.split_eq

/-- Pieces with separators between them are the pieces of the text that they make up. -/
theorem joined_intercalate (hne : pieces ≠ []) (h : ∀ piece ∈ pieces, separator ∉ piece) :
    Joined separator ([separator].intercalate pieces) pieces := by
  induction pieces with
  | nil => exact absurd rfl hne
  | cons piece rest ih =>
      have hpiece := h piece List.mem_cons_self
      cases rest with
      | nil =>
          rw [List.intercalate_singleton]
          exact .last hpiece
      | cons next rest =>
          rw [List.intercalate_cons_cons, List.append_assoc, List.singleton_append]
          refine .more hpiece (ih (List.cons_ne_nil next rest) ?_)
          exact fun other hother => h other (List.mem_cons_of_mem _ hother)

/-- Pieces settle the text that is put together of them. -/
theorem Joined.eq_intercalate (h : Joined separator cs pieces) :
    cs = [separator].intercalate pieces := by
  induction h with
  | last _ => rw [List.intercalate_singleton]
  | @more piece rest pieces _ hrest ih =>
      cases hrest with
      | last _ => simp [List.intercalate_cons_cons, List.intercalate_singleton]
      | more _ _ => simp [ih, List.intercalate_cons_cons]

/-- There is no separator in any piece. -/
theorem Joined.not_mem (h : Joined separator cs pieces) (hpiece : piece ∈ pieces) :
    separator ∉ piece := by
  induction h with
  | last hlast => exact List.mem_singleton.1 hpiece ▸ hlast
  | more hfirst _ ih =>
      rcases List.mem_cons.1 hpiece with rfl | hpiece
      · exact hfirst
      · exact ih hpiece

/-- A piece holds nothing that the text does not hold. -/
theorem Joined.subset (h : Joined separator cs pieces) (hpiece : piece ∈ pieces) : piece ⊆ cs := by
  induction h with
  | last _ => exact List.mem_singleton.1 hpiece ▸ List.Subset.refl _
  | more _ _ ih =>
      rcases List.mem_cons.1 hpiece with rfl | hpiece
      · exact List.subset_append_left _ _
      · exact fun c hc => List.mem_append_right _ (List.mem_cons_of_mem _ (ih hpiece hc))

/-- Where a text is put together of a piece, a separator and a rest, it settles both. -/
theorem append_cons_eq_iff (h : separator ∉ piece) (hother : separator ∉ before) :
    piece ++ separator :: rest = before ++ separator :: after ↔ piece = before ∧ rest = after := by
  constructor
  · intro heq
    have hsplit := congrArg (split separator) heq
    rw [split_append_cons h, split_append_cons hother] at hsplit
    obtain ⟨rfl, -⟩ := List.cons.inj hsplit
    exact ⟨rfl, (List.cons.inj (List.append_cancel_left heq)).2⟩
  · rintro ⟨rfl, rfl⟩
    rfl

/-! ## Around the last separator -/

theorem splitLast?_append_cons (h : separator ∉ after) :
    splitLast? separator (before ++ separator :: after) = some (before, after) := by
  have hreverse : (before ++ separator :: after).reverse =
      after.reverse ++ separator :: before.reverse := by simp
  have hall : ∀ c ∈ after.reverse, decide (c ≠ separator) = true := by
    intro c hc
    exact decide_eq_true (ne_of_mem_of_not_mem (List.mem_reverse.1 hc) h)
  unfold splitLast?
  rw [hreverse, List.takeWhile_append_of_pos hall, List.dropWhile_append_of_pos hall]
  simp

theorem splitLast?_of_not_mem (h : separator ∉ cs) : splitLast? separator cs = none := by
  have hnil : cs.reverse.dropWhile (· ≠ separator) = [] := by
    apply List.dropWhile_eq_nil_iff.2
    intro c hc
    exact decide_eq_true (ne_of_mem_of_not_mem (List.mem_reverse.1 hc) h)
  unfold splitLast?
  rw [hnil]

theorem exists_last_of_mem (h : separator ∈ cs) :
    ∃ before after, cs = before ++ separator :: after ∧ separator ∉ after := by
  obtain ⟨after, before, hsplit, hnot⟩ := List.eq_append_cons_of_mem (List.mem_reverse.2 h)
  refine ⟨before.reverse, after.reverse, ?_, mt List.mem_reverse.1 hnot⟩
  rw [← cs.reverse_reverse, hsplit]
  simp

/-- A text with a separator is cut at the last one. -/
theorem splitLast?_eq_some_iff :
    splitLast? separator cs = some (before, after) ↔
      cs = before ++ separator :: after ∧ separator ∉ after := by
  constructor
  · intro h
    by_cases hmem : separator ∈ cs
    · obtain ⟨earlier, later, rfl, hlater⟩ := exists_last_of_mem hmem
      rw [splitLast?_append_cons hlater] at h
      cases h
      exact ⟨rfl, hlater⟩
    · rw [splitLast?_of_not_mem hmem] at h
      cases h
  · rintro ⟨rfl, hafter⟩
    exact splitLast?_append_cons hafter

/-! ## Without white space around -/

/-- A text and its core: there is white space before and after it and nothing else, and it neither
begins nor ends with white space. -/
structure Stripped (cs core : List Char) : Prop where
  surrounded : ∃ left right, cs = left ++ core ++ right ∧
    (∀ c ∈ left, isBlank c = true) ∧ ∀ c ∈ right, isBlank c = true
  first : ∀ c rest, core = c :: rest → isBlank c = false
  last : ∀ c front, core = front ++ [c] → isBlank c = false

theorem isBlank_of_dropWhile_eq_cons {c : Char} (h : cs.dropWhile isBlank = c :: rest) :
    isBlank c = false := by
  have hne : cs.dropWhile isBlank ≠ [] := h ▸ List.cons_ne_nil c rest
  have hhead := List.head_dropWhile_not isBlank hne
  simpa only [h, List.head_cons] using hhead

theorem trimRight_append (cs : List Char) :
    trimRight cs ++ (cs.reverse.takeWhile isBlank).reverse = cs := by
  rw [trimRight, ← List.reverse_append, List.takeWhile_append_dropWhile, List.reverse_reverse]

/-- Trimming leaves a core of the text. -/
theorem stripped_trim (cs : List Char) : Stripped cs (trim cs) := by
  refine ⟨⟨cs.takeWhile isBlank,
    ((cs.dropWhile isBlank).reverse.takeWhile isBlank).reverse, ?_, ?_, ?_⟩, ?_, ?_⟩
  · rw [trim, List.append_assoc, trimRight_append, List.takeWhile_append_dropWhile]
  · intro c hc
    exact List.mem_takeWhile_imp hc
  · intro c hc
    exact List.mem_takeWhile_imp (List.mem_reverse.1 hc)
  · intro c rest hcore
    -- What the core begins with is what is left first once the white space before it is gone.
    have hdrop := trimRight_append (cs.dropWhile isBlank)
    rw [show trimRight (cs.dropWhile isBlank) = c :: rest from hcore] at hdrop
    exact isBlank_of_dropWhile_eq_cons hdrop.symm
  · intro c front hcore
    rw [trim, trimRight, List.reverse_eq_iff, List.reverse_append] at hcore
    exact isBlank_of_dropWhile_eq_cons hcore

/-- Nothing is dropped from a text that does not begin with white space. -/
theorem dropWhile_isBlank_eq_self (h : ∀ c rest, cs = c :: rest → isBlank c = false) :
    cs.dropWhile isBlank = cs := by
  cases cs with
  | nil => rfl
  | cons c rest => exact List.dropWhile_cons_of_neg (by simp [h c rest rfl])

/-- The only core of a text is what trimming leaves. -/
theorem Stripped.trim_eq (h : Stripped cs core) : trim cs = core := by
  obtain ⟨left, right, rfl, hleft, hright⟩ := h.surrounded
  -- The white space before the core goes first.  What is left begins with the core, unless that is
  -- empty, and then the white space after it goes as well.
  rw [trim, List.append_assoc, List.dropWhile_append_of_pos hleft, trimRight]
  by_cases hcore : core = []
  · subst hcore
    simp [List.dropWhile_eq_nil_iff.2 hright]
  · have hfirst : (core ++ right).dropWhile isBlank = core ++ right := by
      apply dropWhile_isBlank_eq_self
      intro c rest hsplit
      obtain ⟨d, front, rfl⟩ := List.exists_cons_of_ne_nil hcore
      cases hsplit
      exact h.first c front rfl
    have hlast : core.reverse.dropWhile isBlank = core.reverse := by
      apply dropWhile_isBlank_eq_self
      intro c front hsplit
      exact h.last c front.reverse (by rw [← List.reverse_cons, ← hsplit, List.reverse_reverse])
    have hrightReverse : ∀ c ∈ right.reverse, isBlank c = true :=
      fun c hc => hright c (List.mem_reverse.1 hc)
    rw [hfirst, List.reverse_append, List.dropWhile_append_of_pos hrightReverse, hlast,
      List.reverse_reverse]

end Text
end ReflectiveCalls
