import ReflectiveCalls.Console.Layout

/-!
# Proofs.Console.Layout — the styles on laid out lines

Laying out a text cuts it, fills it up and crops it, and brings up no style that the text did not
ask for.

- `StyledText.Asks`: all styles that a text asks for are of a kind.
- `StyledText.Asks.laid`: a text that is laid out asks for nothing else.
-/

namespace ReflectiveCalls

/-- All styles that the text asks for are of the kind. -/
def StyledText.Asks (text : StyledText) (kind : List Char → Prop) : Prop :=
  ∀ span ∈ text.spans, kind span.style

namespace StyledText
namespace Asks

variable {text after : StyledText} {kind : List Char → Prop}

theorem append (h : text.Asks kind) (hafter : after.Asks kind) : (text.append after).Asks kind := by
  intro span hspan
  rcases List.mem_append.1 hspan with hspan | hspan
  · exact h span hspan
  · rcases List.mem_map.1 hspan with ⟨moved, hmoved, rfl⟩
    exact hafter moved hmoved

theorem joined {texts : List StyledText} (h : ∀ text ∈ texts, text.Asks kind) :
    (joined texts).Asks kind := by
  induction texts with
  | nil => exact List.forall_mem_nil _
  | cons text rest ih =>
      rw [List.forall_mem_cons] at h
      exact h.1.append (ih h.2)

/-! ## Cutting -/

theorem between (h : text.Asks kind) (start stop : Nat) : (text.between start stop).Asks kind := by
  intro span hspan
  rcases List.mem_filterMap.1 hspan with ⟨whole, hwhole, hcut⟩
  rw [Span.between?, Option.ite_none_right_eq_some] at hcut
  rcases hcut with ⟨-, hcut⟩
  cases hcut
  exact h whole hwhole

theorem piecesFrom (h : text.Asks kind) {start : Nat} {places : List Nat} :
    ∀ piece ∈ text.piecesFrom start places, piece.Asks kind := by
  induction places generalizing start with
  | nil =>
      rw [StyledText.piecesFrom, List.forall_mem_singleton]
      exact h.between _ _
  | cons place rest ih =>
      rw [StyledText.piecesFrom, List.forall_mem_cons]
      exact ⟨h.between _ _, ih⟩

theorem divide (h : text.Asks kind) (places : List Nat) :
    ∀ piece ∈ text.divide places, piece.Asks kind := by
  unfold StyledText.divide
  split
  · exact List.forall_mem_singleton.2 h
  · exact h.piecesFrom

theorem lines (h : text.Asks kind) : ∀ line ∈ text.lines, line.Asks kind :=
  fun line hline => h.divide _ line (List.mem_filter.1 hline).1

/-! ## Changing the end -/

theorem fill (h : text.Asks kind) (count : Nat) : (text.fill count).Asks kind := by
  intro span hspan
  rcases List.mem_map.1 hspan with ⟨short, hshort, rfl⟩
  split
  · exact h short hshort
  · exact h short hshort

theorem shortened (h : text.Asks kind) (chars : List Char) : (text.shortened chars).Asks kind := by
  unfold StyledText.shortened
  dsimp only
  split
  · intro span hspan
    rcases List.mem_map.1 hspan with ⟨long, hlong, rfl⟩
    exact h long (List.mem_filter.1 hlong).1
  · exact h

/-! ## Laying out -/

theorem expandPieces {pieces : List StyledText} (h : ∀ piece ∈ pieces, piece.Asks kind)
    {column : Nat} : ∀ piece ∈ Layout.expandPieces column pieces, piece.Asks kind := by
  induction pieces generalizing column with
  | nil => exact List.forall_mem_nil _
  | cons piece rest ih =>
      rw [List.forall_mem_cons] at h
      rw [Layout.expandPieces]
      split
      · rw [List.forall_mem_cons]
        have hpiece : StyledText.Asks ⟨piece.chars.dropLast ++ [' '], piece.spans⟩ kind := h.1
        exact ⟨hpiece.fill _, ih h.2⟩
      · rw [List.forall_mem_cons]
        exact ⟨h.1, ih h.2⟩

theorem expandTabs (h : text.Asks kind) : (Layout.expandTabs text).Asks kind := by
  unfold Layout.expandTabs
  split
  · exact joined (expandPieces (h.divide _))
  · exact h

theorem wrap (h : text.Asks kind) (width : Nat) :
    ∀ line ∈ Layout.wrap width text, line.Asks kind := by
  intro line hline
  rcases List.mem_map.1 hline with ⟨piece, hpiece, rfl⟩
  exact ((h.divide _ piece hpiece).shortened _).shortened _

/-- The lines on which a text is laid out ask for no other styles than the text does. -/
theorem laid (h : text.Asks kind) : ∀ line ∈ Layout.lines text, line.Asks kind := by
  intro line hline
  rcases List.mem_flatMap.1 hline with ⟨whole, hwhole, hpiece⟩
  exact (h.lines whole hwhole).expandTabs.wrap _ line hpiece

end Asks
end StyledText
end ReflectiveCalls
