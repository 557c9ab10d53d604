/-!
# Order — texts by their characters

Texts stand in the order of their code points: the first place at which they differ decides, and a
text stands before those that go on after it.

- `Text.Before`: the order, decided by `Text.before`.
- `Text.Before.irrefl`, `Text.Before.trans`, `Text.Before.trichotomy`: it is strict and total.
-/

namespace ReflectiveCalls
namespace Text

/-- Does the first text stand before the second? -/
def before (left right : String) : Bool :=
  left.toList.lex right.toList fun c d => c.toNat < d.toNat

/-- The first text stands before the second. -/
def Before (left right : String) : Prop :=
  List.Lex (fun c d => c.toNat < d.toNat) left.toList right.toList

theorem before_iff {left right : String} : before left right = true ↔ Before left right := by
  simp [before, Before]

/-- Of two different lists of characters, one stands before the other. -/
theorem lex_trichotomy (cs ds : List Char) :
    List.Lex (fun c d => c.toNat < d.toNat) cs ds ∨ cs = ds ∨
      List.Lex (fun c d => c.toNat < d.toNat) ds cs := by
  induction cs generalizing ds with
  | nil =>
      cases ds with
      | nil => exact Or.inr (Or.inl rfl)
      | cons d ds => exact Or.inl .nil
  | cons c cs ih =>
      cases ds with
      | nil => exact Or.inr (Or.inr .nil)
      | cons d ds =>
          rcases Nat.lt_trichotomy c.toNat d.toNat with h | h | h
          · exact Or.inl (.rel h)
          · rcases Char.toNat_inj.1 h with rfl
            rcases ih ds with h | rfl | h
            · exact Or.inl (.cons h)
            · exact Or.inr (Or.inl rfl)
            · exact Or.inr (Or.inr (.cons h))
          · exact Or.inr (Or.inr (.rel h))

namespace Before

variable {left middle right : String}

theorem irrefl (text : String) : ¬ Before text text :=
  List.lex_irrefl (fun c => Nat.lt_irrefl c.toNat) text.toList

theorem trans (h : Before left middle) (h' : Before middle right) : Before left right :=
  List.lex_trans Nat.lt_trans h h'

theorem trichotomy (left right : String) :
    Before left right ∨ left = right ∨ Before right left := by
  rcases lex_trichotomy left.toList right.toList with h | h | h
  · exact Or.inl h
  · exact Or.inr (Or.inl (String.toList_inj.1 h))
  · exact Or.inr (Or.inr h)

end Before

/-- A text does not stand before another one exactly if it is that one or stands after it. -/
theorem not_before_iff {left right : String} :
    (!before left right) = true ↔ left = right ∨ Before right left := by
  rw [Bool.not_eq_true', Bool.eq_false_iff, ne_eq, before_iff]
  constructor
  · exact (Before.trichotomy left right).resolve_left
  · rintro (rfl | h) h'
    · exact Before.irrefl _ h'
    · exact Before.irrefl _ (h.trans h')

end Text
end ReflectiveCalls
