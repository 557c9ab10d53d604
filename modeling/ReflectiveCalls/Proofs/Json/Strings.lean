import ReflectiveCalls.Json.Reader
import ReflectiveCalls.Json.Writer

/-!
# Proofs.Json.Strings — a written string read back

A string is written in ASCII: some characters with an escape of one letter, others as themselves,
and the rest by their code units.  The reader collects code units and makes characters of them at
the end, so reading is followed in two steps: a written character gives its units, and the units of
a text give the text.

- `Json.units`: the code units of a character, one or two.
- `Json.codeUnit?_digits`: four written digits read back.
- `Json.stringRest_writtenChar`: a written character gives its units.
- `Json.textOfUnits_units`: the units of a text give the text.
- `Json.string_written`: a written string is read back, whatever follows it.
-/

namespace ReflectiveCalls
namespace Json

/-! ## Hexadecimal digits -/

theorem hexDigit?_digitChar : ∀ digit < 16, hexDigit? (Nat.digitChar digit) = some digit := by
  decide

theorem hexDigits_four (unit : Nat) :
    Text.hexDigits 4 unit =
      [Nat.digitChar (unit / 4096 % 16), Nat.digitChar (unit / 256 % 16),
        Nat.digitChar (unit / 16 % 16), Nat.digitChar (unit % 16)] := by
  simp [Text.hexDigits, Nat.div_div_eq_div_mul]

/-- Four digits spell the code unit for which they are written. -/
theorem codeUnit?_digits {unit : Nat} (h : unit < 0x10000) :
    codeUnit? (Nat.digitChar (unit / 4096 % 16)) (Nat.digitChar (unit / 256 % 16))
      (Nat.digitChar (unit / 16 % 16)) (Nat.digitChar (unit % 16)) = some unit := by
  have hdigit : ∀ n, hexDigit? (Nat.digitChar (n % 16)) = some (n % 16) := fun n =>
    hexDigit?_digitChar _ (Nat.mod_lt n (by decide))
  simp only [codeUnit?, hdigit]
  have hsum : 4096 * (unit / 4096 % 16) + 256 * (unit / 256 % 16) + 16 * (unit / 16 % 16) +
      unit % 16 = unit := by
    omega
  exact congrArg some hsum

/-! ## Code units -/

/-- The code units of a character: one, or the two halves of a pair. -/
def units (c : Char) : List Nat :=
  if c.toNat < 0x10000 then [c.toNat]
  else [0xD800 + (c.toNat - 0x10000) / 0x400, 0xDC00 + (c.toNat - 0x10000) % 0x400]

theorem toNat_valid (c : Char) : c.toNat < 0xD800 ∨ 0xDFFF < c.toNat ∧ c.toNat < 0x110000 := c.valid

/-- A unit that is no first half makes a character of its own. -/
theorem textOfUnits_cons {unit : Nat} (h : isHighHalf unit = false) (rest : List Nat) :
    textOfUnits (unit :: rest) = loneChar unit :: textOfUnits rest := by
  cases rest with
  | nil => rfl
  | cons next rest => simp [textOfUnits, h]

/-- The units of a character make that character, whatever follows them. -/
theorem textOfUnits_units_append (c : Char) (rest : List Nat) :
    textOfUnits (units c ++ rest) = c :: textOfUnits rest := by
  have hvalid := toNat_valid c
  unfold units
  by_cases hone : c.toNat < 0x10000
  · -- A character of one unit is no half of a pair.
    have hhigh : isHighHalf c.toNat = false := by
      simp only [isHighHalf, Bool.and_eq_false_iff, decide_eq_false_iff_not]
      omega
    have hlow : isLowHalf c.toNat = false := by
      simp only [isLowHalf, Bool.and_eq_false_iff, decide_eq_false_iff_not]
      omega
    rw [if_pos hone, List.singleton_append, textOfUnits_cons hhigh]
    simp [loneChar, hhigh, hlow, Char.ofNat_toNat]
  · have hhigh : isHighHalf (0xD800 + (c.toNat - 0x10000) / 0x400) = true := by
      simp only [isHighHalf, Bool.and_eq_true, decide_eq_true_eq]
      omega
    have hlow : isLowHalf (0xDC00 + (c.toNat - 0x10000) % 0x400) = true := by
      simp only [isLowHalf, Bool.and_eq_true, decide_eq_true_eq]
      omega
    have hpair : pairChar (0xD800 + (c.toNat - 0x10000) / 0x400)
        (0xDC00 + (c.toNat - 0x10000) % 0x400) = c := by
      have hcode : 0x10000 + 0x400 * (0xD800 + (c.toNat - 0x10000) / 0x400 - 0xD800) +
          (0xDC00 + (c.toNat - 0x10000) % 0x400 - 0xDC00) = c.toNat := by
        omega
      rw [pairChar, hcode, Char.ofNat_toNat]
    rw [if_neg hone]
    simp [textOfUnits, hhigh, hlow, hpair]

/-- The units of a text make the text. -/
theorem textOfUnits_units (text : List Char) : textOfUnits (text.flatMap units) = text := by
  induction text with
  | nil => rfl
  | cons c rest ih => rw [List.flatMap_cons, textOfUnits_units_append, ih]

/-! ## Written characters -/

section WrittenCharacters

variable {opening : Nat} {done : List Nat} {rest : List Char}

/-- A numeric escape gives its unit, provided that something follows. -/
theorem stringRest_unitEscape {unit : Nat} (h : unit < 0x10000) (hrest : rest ≠ []) :
    stringRest opening done (unitEscape unit ++ rest) = stringRest opening (unit :: done) rest := by
  cases rest with
  | nil => exact absurd rfl hrest
  | cons next rest =>
      simp only [unitEscape, hexDigits_four, List.cons_append, List.nil_append]
      rw [stringRest]
      simp only [codeUnit?_digits h]

/-- A character that stands for itself gives its unit. -/
theorem stringRest_cons {c : Char} (hquote : c ≠ '"') (hslash : c ≠ '\\') (h : 0x20 ≤ c.toNat) :
    stringRest opening done (c :: rest) = stringRest opening (c.toNat :: done) rest := by
  rw [stringRest]
  · rw [if_neg (Nat.not_lt.2 h)]
  all_goals
    intros
    first
      | exact absurd ‹_› hquote
      | exact absurd ‹_› hslash

/-- A written character gives its units, provided that something follows. -/
theorem stringRest_writtenChar (c : Char) (hrest : rest ≠ []) :
    stringRest opening done (writtenChar c ++ rest) =
      stringRest opening ((units c).reverse ++ done) rest := by
  have hvalid := toNat_valid c
  unfold writtenChar
  split
  -- Seven characters have an escape of one letter.
  case h_8 =>
    next hquote hslash _ _ _ _ _ =>
    dsimp only
    split
    · next hprintable =>
        rw [Bool.and_eq_true, decide_eq_true_eq, decide_eq_true_eq] at hprintable
        have hunits : units c = [c.toNat] := if_pos (by omega)
        rw [hunits]
        exact stringRest_cons hquote hslash hprintable.1
    · split
      · next hone =>
          rw [stringRest_unitEscape hone hrest, units, if_pos hone]
          rfl
      · next htwo =>
          -- The first half of the pair is followed by the second.
          rw [List.append_assoc, stringRest_unitEscape (by omega) (by simp [unitEscape]),
            stringRest_unitEscape (by omega) hrest, units, if_neg htwo]
          rfl
  all_goals rfl

/-- Written characters give their units, up to the closing quote. -/
theorem stringRest_written (text : List Char) :
    stringRest opening done (text.flatMap writtenChar ++ '"' :: rest) =
      .ok (done.reverse ++ text.flatMap units, rest) := by
  induction text generalizing done with
  | nil =>
      rw [List.flatMap_nil, List.nil_append, List.flatMap_nil, List.append_nil]
      rfl
  | cons c text ih =>
      rw [List.flatMap_cons, List.append_assoc, stringRest_writtenChar c (by simp), ih]
      simp

end WrittenCharacters

/-! ## Written strings -/

/-- A written string is read back, whatever follows it. -/
theorem string_written (text : String) (rest : List Char) :
    string (text.toList.flatMap writtenChar ++ '"' :: rest) = .ok (text, rest) := by
  rw [string, stringRest_written, List.reverse_nil, List.nil_append]
  simp [Except.map, textOfUnits_units]

/-! ## What is written -/

/-- The character is printable and in ASCII. -/
def Printable (c : Char) : Prop := 0x20 ≤ c.toNat ∧ c.toNat ≤ 0x7E

instance : DecidablePred Printable := fun c =>
  inferInstanceAs (Decidable (0x20 ≤ c.toNat ∧ c.toNat ≤ 0x7E))

theorem printable_digitChar : ∀ digit < 16, Printable (Nat.digitChar digit) := by
  decide

theorem printable_of_mem_unitEscape {unit : Nat} {shown : Char} (h : shown ∈ unitEscape unit) :
    Printable shown := by
  have hdigit : ∀ n, Printable (Nat.digitChar (n % 16)) := fun n =>
    printable_digitChar _ (Nat.mod_lt n (by decide))
  rw [unitEscape, hexDigits_four] at h
  simp only [List.cons_append, List.nil_append, List.mem_cons, List.not_mem_nil, or_false] at h
  rcases h with rfl | rfl | rfl | rfl | rfl | rfl
  · decide
  · decide
  all_goals exact hdigit _

/-- A character is written with printable characters. -/
theorem printable_of_mem_writtenChar {c shown : Char} (h : shown ∈ writtenChar c) :
    Printable shown := by
  unfold writtenChar at h
  split at h
  case h_8 =>
    dsimp only at h
    split at h
    · next hprintable =>
        rw [Bool.and_eq_true, decide_eq_true_eq, decide_eq_true_eq] at hprintable
        rw [List.mem_singleton.1 h]
        exact hprintable
    · split at h
      · exact printable_of_mem_unitEscape h
      · rcases List.mem_append.1 h with h | h
        · exact printable_of_mem_unitEscape h
        · exact printable_of_mem_unitEscape h
  all_goals
    simp only [List.mem_cons, List.not_mem_nil, or_false] at h
    rcases h with rfl | rfl
    · decide
    · decide

/-- A string is written with printable characters. -/
theorem printable_of_mem_writtenString {text : String} {shown : Char}
    (h : shown ∈ writtenString text) : Printable shown := by
  unfold writtenString at h
  rcases List.mem_cons.1 h with rfl | h
  · decide
  · rcases List.mem_append.1 h with h | h
    · rcases List.mem_flatMap.1 h with ⟨c, -, h⟩
      exact printable_of_mem_writtenChar h
    · rw [List.mem_singleton.1 h]
      decide

end Json
end ReflectiveCalls
