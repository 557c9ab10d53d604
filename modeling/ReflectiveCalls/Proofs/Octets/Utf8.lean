import ReflectiveCalls.Octets.Utf8

/-!
# Proofs.Octets.Utf8 — decoding and encoding

A character is written in one of four forms, of one to four octets.  What a step finds at the start
of a run of octets is settled by the octets of the form, whatever follows them; so a text may be
decoded in blocks, and what is decoded is the one text whose octets these are.

- `Utf8.Form`: the forms of characters, as a step reads them (`Utf8.Form.step`,
  `Utf8.begins_of_step`) and as a character is written in them (`Utf8.Form.encodeChar`).
- `Utf8.encode`: the octets of a text, which are those of a string (`Utf8.toList_toUTF8`);
  `Utf8.decodeAll_eq_ok_iff`: decoding undoes it.
- `Utf8.eq_encode_append_of_decode`, `Utf8.ne_encode_of_decodeFrom_error`: what a block of a text
  says about the whole.
- `Utf8.readable`: the characters before the first fault, the longest text with which the octets
  begin (`Utf8.prefix_readable_iff`).
-/

namespace ReflectiveCalls
namespace Octets
namespace Utf8

variable {first second octet : UInt8} {rest : List UInt8} {c : Char}

/-! ## Octets after the first -/

theorem isContinuation_iff :
    isContinuation octet = true ↔ 0x80 ≤ octet.toNat ∧ octet.toNat < 0xC0 := by
  simp [isContinuation, UInt8.le_iff_toNat_le, UInt8.lt_iff_toNat_lt]

theorem mayFollow_iff :
    mayFollow first second = true ↔ isContinuation second = true ∧
      (first.toNat = 0xE0 → 0xA0 ≤ second.toNat) ∧ (first.toNat = 0xED → second.toNat < 0xA0) ∧
      (first.toNat = 0xF0 → 0x90 ≤ second.toNat) ∧ (first.toNat = 0xF4 → second.toNat < 0x90) := by
  simp [mayFollow, ← UInt8.toNat_inj, UInt8.le_iff_toNat_le, UInt8.lt_iff_toNat_lt, and_assoc,
    Decidable.imp_iff_not_or]

/-- The octet that carries six bits of a character after its first octet. -/
def tail (bits : Nat) : UInt8 := UInt8.ofNat (bits % 64 + 128)

theorem toNat_tail (bits : Nat) : (tail bits).toNat = bits % 64 + 128 := by
  simp only [tail, UInt8.toNat_ofNat']
  omega

theorem isContinuation_tail (bits : Nat) : isContinuation (tail bits) = true := by
  rw [isContinuation_iff, toNat_tail]
  omega

theorem payload_tail (bits : Nat) : payload (tail bits) = bits % 64 := by
  rw [payload, toNat_tail]
  omega

theorem eq_tail (h : isContinuation octet = true) {bits : Nat} (hbits : payload octet = bits % 64) :
    octet = tail bits := by
  rw [isContinuation_iff] at h
  apply UInt8.toNat_inj.1
  rw [toNat_tail, ← hbits, payload]
  omega

/-! ## Forms of characters -/

/-- The first octet and the others that write the character of a number. -/
inductive Form : UInt8 → List UInt8 → Nat → Prop
  | one {first : UInt8} (h : first < 0x80) : Form first [] first.toNat
  | two {first second : UInt8} (hlow : 0xC2 ≤ first) (hhigh : first < 0xE0)
      (hsecond : isContinuation second = true) :
      Form first [second] (first.toNat % 0x20 * 0x40 + payload second)
  | three {first second third : UInt8} (hlow : 0xE0 ≤ first) (hhigh : first < 0xF0)
      (hsecond : mayFollow first second = true) (hthird : isContinuation third = true) :
      Form first [second, third]
        (first.toNat % 0x10 * 0x1000 + payload second * 0x40 + payload third)
  | four {first second third fourth : UInt8} (hlow : 0xF0 ≤ first) (hhigh : first < 0xF5)
      (hsecond : mayFollow first second = true) (hthird : isContinuation third = true)
      (hfourth : isContinuation fourth = true) :
      Form first [second, third, fourth]
        (first.toNat % 0x08 * 0x40000 + payload second * 0x1000 + payload third * 0x40 +
          payload fourth)

theorem Form.step {others : List UInt8} {code : Nat} (h : Form first others code)
    (more : List UInt8) :
    Utf8.step first (others ++ more) = .char (Char.ofNat code) others.length := by
  unfold Utf8.step
  cases h with
  | one h => simp [h]
  | two hlow hhigh hsecond =>
      have hone : ¬ first < 0x80 := UInt8.not_lt.2 (UInt8.le_trans (by decide) hlow)
      have hstray : ¬ first < 0xC2 := UInt8.not_lt.2 hlow
      simp [hone, hstray, hhigh, stepTwo, hsecond]
  | three hlow hhigh hsecond hthird =>
      have hone : ¬ first < 0x80 := UInt8.not_lt.2 (UInt8.le_trans (by decide) hlow)
      have hstray : ¬ first < 0xC2 := UInt8.not_lt.2 (UInt8.le_trans (by decide) hlow)
      have htwo : ¬ first < 0xE0 := UInt8.not_lt.2 hlow
      simp [hone, hstray, htwo, hhigh, stepThree, hsecond, hthird]
  | four hlow hhigh hsecond hthird hfourth =>
      have hone : ¬ first < 0x80 := UInt8.not_lt.2 (UInt8.le_trans (by decide) hlow)
      have hstray : ¬ first < 0xC2 := UInt8.not_lt.2 (UInt8.le_trans (by decide) hlow)
      have htwo : ¬ first < 0xE0 := UInt8.not_lt.2 (UInt8.le_trans (by decide) hlow)
      have hthree : ¬ first < 0xF0 := UInt8.not_lt.2 hlow
      simp [hone, hstray, htwo, hthree, hhigh, stepFour, hsecond, hthird, hfourth]

/-- The octets begin with a character in some form, with a number of octets after the first. -/
def Begins (first : UInt8) (rest : List UInt8) (c : Char) (more : Nat) : Prop :=
  ∃ others left code, rest = others ++ left ∧ others.length = more ∧ c = Char.ofNat code ∧
    Form first others code

theorem begins_of_stepTwo {more : Nat} (hlow : 0xC2 ≤ first) (hhigh : first < 0xE0)
    (h : stepTwo first rest = .char c more) : Begins first rest c more := by
  unfold stepTwo at h
  split at h
  · cases h
  next second left =>
  split at h
  · next hsecond =>
      cases h
      exact ⟨[second], left, _, rfl, rfl, rfl, .two hlow hhigh hsecond⟩
  · cases h

theorem begins_of_stepThree {more : Nat} (hlow : 0xE0 ≤ first) (hhigh : first < 0xF0)
    (h : stepThree first rest = .char c more) : Begins first rest c more := by
  unfold stepThree at h
  split at h
  · cases h
  next second rest =>
  split at h
  · cases h
  next hsecond =>
  split at h
  · cases h
  next third left =>
  split at h
  · next hthird =>
      cases h
      have hfollows : mayFollow first second = true := by simpa using hsecond
      exact ⟨[second, third], left, _, rfl, rfl, rfl, .three hlow hhigh hfollows hthird⟩
  · cases h

theorem begins_of_stepFour {more : Nat} (hlow : 0xF0 ≤ first) (hhigh : first < 0xF5)
    (h : stepFour first rest = .char c more) : Begins first rest c more := by
  unfold stepFour at h
  split at h
  · cases h
  next second rest =>
  split at h
  · cases h
  next hsecond =>
  split at h
  · cases h
  next third rest =>
  split at h
  · cases h
  next hthird =>
  split at h
  · cases h
  next fourth left =>
  split at h
  · next hfourth =>
      cases h
      have hfollows : mayFollow first second = true := by simpa using hsecond
      have hcontinues : isContinuation third = true := by simpa using hthird
      exact ⟨[second, third, fourth], left, _, rfl, rfl, rfl,
        .four hlow hhigh hfollows hcontinues hfourth⟩
  · cases h

/-- A character that a step finds is there in one of the forms. -/
theorem begins_of_step {more : Nat} (h : step first rest = .char c more) :
    Begins first rest c more := by
  unfold step at h
  split at h
  · next hone =>
      cases h
      exact ⟨[], rest, _, rfl, rfl, rfl, .one hone⟩
  split at h
  · cases h
  next hlow =>
  split at h
  · next hhigh => exact begins_of_stepTwo (UInt8.not_lt.1 hlow) hhigh h
  next hlow =>
  split at h
  · next hhigh => exact begins_of_stepThree (UInt8.not_lt.1 hlow) hhigh h
  next hlow =>
  split at h
  · next hhigh => exact begins_of_stepFour (UInt8.not_lt.1 hlow) hhigh h
  · cases h

/-! ## Octets of characters -/

theorem toNat_ofNat {code : Nat} (h : code < 0xD800 ∨ 0xDFFF < code ∧ code < 0x110000) :
    (Char.ofNat code).toNat = code := by
  have hvalid : code.isValidChar := h
  rw [Char.ofNat, dif_pos hvalid]
  rfl

theorem eq_ofNat {code : Nat} (h : code = octet.toNat) : UInt8.ofNat code = octet := by
  rw [h, UInt8.ofNat_toNat]

/-- The octets of a character, in terms of the bits that each of them carries. -/
theorem encodeChar_eq (c : Char) :
    String.utf8EncodeChar c =
      if c.toNat ≤ 0x7F then [UInt8.ofNat c.toNat]
      else if c.toNat ≤ 0x7FF then [UInt8.ofNat (c.toNat / 64 % 32 + 192), tail c.toNat]
      else if c.toNat ≤ 0xFFFF then
        [UInt8.ofNat (c.toNat / 4096 % 16 + 224), tail (c.toNat / 64), tail c.toNat]
      else
        [UInt8.ofNat (c.toNat / 262144 % 8 + 240), tail (c.toNat / 4096), tail (c.toNat / 64),
          tail c.toNat] := rfl

theorem payload_lt (octet : UInt8) : payload octet < 64 := Nat.mod_lt _ (by decide)

/-- What is written in some form is a character, and these are its octets. -/
theorem Form.encodeChar {others : List UInt8} {code : Nat} (h : Form first others code) :
    String.utf8EncodeChar (Char.ofNat code) = first :: others := by
  rw [encodeChar_eq]
  cases h with
  | one h =>
      have hlow : first.toNat < 0x80 := UInt8.lt_iff_toNat_lt.1 h
      rw [toNat_ofNat (by omega), if_pos (by omega), eq_ofNat rfl]
  | @two second hlow hhigh hsecond =>
      have hlow : 0xC2 ≤ first.toNat := UInt8.le_iff_toNat_le.1 hlow
      have hhigh : first.toNat < 0xE0 := UInt8.lt_iff_toNat_lt.1 hhigh
      have hbits := payload_lt second
      rw [toNat_ofNat (by omega), if_neg (by omega), if_pos (by omega),
        @eq_ofNat first _ (by omega), ← eq_tail hsecond (by omega)]
  | @three second third hlow hhigh hsecond hthird =>
      have hlow : 0xE0 ≤ first.toNat := UInt8.le_iff_toNat_le.1 hlow
      have hhigh : first.toNat < 0xF0 := UInt8.lt_iff_toNat_lt.1 hhigh
      rcases mayFollow_iff.1 hsecond with ⟨hsecond, hlimits⟩
      have hrange := isContinuation_iff.1 hsecond
      have hpayload : payload second = second.toNat - 0x80 := by
        rw [payload]
        omega
      have hbits := payload_lt third
      -- The second octet keeps the number out of the shorter forms and the surrogates.
      rw [toNat_ofNat (by omega), if_neg (by omega), if_neg (by omega), if_pos (by omega),
        @eq_ofNat first _ (by omega), ← eq_tail hsecond (by omega), ← eq_tail hthird (by omega)]
  | @four second third fourth hlow hhigh hsecond hthird hfourth =>
      have hlow : 0xF0 ≤ first.toNat := UInt8.le_iff_toNat_le.1 hlow
      have hhigh : first.toNat < 0xF5 := UInt8.lt_iff_toNat_lt.1 hhigh
      rcases mayFollow_iff.1 hsecond with ⟨hsecond, hlimits⟩
      have hrange := isContinuation_iff.1 hsecond
      have hpayload : payload second = second.toNat - 0x80 := by
        rw [payload]
        omega
      have hthirdBits := payload_lt third
      have hbits := payload_lt fourth
      rw [toNat_ofNat (by omega), if_neg (by omega), if_neg (by omega), if_neg (by omega),
        @eq_ofNat first _ (by omega), ← eq_tail hsecond (by omega), ← eq_tail hthird (by omega),
        ← eq_tail hfourth (by omega)]

theorem toNat_octet {code : Nat} (h : code < 256) : (UInt8.ofNat code).toNat = code := by
  exact UInt8.toNat_ofNat_of_lt' h

theorem form_one {code : Nat} (hcode : code ≤ 0x7F) : Form (UInt8.ofNat code) [] code := by
  have hfirst := @toNat_octet code (by omega)
  have hlow : UInt8.ofNat code < 0x80 := by
    rw [UInt8.lt_iff_toNat_lt, hfirst]
    exact Nat.lt_succ_of_le hcode
  have hform := Form.one hlow
  rwa [hfirst] at hform

theorem form_two {code : Nat} (hmore : ¬code ≤ 0x7F) (hcode : code ≤ 0x7FF) :
    Form (UInt8.ofNat (code / 64 % 32 + 192)) [tail code] code := by
  have hfirst := @toNat_octet (code / 64 % 32 + 192) (by omega)
  have hlow : 0xC2 ≤ UInt8.ofNat (code / 64 % 32 + 192) := by
    rw [UInt8.le_iff_toNat_le, hfirst]
    show 0xC2 ≤ _
    omega
  have hhigh : UInt8.ofNat (code / 64 % 32 + 192) < 0xE0 := by
    rw [UInt8.lt_iff_toNat_lt, hfirst]
    show _ < 0xE0
    omega
  have hbits : (UInt8.ofNat (code / 64 % 32 + 192)).toNat % 0x20 * 0x40 + payload (tail code) =
      code := by
    rw [hfirst, payload_tail]
    omega
  have hform := Form.two hlow hhigh (isContinuation_tail code)
  rwa [hbits] at hform

/-- Surrogates have no form: the second octet could not follow the first. -/
theorem form_three {code : Nat} (hmore : ¬code ≤ 0x7FF) (hcode : code ≤ 0xFFFF)
    (hvalid : code < 0xD800 ∨ 0xDFFF < code) :
    Form (UInt8.ofNat (code / 4096 % 16 + 224)) [tail (code / 64), tail code] code := by
  have hfirst := @toNat_octet (code / 4096 % 16 + 224) (by omega)
  have hlow : 0xE0 ≤ UInt8.ofNat (code / 4096 % 16 + 224) := by
    rw [UInt8.le_iff_toNat_le, hfirst]
    show 0xE0 ≤ _
    omega
  have hhigh : UInt8.ofNat (code / 4096 % 16 + 224) < 0xF0 := by
    rw [UInt8.lt_iff_toNat_lt, hfirst]
    show _ < 0xF0
    omega
  have hsecond : mayFollow (UInt8.ofNat (code / 4096 % 16 + 224)) (tail (code / 64)) = true := by
    rw [mayFollow_iff, hfirst, toNat_tail]
    exact ⟨isContinuation_tail _, by omega⟩
  have hbits : (UInt8.ofNat (code / 4096 % 16 + 224)).toNat % 0x10 * 0x1000 +
      payload (tail (code / 64)) * 0x40 + payload (tail code) = code := by
    rw [hfirst, payload_tail, payload_tail]
    omega
  have hform := Form.three hlow hhigh hsecond (isContinuation_tail code)
  rwa [hbits] at hform

theorem form_four {code : Nat} (hmore : ¬code ≤ 0xFFFF) (hcode : code < 0x110000) :
    Form (UInt8.ofNat (code / 262144 % 8 + 240)) [tail (code / 4096), tail (code / 64), tail code]
      code := by
  have hfirst := @toNat_octet (code / 262144 % 8 + 240) (by omega)
  have hlow : 0xF0 ≤ UInt8.ofNat (code / 262144 % 8 + 240) := by
    rw [UInt8.le_iff_toNat_le, hfirst]
    show 0xF0 ≤ _
    omega
  have hhigh : UInt8.ofNat (code / 262144 % 8 + 240) < 0xF5 := by
    rw [UInt8.lt_iff_toNat_lt, hfirst]
    show _ < 0xF5
    omega
  have hsecond : mayFollow (UInt8.ofNat (code / 262144 % 8 + 240)) (tail (code / 4096)) =
      true := by
    rw [mayFollow_iff, hfirst, toNat_tail]
    exact ⟨isContinuation_tail _, by omega⟩
  have hbits : (UInt8.ofNat (code / 262144 % 8 + 240)).toNat % 0x08 * 0x40000 +
      payload (tail (code / 4096)) * 0x1000 + payload (tail (code / 64)) * 0x40 +
        payload (tail code) = code := by
    rw [hfirst, payload_tail, payload_tail, payload_tail]
    omega
  have hform := Form.four hlow hhigh hsecond (isContinuation_tail (code / 64))
    (isContinuation_tail code)
  rwa [hbits] at hform

/-- Every character is written in some form. -/
theorem exists_form (c : Char) :
    ∃ first others, String.utf8EncodeChar c = first :: others ∧ Form first others c.toNat := by
  have hvalid : c.toNat < 0xD800 ∨ 0xDFFF < c.toNat ∧ c.toNat < 0x110000 := c.valid
  rw [encodeChar_eq]
  split
  · next hone => exact ⟨_, _, rfl, form_one hone⟩
  next hone =>
  split
  · next htwo => exact ⟨_, _, rfl, form_two hone htwo⟩
  next htwo =>
  split
  · next hthree => exact ⟨_, _, rfl, form_three htwo hthree (hvalid.imp_right And.left)⟩
  · next hthree => exact ⟨_, _, rfl, form_four hthree (by omega)⟩

/-! ## Steps -/

/-- A step finds a character at the start of its octets. -/
theorem exists_step (c : Char) :
    ∃ first others, String.utf8EncodeChar c = first :: others ∧
      ∀ more, step first (others ++ more) = .char c others.length := by
  rcases exists_form c with ⟨first, others, hencode, hform⟩
  refine ⟨first, others, hencode, fun more => ?_⟩
  have hstep := hform.step more
  rwa [Char.ofNat_toNat] at hstep

/-- A character that a step finds has its octets at the start. -/
theorem eq_encodeChar_append_of_step {more : Nat} (h : step first rest = .char c more) :
    first :: rest = String.utf8EncodeChar c ++ rest.drop more := by
  rcases begins_of_step h with ⟨others, left, code, rfl, rfl, rfl, hform⟩
  rw [hform.encodeChar, List.drop_left, List.cons_append]

theorem stepTwo_append (h : stepTwo first rest ≠ .short) (more : List UInt8) :
    stepTwo first (rest ++ more) = stepTwo first rest := by
  cases rest with
  | nil => exact absurd rfl h
  | cons second rest => rfl

theorem stepThree_append (h : stepThree first rest ≠ .short) (more : List UInt8) :
    stepThree first (rest ++ more) = stepThree first rest := by
  rcases rest with _ | ⟨second, _ | ⟨third, rest⟩⟩
  · exact absurd rfl h
  · simp only [stepThree, List.cons_append, List.nil_append] at h ⊢
    split at h
    · next hfollow => simp only [hfollow, if_true]
    · exact absurd rfl h
  · rfl

theorem stepFour_append (h : stepFour first rest ≠ .short) (more : List UInt8) :
    stepFour first (rest ++ more) = stepFour first rest := by
  rcases rest with _ | ⟨second, _ | ⟨third, _ | ⟨fourth, rest⟩⟩⟩
  · exact absurd rfl h
  · simp only [stepFour, List.cons_append, List.nil_append] at h ⊢
    split at h
    · next hfollow => simp only [hfollow, if_true]
    · exact absurd rfl h
  · simp only [stepFour, List.cons_append, List.nil_append] at h ⊢
    split at h
    · next hfollow => simp only [hfollow, if_true]
    · next hfollow =>
        split at h
        · next hthird => simp only [hfollow, hthird, if_true]
        · exact absurd rfl h
  · rfl

/-- What a step has found does not depend on the octets that follow. -/
theorem step_append (h : step first rest ≠ .short) (more : List UInt8) :
    step first (rest ++ more) = step first rest := by
  unfold step at h ⊢
  split
  · rfl
  next hone =>
  split
  · rfl
  next hlow =>
  rw [if_neg hone, if_neg hlow] at h
  split
  · next htwo =>
      rw [if_pos htwo] at h
      exact stepTwo_append h more
  next htwo =>
  rw [if_neg htwo] at h
  split
  · next hthree =>
      rw [if_pos hthree] at h
      exact stepThree_append h more
  next hthree =>
  rw [if_neg hthree] at h
  split
  · next hfour =>
      rw [if_pos hfour] at h
      exact stepFour_append h more
  · rfl

/-! ## Octets of texts -/

/-- The octets of a text. -/
def encode (text : List Char) : List UInt8 := text.flatMap String.utf8EncodeChar

theorem encode_cons (c : Char) (text : List Char) :
    encode (c :: text) = String.utf8EncodeChar c ++ encode text := rfl

theorem encode_append (text more : List Char) :
    encode (text ++ more) = encode text ++ encode more := List.flatMap_append

/-- The characters before the first fault. -/
def readable : List UInt8 → List Char
  | [] => []
  | first :: rest =>
      match step first rest with
      | .char c more => c :: readable (rest.drop more)
      | .short | .bad _ _ => []
  termination_by octets => octets.length
  decreasing_by simp only [List.length_drop, List.length_cons]; omega

theorem readable_encode_append (text : List Char) (more : List UInt8) :
    readable (encode text ++ more) = text ++ readable more := by
  induction text with
  | nil => rfl
  | cons c text ih =>
      rcases exists_step c with ⟨first, others, hencode, hstep⟩
      rw [encode_cons, hencode, List.append_assoc, List.cons_append, readable, hstep]
      simp only [List.drop_left, ih, List.cons_append]

theorem readable_encode (text : List Char) : readable (encode text) = text := by
  have h := readable_encode_append text []
  rwa [List.append_nil, readable, List.append_nil] at h

/-- The octets begin with those of the readable characters. -/
theorem exists_eq_encode_readable_append (octets : List UInt8) :
    ∃ left, octets = encode (readable octets) ++ left := by
  fun_induction readable octets with
  | case1 => exact ⟨[], rfl⟩
  | case2 first rest c more hstep ih =>
      rcases ih with ⟨left, hleft⟩
      refine ⟨left, ?_⟩
      rw [encode_cons, List.append_assoc, ← hleft]
      exact eq_encodeChar_append_of_step hstep
  | case3 first rest => exact ⟨first :: rest, rfl⟩
  | case4 first rest => exact ⟨first :: rest, rfl⟩

/-- No longer text is at the start of the octets than the readable one. -/
theorem prefix_readable_iff {text : List Char} {octets : List UInt8} :
    encode text <+: octets ↔ text <+: readable octets := by
  constructor
  · rintro ⟨left, rfl⟩
    rw [readable_encode_append]
    exact List.prefix_append _ _
  · rintro ⟨more, hmore⟩
    rcases exists_eq_encode_readable_append octets with ⟨left, hleft⟩
    rw [hleft, ← hmore, encode_append, List.append_assoc]
    exact List.prefix_append _ _

/-- A text whose octets begin with those of another one begins with that one. -/
theorem encode_eq_append_iff {text start : List Char} {left : List UInt8} :
    encode text = encode start ++ left ↔ ∃ more, text = start ++ more ∧ left = encode more := by
  constructor
  · intro h
    have hbegins : encode start <+: encode text := ⟨left, h.symm⟩
    rw [prefix_readable_iff, readable_encode] at hbegins
    rcases hbegins with ⟨more, rfl⟩
    rw [encode_append, List.append_cancel_left_eq] at h
    exact ⟨more, rfl, h.symm⟩
  · rintro ⟨more, rfl, rfl⟩
    exact encode_append start more

/-! ## Decoding -/

/-- What a block is decoded to has its octets there, and what is kept over comes after them; the
last block keeps nothing. -/
theorem eq_encode_append_of_decodeFrom {last : Bool} {position : Nat} {done text : List Char}
    {octets kept : List UInt8} (h : decodeFrom last position done octets = .ok (text, kept)) :
    ∃ added, text = done.reverse ++ added ∧ octets = encode added ++ kept ∧
      (last = true → kept = []) := by
  fun_induction decodeFrom last position done octets with
  | case1 =>
      cases h
      exact ⟨[], by simp, rfl, fun _ => rfl⟩
  | case2 position done first rest c more hstep ih =>
      rcases ih h with ⟨added, rfl, hoctets, hkept⟩
      refine ⟨c :: added, by simp, ?_, hkept⟩
      rw [encode_cons, List.append_assoc, ← hoctets]
      exact eq_encodeChar_append_of_step hstep
  | case3 => cases h
  | case4 position done first rest hstep hlast =>
      -- a character that is cut off is kept over, but not by the last block
      cases h
      exact ⟨[], by simp, rfl, fun htrue => absurd htrue hlast⟩
  | case5 position done first rest width reason hstep hcut =>
      cases h
      refine ⟨[], by simp, rfl, fun htrue => ?_⟩
      simp [htrue] at hcut
  | case6 => cases h

theorem eq_encode_append_of_decode {last : Bool} {octets kept : List UInt8} {text : List Char}
    (h : decode last octets = .ok (text, kept)) :
    octets = encode text ++ kept ∧ (last = true → kept = []) := by
  rcases eq_encode_append_of_decodeFrom h with ⟨added, rfl, hoctets, hkept⟩
  exact ⟨hoctets, hkept⟩

/-- The octets of a text are decoded to it. -/
theorem exists_decodeFrom_encode (last : Bool) (position : Nat) (done text : List Char)
    (more : List UInt8) :
    ∃ after, decodeFrom last position done (encode text ++ more) =
      decodeFrom last after (text.reverse ++ done) more := by
  induction text generalizing position done with
  | nil => exact ⟨position, rfl⟩
  | cons c text ih =>
      rcases exists_step c with ⟨first, others, hencode, hstep⟩
      rcases ih (position + others.length + 1) (c :: done) with ⟨after, hafter⟩
      refine ⟨after, ?_⟩
      rw [encode_cons, hencode, List.append_assoc, List.cons_append, decodeFrom, hstep]
      simpa using hafter

/-- Decoding undoes encoding, and nothing else can be decoded. -/
theorem decodeAll_eq_ok_iff {octets : List UInt8} {text : List Char} :
    decodeAll octets = .ok text ↔ octets = encode text := by
  constructor
  · intro h
    unfold decodeAll at h
    cases hdecode : decode true octets with
    | error fault =>
        rw [hdecode] at h
        cases h
    | ok found =>
        rcases found with ⟨found, kept⟩
        rw [hdecode] at h
        cases h
        rcases eq_encode_append_of_decode hdecode with ⟨hoctets, hkept⟩
        rw [hoctets, hkept rfl, List.append_nil]
  · rintro rfl
    rcases exists_decodeFrom_encode true 0 [] text [] with ⟨after, hafter⟩
    rw [List.append_nil, decodeFrom] at hafter
    simp [decodeAll, decode, hafter, Except.map]

/-- A block that cannot be decoded is at fault whatever follows it. -/
theorem ne_encode_of_decodeFrom_error {position : Nat} {done : List Char} {octets : List UInt8}
    {fault : Fault} (h : decodeFrom false position done octets = .error fault)
    (more : List UInt8) (text : List Char) : octets ++ more ≠ encode text := by
  fun_induction decodeFrom false position done octets generalizing text with
  | case1 => cases h
  | case2 position done first rest c width hstep ih =>
      -- the text begins with the character that is found, so the fault is in the text after it
      intro heq
      rw [eq_encodeChar_append_of_step hstep, List.append_assoc] at heq
      have hsingle : String.utf8EncodeChar c = encode [c] := by
        rw [encode_cons, encode, List.flatMap_nil, List.append_nil]
      rw [hsingle] at heq
      rcases encode_eq_append_iff.1 heq.symm with ⟨others, -, hothers⟩
      exact ih h others hothers
  | case3 _ _ _ _ _ hlast => cases hlast
  | case4 => cases h
  | case5 => cases h
  | case6 position done first rest width reason hstep =>
      -- The step that has found a fault would have found the first character of the text.
      intro heq
      cases text with
      | nil => cases heq
      | cons c text =>
          rcases exists_step c with ⟨start, others, hencode, hchar⟩
          rw [encode_cons, hencode, List.cons_append, List.cons_append, List.cons.injEq] at heq
          rcases heq with ⟨rfl, hrest⟩
          have hlonger := step_append (hstep ▸ by simp : step first rest ≠ .short) more
          rw [hrest, hchar, hstep] at hlonger
          cases hlonger

/-! ## Octets of strings -/

/-- Listing the octets of an array from a place on gives what is listed and the octets left. -/
theorem toList_loop_eq (octets : ByteArray) (place : Nat) (done : List UInt8) :
    ByteArray.toList.loop octets place done = done.reverse ++ octets.data.toList.drop place := by
  fun_induction ByteArray.toList.loop octets place done with
  | case1 place done hless ih =>
      have hplace : place < octets.data.toList.length := by
        simpa using hless
      have hget : octets.get! place = octets.data.toList[place] := by
        rw [Array.getElem_toList]
        exact getElem!_pos octets.data place hless
      have hdrop := List.drop_eq_getElem_cons hplace
      rw [ih, hdrop, hget]
      simp
  | case2 place done hmore =>
      have hall : octets.data.toList.length ≤ place := by
        simpa using hmore
      rw [List.drop_eq_nil_of_le hall, List.append_nil]

/-- The octets of a string are those of its characters. -/
theorem toList_toUTF8 (text : String) : text.toUTF8.toList = encode text.toList := by
  have hbytes : text.toUTF8 = (encode text.toList).toByteArray := by
    calc text.toUTF8 = (String.ofList text.toList).toByteArray := by rw [String.ofList_toList]; rfl
      _ = text.toList.utf8Encode := String.toByteArray_ofList
      _ = (encode text.toList).toByteArray := rfl
  rw [hbytes, ByteArray.toList, toList_loop_eq, List.data_toByteArray]
  simp

end Utf8
end Octets
end ReflectiveCalls
