import Gleaner.Proofs.Text.Number
import Gleaner.Proofs.Text.Pieces
import Gleaner.Url.Encode

/-
  The characters of encoded texts, plain texts that decoding does
  not change, and the bytes that are got back from encoded texts.

  Main declarations:
    * `Url.mem_encode_cases`
    * `Url.decode_of_not_mem`
    * `Url.decode_encode`
    * `Utf8.decode?_encode_of_isPlain`
-/

namespace Gleaner

namespace Text

/- A digit of base sixteen in capitals is such a digit. -/
theorem isHexDigit_hexDigitUpper
    {n : Nat}
    (hDigit : n < 16) :
    isHexDigit (hexDigitUpper n) = true := by
  have hAll :
      ∀ d : Fin 16, isHexDigit (hexDigitUpper d) = true := by
    decide
  exact hAll ⟨n, hDigit⟩

/- It is read back. -/
theorem hexValue_hexDigitUpper
    {n : Nat}
    (hDigit : n < 16) :
    hexValue (hexDigitUpper n) = n := by
  have hAll : ∀ d : Fin 16, hexValue (hexDigitUpper d) = d := by
    decide
  exact hAll ⟨n, hDigit⟩

end Text

namespace Utf8

/- Plain characters are bytes of their own. -/
theorem encodeChar_of_isPlain
    {c : Char}
    (hPlain : c.toNat < 128) :
    encodeChar c = [UInt8.ofNat c.toNat] := by
  rw [encodeChar]
  exact if_pos hPlain

/- The bytes of plain characters are read back. -/
theorem decode?_encode_of_isPlain
    {cs : List Char}
    (hPlain : ∀ c ∈ cs, c.toNat < 128) :
    decode? (encode cs) = some cs := by
  have hScan : scan .ready (encode cs) = cs.map some := by
    induction cs with
    | nil => rfl
    | cons c cs ih =>
        have hc := hPlain c List.mem_cons_self
        have hByte : (UInt8.ofNat c.toNat).toNat = c.toNat := by
          rw [UInt8.toNat_ofNat']
          exact Nat.mod_eq_of_lt (Nat.lt_trans hc (by decide))
        have hLead : lead (UInt8.ofNat c.toNat) = .single c.toNat := by
          rw [lead, hByte]
          exact if_pos hc
        have hTail := ih fun d hd => hPlain d (List.mem_cons_of_mem c hd)
        rw [encode, List.flatMap_cons, encodeChar_of_isPlain hc,
          List.singleton_append, scan, hLead]
        dsimp only
        rw [Char.ofNat_toNat, List.map_cons, ← hTail]
        rfl
  rw [decode?, hScan]
  apply mapM_eq_some_of_forall₂
  rw [List.forall₂_map_left_iff, List.forall₂_same]
  exact fun c _ => rfl

end Utf8

namespace Url

variable {isIn : Char → Bool}
variable {cs : List Char}
variable {c : Char}

/-
  An encoded text has characters of the text that are not in the
  set, percent signs and digits.
-/
theorem mem_encode_cases (hc : c ∈ encode isIn cs) :
    (c ∈ cs ∧ isIn c = false) ∨ c = '%' ∨ Text.isHexDigit c = true := by
  rcases List.mem_flatMap.mp hc with ⟨d, hd, hMem⟩
  rw [encodeChar] at hMem
  split at hMem
  · rcases List.mem_flatMap.mp hMem with ⟨b, _, hb⟩
    have hByte : b.toNat < 256 := b.toNat_lt
    simp only [encodeByte, List.mem_cons, List.not_mem_nil,
      or_false] at hb
    rcases hb with rfl | rfl | rfl
    · exact .inr (.inl rfl)
    · exact .inr (.inr (Text.isHexDigit_hexDigitUpper (by omega)))
    · exact .inr (.inr (Text.isHexDigit_hexDigitUpper (by omega)))
  · rename_i hOut
    rw [List.mem_singleton.mp hMem]
    exact .inl ⟨hd, eq_false_of_ne_true hOut⟩

/-
  What holds of percent signs and digits, and of the characters
  of a text that are not in the set, holds of the encoded text.
-/
theorem forall_mem_encode
    {P : Char → Prop}
    (hPercent : P '%')
    (hDigit : ∀ n < 128,
      Text.isHexDigit (Char.ofNat n) = true → P (Char.ofNat n))
    (hOther : ∀ d ∈ cs, isIn d = false → P d) :
    ∀ c ∈ encode isIn cs, P c := by
  intro c hc
  rcases mem_encode_cases hc with ⟨hMem, hOut⟩ | rfl | hHex
  · exact hOther c hMem hOut
  · exact hPercent
  · exact Text.forall_hexDigit hDigit hHex

/- The set has no part in a text with no character of the set. -/
theorem encode_of_not_mem
    (hOut : ∀ c ∈ cs, isIn c = false) :
    encode isIn cs = cs := by
  induction cs with
  | nil => rfl
  | cons c cs ih =>
      have hc := hOut c List.mem_cons_self
      have hTail := ih fun d hd => hOut d (List.mem_cons_of_mem c hd)
      rw [encode] at hTail ⊢
      rw [List.flatMap_cons, hTail, encodeChar, hc]
      rfl

/- A text that is not empty is not encoded as the empty text. -/
theorem encode_ne_nil
    (hSome : cs ≠ []) :
    encode isIn cs ≠ [] := by
  cases cs with
  | nil => exact absurd rfl hSome
  | cons c cs =>
      intro hNone
      rw [encode, List.flatMap_cons, List.append_eq_nil_iff] at hNone
      have hChar := hNone.1
      rw [encodeChar] at hChar
      split at hChar
      · rw [List.flatMap_eq_nil_iff] at hChar
        have hBytes : Utf8.encodeChar c ≠ [] := by
          simp only [Utf8.encodeChar]
          split
          · simp
          · split
            · simp
            · split <;> simp
        rcases List.exists_mem_of_ne_nil _ hBytes with ⟨b, hb⟩
        exact absurd (hChar b hb) (by simp [encodeByte])
      · cases hChar

------------------------------------------------------------
-- Reading Back
------------------------------------------------------------

/- A character that is no percent sign stands for its own bytes. -/
theorem decode_cons
    (hc : c ≠ '%')
    (rest : List Char) :
    decode (c :: rest) = Utf8.encodeChar c ++ decode rest := by
  rw [decode]
  rintro _ _ _ rfl
  exact absurd rfl hc

/- The bytes of a text without percent signs. -/
theorem decode_of_not_mem
    (hPlain : '%' ∉ cs) :
    decode cs = Utf8.encode cs := by
  induction cs with
  | nil => rfl
  | cons c cs ih =>
      rw [List.mem_cons, not_or] at hPlain
      rw [decode_cons (Ne.symm hPlain.1), ih hPlain.2]
      rfl

/- An encoded byte is read back in front of any text. -/
theorem decode_encodeByte_append
    (b : UInt8)
    (rest : List Char) :
    decode (encodeByte b ++ rest) = b :: decode rest := by
  have hByte : b.toNat < 256 := b.toNat_lt
  have hHigh : b.toNat / 16 < 16 := by omega
  have hLow : b.toNat % 16 < 16 := by omega
  have hValue : UInt8.ofNat (b.toNat / 16 * 16 + b.toNat % 16) = b := by
    rw [Nat.div_add_mod', UInt8.ofNat_toNat]
  show decode ('%' :: Text.hexDigitUpper (b.toNat / 16) ::
    Text.hexDigitUpper (b.toNat % 16) :: rest) = _
  rw [decode, Text.isHexDigit_hexDigitUpper hHigh,
    Text.isHexDigit_hexDigitUpper hLow, Text.hexValue_hexDigitUpper hHigh,
    Text.hexValue_hexDigitUpper hLow, hValue]
  rfl

/- Encoded bytes are read back in front of any text. -/
theorem decode_flatMap_encodeByte_append
    (bytes : List UInt8)
    (rest : List Char) :
    decode (bytes.flatMap encodeByte ++ rest) = bytes ++ decode rest := by
  induction bytes with
  | nil => rfl
  | cons b bytes ih =>
      rw [List.flatMap_cons, List.append_assoc,
        decode_encodeByte_append, ih, List.cons_append]

/-
  Decoding an encoded text yields the bytes of the text if percent
  signs are encoded, too.
-/
theorem decode_encode
    (hPercent : isIn '%' = true)
    (cs : List Char) :
    decode (encode isIn cs) = Utf8.encode cs := by
  induction cs with
  | nil => rfl
  | cons c cs ih =>
      have hCons : encode isIn (c :: cs) =
          encodeChar isIn c ++ encode isIn cs :=
        List.flatMap_cons
      have hBytes : Utf8.encode (c :: cs) =
          Utf8.encodeChar c ++ Utf8.encode cs :=
        List.flatMap_cons
      rw [hCons, hBytes, encodeChar]
      split
      · rw [decode_flatMap_encodeByte_append, ih]
      · rename_i hOut
        have hOther : c ≠ '%' := by
          rintro rfl
          exact hOut hPercent
        rw [List.singleton_append, decode_cons hOther, ih]

end Url

end Gleaner
