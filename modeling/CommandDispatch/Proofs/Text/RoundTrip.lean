import CommandDispatch.Proofs.Text.Bytes

/-! # Bytes that are read and written again

Reading loses nothing: the text of some bytes is written as these bytes again, whether or not they
are UTF-8. A character is read from the only bytes that are written for it, so that a longer form, a
surrogate or a number beyond all code points is no character, and a byte that belongs to none is
read as the surrogate that is written as that byte.
-/

namespace CommandDispatch

namespace CodePoint

/-- The surrogate of a byte that is not ASCII stands for that byte. -/
theorem isByteSurrogate_ofByte {b : UInt8} (hb : 0x80 ≤ b.toNat) :
    (ofByte b).isByteSurrogate = true := by
  have hlt := b.toNat_lt
  have hval : (ofByte b).val = 0xDC00 + b.toNat := rfl
  simp only [isByteSurrogate, hval, Bool.and_eq_true, decide_eq_true_eq]
  omega

end CodePoint

namespace Text

open CodePoint

/-- A character is read from the bytes that are written for it. -/
theorem utf8_of_character?_eq_some {b : UInt8} {rest : Bytes} {c : CodePoint} {taken : Nat}
    (hread : character? b rest = some (c, taken)) :
    c.isSurrogate = false ∧ c.utf8 = b :: rest.take taken := by
  obtain ⟨hscalar, hfrom⟩ := readFrom_of_character? hread
  refine ⟨hscalar, ?_⟩
  have hbyte (b : UInt8) {n : Nat} (hn : n = b.toNat) : UInt8.ofNat n = b := by
    rw [hn, UInt8.ofNat_toNat]
  cases hfrom with
  | one hone hvalue => rw [utf8, if_pos (by omega), hbyte b hvalue, List.take_zero]
  | @two b₁ _ _ hlead hlast hx hvalue hleast =>
      have hx := of_continuation?_eq_some hx
      rw [utf8, if_neg (by omega), if_pos (by omega), hbyte b (by omega), hbyte b₁ (by omega)]
      rfl
  | @three b₁ b₂ _ _ _ hlead hlast hx hy hvalue hleast =>
      have hx := of_continuation?_eq_some hx
      have hy := of_continuation?_eq_some hy
      rw [utf8, if_neg (by omega), if_neg (by omega), if_pos (by omega), hbyte b (by omega),
        hbyte b₁ (by omega), hbyte b₂ (by omega)]
      rfl
  | @four b₁ b₂ b₃ _ _ _ _ hlead hlast hx hy hz hvalue hleast =>
      have hx := of_continuation?_eq_some hx
      have hy := of_continuation?_eq_some hy
      have hz := of_continuation?_eq_some hz
      rw [utf8, if_neg (by omega), if_neg (by omega), if_neg (by omega), hbyte b (by omega),
        hbyte b₁ (by omega), hbyte b₂ (by omega), hbyte b₃ (by omega)]
      rfl

theorem utf8?_ofUtf8After (skip : Nat) (bytes : Bytes) :
    (ofUtf8After skip bytes).utf8? = some (bytes.drop skip) := by
  induction skip, bytes using ofUtf8After.induct with
  | case1 skip => cases skip <;> rfl
  | case2 skip b rest ih => exact ih
  | case3 b rest c taken hread ih =>
      obtain ⟨hscalar, hutf8⟩ := utf8_of_character?_eq_some hread
      simp [ofUtf8After, hread, utf8?, ih, isByteSurrogate_eq_false hscalar, hscalar, hutf8,
        List.take_append_drop]
  | case4 b rest hread ih =>
      have hb := le_of_character?_eq_none hread
      have hbyte : UInt8.ofNat ((ofByte b).val - 0xDC00) = b := by
        simp [ofByte]
      simp [ofUtf8After, hread, utf8?, ih, isByteSurrogate_ofByte hb, hbyte]

/-- The text of some bytes is written as these bytes again. -/
theorem utf8?_ofUtf8 (bytes : Bytes) : (ofUtf8 bytes).utf8? = some bytes :=
  utf8?_ofUtf8After 0 bytes

end Text

end CommandDispatch
