import CommandDispatch.CommandLine

/-! # Texts and their bytes

A text without surrogates is read back from its bytes as it was. ASCII stands for itself on both
sides: a text has as many of an ASCII code point as its bytes have of that byte, whichever way it is
written and whether or not the bytes are UTF-8. So what separates the lines of a file can be counted
in its bytes or in its text, and bytes that are joined with ASCII are read one by one.
-/

namespace CommandDispatch

namespace CodePoint

/-- Beyond ASCII no byte of a code point is ASCII. -/
theorem le_of_mem_utf8 {c : CodePoint} (hc : 0x80 ≤ c.val) {b : UInt8} (hb : b ∈ c.utf8) :
    0x80 ≤ b.toNat := by
  have hlt := c.isLt
  have htoNat {n : Nat} (hn : n < 256) : (UInt8.ofNat n).toNat = n :=
    UInt8.toNat_ofNat_of_lt' hn
  unfold utf8 at hb
  rw [if_neg (by omega)] at hb
  split at hb
  · simp only [List.mem_cons, List.not_mem_nil, or_false] at hb
    rcases hb with rfl | rfl <;> rw [htoNat (by omega)] <;> omega
  · split at hb
    · simp only [List.mem_cons, List.not_mem_nil, or_false] at hb
      rcases hb with rfl | rfl | rfl <;> rw [htoNat (by omega)] <;> omega
    · simp only [List.mem_cons, List.not_mem_nil, or_false] at hb
      rcases hb with rfl | rfl | rfl | rfl <;> rw [htoNat (by omega)] <;> omega

/-- The byte of an ASCII code point. -/
def asciiByte (a : CodePoint) : UInt8 := UInt8.ofNat a.val

variable {a : CodePoint}

theorem toNat_asciiByte (ha : a.val < 0x80) : a.asciiByte.toNat = a.val :=
  UInt8.toNat_ofNat_of_lt' (show a.val < 256 by omega)

theorem ne_asciiByte (ha : a.val < 0x80) {b : UInt8} (hb : 0x80 ≤ b.toNat) : b ≠ a.asciiByte := by
  rintro rfl
  rw [toNat_asciiByte ha] at hb
  omega

theorem asciiByte_inj {c : CodePoint} (ha : a.val < 0x80) (hc : c.val < 0x80) :
    c.asciiByte = a.asciiByte ↔ c = a := by
  rw [← UInt8.toNat_inj, toNat_asciiByte hc, toNat_asciiByte ha, Fin.val_inj]

theorem count_utf8 (ha : a.val < 0x80) (c : CodePoint) :
    c.utf8.count a.asciiByte = [c].count a := by
  by_cases hc : c.val < 0x80
  · have hutf8 : c.utf8 = [c.asciiByte] := if_pos hc
    simp only [hutf8, List.count_singleton, beq_iff_eq, asciiByte_inj ha hc]
  · have hne : a ∉ [c] := by
      rw [List.mem_singleton]
      rintro rfl
      exact hc ha
    rw [List.count_eq_zero.2 hne, List.count_eq_zero]
    intro hmem
    exact ne_asciiByte ha (le_of_mem_utf8 (Nat.le_of_not_lt hc) hmem) rfl

/-- What is no surrogate stands for no byte. -/
theorem isByteSurrogate_eq_false {c : CodePoint} (hc : c.isSurrogate = false) :
    c.isByteSurrogate = false := by
  simp only [isSurrogate, isByteSurrogate, Bool.and_eq_false_iff, decide_eq_false_iff_not] at hc ⊢
  omega

/-- No character is a surrogate. -/
theorem isSurrogate_ofChar (c : Char) : (ofChar c).isSurrogate = false := by
  have hvalid := c.valid
  simp only [UInt32.isValidChar, Nat.isValidChar] at hvalid
  rw [Bool.eq_false_iff]
  intro hsurrogate
  simp only [isSurrogate, Bool.and_eq_true, decide_eq_true_eq] at hsurrogate
  have hval : (ofChar c).val = c.val.toNat := rfl
  omega

end CodePoint

namespace Text

open CodePoint

/-! ## Reading back -/

theorem continuation?_ofNat {n : Nat} (hn : n < 64) :
    continuation? (UInt8.ofNat (0x80 + n)) = some n := by
  have htoNat := UInt8.toNat_ofNat_of_lt' (show 0x80 + n < 256 by omega)
  simp only [continuation?, htoNat]
  rw [if_pos (by omega), Nat.add_sub_cancel_left]

theorem scalar?_val {c : CodePoint} (hc : c.isSurrogate = false) {least : Nat}
    (hleast : least ≤ c.val) (length : Nat) : scalar? least c.val length = some (c, length) := by
  simp only [isSurrogate, Bool.and_eq_false_iff, decide_eq_false_iff_not] at hc
  unfold scalar?
  rw [dif_pos c.isLt, if_pos (by omega)]

/-- A character is read from the front of its bytes, whatever follows them. -/
theorem character?_utf8 {c : CodePoint} (hc : c.isSurrogate = false) (rest : Bytes) :
    ∃ b tail, c.utf8 = b :: tail ∧ character? b (tail ++ rest) = some (c, tail.length) := by
  have hlt := c.isLt
  have htoNat {n : Nat} (hn : n < 256) : (UInt8.ofNat n).toNat = n :=
    UInt8.toNat_ofNat_of_lt' hn
  have hcontinues (n : Nat) := continuation?_ofNat (Nat.mod_lt n (show 0 < 64 by decide))
  unfold utf8
  -- one case for each length; the first byte tells it
  split
  next hone =>
    refine ⟨_, _, rfl, ?_⟩
    simp only [character?, htoNat (show c.val < 256 by omega), if_pos hone]
    exact scalar?_val hc (Nat.zero_le _) 0
  next =>
    split
    next =>
      refine ⟨_, _, rfl, ?_⟩
      have hvalue : (0xC0 + c.val / 64 - 0xC0) * 64 + c.val % 64 = c.val := by omega
      simp only [character?, htoNat (show 0xC0 + c.val / 64 < 256 by omega)]
      rw [if_neg (by omega), if_neg (by omega), if_pos (by omega)]
      simp only [List.cons_append, hcontinues, Option.bind_eq_bind, Option.bind_some, hvalue]
      exact scalar?_val hc (by omega) 1
    next =>
      split
      next =>
        refine ⟨_, _, rfl, ?_⟩
        have hvalue : ((0xE0 + c.val / 4096 - 0xE0) * 64 + c.val / 64 % 64) * 64 + c.val % 64 =
            c.val := by omega
        simp only [character?, htoNat (show 0xE0 + c.val / 4096 < 256 by omega)]
        rw [if_neg (by omega), if_neg (by omega), if_neg (by omega), if_pos (by omega)]
        simp only [List.cons_append, hcontinues, Option.bind_eq_bind, Option.bind_some, hvalue]
        exact scalar?_val hc (by omega) 2
      next =>
        refine ⟨_, _, rfl, ?_⟩
        have hvalue : (((0xF0 + c.val / 262144 - 0xF0) * 64 + c.val / 4096 % 64) * 64 +
            c.val / 64 % 64) * 64 + c.val % 64 = c.val := by omega
        simp only [character?, htoNat (show 0xF0 + c.val / 262144 < 256 by omega)]
        rw [if_neg (by omega), if_neg (by omega), if_neg (by omega), if_neg (by omega),
          if_pos (by omega)]
        simp only [List.cons_append, hcontinues, Option.bind_eq_bind, Option.bind_some, hvalue]
        exact scalar?_val hc (by omega) 3

theorem ofUtf8After_append (taken rest : Bytes) :
    ofUtf8After taken.length (taken ++ rest) = ofUtf8 rest := by
  induction taken with
  | nil => rfl
  | cons _ _ ih => exact ih

theorem ofUtf8_utf8_append {c : CodePoint} (hc : c.isSurrogate = false) (rest : Bytes) :
    ofUtf8 (c.utf8 ++ rest) = c :: ofUtf8 rest := by
  obtain ⟨b, tail, hutf8, hcharacter⟩ := character?_utf8 hc rest
  simp only [hutf8, List.cons_append, ofUtf8, ofUtf8After, hcharacter]
  rw [ofUtf8After_append, ofUtf8]

/-- A text without surrogates is read back from its bytes. -/
theorem ofUtf8_flatMap_utf8 {t : Text} (ht : ∀ c ∈ t, c.isSurrogate = false) :
    ofUtf8 (t.flatMap utf8) = t := by
  induction t with
  | nil => rfl
  | cons c rest ih =>
      rw [List.forall_mem_cons] at ht
      rw [List.flatMap_cons, ofUtf8_utf8_append ht.1, ih ht.2]

/-! ## Escaped texts -/

/-- Written out, surrogates leave no surrogate. -/
theorem isSurrogate_of_mem_surrogatesEscaped {t : Text} {c : CodePoint}
    (hc : c ∈ t.surrogatesEscaped) : c.isSurrogate = false := by
  have hofString {s : String} (hmem : c ∈ ofString s) : c.isSurrogate = false := by
    obtain ⟨char, -, rfl⟩ := List.mem_map.1 hmem
    exact isSurrogate_ofChar char
  obtain ⟨source, -, hc⟩ := List.mem_flatMap.1 hc
  unfold surrogateEscaped at hc
  split at hc
  · rcases List.mem_append.1 hc with hc | hc
    · exact hofString hc
    · rcases List.mem_append.1 hc with hc | hc
      · rw [(List.mem_replicate.1 hc).2]
        exact isSurrogate_ofChar '0'
      · obtain ⟨char, -, rfl⟩ := List.mem_map.1 hc
        exact isSurrogate_ofChar char
  · rw [List.mem_singleton.1 hc]
    simpa using ‹¬ source.isSurrogate = true›

/-- The escaped bytes of a text are read back as the text with its surrogates written out. -/
theorem ofUtf8_utf8Escaped (t : Text) : ofUtf8 t.utf8Escaped = t.surrogatesEscaped :=
  ofUtf8_flatMap_utf8 fun _ hc => isSurrogate_of_mem_surrogatesEscaped hc

/-! ## Counting ASCII -/

variable {a : CodePoint}

theorem count_flatMap_utf8 (ha : a.val < 0x80) (t : Text) :
    (t.flatMap utf8).count a.asciiByte = t.count a := by
  induction t with
  | nil => rfl
  | cons c rest ih =>
      rw [List.flatMap_cons, List.count_append, ih, count_utf8 ha, ← List.count_append]
      rfl

/-! ## Characters that were read -/

/-- A continuation byte carries six bits. -/
theorem of_continuation?_eq_some {b : UInt8} {n : Nat} (hb : continuation? b = some n) :
    n < 64 ∧ b.toNat = 0x80 + n := by
  unfold continuation? at hb
  split at hb
  next hrange =>
    obtain rfl := Option.some.inj hb
    omega
  next => cases hb

/-- What is read as a number is a code point of its own, and no surrogate. -/
theorem scalar?_eq_some {least value length taken : Nat} {c : CodePoint}
    (hscalar : scalar? least value length = some (c, taken)) :
    c.isSurrogate = false ∧ c.val = value ∧ least ≤ value ∧ taken = length := by
  unfold scalar? at hscalar
  split at hscalar
  · split at hscalar
    next hrange =>
      obtain ⟨rfl, rfl⟩ := Prod.mk.inj (Option.some.inj hscalar)
      refine ⟨?_, rfl, hrange.1, rfl⟩
      simp only [isSurrogate, Bool.and_eq_false_iff, decide_eq_false_iff_not]
      omega
    next => cases hscalar
  · cases hscalar

/-- The ways in which a character is read: its first byte tells how many bytes follow, and each of
these carries six bits. No character is read from more bytes than it needs. -/
inductive ReadFrom (c : CodePoint) (b : UInt8) : Bytes → Nat → Prop
  | one {rest : Bytes} : b.toNat < 0x80 → c.val = b.toNat → ReadFrom c b rest 0
  | two {b₁ : UInt8} {rest : Bytes} {x : Nat} : 0xC0 ≤ b.toNat → b.toNat < 0xE0 →
      continuation? b₁ = some x → c.val = (b.toNat - 0xC0) * 64 + x → 0x80 ≤ c.val →
      ReadFrom c b (b₁ :: rest) 1
  | three {b₁ b₂ : UInt8} {rest : Bytes} {x y : Nat} : 0xE0 ≤ b.toNat → b.toNat < 0xF0 →
      continuation? b₁ = some x → continuation? b₂ = some y →
      c.val = ((b.toNat - 0xE0) * 64 + x) * 64 + y → 0x800 ≤ c.val →
      ReadFrom c b (b₁ :: b₂ :: rest) 2
  | four {b₁ b₂ b₃ : UInt8} {rest : Bytes} {x y z : Nat} : 0xF0 ≤ b.toNat → b.toNat < 0xF8 →
      continuation? b₁ = some x → continuation? b₂ = some y → continuation? b₃ = some z →
      c.val = (((b.toNat - 0xF0) * 64 + x) * 64 + y) * 64 + z → 0x10000 ≤ c.val →
      ReadFrom c b (b₁ :: b₂ :: b₃ :: rest) 3

theorem readFrom_of_character? {b : UInt8} {rest : Bytes} {taken : Nat} {c : CodePoint}
    (hread : character? b rest = some (c, taken)) :
    c.isSurrogate = false ∧ ReadFrom c b rest taken := by
  unfold character? at hread
  simp only [Option.bind_eq_bind] at hread
  -- one case for each length, and for the bytes it asks for
  split at hread
  next hone =>
    obtain ⟨hscalar, hvalue, -, rfl⟩ := scalar?_eq_some hread
    exact ⟨hscalar, .one hone hvalue⟩
  next =>
    split at hread
    next => cases hread
    next hlead =>
      split at hread
      next htwo =>
        split at hread
        next =>
          obtain ⟨x, hx, hread⟩ := Option.bind_eq_some_iff.1 hread
          obtain ⟨hscalar, hvalue, hleast, rfl⟩ := scalar?_eq_some hread
          exact ⟨hscalar, .two (by omega) htwo hx hvalue (by omega)⟩
        next => cases hread
      next htwo =>
        split at hread
        next hthree =>
          split at hread
          next =>
            obtain ⟨x, hx, hread⟩ := Option.bind_eq_some_iff.1 hread
            obtain ⟨y, hy, hread⟩ := Option.bind_eq_some_iff.1 hread
            obtain ⟨hscalar, hvalue, hleast, rfl⟩ := scalar?_eq_some hread
            exact ⟨hscalar, .three (by omega) hthree hx hy hvalue (by omega)⟩
          next => cases hread
        next hthree =>
          split at hread
          next hfour =>
            split at hread
            next =>
              obtain ⟨x, hx, hread⟩ := Option.bind_eq_some_iff.1 hread
              obtain ⟨y, hy, hread⟩ := Option.bind_eq_some_iff.1 hread
              obtain ⟨z, hz, hread⟩ := Option.bind_eq_some_iff.1 hread
              obtain ⟨hscalar, hvalue, hleast, rfl⟩ := scalar?_eq_some hread
              exact ⟨hscalar, .four (by omega) hfour hx hy hz hvalue (by omega)⟩
            next => cases hread
          next => cases hread

/-- What is read as one character is an ASCII byte, or some bytes that are not ASCII. -/
theorem character?_eq_some {b : UInt8} {rest : Bytes} {taken : Nat} {c : CodePoint}
    (hread : character? b rest = some (c, taken)) :
    (c.val < 0x80 ∧ b = c.asciiByte ∧ taken = 0) ∨
      (0x80 ≤ c.val ∧ 0x80 ≤ b.toNat ∧ ∀ x ∈ rest.take taken, 0x80 ≤ x.toNat) := by
  have hcontinues {b : UInt8} {n : Nat} (hb : continuation? b = some n) : 0x80 ≤ b.toNat := by
    rw [(of_continuation?_eq_some hb).2]
    omega
  cases (readFrom_of_character? hread).2 with
  | one hone hvalue => exact .inl ⟨by omega, by rw [asciiByte, hvalue, UInt8.ofNat_toNat], rfl⟩
  | two hlead _ hx _ hleast => exact .inr ⟨hleast, by omega, by simpa using hcontinues hx⟩
  | three hlead _ hx hy _ hleast =>
      exact .inr ⟨by omega, by omega, by simpa using ⟨hcontinues hx, hcontinues hy⟩⟩
  | four hlead _ hx hy hz _ hleast =>
      exact .inr ⟨by omega, by omega, by simpa using ⟨hcontinues hx, hcontinues hy, hcontinues hz⟩⟩

/-- An ASCII byte is a character, so a byte that belongs to none is beyond ASCII. -/
theorem le_of_character?_eq_none {b : UInt8} {rest : Bytes} (hread : character? b rest = none) :
    0x80 ≤ b.toNat := by
  apply Nat.le_of_not_lt
  intro hlt
  obtain ⟨c, hc⟩ : ∃ c : CodePoint, c.val = b.toNat := ⟨⟨b.toNat, by omega⟩, rfl⟩
  have hscalar : c.isSurrogate = false := by simp [isSurrogate]; omega
  unfold character? at hread
  rw [if_pos hlt, ← hc, scalar?_val hscalar (Nat.zero_le _)] at hread
  cases hread

theorem count_ofUtf8After (ha : a.val < 0x80) (skip : Nat) (bytes : Bytes) :
    (ofUtf8After skip bytes).count a = (bytes.drop skip).count a.asciiByte := by
  have hother {c : CodePoint} (hc : 0x80 ≤ c.val) : c ≠ a := by
    rintro rfl
    omega
  induction skip, bytes using ofUtf8After.induct with
  | case1 skip => cases skip <;> rfl
  | case2 skip b rest ih => exact ih
  | case3 b rest c taken hread ih =>
      rw [ofUtf8After, hread]
      dsimp only
      rw [List.drop_zero]
      rcases character?_eq_some hread with ⟨hc, rfl, rfl⟩ | ⟨hc, hb, htaken⟩
      · rw [List.count_cons, ih, List.drop_zero, List.count_cons]
        simp only [beq_iff_eq, asciiByte_inj ha hc]
      · rw [List.count_cons_of_ne (hother hc), List.count_cons_of_ne (ne_asciiByte ha hb), ih]
        -- the bytes behind the first one are not ASCII either
        have hnone : (rest.take taken).count a.asciiByte = 0 := by
          rw [List.count_eq_zero]
          intro hmem
          exact ne_asciiByte ha (htaken _ hmem) rfl
        have hsplit := congrArg (List.count a.asciiByte) (List.take_append_drop taken rest)
        rwa [List.count_append, hnone, Nat.zero_add] at hsplit
  | case4 b rest hread ih =>
      rw [ofUtf8After, hread]
      dsimp only
      have hb := le_of_character?_eq_none hread
      have hc : 0x80 ≤ (ofByte b).val := by
        simp only [ofByte]
        omega
      rw [List.count_cons_of_ne (hother hc), List.drop_zero,
        List.count_cons_of_ne (ne_asciiByte ha hb), ih, List.drop_zero]

/-- The text of some bytes has an ASCII code point as often as they have its byte. -/
theorem count_ofUtf8 (ha : a.val < 0x80) (bytes : Bytes) :
    (ofUtf8 bytes).count a = bytes.count a.asciiByte :=
  count_ofUtf8After ha 0 bytes

/-! ## Separators -/

/-- What stands behind an ASCII byte takes no part in the character before it. -/
theorem character?_append_cons {b sep : UInt8} (hsep : sep.toNat < 0x80) (rest more : Bytes) :
    character? b (rest ++ sep :: more) = character? b rest := by
  have hends : continuation? sep = none := if_neg (by omega)
  -- a character takes at most three more bytes, so four lengths of the rest matter
  unfold character?
  rcases rest with _ | ⟨b₁, _ | ⟨b₂, _ | ⟨b₃, tail⟩⟩⟩
  · cases more with
    | nil => simp [hends]
    | cons _ more => cases more <;> simp [hends]
  · cases more <;> simp [hends]
  · simp [hends]
  · simp only [List.cons_append]

/-- A character is made of bytes that are there. -/
theorem taken_le_of_character? {b : UInt8} {rest : Bytes} {c : CodePoint} {taken : Nat}
    (hread : character? b rest = some (c, taken)) : taken ≤ rest.length := by
  cases (readFrom_of_character? hread).2 <;> simp

theorem ofUtf8After_append_cons {sep : UInt8} (hsep : sep.toNat < 0x80) {skip : Nat}
    {bytes : Bytes} (hskip : skip ≤ bytes.length) (more : Bytes) :
    ofUtf8After skip (bytes ++ sep :: more) = ofUtf8After skip bytes ++ ofUtf8 (sep :: more) := by
  induction skip, bytes using ofUtf8After.induct with
  | case1 skip =>
      obtain rfl : skip = 0 := Nat.le_zero.1 hskip
      rfl
  | case2 skip b rest ih => exact ih (Nat.le_of_succ_le_succ hskip)
  | case3 b rest c taken hread ih =>
      have hsame := (character?_append_cons (b := b) hsep rest more).trans hread
      simp [ofUtf8After, hread, hsame, ih (taken_le_of_character? hread)]
  | case4 b rest hread ih =>
      have hsame := (character?_append_cons (b := b) hsep rest more).trans hread
      simp [ofUtf8After, hread, hsame, ih (Nat.zero_le _)]

/-- Reading goes on behind a separator as if nothing stood before it, even if what stands there
breaks off in the middle of a character. -/
theorem ofUtf8_append_cons {a : CodePoint} (ha : a.val < 0x80) (bytes more : Bytes) :
    ofUtf8 (bytes ++ a.asciiByte :: more) = ofUtf8 bytes ++ a :: ofUtf8 more := by
  have hsep : a.asciiByte.toNat < 0x80 := by rwa [toNat_asciiByte ha]
  have hscalar : a.isSurrogate = false := by simp [isSurrogate]; omega
  have hutf8 : a.utf8 = [a.asciiByte] := if_pos ha
  have hread := ofUtf8_utf8_append hscalar more
  rw [hutf8] at hread
  rw [ofUtf8, ofUtf8After_append_cons hsep (Nat.zero_le _) more, ← ofUtf8]
  exact congrArg (ofUtf8 bytes ++ ·) hread

/-- Bytes that a separator joins are read one by one. -/
theorem ofUtf8_intercalate {a : CodePoint} (ha : a.val < 0x80) (pieces : List Bytes) :
    ofUtf8 ([a.asciiByte].intercalate pieces) = joinWith [a] (pieces.map ofUtf8) := by
  unfold joinWith
  induction pieces with
  | nil => rfl
  | cons piece rest ih =>
      cases rest with
      | nil => simp
      | cons next rest =>
          simp only [List.intercalate_cons_cons, List.map_cons, List.append_assoc,
            List.singleton_append] at ih ⊢
          rw [ofUtf8_append_cons ha, ih]

end Text

end CommandDispatch
