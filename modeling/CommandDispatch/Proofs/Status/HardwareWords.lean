import Mathlib.Data.Int.Bitwise
import Mathlib.Data.Int.ModEq
import CommandDispatch.Status.Hardware

/-! # The fields of a hardware word

The six fields of a completion status word lie side by side and fill its sixteen bits. Put together
again they give the word as far as these bits go, and any numbers that fit into the fields are the
fields of the word that they are put together to. This holds of all integers: a negative one has the
bits of its two's complement.
-/

namespace CommandDispatch

namespace HardwareStatus

/-! ## Bits of an integer -/

/-- A mask of low bits keeps the remainder, also of a negative integer. -/
theorem land_mask (n : Int) (width : Nat) : n.land (2 ^ width - 1 : Nat) = n % 2 ^ width := by
  have hpos : 0 < 2 ^ width := Nat.two_pow_pos width
  cases n with
  | ofNat m =>
      calc (Int.ofNat m).land (2 ^ width - 1 : Nat)
          = ((m &&& (2 ^ width - 1) : Nat) : Int) := rfl
        _ = ((m % 2 ^ width : Nat) : Int) := by rw [Nat.and_two_pow_sub_one_eq_mod]
        _ = Int.ofNat m % 2 ^ width := by simp
  | negSucc m =>
      have hlt : m % 2 ^ width < 2 ^ width := Nat.mod_lt m hpos
      -- the bits that `m` lacks are set
      have hclear : Nat.ldiff (2 ^ width - 1) m = 2 ^ width - (m % 2 ^ width + 1) := by
        refine Nat.eq_of_testBit_eq fun i => ?_
        rw [Nat.testBit_ldiff, Nat.testBit_two_pow_sub_one, Nat.testBit_two_pow_sub_succ hlt,
          Nat.testBit_mod_two_pow]
        by_cases hi : i < width <;> simp [hi]
      calc (Int.negSucc m).land (2 ^ width - 1 : Nat)
          = (Nat.ldiff (2 ^ width - 1) m : Int) := rfl
        _ = 2 ^ width - 1 - m % 2 ^ width := by
            rw [hclear, Nat.cast_sub hlt]
            push_cast
            omega
        _ = Int.negSucc m % 2 ^ width := (Int.negSucc_emod m (Int.pow_pos (by decide))).symm

/-- The bits of an integer from `start` on, `width` of them. -/
def bits (start width : Nat) (word : Int) : Int := (word >>> start).land (2 ^ width - 1 : Nat)

theorem bits_eq (start width : Nat) (word : Int) :
    bits start width word = word / 2 ^ start % 2 ^ width := by
  rw [bits, land_mask, Int.shiftRight_eq_div_pow]
  push_cast
  rfl

/-- The fields as shifts and masks cut them out of the sixteen low bits of an integer. -/
def cut (word : Int) : HardwareStatus :=
  let low := bits 0 16 word
  { statusCode := bits 0 8 low
    statusCodeType := bits 8 3 low
    retryDelay := bits 11 2 low
    more := bits 13 1 low
    doNotRetry := bits 14 1 low
    reserved := bits 15 1 low }

theorem ofWord_eq_cut (word : Int) : ofWord word = cut word := by
  simp only [ofWord, cut, bits_eq, mk.injEq]
  omega

/-! ## Putting fields together -/

/-- Numbers that the fields of a word have room for. -/
structure Fits (s : HardwareStatus) : Prop where
  statusCode : 0 ≤ s.statusCode ∧ s.statusCode < 2 ^ 8
  statusCodeType : 0 ≤ s.statusCodeType ∧ s.statusCodeType < 2 ^ 3
  retryDelay : 0 ≤ s.retryDelay ∧ s.retryDelay < 2 ^ 2
  more : s.more = 0 ∨ s.more = 1
  doNotRetry : s.doNotRetry = 0 ∨ s.doNotRetry = 1
  reserved : s.reserved = 0 ∨ s.reserved = 1

/-- The word that fields are put together to, each at its place. -/
def toWord (s : HardwareStatus) : Int :=
  s.statusCode + 2 ^ 8 * s.statusCodeType + 2 ^ 11 * s.retryDelay + 2 ^ 13 * s.more +
    2 ^ 14 * s.doNotRetry + 2 ^ 15 * s.reserved

theorem fits_ofWord (word : Int) : (ofWord word).Fits := by
  constructor <;> simp only [ofWord] <;> omega

/-- No bit of the sixteen is lost, and none is counted twice. -/
theorem toWord_ofWord (word : Int) : (ofWord word).toWord = word % 2 ^ 16 := by
  simp only [toWord, ofWord]
  omega

theorem ofWord_toWord {s : HardwareStatus} (hfits : s.Fits) : ofWord s.toWord = s := by
  obtain ⟨hcode, htype, hdelay, hmore, hretry, hreserved⟩ := hfits
  obtain ⟨code, type, delay, more, retry, reserved⟩ := s
  simp only [ofWord, toWord, mk.injEq] at *
  omega

/-- The bits above the sixteenth do not count. -/
theorem ofWord_congr {v w : Int} (hsame : v ≡ w [ZMOD 2 ^ 16]) : ofWord v = ofWord w := by
  have hword (word : Int) : ofWord word = ofWord (word % 2 ^ 16) := by
    simp only [ofWord, mk.injEq]
    omega
  rw [hword v, hword w, hsame.eq]

/-- A word splits into its fields without loss. The fields of an integer are those that shifts and
masks cut out of its two's complement; each fits into its place, and together they are the integer
up to multiples of two to the sixteenth. Six numbers are the fields of the word that they are put
together to exactly if they fit. So two integers have the same fields exactly if they are
congruent. -/
theorem ofWord_lossless :
    (∀ word, ofWord word = cut word ∧ (ofWord word).Fits ∧
      (ofWord word).toWord = word % 2 ^ 16) ∧
    (∀ s : HardwareStatus, ofWord s.toWord = s ↔ s.Fits) ∧
    ∀ v w : Int, ofWord v = ofWord w ↔ v ≡ w [ZMOD 2 ^ 16] := by
  refine ⟨fun word => ⟨ofWord_eq_cut word, fits_ofWord word, toWord_ofWord word⟩,
    fun s => ⟨fun hsame => ?_, ofWord_toWord⟩, fun v w => ⟨fun hsame => ?_, ofWord_congr⟩⟩
  · rw [← hsame]
    exact fits_ofWord _
  · calc v % 2 ^ 16 = (ofWord v).toWord := (toWord_ofWord v).symm
      _ = (ofWord w).toWord := congrArg toWord hsame
      _ = w % 2 ^ 16 := toWord_ofWord w

/-- The word that is all ones, below zero, fills every field. -/
example : ofWord (-1) = ⟨255, 7, 3, 1, 1, 1⟩ := by decide

end HardwareStatus

end CommandDispatch
