import Mathlib.Algebra.Ring.Nat
import CommandDispatch.Failure

/-! # Numbers as texts

A number is written with the digits of its base and with nothing else, so that it ends before any
other code point. Zeros in front do not change what is read, and what is read is the number: in one
base, and with one least number of digits, different numbers are written differently. With no least
number of digits there is no zero in front of others. A number in base ten can be written as long as
its digits are not too many.
-/

namespace CommandDispatch

namespace CodePoint

/-- The number that a digit stands for; the letters from `a` on follow the nine. -/
def digitValue (c : CodePoint) : Nat := if c.val < 0x61 then c.val - 0x30 else c.val - 0x57

end CodePoint

namespace Text

open CodePoint

/-- The digits of a number in a base. -/
def digits (base n : Nat) : Text := (Nat.toDigits base n).map ofChar

/-- The number that digits in a base stand for, behind those of another number. -/
def digitsValue (base : Nat) (t : Text) (before : Nat) : Nat :=
  t.foldl (fun n c => base * n + c.digitValue) before

variable {base : Nat}

/-- The last digit of a number follows those of the others. -/
theorem digits_eq (hbase : 1 < base) (n : Nat) :
    digits base n = (if n < base then [] else digits base (n / base)) ++
      [ofChar (Nat.digitChar (n % base))] := by
  unfold digits
  rw [Nat.toDigits_eq_if hbase]
  split
  next hlt => rw [Nat.mod_eq_of_lt hlt, List.nil_append, List.map_singleton]
  next => rw [List.map_append, List.map_singleton]

/-- A number is written with the digits of its base. -/
theorem exists_digit_of_mem_digits (hbase : 1 < base) {n : Nat} {c : CodePoint}
    (hc : c ∈ digits base n) : ∃ digit < base, c = ofChar (Nat.digitChar digit) := by
  induction n using Nat.strongRecOn with
  | ind n ih =>
      rw [digits_eq hbase] at hc
      rcases List.mem_append.1 hc with hc | hc
      · split at hc
        next => cases hc
        next hge => exact ih (n / base) (Nat.div_lt_self (by omega) hbase) hc
      · exact ⟨n % base, Nat.mod_lt n (by omega), List.mem_singleton.1 hc⟩

/-- What is no digit is not among those of a number. -/
theorem not_mem_digits (hbase : 1 < base) (hlast : base ≤ 16) {c : CodePoint}
    (hc : ∀ digit < 16, ofChar (Nat.digitChar digit) ≠ c) (n : Nat) : c ∉ digits base n := by
  intro hmem
  obtain ⟨digit, hdigit, rfl⟩ := exists_digit_of_mem_digits hbase hmem
  exact hc digit (by omega) rfl

theorem digitValue_digitChar : ∀ digit < 16, (ofChar (Nat.digitChar digit)).digitValue = digit := by
  decide

/-- The digits of a number stand for it. -/
theorem digitsValue_digits (hbase : 1 < base) (hlast : base ≤ 16) (n : Nat) :
    digitsValue base (digits base n) 0 = n := by
  induction n using Nat.strongRecOn with
  | ind n ih =>
      have hdigit : (ofChar (Nat.digitChar (n % base))).digitValue = n % base :=
        digitValue_digitChar _ (Nat.lt_of_lt_of_le (Nat.mod_lt n (by omega)) hlast)
      rw [digits_eq hbase, digitsValue, List.foldl_append, List.foldl_cons, List.foldl_nil, hdigit]
      split
      next hlt => rw [List.foldl_nil, Nat.mul_zero, Nat.zero_add, Nat.mod_eq_of_lt hlt]
      next hge =>
        have hrest := ih (n / base) (Nat.div_lt_self (by omega) hbase)
        rw [digitsValue] at hrest
        rw [hrest, Nat.div_add_mod]

/-- Zeros in front count nothing. -/
theorem digitsValue_zeros_append (zeros : Nat) (t : Text) :
    digitsValue base (List.replicate zeros (ofChar '0') ++ t) 0 = digitsValue base t 0 := by
  induction zeros with
  | zero => rfl
  | succ zeros ih => exact ih

theorem digits_injective (hbase : 1 < base) (hlast : base ≤ 16) :
    Function.Injective (digits base) := by
  intro m n hsame
  rw [← digitsValue_digits hbase hlast m, hsame, digitsValue_digits hbase hlast]

/-- A number other than zero does not begin with a zero. -/
theorem head?_digits_ne_zero (hbase : 1 < base) (hlast : base ≤ 16) {n : Nat} (hn : n ≠ 0) :
    (digits base n).head? ≠ some (ofChar '0') := by
  induction n using Nat.strongRecOn with
  | ind n ih =>
      rw [digits_eq hbase]
      split
      next hlt =>
        rw [List.nil_append, Nat.mod_eq_of_lt hlt]
        intro hzero
        have hvalue := digitValue_digitChar n (Nat.lt_of_lt_of_le hlt hlast)
        rw [Option.some.inj hzero] at hvalue
        exact hn hvalue.symm
      next hge =>
        have hne : digits base (n / base) ≠ [] := by simp [digits]
        obtain ⟨first, others, hdigits⟩ := List.exists_cons_of_ne_nil hne
        have hfirst := ih (n / base) (Nat.div_lt_self (by omega) hbase)
          (Nat.ne_of_gt (Nat.div_pos (by omega) (by omega)))
        rw [hdigits] at hfirst ⊢
        exact hfirst

theorem hexadecimal_injective (width : Nat) : Function.Injective (hexadecimal width) := by
  have hvalue (n : Nat) : digitsValue 16 (hexadecimal width n) 0 = n := by
    have hread : digitsValue 16 (digits 16 n) 0 = n :=
      digitsValue_digits (by decide) (by decide) n
    rwa [← digitsValue_zeros_append (width - (digits 16 n).length)] at hread
  intro m n hsame
  rw [← hvalue m, hsame, hvalue]

/-- What is no digit is not in a number in base sixteen. -/
theorem not_mem_hexadecimal {c : CodePoint}
    (hc : ∀ digit < 16, ofChar (Nat.digitChar digit) ≠ c) (width n : Nat) :
    c ∉ hexadecimal width n := by
  intro hmem
  rcases List.mem_append.1 hmem with hmem | hmem
  · exact hc 0 (by decide) (List.mem_replicate.1 hmem).2.symm
  · have hdigits : c ∉ digits 16 n := not_mem_digits (by decide) (by decide) hc n
    exact hdigits hmem

/-- What is no digit and no dash is not in an integer. -/
theorem not_mem_integer {c : CodePoint} (hc : ∀ digit < 16, ofChar (Nat.digitChar digit) ≠ c)
    (hdash : c ≠ dash) (n : Int) : c ∉ integer n := by
  have hdigits : ∀ n, c ∉ digits 10 n := not_mem_digits (by decide) (by decide) hc
  cases n with
  | ofNat n => exact hdigits n
  | negSucc n =>
      intro hmem
      rcases List.mem_cons.1 hmem with hmem | hmem
      · exact hdash hmem
      · exact hdigits (n + 1) hmem

/-- Two texts that end before the same code point are the same if they are with what follows it. -/
theorem eq_of_append_cons_eq {s t x y : Text} {c : CodePoint} (hs : c ∉ s) (ht : c ∉ t)
    (hsame : s ++ c :: x = t ++ c :: y) : s = t := by
  induction s generalizing t with
  | nil =>
      cases t with
      | nil => rfl
      | cons d t =>
          obtain ⟨rfl, -⟩ := List.cons.inj hsame
          exact absurd List.mem_cons_self ht
  | cons d s ih =>
      cases t with
      | nil =>
          obtain ⟨rfl, -⟩ := List.cons.inj hsame
          exact absurd List.mem_cons_self hs
      | cons e t =>
          obtain ⟨rfl, hrest⟩ := List.cons.inj hsame
          rw [ih (List.not_mem_of_not_mem_cons hs) (List.not_mem_of_not_mem_cons ht) hrest]

theorem integer_injective : Function.Injective integer := by
  have hinjective : Function.Injective (digits 10) := digits_injective (by decide) (by decide)
  have hnegative (m n : Nat) : integer (.ofNat m) ≠ integer (.negSucc n) := by
    intro hsame
    have hmem : dash ∈ digits 10 m := by
      have hhead : dash ∈ integer (.negSucc n) := List.mem_cons_self
      rwa [← hsame] at hhead
    exact not_mem_digits (by decide) (by decide) (by decide) m hmem
  intro m n hsame
  cases m with
  | ofNat m =>
      cases n with
      | ofNat n => exact congrArg Int.ofNat (hinjective hsame)
      | negSucc n => exact absurd hsame (hnegative m n)
  | negSucc m =>
      cases n with
      | ofNat n => exact absurd hsame.symm (hnegative n m)
      | negSucc n =>
          exact congrArg Int.negSucc (Nat.succ.inj (hinjective (List.cons.inj hsame).2))

/-! ## Numerals -/

/-- A text of digits of base ten only. -/
def IsDigits (t : Text) : Prop := ∀ c ∈ t, 0x30 ≤ c.val ∧ c.val ≤ 0x39

/-- A numeral in base ten: digits, and no zero in front of others. -/
structure IsNumeral (t : Text) : Prop where
  nonempty : t ≠ []
  isDigits : t.IsDigits
  begins : t.head? = some (ofChar '0') → t = [ofChar '0']

theorem IsDigits.not_mem {t : Text} {c : CodePoint} (hdigits : t.IsDigits)
    (hc : ¬ (0x30 ≤ c.val ∧ c.val ≤ 0x39)) : c ∉ t :=
  fun hmem => hc (hdigits c hmem)

theorem isDigits_decimal (n : Nat) : (decimal n).IsDigits := by
  intro c hc
  obtain ⟨digit, hdigit, rfl⟩ := exists_digit_of_mem_digits (by decide) hc
  have hall : ∀ digit < 10, 0x30 ≤ (ofChar (Nat.digitChar digit)).val ∧
      (ofChar (Nat.digitChar digit)).val ≤ 0x39 := by
    decide
  exact hall digit hdigit

theorem isNumeral_decimal (n : Nat) : (decimal n).IsNumeral := by
  refine ⟨by simp [decimal], isDigits_decimal n, ?_⟩
  intro hzero
  by_cases hn : n = 0
  · subst hn
    rfl
  · exact absurd hzero (head?_digits_ne_zero (by decide) (by decide) hn)

theorem digitsValue_decimal (n : Nat) : digitsValue 10 (decimal n) 0 = n :=
  digitsValue_digits (by decide) (by decide) n

theorem isDigits_twoDigits (n : Nat) : (twoDigits n).IsDigits := by
  unfold twoDigits
  split
  next =>
    intro c hc
    rcases List.mem_cons.1 hc with rfl | hc
    · decide
    · exact isDigits_decimal n c hc
  next => exact isDigits_decimal n

theorem length_decimal_le_iff (n : Nat) {places : Nat} (hplaces : 0 < places) :
    (decimal n).length ≤ places ↔ n < 10 ^ places := by
  rw [decimal, List.length_map]
  exact Nat.length_toDigits_le_iff (by decide) hplaces

/-- A number of at most two digits is filled up to two. -/
theorem length_twoDigits {n : Nat} (hn : n < 100) : (twoDigits n).length = 2 := by
  have hpos : 0 < (decimal n).length := List.length_pos_iff.2 (isNumeral_decimal n).nonempty
  have hone := length_decimal_le_iff n Nat.zero_lt_one
  have htwo := length_decimal_le_iff n Nat.zero_lt_two
  unfold twoDigits
  split
  next hlt =>
    rw [List.length_cons]
    omega
  next hge => omega

theorem digitsValue_twoDigits (n : Nat) : digitsValue 10 (twoDigits n) 0 = n := by
  unfold twoDigits
  split
  next => exact (digitsValue_zeros_append 1 (decimal n)).trans (digitsValue_decimal n)
  next => exact digitsValue_decimal n

/-! ## Numbers that can be written -/

theorem lt_pow_longestNumeral {n : Nat} (hn : n < 10 ^ 5) : n < 10 ^ longestNumeral :=
  Nat.lt_of_lt_of_le hn (Nat.pow_le_pow_right (by decide) (by decide))

theorem isWritable_iff (n : Int) : isWritable n = true ↔ n.natAbs < 10 ^ longestNumeral := by
  rw [isWritable, decide_eq_true_iff, length_decimal_le_iff _ (by decide)]

/-- A number that is not written has too many digits. -/
theorem isWritable_eq_false_iff (n : Int) :
    isWritable n = false ↔ 10 ^ longestNumeral ≤ n.natAbs := by
  rw [← Bool.not_eq_true, isWritable_iff, Nat.not_lt]

theorem ofNumber_eq_ok_iff {n : Int} {t : Text} :
    ofNumber n = .ok t ↔ isWritable n = true ∧ integer n = t := by
  unfold ofNumber
  split
  next hn => simp [hn]
  next hn => simp [hn]

theorem ofNumber_of_isWritable {n : Int} (hn : isWritable n = true) :
    ofNumber n = .ok (integer n) := ofNumber_eq_ok_iff.2 ⟨hn, rfl⟩

theorem eq_numeralTooLong_of_ofNumber {n : Int} {failure : Failure}
    (herror : ofNumber n = .error failure) : failure = .numeralTooLong := by
  unfold ofNumber at herror
  split at herror
  · cases herror
  · exact (Except.error.inj herror).symm

theorem ofNumber_of_le {n : Int} (hn : 10 ^ longestNumeral ≤ n.natAbs) :
    ofNumber n = .error .numeralTooLong := by
  rw [ofNumber, (isWritable_eq_false_iff n).2 hn]
  rfl

end Text

/-- A value that can be written as it is shown. -/
def Value.IsWritable (v : Value) : Prop := v.writable = .ok v

theorem Value.isWritable_text (t : Text) : (text t).IsWritable := rfl

/-- The numbers of the codes of faults can be written. -/
theorem FaultCode.isWritable_label {labels : List (Int × Value)}
    (hlabels : ∀ entry ∈ labels, entry.2.IsWritable) (code : FaultCode) :
    (code.label labels).IsWritable := by
  unfold label
  cases hlabel : labels.lookup code.number with
  | none => cases code <;> rfl
  | some v =>
      obtain ⟨before, after, rfl, -⟩ := List.lookup_eq_some_iff.1 hlabel
      exact hlabels (code.number, v) (by simp)

end CommandDispatch
