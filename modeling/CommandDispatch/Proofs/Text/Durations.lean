import Mathlib.Algebra.Order.Ring.Rat
import Mathlib.Tactic.Linarith
import Mathlib.Tactic.Ring
import CommandDispatch.Duration
import CommandDispatch.Proofs.Text.Numbers

/-! # Durations, rounded down

A duration reads as a decimal with two places: the number of seconds that have passed, rounded down
to hundredths. So a longer time never reads as less, and two times read the same as long as no whole
hundredth lies between them. A time is written as long as its seconds can be.
-/

namespace CommandDispatch

namespace Text

open CodePoint

/-- The point that divides a decimal. -/
def point : CodePoint := ofChar '.'

/-- The number that a decimal stands for: what is before the point, and what is behind it as a
fraction with a power of ten for each place. -/
def decimalValue (t : Text) : ℚ :=
  let whole := t.takeWhile (· ≠ point)
  let places := (t.dropWhile (· ≠ point)).drop 1
  digitsValue 10 whole 0 + digitsValue 10 places 0 / 10 ^ places.length

/-- The first point divides a decimal. -/
theorem decimalValue_append_cons {whole : Text} (hwhole : point ∉ whole) (places : Text) :
    decimalValue (whole ++ point :: places) =
      digitsValue 10 whole 0 + digitsValue 10 places 0 / 10 ^ places.length := by
  have hbefore : ∀ c ∈ whole, decide (c ≠ point) = true := by
    intro c hc
    exact decide_eq_true fun hpoint => hwhole (hpoint ▸ hc)
  unfold decimalValue
  rw [List.takeWhile_append_of_pos hbefore, List.dropWhile_append_of_pos hbefore]
  simp

end Text

open Text

/-- Whole seconds, the point, and two digits for the hundredths behind them. -/
def secondsText (elapsed : Nat) : Text :=
  decimal (elapsed / 1000) ++ point :: twoDigits (elapsed % 1000 / 10)

/-- A time that has passed is written in seconds and hundredths. -/
theorem durationText_eq_ok_iff {elapsed : Nat} {t : Text} :
    durationText elapsed = .ok t ↔
      elapsed / 1000 < 10 ^ longestNumeral ∧ secondsText elapsed = t := by
  have hseconds : integer ((elapsed : Int) / 1000) = decimal (elapsed / 1000) := rfl
  have hplaces : ((elapsed : Int) % 1000 / 10).toNat = elapsed % 1000 / 10 := by omega
  have hpoint : ofString "." = [point] := rfl
  have hwritable := isWritable_iff ((elapsed : Int) / 1000)
  rw [show ((elapsed : Int) / 1000).natAbs = elapsed / 1000 by omega] at hwritable
  rw [← hwritable, durationText]
  cases hnumber : isWritable ((elapsed : Int) / 1000) with
  | true =>
      rw [ofNumber_of_isWritable hnumber, hseconds, hplaces, hpoint]
      simp [concat, secondsText, bind, Except.bind, pure, Except.pure]
  | false =>
      rw [ofNumber, hnumber]
      constructor
      · intro hok
        cases hok
      · rintro ⟨hwritten, -⟩
        cases hwritten

/-- A time is not written if its seconds have too many digits. -/
theorem durationText_of_le {elapsed : Nat} (hlong : 10 ^ longestNumeral ≤ elapsed / 1000) :
    durationText elapsed = .error .numeralTooLong := by
  have hnumber : 10 ^ longestNumeral ≤ ((elapsed : Int) / 1000).natAbs := by
    rwa [show ((elapsed : Int) / 1000).natAbs = elapsed / 1000 by omega]
  rw [durationText, ofNumber_of_le hnumber]
  rfl

/-- A time in seconds and hundredths stands for as many hundredths as have passed. -/
theorem decimalValue_secondsText (elapsed : Nat) :
    (secondsText elapsed).decimalValue = (elapsed / 10 : Nat) / 100 := by
  have hplaces : elapsed % 1000 / 10 < 100 := by omega
  have hsplit : elapsed / 10 = 100 * (elapsed / 1000) + elapsed % 1000 / 10 := by omega
  have hwhole : point ∉ decimal (elapsed / 1000) := (isDigits_decimal _).not_mem (by decide)
  rw [secondsText, decimalValue_append_cons hwhole, digitsValue_decimal, digitsValue_twoDigits,
    length_twoDigits hplaces, hsplit]
  push_cast
  ring

theorem monotone_decimalValue_secondsText :
    Monotone fun elapsed => (secondsText elapsed).decimalValue := by
  intro m n hle
  have hhundredths : ((m / 10 : Nat) : ℚ) ≤ (n / 10 : Nat) := by
    exact_mod_cast Nat.div_le_div_right hle
  simp only [decimalValue_secondsText]
  linarith

/-- Times read the same if they have the same number of hundredths. -/
theorem secondsText_eq_iff {m n : Nat} : secondsText m = secondsText n ↔ m / 10 = n / 10 := by
  constructor
  · intro hsame
    have hvalue := congrArg decimalValue hsame
    rw [decimalValue_secondsText, decimalValue_secondsText] at hvalue
    have hhundredths : ((m / 10 : Nat) : ℚ) = (n / 10 : Nat) := by linarith
    exact_mod_cast hhundredths
  · intro hsame
    have hseconds : m / 1000 = n / 1000 := by omega
    have hplaces : m % 1000 / 10 = n % 1000 / 10 := by omega
    rw [secondsText, secondsText, hseconds, hplaces]

/-- A duration reads as the time that has passed, in seconds and rounded down to hundredths, as
long as the seconds have no more digits than a numeral may have. It is a numeral, a point and two
digits; the number that it stands for is not greater than the time and less than a hundredth behind
it. So it never falls while time goes by, and two times read the same exactly if as many whole
hundredths have passed. A time with more seconds than that is not written at all. -/
theorem durationText_rounds_down :
    (∀ elapsed : Nat, elapsed / 1000 < 10 ^ longestNumeral →
      ∃ t, durationText elapsed = .ok t ∧
        (∃ whole places, t = whole ++ point :: places ∧
          IsNumeral whole ∧ IsDigits places ∧ places.length = 2) ∧
        t.decimalValue ≤ (elapsed : ℚ) / 1000 ∧
        (elapsed : ℚ) / 1000 < t.decimalValue + 1 / 100) ∧
    (∀ (m n : Nat) (s t : Text), durationText m = .ok s → durationText n = .ok t →
      (m ≤ n → s.decimalValue ≤ t.decimalValue) ∧ (s = t ↔ m / 10 = n / 10)) ∧
    ∀ elapsed : Nat, 10 ^ longestNumeral ≤ elapsed / 1000 →
      durationText elapsed = .error .numeralTooLong := by
  refine ⟨fun elapsed hwritable => ?_, fun m n s t hm hn => ?_, fun _ => durationText_of_le⟩
  · refine ⟨_, durationText_eq_ok_iff.2 ⟨hwritable, rfl⟩, ?_, ?_⟩
    · exact ⟨_, _, rfl, isNumeral_decimal _, isDigits_twoDigits _, length_twoDigits (by omega)⟩
    · have hlow : (10 * (elapsed / 10 : Nat) : ℚ) ≤ elapsed := by
        exact_mod_cast Nat.mul_div_le elapsed 10
      have hhigh : (elapsed : ℚ) < 10 * ((elapsed / 10 : Nat) + 1) := by
        exact_mod_cast Nat.lt_mul_div_succ elapsed (by decide : 0 < 10)
      rw [decimalValue_secondsText]
      constructor
      · linarith
      · linarith
  · obtain ⟨-, rfl⟩ := durationText_eq_ok_iff.1 hm
    obtain ⟨-, rfl⟩ := durationText_eq_ok_iff.1 hn
    exact ⟨fun hle => monotone_decimalValue_secondsText hle, secondsText_eq_iff⟩

namespace Sample

/-- A moment before two seconds have passed, the last hundredth of the second is read. -/
theorem moment_read :
    1999 / 1000 < 10 ^ longestNumeral ∧
    ∃ t, durationText 1999 = .ok t ∧ t.decimalValue ≤ 1999 / 1000 ∧
      1999 / 1000 < t.decimalValue + 1 / 100 := by
  have hwritable : 1999 / 1000 < 10 ^ longestNumeral := lt_pow_longestNumeral (by decide)
  obtain ⟨t, ht, -, hlow, hhigh⟩ := durationText_rounds_down.1 1999 hwritable
  exact ⟨hwritable, t, ht, by exact_mod_cast hlow, by exact_mod_cast hhigh⟩

/-- The shortest time that is not written: its seconds have one digit too many. -/
theorem ages_unwritten :
    durationText ((10 ^ longestNumeral * 1000 : Nat) : Int) = .error .numeralTooLong := by
  refine durationText_of_le (Nat.le_of_eq ?_)
  rw [Nat.mul_div_cancel _ (by decide)]

end Sample

/-- The last hundredth before two seconds have passed. -/
example : durationText 1999 = .ok (Text.ofString "1.99") := rfl

end CommandDispatch
