import Mathlib.Data.List.DropRight
import CommandDispatch.Text.Blank

/-! # Stripped texts

Stripping a text leaves no blank at either end, and a text without blanks at its ends is left as it
is. So stripping once is enough.
-/

namespace CommandDispatch

namespace Text

/-- A text with no blank at either end. Inside it there may be some. -/
structure IsTrimmed (t : Text) : Prop where
  start : ∀ c ∈ t.head?, c.isBlank = false
  stop : ∀ c ∈ t.getLast?, c.isBlank = false

theorem strip_eq (t : Text) :
    t.strip = (t.dropWhile CodePoint.isBlank).rdropWhile CodePoint.isBlank := rfl

theorem isTrimmed_strip (t : Text) : t.strip.IsTrimmed where
  start c hc := by
    -- what is left begins where the text begins without its leading blanks
    have hfirst : c ∈ (t.dropWhile CodePoint.isBlank).head? := by
      obtain ⟨rest, hrest⟩ := List.rdropWhile_prefix CodePoint.isBlank
        (t.dropWhile CodePoint.isBlank)
      rw [← strip_eq] at hrest
      rw [← hrest, List.head?_append, hc, Option.some_or]
      rfl
    have hdropped := List.head?_dropWhile_not CodePoint.isBlank t
    rw [hfirst] at hdropped
    exact hdropped
  stop c hc := by
    obtain ⟨hne, rfl⟩ := List.mem_getLast?_eq_getLast hc
    exact Bool.eq_false_iff.2 (List.rdropWhile_last_not CodePoint.isBlank _ hne)

theorem strip_of_isTrimmed {t : Text} (htrimmed : t.IsTrimmed) : t.strip = t := by
  have hstart : t.dropWhile CodePoint.isBlank = t := by
    cases t with
    | nil => rfl
    | cons c rest => exact List.dropWhile_cons_of_neg (by simp [htrimmed.start c rfl])
  rw [strip_eq, hstart, List.rdropWhile_eq_self_iff]
  intro hne
  simp [htrimmed.stop _ (List.getLast?_eq_getLast_of_ne_nil hne)]

@[simp] theorem strip_strip (t : Text) : t.strip.strip = t.strip :=
  strip_of_isTrimmed t.isTrimmed_strip

end Text

end CommandDispatch
