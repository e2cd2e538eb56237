import CommandDispatch.Proofs.Journal.CommandLines
import CommandDispatch.Proofs.Text.Bytes

/-! # Reading a command line

A command line reads as its words do, one by one, with a space between neighbours. How the words
came onto it makes no difference, and neither does the room it had at first: the bytes of a word may
break off in the middle of a character, yet what is read ends at the space behind it.
-/

namespace CommandDispatch

namespace CodePoint

/-- A surrogate that stands for no byte. -/
def isStray (c : CodePoint) : Bool := c.isSurrogate && !c.isByteSurrogate

/-- The bytes of a code point, where a surrogate that stands for a byte is that byte. -/
def bytes (c : CodePoint) : Bytes :=
  if c.isByteSurrogate then [UInt8.ofNat (c.val - 0xDC00)] else c.utf8

theorem bytes_eq_utf8 {c : CodePoint} (hc : c.isSurrogate = false) : c.bytes = c.utf8 := by
  simp [bytes, isByteSurrogate_eq_false hc]

end CodePoint

namespace Text

open CodePoint

theorem utf8?_eq (t : Text) :
    t.utf8? = if t.any isStray then none else some (t.flatMap CodePoint.bytes) := by
  induction t with
  | nil => rfl
  | cons c rest ih =>
      rw [utf8?, ih, List.any_cons, List.flatMap_cons]
      by_cases hrest : rest.any isStray = true
      · simp [hrest]
      · cases hbyte : c.isByteSurrogate <;> cases hsurrogate : c.isSurrogate <;>
          simp [hrest, isStray, CodePoint.bytes, hbyte, hsurrogate]

theorem flatMap_bytes {t : Text} (ht : ∀ c ∈ t, c.isSurrogate = false) :
    t.flatMap CodePoint.bytes = t.flatMap utf8 := by
  induction t with
  | nil => rfl
  | cons c rest ih =>
      rw [List.forall_mem_cons] at ht
      simp [bytes_eq_utf8 ht.1, ih ht.2]

end Text

namespace CommandLine

/-! ## Words -/

/-- The bytes of a word. A surrogate that stands for no byte has all surrogates of its word written
out; otherwise they are the bytes for which they stand. -/
def encoding (word : Text) : Bytes :=
  if word.any CodePoint.isStray then word.surrogatesEscaped.flatMap CodePoint.utf8
  else word.flatMap CodePoint.bytes

/-- How a word reads on a line. Bytes for which surrogates stand may come to be part of a character
there; a word without surrogates reads as it is. -/
def reading (word : Text) : Text :=
  if word.any CodePoint.isStray then word.surrogatesEscaped
  else if word.any CodePoint.isSurrogate then Text.ofUtf8 (encoding word)
  else word

theorem wordBytes_eq (word : Text) : wordBytes word = encoding word := by
  rw [wordBytes, encoding, Text.utf8?_eq]
  by_cases hstray : word.any CodePoint.isStray = true
  · simp [hstray, Text.utf8Escaped]
  · simp [hstray]

theorem ofUtf8_encoding (word : Text) : Text.ofUtf8 (encoding word) = reading word := by
  by_cases hstray : word.any CodePoint.isStray = true
  · rw [encoding, reading, if_pos hstray, if_pos hstray]
    exact Text.ofUtf8_utf8Escaped word
  · rw [reading, if_neg hstray]
    split
    · rfl
    next hnone =>
      have hword : ∀ c ∈ word, c.isSurrogate = false := by simpa using hnone
      rw [encoding, if_neg hstray, Text.flatMap_bytes hword, Text.ofUtf8_flatMap_utf8 hword]

/-! ## Lines -/

/-- Without the last separator the bytes of a line are those of its words with a separator between
neighbours. -/
theorem dropLast_bytesOf (words : List Text) :
    (bytesOf words).dropLast = [0x20].intercalate (words.map encoding) := by
  induction words with
  | nil => rfl
  | cons word rest ih =>
      cases rest with
      | nil => simp [bytesOf, wordBytes_eq]
      | cons next rest =>
          rw [bytesOf_cons, List.dropLast_append_of_ne_nil (by simp [bytesOf]), ih, wordBytes_eq]
          simp

theorem length_eq {line : CommandLine} {words : List Text}
    (hwritten : line.written = bytesOf words) :
    line.length = ([0x20].intercalate (words.map encoding)).length := by
  rw [length, hwritten, ← List.length_dropLast, dropLast_bytesOf]

theorem bytes_eq {line : CommandLine} {words : List Text}
    (hwritten : line.written = bytesOf words) :
    line.bytes = [0x20].intercalate (words.map encoding) := by
  rw [bytes, length, hwritten, ← List.dropLast_eq_take, dropLast_bytesOf]

theorem text_eq {line : CommandLine} {words : List Text}
    (hwritten : line.written = bytesOf words) :
    line.text = Text.joinWith [CodePoint.space] (words.map reading) := by
  have hbytes : line.bytes = [CodePoint.space.asciiByte].intercalate (words.map encoding) :=
    bytes_eq hwritten
  rw [text, hbytes, Text.ofUtf8_intercalate (by decide), List.map_map]
  exact congrArg _ (List.map_congr_left fun word _ => ofUtf8_encoding word)

/-- A new line can have every positive capacity that there is memory for. -/
theorem create_eq_ok_iff (memory : Memory) (capacity : Nat) :
    create memory capacity = .ok (empty capacity) ↔
      1 ≤ capacity ∧ capacity ≤ memory.available := by
  have hlimit := memory.available_lt
  by_cases hpos : 1 ≤ capacity
  · have hcreate : create memory capacity = empty <$> memory.size 0 capacity := if_neg (by omega)
    rw [hcreate, Memory.size]
    by_cases hroom : (capacity : Int) ≤ memory.available
    · rw [if_neg (by omega), if_neg (by omega)]
      exact iff_of_true rfl ⟨hpos, by exact_mod_cast hroom⟩
    · rw [if_pos (Int.not_le.1 hroom)]
      split <;> exact iff_of_false (fun hok => by cases hok) fun hbounds =>
        hroom (by exact_mod_cast hbounds.2)
  · have hcreate : create memory capacity = .error .capacityNotPositive := if_pos (by omega)
    simp [hcreate, hpos]

/-! ## Feeding a line -/

/-- Words come onto a line one at a time, or several at once. -/
inductive Feeding where
  | append (word : Text)
  | extend (words : List Text)

def Feeding.words : Feeding → List Text
  | .append word => [word]
  | .extend words => words

def feed (line : CommandLine) : Feeding → CommandLine
  | .append word => line.append word
  | .extend words => line.extend words

theorem written_feed (line : CommandLine) (feeding : Feeding) :
    (line.feed feeding).written = line.written ++ bytesOf feeding.words := by
  cases feeding with
  | append word => simp [feed, Feeding.words, written_append, bytesOf]
  | extend words => exact written_extend line words

theorem written_foldl_feed (line : CommandLine) (feedings : List Feeding) :
    (feedings.foldl feed line).written =
      line.written ++ bytesOf (feedings.flatMap Feeding.words) := by
  induction feedings generalizing line with
  | nil => simp [bytesOf]
  | cons feeding rest ih => simp [ih, written_feed, bytesOf]

/-- A line reads as its words do, with a space between neighbours, and holds as many bytes as they
and the spaces between them. A line can have every positive capacity that a machine has memory for.
So lines with the same words read the same, whatever their capacities and however they were
fed. -/
theorem text_foldl_feed (capacity : Nat) (feedings : List Feeding) :
    let line := feedings.foldl feed (empty capacity)
    let words := feedings.flatMap Feeding.words
    line.text = Text.joinWith [CodePoint.space] (words.map reading) ∧
      line.length = ([0x20].intercalate (words.map encoding)).length ∧
      (∀ memory : Memory, create memory capacity = .ok (empty capacity) ↔
        1 ≤ capacity ∧ capacity ≤ memory.available) ∧
      ∀ (other : Nat) (more : List Feeding), more.flatMap Feeding.words = words →
        (more.foldl feed (empty other)).text = line.text := by
  intro line words
  have hwritten (capacity : Nat) (feedings : List Feeding) :
      (feedings.foldl feed (empty capacity)).written =
        bytesOf (feedings.flatMap Feeding.words) := written_foldl_feed (empty capacity) feedings
  refine ⟨text_eq (hwritten capacity feedings), length_eq (hwritten capacity feedings),
    fun memory => create_eq_ok_iff memory capacity, ?_⟩
  intro other more hwords
  rw [text_eq (hwritten other more), text_eq (hwritten capacity feedings), hwords]

/-- Half a character stays on its side of the space. -/
example : ((empty 1).extend [[0xDCC3], [0xDCA9]]).text = [0xDCC3, CodePoint.space, 0xDCA9] := by
  decide

/-- Two halves in one word make a character. -/
example : ((empty 1).extend [[0xDCC3, 0xDCA9]]).text = [0xE9] := by
  decide

end CommandLine

end CommandDispatch
