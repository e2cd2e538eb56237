import Mathlib.Algebra.Ring.Nat
import CommandDispatch.Proofs.Journal.Reading
import CommandDispatch.Proofs.Text.RoundTrip

/-! # The buffer of a command line

In memory a command line is a buffer: bytes, how many of them are in use, and a size of which a note
is kept. Words are written over bytes that must be there, and a buffer that is too small is made
larger first, for which there may be no memory. Seen in this way, no write is out of range; the size
at least doubles whenever it changes and stays within four times what is in use; and a word for
which there is no memory changes nothing. What is in use are the very bytes that the words were
given as.
-/

namespace CommandDispatch

/-- A buffer in memory: its bytes, how many of them are in use, and its size as it is noted. -/
structure Buffer where
  bytes : Bytes
  used : Nat
  capacity : Nat

namespace Buffer

/-- Why an operation breaks off. -/
inductive Trouble where
  | outOfMemory
  | outOfRange
  deriving DecidableEq

/-- An operation on a buffer. What it did before it breaks off stays done. -/
abbrev Operation (α : Type) := ExceptT Trouble (StateM Buffer) α

/-- A buffer of zeros, none of which is in use. -/
def new (capacity : Nat) : Buffer := ⟨List.replicate capacity 0, 0, capacity⟩

/-- Adds zeros behind the bytes, and notes the new size. -/
def grow (memory : Bool) (needed : Nat) : Operation Unit := do
  let b ← get
  let capacity := (needed + b.capacity) * 2
  unless memory do throw .outOfMemory
  set { b with bytes := b.bytes ++ List.replicate (capacity - b.capacity) 0 }
  modify fun b => { b with capacity }

/-- Writes data over bytes that must be there. -/
def overwrite (start : Nat) (data : Bytes) : Operation Unit := do
  let b ← get
  let stop := start + data.length
  if b.bytes.length < stop then throw .outOfRange
  set { b with bytes := b.bytes.take start ++ data ++ b.bytes.drop stop }

/-- Writes data and a separator behind what is in use. -/
def put (data : Bytes) : Operation Unit := do
  let b ← get
  let stop := b.used + data.length
  overwrite b.used data
  overwrite stop [0x20]
  modify fun b => { b with used := stop + 1 }

/-- Writes data and a separator, in a larger buffer if the noted size is too small. -/
def append (memory : Bool) (data : Bytes) : Operation Unit := do
  let b ← get
  if b.capacity < data.length + 1 + b.used then
    grow memory (data.length + 1)
  put data

/-- A word that is to be written, and whether there is memory for a larger buffer. -/
structure Attempt where
  memory : Bool
  word : Text

namespace Attempt

def data (a : Attempt) : Bytes := CommandLine.wordBytes a.word

/-- How many bytes a word asks for: its own, and the separator. -/
def needed (a : Attempt) : Nat := a.data.length + 1

def run (a : Attempt) : Operation Unit := append a.memory a.data

end Attempt

/-- A single word is written, or one word after the other until there is no memory for one. -/
inductive Write where
  | append (a : Attempt)
  | extend (words : List Attempt)

def Write.run : Write → Operation Unit
  | .append a => a.run
  | .extend words => words.forM Attempt.run

/-! ## Runs -/

section Runs

variable {α β : Type} {b : Buffer} {data : Bytes}

/-- The result of an operation on a buffer, and the buffer afterwards. -/
def after (op : Operation α) (b : Buffer) : Except Trouble α × Buffer := op.run.run b

theorem after_bind (op : Operation α) (next : α → Operation β) (b : Buffer) :
    after (op >>= next) b =
      match after op b with
      | (.ok a, b) => after (next a) b
      | (.error trouble, b) => (.error trouble, b) := by
  rw [after, ExceptT.run_bind, StateT.run_bind, after]
  rcases op.run.run b with ⟨_ | _, _⟩ <;> rfl

theorem after_get (b : Buffer) : after get b = (.ok b, b) := rfl

theorem after_grow (memory : Bool) (needed : Nat) (b : Buffer) :
    after (grow memory needed) b =
      if memory then (.ok (), { b with
        bytes := b.bytes ++ List.replicate ((needed + b.capacity) * 2 - b.capacity) 0
        capacity := (needed + b.capacity) * 2 })
      else (.error .outOfMemory, b) := by
  cases memory <;> rfl

/-- Bytes that are there are written over with as many others. -/
theorem after_overwrite {front old data rest : Bytes} (hsame : old.length = data.length)
    (used capacity : Nat) :
    after (overwrite front.length data) ⟨front ++ old ++ rest, used, capacity⟩ =
      (.ok (), ⟨front ++ data ++ rest, used, capacity⟩) := by
  have hrange : ¬ (front ++ old ++ rest).length < front.length + data.length := by
    simp only [List.length_append]
    omega
  rw [overwrite, after_bind, after_get]
  dsimp only
  rw [if_neg hrange, ← hsame, ← List.length_append, List.drop_left, List.append_assoc front,
    List.take_left]
  rfl

end Runs

end Buffer

namespace CommandLine

/-- A line as it lies in memory. -/
def toBuffer (line : CommandLine) : Buffer := ⟨line.buffer, line.written.length, line.capacity⟩

theorem toBuffer_empty (capacity : Nat) : (empty capacity).toBuffer = .new capacity := by
  simp [toBuffer, empty, buffer, CommandLine.capacity, Buffer.new]

theorem fits_eq_true_iff {line : CommandLine} {data : Bytes} :
    line.fits data = true ↔ line.written.length + data.length + 1 ≤ line.capacity := by
  simp only [fits, capacity, decide_eq_true_eq]
  omega

theorem capacity_put {line : CommandLine} {data : Bytes} (hfits : line.fits data = true) :
    (line.put data).capacity = line.capacity := by
  have hroom := fits_eq_true_iff.1 hfits
  simp only [put, capacity, List.length_append, List.length_singleton] at hroom ⊢
  omega

theorem length_written_put (line : CommandLine) (data : Bytes) :
    (line.put data).written.length = line.written.length + data.length + 1 := by
  simp [put]
  omega

theorem capacity_grow (line : CommandLine) (needed : Nat) :
    (line.grow needed).capacity = (needed + line.capacity) * 2 := by
  simp only [grow, capacity]
  omega

theorem fits_grow (line : CommandLine) (data : Bytes) :
    (line.grow (data.length + 1)).fits data = true := by
  have hcapacity := capacity_grow line (data.length + 1)
  have hwritten : (line.grow (data.length + 1)).written = line.written := rfl
  have hlength : line.written.length ≤ line.capacity := Nat.le_add_right _ _
  rw [fits_eq_true_iff, hcapacity, hwritten]
  omega

theorem toBuffer_grow (line : CommandLine) (needed : Nat) :
    (line.grow needed).toBuffer = { line.toBuffer with
      bytes := line.toBuffer.bytes ++
        List.replicate ((needed + line.toBuffer.capacity) * 2 - line.toBuffer.capacity) 0
      capacity := (needed + line.toBuffer.capacity) * 2 } := by
  rw [toBuffer, capacity_grow]
  simp [toBuffer, buffer, grow]

/-- Data that fits is written over zeros, and so is the separator behind it. -/
theorem after_put {line : CommandLine} {data : Bytes} (hfits : line.fits data = true) :
    Buffer.after (Buffer.put data) line.toBuffer = (.ok (), (line.put data).toBuffer) := by
  obtain ⟨room, hroom⟩ := Nat.exists_eq_add_of_le (show data.length + 1 ≤ line.spare from
    of_decide_eq_true hfits)
  let zeros (n : Nat) : Bytes := List.replicate n 0
  have hbuffer : line.toBuffer =
      ⟨line.written ++ zeros data.length ++ ([0] ++ zeros room), line.written.length,
        line.capacity⟩ := by
    simp only [toBuffer, buffer, hroom, zeros, ← List.replicate_append_replicate]
    simp
  have hput : (line.put data).toBuffer =
      ⟨line.written ++ data ++ [0x20] ++ zeros room, line.written.length + data.length + 1,
        line.capacity⟩ := by
    rw [toBuffer, capacity_put hfits, length_written_put]
    simp [buffer, put, hroom, zeros]
  rw [hbuffer, hput, Buffer.put, Buffer.after_bind, Buffer.after_get]
  dsimp only
  rw [Buffer.after_bind, Buffer.after_overwrite List.length_replicate]
  dsimp only
  have hone : ([0] : Bytes).length = ([0x20] : Bytes).length := rfl
  rw [Buffer.after_bind, ← List.length_append, ← List.append_assoc, Buffer.after_overwrite hone]
  rfl

/-- A word is written into the buffer as it is written on the line, and only if the buffer would
have to grow without memory it is not written. -/
theorem after_append (memory : Bool) (line : CommandLine) (word : Text) :
    Buffer.after (Buffer.append memory (wordBytes word)) line.toBuffer =
      (if (line.tryAppend memory word).1 then .ok () else .error .outOfMemory,
        (line.tryAppend memory word).2.toBuffer) := by
  rw [Buffer.append, Buffer.after_bind, Buffer.after_get]
  dsimp only
  have hsize : line.toBuffer.capacity = line.capacity ∧
    line.toBuffer.used = line.written.length := ⟨rfl, rfl⟩
  cases hfits : line.fits (wordBytes word) with
  | true =>
      have hroom := fits_eq_true_iff.1 hfits
      rw [if_neg (by omega), after_put hfits]
      simp [tryAppend, append, hfits]
  | false =>
      have hroom := mt fits_eq_true_iff.2 (Bool.eq_false_iff.1 hfits)
      rw [if_pos (by omega), Buffer.after_bind, Buffer.after_grow]
      cases memory with
      | true =>
          have htried : line.tryAppend true word =
              (true, (line.grow ((wordBytes word).length + 1)).put (wordBytes word)) := by
            simp [tryAppend, append, hfits]
          rw [htried, if_pos rfl, if_pos rfl, ← after_put (fits_grow line (wordBytes word)),
            toBuffer_grow]
      | false => simp [tryAppend, hfits]

end CommandLine

namespace Buffer

/-! ## Attempts and writes -/

/-- The buffer after a word was tried. -/
def attempt (b : Buffer) (a : Attempt) : Buffer := (after a.run b).2

/-- The buffer after a write. -/
def write (b : Buffer) (w : Write) : Buffer := (after w.run b).2

/-- The words of a list that are tried: there is none behind one that could not be written. -/
def tried (b : Buffer) : List Attempt → List Attempt
  | [] => []
  | a :: rest =>
    match after a.run b with
    | (.ok (), b) => a :: tried b rest
    | (.error _, _) => [a]

/-- The words that a write tries. -/
def Write.tried (b : Buffer) : Write → List Attempt
  | .append a => [a]
  | .extend words => b.tried words

/-- The words that are tried by one write after the other. -/
def triedBy (b : Buffer) : List Write → List Attempt
  | [] => []
  | w :: rest => w.tried b ++ triedBy (b.write w) rest

/-- How often the size changes while words are tried. -/
def growths (b : Buffer) : List Attempt → Nat
  | [] => 0
  | a :: rest =>
    (if (b.attempt a).capacity = b.capacity then 0 else 1) + growths (b.attempt a) rest

theorem write_extend (b : Buffer) (words : List Attempt) :
    b.write (.extend words) = (b.tried words).foldl attempt b := by
  induction words generalizing b with
  | nil => rfl
  | cons a rest ih =>
      have hwrite : b.write (.extend (a :: rest)) =
          (after (a.run >>= fun _ => rest.forM Attempt.run) b).2 := rfl
      rw [hwrite, after_bind, tried]
      cases hrun : after a.run b with
      | mk outcome next =>
          have hnext : b.attempt a = next := by rw [attempt, hrun]
          cases outcome with
          | ok =>
              rw [List.foldl_cons, hnext]
              exact ih next
          | error => exact hnext.symm

theorem write_eq (b : Buffer) (w : Write) : b.write w = (w.tried b).foldl attempt b := by
  cases w with
  | append a => rfl
  | extend words => exact write_extend b words

/-- Writes change a buffer as the words do that they try. -/
theorem foldl_write (b : Buffer) (writes : List Write) :
    writes.foldl write b = (b.triedBy writes).foldl attempt b := by
  induction writes generalizing b with
  | nil => rfl
  | cons w rest ih => rw [List.foldl_cons, triedBy, List.foldl_append, ← write_eq, ih]

/-! ## Soundness -/

/-- A buffer that had a size at first, and another one some times since. -/
structure Sound (start grown : Nat) (b : Buffer) : Prop where
  used_le : b.used ≤ b.capacity
  size : b.bytes.length = b.capacity
  unchanged : grown = 0 → b.capacity = start
  least : 2 ^ grown * start ≤ b.capacity
  most : b.capacity ≤ max start (4 * b.used - 2)

/-- How a buffer takes a word: always in range, in a larger buffer only if there is no room for it,
and not at all only if there is no memory for one. -/
structure Takes (b : Buffer) (a : Attempt) : Prop where
  inRange : (after a.run b).1 ≠ .error .outOfRange
  never_shrinks : b.capacity ≤ (b.attempt a).capacity
  fitting : b.used + a.needed ≤ b.capacity →
    (after a.run b).1 = .ok () ∧ (b.attempt a).capacity = b.capacity
  growing : b.capacity < b.used + a.needed → a.memory = true →
    (after a.run b).1 = .ok () ∧ 2 * b.capacity ≤ (b.attempt a).capacity
  lacking : b.capacity < b.used + a.needed → a.memory = false →
    after a.run b = (.error .outOfMemory, b)
  written : (after a.run b).1 = .ok () →
    (b.attempt a).used = b.used + a.needed ∧
      (b.attempt a).bytes.take (b.attempt a).used = b.bytes.take b.used ++ a.data ++ [0x20]

end Buffer

namespace CommandLine

open Buffer

variable {line : CommandLine} {a : Attempt}

/-- The line after a word was tried. -/
def attempt (line : CommandLine) (a : Attempt) : CommandLine := (line.tryAppend a.memory a.word).2

theorem attempt_toBuffer (line : CommandLine) (a : Attempt) :
    line.toBuffer.attempt a = (line.attempt a).toBuffer := by
  rw [Buffer.attempt, Attempt.run, Attempt.data, after_append, attempt]

theorem foldl_attempt_toBuffer (line : CommandLine) (attempts : List Attempt) :
    attempts.foldl Buffer.attempt line.toBuffer = (attempts.foldl attempt line).toBuffer := by
  induction attempts generalizing line with
  | nil => rfl
  | cons a rest ih => rw [List.foldl_cons, List.foldl_cons, attempt_toBuffer, ih]

/-- What becomes of a line when a word is tried, by whether there is room for the word and whether
there is memory. -/
theorem run_toBuffer (line : CommandLine) (a : Attempt) :
    (line.toBuffer.used + a.needed ≤ line.toBuffer.capacity ∧
      after a.run line.toBuffer = (.ok (), (line.put a.data).toBuffer) ∧
      (line.put a.data).toBuffer.capacity = line.toBuffer.capacity) ∨
    (line.toBuffer.capacity < line.toBuffer.used + a.needed ∧ a.memory = true ∧
      after a.run line.toBuffer = (.ok (), ((line.grow a.needed).put a.data).toBuffer) ∧
      ((line.grow a.needed).put a.data).toBuffer.capacity =
        (a.needed + line.toBuffer.capacity) * 2) ∨
    (line.toBuffer.capacity < line.toBuffer.used + a.needed ∧ a.memory = false ∧
      after a.run line.toBuffer = (.error .outOfMemory, line.toBuffer)) := by
  have hdata : wordBytes a.word = a.data := rfl
  have hneeded : a.data.length + 1 = a.needed := rfl
  have hsize : line.toBuffer.used = line.written.length ∧
    line.toBuffer.capacity = line.capacity := ⟨rfl, rfl⟩
  have hrun : after a.run line.toBuffer =
      (if (line.tryAppend a.memory a.word).1 then .ok () else .error .outOfMemory,
        (line.attempt a).toBuffer) := after_append a.memory line a.word
  cases hfits : line.fits a.data with
  | true =>
      have hroom := fits_eq_true_iff.1 hfits
      refine .inl ⟨by omega, ?_, capacity_put hfits⟩
      simp [hrun, attempt, tryAppend, append, hdata, hfits]
  | false =>
      have hroom := mt fits_eq_true_iff.2 (Bool.eq_false_iff.1 hfits)
      right
      cases hmemory : a.memory with
      | true =>
          refine .inl ⟨by omega, rfl, ?_, ?_⟩
          · simp [hrun, attempt, tryAppend, append, hdata, hfits, hmemory, hneeded]
          · exact (capacity_put (fits_grow line a.data)).trans (capacity_grow line a.needed)
      | false =>
          refine .inr ⟨by omega, rfl, ?_⟩
          simp [hrun, attempt, tryAppend, hdata, hfits, hmemory]

/-- The bytes in use are those that are written on the line. -/
theorem take_bytes_toBuffer (line : CommandLine) :
    line.toBuffer.bytes.take line.toBuffer.used = line.written := List.take_left

/-- The buffer of a line takes every word. -/
theorem takes (line : CommandLine) (a : Attempt) : Takes line.toBuffer a := by
  have hput {line before : CommandLine} (hwritten : line.written = before.written) :
      (line.put a.data).toBuffer.used = before.toBuffer.used + a.needed ∧
        (line.put a.data).toBuffer.bytes.take (line.put a.data).toBuffer.used =
          before.toBuffer.bytes.take before.toBuffer.used ++ a.data ++ [0x20] := by
    rw [take_bytes_toBuffer, take_bytes_toBuffer, ← hwritten]
    exact ⟨(length_written_put line a.data).trans (by rw [hwritten]; rfl), rfl⟩
  rcases run_toBuffer line a with ⟨hroom, hrun, hsame⟩ | ⟨hroom, hmemory, hrun, hlarger⟩ |
    ⟨hroom, hmemory, hrun⟩
  · have hended : line.toBuffer.attempt a = (line.put a.data).toBuffer := by
      rw [Buffer.attempt, hrun]
    exact {
      inRange := by
        rw [hrun]
        nofun
      never_shrinks := by
        rw [hended]
        exact Nat.le_of_eq hsame.symm
      fitting _ := by
        rw [hrun, hended]
        exact ⟨rfl, hsame⟩
      growing hsmall := absurd hroom (Nat.not_le.2 hsmall)
      lacking hsmall := absurd hroom (Nat.not_le.2 hsmall)
      written _ := by
        rw [hended]
        exact hput rfl }
  · have hended : line.toBuffer.attempt a = ((line.grow a.needed).put a.data).toBuffer := by
      rw [Buffer.attempt, hrun]
    exact {
      inRange := by
        rw [hrun]
        nofun
      never_shrinks := by
        rw [hended, hlarger]
        omega
      fitting hfits := absurd hfits (Nat.not_le.2 hroom)
      growing _ _ := by
        rw [hrun, hended, hlarger]
        exact ⟨rfl, by omega⟩
      lacking _ hnone := Bool.noConfusion (hmemory.symm.trans hnone)
      written _ := by
        rw [hended]
        exact hput rfl }
  · have hended : line.toBuffer.attempt a = line.toBuffer := by rw [Buffer.attempt, hrun]
    exact {
      inRange := by
        rw [hrun]
        nofun
      never_shrinks := Nat.le_of_eq (congrArg Buffer.capacity hended.symm)
      fitting hfits := absurd hfits (Nat.not_le.2 hroom)
      growing _ hsome := Bool.noConfusion (hmemory.symm.trans hsome)
      lacking _ _ := hrun
      written hok := by
        rw [hrun] at hok
        cases hok }

theorem sound_empty (start : Nat) : Sound start 0 (empty start).toBuffer := by
  rw [toBuffer_empty]
  exact ⟨Nat.zero_le _, List.length_replicate, fun _ => rfl, by simp [Buffer.new],
    Nat.le_max_left _ _⟩

theorem sound_attempt {start grown : Nat} (hsound : Sound start grown line.toBuffer)
    (a : Attempt) :
    Sound start
      (grown +
        if (line.toBuffer.attempt a).capacity = line.toBuffer.capacity then 0 else 1)
      (line.toBuffer.attempt a) := by
  have htakes := takes line a
  have hmost := hsound.most
  have hused : (line.toBuffer.attempt a).used ≤ (line.toBuffer.attempt a).capacity := by
    rw [attempt_toBuffer]
    exact Nat.le_add_right _ _
  have hsize : (line.toBuffer.attempt a).bytes.length = (line.toBuffer.attempt a).capacity := by
    rw [attempt_toBuffer]
    exact length_buffer _
  rcases run_toBuffer line a with ⟨hroom, hrun, hsame⟩ | ⟨hroom, hmemory, hrun, hlarger⟩ |
    ⟨hroom, hmemory, hrun⟩
  · have hkept := (htakes.fitting hroom).2
    have hlonger := (htakes.written (htakes.fitting hroom).1).1
    rw [if_pos hkept]
    refine ⟨hused, hsize, fun hnone => hkept.trans (hsound.unchanged hnone), ?_, ?_⟩
    · rw [hkept]
      exact hsound.least
    · omega
  · obtain ⟨hok, hdouble⟩ := htakes.growing hroom hmemory
    have hlonger := (htakes.written hok).1
    have hgrown : (line.toBuffer.attempt a).capacity = (a.needed + line.toBuffer.capacity) * 2 := by
      rw [Buffer.attempt, hrun, hlarger]
    have hneeded : 0 < a.needed := Nat.succ_pos _
    rw [if_neg (by omega)]
    refine ⟨hused, hsize, fun hnone => by omega, ?_, ?_⟩
    · calc 2 ^ (grown + 1) * start = 2 * (2 ^ grown * start) := by rw [Nat.pow_succ']; exact Nat.mul_assoc _ _ _
        _ ≤ 2 * line.toBuffer.capacity := Nat.mul_le_mul_left 2 hsound.least
        _ ≤ _ := hdouble
    · -- neither the old size nor what the word asks for is more than what is in use now
      omega
  · rw [Buffer.attempt, hrun, if_pos rfl]
    exact hsound

theorem sound_foldl_attempt {start grown : Nat} (hsound : Sound start grown line.toBuffer)
    (attempts : List Attempt) :
    Sound start (grown + line.toBuffer.growths attempts)
      (attempts.foldl Buffer.attempt line.toBuffer) := by
  induction attempts generalizing line grown with
  | nil => exact hsound
  | cons a rest ih =>
      have hstep := sound_attempt hsound a
      rw [growths, List.foldl_cons, ← Nat.add_assoc]
      rw [attempt_toBuffer] at hstep ⊢
      exact ih hstep

/-- With memory for all of them, the words that are tried come onto the line. -/
theorem foldl_attempt_of_memory (line : CommandLine) {attempts : List Attempt}
    (hmemory : ∀ a ∈ attempts, a.memory = true) :
    attempts.foldl attempt line = line.extend (attempts.map Attempt.word) := by
  induction attempts generalizing line with
  | nil => rfl
  | cons a rest ih =>
      rw [List.forall_mem_cons] at hmemory
      have hstep : line.attempt a = line.append a.word := by
        simp [attempt, tryAppend, hmemory.1]
      rw [List.foldl_cons, hstep, ih (line.append a.word) hmemory.2]
      rfl

/-- Whatever is written, the buffer is sound, and takes every further word. It is the buffer of the
line on which the words were tried; with memory throughout, of the line that has all of them. -/
theorem buffer_sound (start : Nat) (writes : List Write) :
    let b := writes.foldl Buffer.write (.new start)
    let attempts := Buffer.triedBy (.new start) writes
    b = attempts.foldl Buffer.attempt (.new start) ∧
      b = (attempts.foldl attempt (empty start)).toBuffer ∧
      ((∀ a ∈ attempts, a.memory = true) →
        b = ((empty start).extend (attempts.map Attempt.word)).toBuffer) ∧
      Sound start (Buffer.growths (.new start) attempts) b ∧
      ∀ a, Takes b a := by
  intro b attempts
  have hb : b = attempts.foldl Buffer.attempt (.new start) := foldl_write (.new start) writes
  have hline : b = (attempts.foldl attempt (empty start)).toBuffer := by
    rw [hb, ← toBuffer_empty, foldl_attempt_toBuffer]
  have hsound := sound_foldl_attempt (sound_empty start) attempts
  rw [toBuffer_empty, Nat.zero_add, ← hb] at hsound
  refine ⟨hb, hline, fun hmemory => ?_, hsound, fun a => ?_⟩
  · rw [hline, foldl_attempt_of_memory _ hmemory]
  · rw [hline]
    exact takes _ a

/-- A word of one byte makes the smallest buffer as large as it may become. -/
example :
    let b := (Buffer.new 1).attempt ⟨true, "a"⟩
    b.capacity = 6 ∧ b.capacity = max 1 (4 * b.used - 2) := by
  decide

/-! ## Bytes of arguments -/

/-- What the reading of bytes left is written as these bytes, and no surrogate is written out. -/
theorem encoding_ofUtf8 (piece : Bytes) : encoding (Text.ofUtf8 piece) = piece := by
  rw [← wordBytes_eq, wordBytes, Text.utf8?_ofUtf8]
  rfl

/-- Arguments that were read from bytes are in the buffer as these bytes, with a space between
neighbours, and read as the arguments with a space between neighbours. None of them has its
surrogates written out. -/
theorem buffer_holds_arguments (capacity : Nat) (pieces : List Bytes) (feedings : List Feeding)
    (hwords : feedings.flatMap Feeding.words = pieces.map Text.ofUtf8) :
    let line := feedings.foldl feed (empty capacity)
    line.buffer.take line.length = [0x20].intercalate pieces ∧
      line.text = Text.joinWith [CodePoint.space] (pieces.map Text.ofUtf8) ∧
      ∀ piece ∈ pieces, (Text.ofUtf8 piece).utf8? = some piece := by
  intro line
  have hwritten : line.written = bytesOf (pieces.map Text.ofUtf8) := by
    rw [← hwords]
    exact written_foldl_feed (empty capacity) feedings
  have hencoding : (pieces.map Text.ofUtf8).map encoding = pieces := by
    have hid : encoding ∘ Text.ofUtf8 = id := funext encoding_ofUtf8
    rw [List.map_map, hid, List.map_id]
  have hreading : (pieces.map Text.ofUtf8).map reading = pieces.map Text.ofUtf8 := by
    simp [← ofUtf8_encoding, encoding_ofUtf8]
  have hbytes : line.bytes = [0x20].intercalate pieces := by
    rw [bytes_eq hwritten, hencoding]
  refine ⟨?_, ?_, fun piece _ => Text.utf8?_ofUtf8 piece⟩
  · have hlength : line.length ≤ line.written.length := Nat.sub_le _ _
    rw [← hbytes, buffer, List.take_append_of_le_length hlength]
    rfl
  · rw [text_eq hwritten, hreading]

end CommandLine

namespace Sample

/-- Half a character, its other half with a letter behind it, and the UTF-8 of a surrogate. -/
def rawPieces : List Bytes := [[0xC3], [0xA9, 0x41], [0xED, 0xA0, 0x80]]

/-- Some bytes that are not UTF-8 go through the smallest buffer. -/
theorem raw_arguments_survive :
    let feedings := [.append (Text.ofUtf8 [0xC3]),
      .extend [Text.ofUtf8 [0xA9, 0x41], Text.ofUtf8 [0xED, 0xA0, 0x80]]]
    let line := feedings.foldl CommandLine.feed (.empty 1)
    feedings.flatMap CommandLine.Feeding.words = rawPieces.map Text.ofUtf8 ∧
      line.buffer.take line.length = [0xC3, 0x20, 0xA9, 0x41, 0x20, 0xED, 0xA0, 0x80] ∧
      line.text = Text.joinWith [CodePoint.space] (rawPieces.map Text.ofUtf8) :=
  have h := CommandLine.buffer_holds_arguments 1 rawPieces
    [.append (Text.ofUtf8 [0xC3]), .extend [Text.ofUtf8 [0xA9, 0x41], Text.ofUtf8 [0xED, 0xA0, 0x80]]]
    rfl
  ⟨rfl, h.1, h.2.1⟩

end Sample

end CommandDispatch
