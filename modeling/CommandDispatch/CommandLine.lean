import CommandDispatch.Text.Utf8

/-! # Rebuilt command lines

The words of an invocation in a byte buffer, each followed by a space; the last space is not read
back. The buffer grows when a word does not fit, to twice the sum of what the word needs and the
capacity so far, and keeps what was written.
-/

namespace CommandDispatch

/-- A command line under construction: what is written into the buffer, and how much room is left
behind it. -/
structure CommandLine where
  written : Bytes
  spare : Nat
  deriving DecidableEq

namespace CommandLine

def defaultCapacity : Nat := 100

def empty (capacity : Nat) : CommandLine := ⟨[], capacity⟩

/-- The whole buffer; the room that is left holds zeros. -/
def buffer (line : CommandLine) : Bytes := line.written ++ List.replicate line.spare 0

/-- The number of bytes for which the buffer has room, written or not. -/
def capacity (line : CommandLine) : Nat := line.written.length + line.spare

theorem length_buffer (line : CommandLine) : line.buffer.length = line.capacity := by
  simp [buffer, capacity]

/-- The number of bytes that are read back: all but the last separator. -/
def length (line : CommandLine) : Nat := line.written.length - 1

/-- The bytes of a word: those that its surrogates stand for if all of them do, else the word with
every surrogate written out. -/
def wordBytes (word : Text) : Bytes := word.utf8?.getD word.utf8Escaped

/-- A word fits when its bytes and a separator do. -/
def fits (line : CommandLine) (data : Bytes) : Bool :=
  data.length + 1 ≤ line.spare

/-- The line with a greater buffer. What is written stays in front. -/
def grow (line : CommandLine) (needed : Nat) : CommandLine :=
  let capacity := (needed + line.capacity) * 2
  { line with spare := line.spare + (capacity - line.capacity) }

/-- The line with bytes and a separator written into the room that is left. -/
def put (line : CommandLine) (data : Bytes) : CommandLine :=
  ⟨line.written ++ data ++ [0x20], line.spare - (data.length + 1)⟩

def append (line : CommandLine) (word : Text) : CommandLine :=
  let data := wordBytes word
  if line.fits data then line.put data else (line.grow (data.length + 1)).put data

/-- Tries to write a further word: whether that was possible, and the line afterwards. Without
memory to grow, a line on which the word does not fit stays as it is. -/
def tryAppend (memory : Bool) (line : CommandLine) (word : Text) : Bool × CommandLine :=
  if memory || line.fits (wordBytes word) then (true, line.append word) else (false, line)

def extend (line : CommandLine) (words : List Text) : CommandLine := words.foldl append line

/-- The bytes of the line. -/
def bytes (line : CommandLine) : Bytes := line.written.take line.length

def text (line : CommandLine) : Text := Text.ofUtf8 line.bytes

end CommandLine

end CommandDispatch
