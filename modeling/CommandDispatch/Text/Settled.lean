import CommandDispatch.Text.Basic

/-! # Settled texts

What a console keeps of a text that was written to it line by line. A carriage return starts its
line again, so that only what follows the last one stays. The sequences behind an escape character
are obeyed and not shown.
-/

namespace CommandDispatch

namespace CodePoint

def carriageReturn : CodePoint := ⟨0x0D, by decide⟩

def escape : CodePoint := ⟨0x1B, by decide⟩

/-- A code point between two ASCII characters, both included. -/
def isBetween (first last : Char) (c : CodePoint) : Bool :=
  first.toNat ≤ c.val && c.val ≤ last.toNat

end CodePoint

namespace Text

/-- How long the rest of a command is: it ends with an escape character and a backslash. -/
def commandLength? : Text → Option Nat
  | c :: d :: rest =>
      if c = CodePoint.escape ∧ d = CodePoint.ofChar '\\' then some 2
      else (commandLength? (d :: rest)).map (· + 1)
  | _ => none

/-- How long the rest of a control sequence is: parameters, intermediate characters, and one final
character. -/
def controlLength? (t : Text) : Option Nat :=
  let parameters := t.takeWhile (CodePoint.isBetween '0' '?')
  let tail := t.drop parameters.length
  let intermediates := tail.takeWhile (CodePoint.isBetween ' ' '/')
  match tail.drop intermediates.length with
  | final :: _ =>
      if final.isBetween '@' '~' then some (parameters.length + intermediates.length + 1) else none
  | [] => none

/-- How long the sequence is that an escape character in front of a text opens, if it opens one. -/
def sequenceLength? : Text → Option Nat
  | [] => none
  | c :: rest =>
      if c = CodePoint.ofChar '[' then (controlLength? rest).map (· + 1)
      else if c = CodePoint.ofChar ']' then some ((commandLength? rest).getD 0 + 1)
      else if c.isBetween '0' '?' || c.isBetween '@' '_' || c = CodePoint.ofChar '(' then some 1
      else none

/-- What is shown of a line. `hidden` code points at its start belong to a sequence, and
`designating` says that the sequence before them takes one more, unless another sequence starts
there. -/
def shownBehind : (hidden : Nat) → (designating : Bool) → Text → Text
  | _, _, [] => []
  | hidden + 1, designating, _ :: rest => shownBehind hidden designating rest
  | 0, designating, c :: rest =>
      match if c = CodePoint.escape then sequenceLength? rest else none with
      | some length => shownBehind length (rest.head? = some (CodePoint.ofChar '(')) rest
      | none =>
          if designating then shownBehind 0 false rest else c :: shownBehind 0 false rest

/-- What follows the last carriage return of a line. -/
def behindReturn (line : Text) : Text :=
  (line.reverse.takeWhile (· ≠ CodePoint.carriageReturn)).reverse

/-- What a console keeps of a text. -/
def settled (t : Text) : Text :=
  joinWith [CodePoint.newline]
    ((t.splitOn CodePoint.newline).map fun line => shownBehind 0 false (behindReturn line))

end Text

end CommandDispatch
