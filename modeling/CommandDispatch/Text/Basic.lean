/-! # Texts as sequences of code points

A text is a list of Unicode code points, surrogates included: a word of an invocation may carry
bytes that encode no character, and a lone surrogate stands for each of them. Lengths, positions,
paddings and cuts all count code points. The module also holds the number formats that messages use.
-/

namespace CommandDispatch

/-- A Unicode code point. Surrogates are code points too. -/
abbrev CodePoint := Fin 0x110000

/-- A text is a sequence of code points. -/
abbrev Text := List CodePoint

namespace CodePoint

/-- The code point of a character. -/
def ofChar (c : Char) : CodePoint :=
  ⟨c.toNat, by
    have hvalid := c.valid
    simp only [UInt32.isValidChar, Nat.isValidChar] at hvalid
    simp only [Char.toNat]
    omega⟩

/-- The dash that opens every switch. -/
def dash : CodePoint := ⟨0x2D, by decide⟩

/-- The space that separates the words of a command line. -/
def space : CodePoint := ⟨0x20, by decide⟩

def newline : CodePoint := ⟨0x0A, by decide⟩

def tab : CodePoint := ⟨0x09, by decide⟩

/-- Surrogates encode no character of their own. -/
def isSurrogate (c : CodePoint) : Bool := 0xD800 ≤ c.val && c.val ≤ 0xDFFF

/-- The letters `a` to `z` and `A` to `Z`. -/
def isAsciiLetter (c : CodePoint) : Bool :=
  (0x61 ≤ c.val && c.val ≤ 0x7A) || (0x41 ≤ c.val && c.val ≤ 0x5A)

/-- Membership in a list of closed ranges of code points. -/
def isWithin (ranges : List (Nat × Nat)) (c : CodePoint) : Bool :=
  ranges.any fun range => range.1 ≤ c.val && c.val ≤ range.2

end CodePoint

namespace Text

def ofString (s : String) : Text := s.toList.map CodePoint.ofChar

instance : Coe String Text := ⟨ofString⟩

/-- The pieces one after the other. -/
def concat (pieces : List Text) : Text := pieces.flatten

/-- The pieces with a separator between neighbours. -/
def joinWith (separator : Text) (pieces : List Text) : Text := separator.intercalate pieces

/-- A natural number in base ten, without superfluous zeros. -/
def decimal (n : Nat) : Text := (Nat.toDigits 10 n).map CodePoint.ofChar

/-- An integer in base ten, with a dash in front of a negative one. -/
def integer : Int → Text
  | .ofNat n => decimal n
  | .negSucc n => CodePoint.dash :: decimal (n + 1)

/-- A natural number in base sixteen with at least `width` digits. -/
def hexadecimal (width n : Nat) : Text :=
  let digits := (Nat.toDigits 16 n).map CodePoint.ofChar
  List.replicate (width - digits.length) (CodePoint.ofChar '0') ++ digits

/-- A natural number in base ten with at least two digits. -/
def twoDigits (n : Nat) : Text :=
  if n < 10 then CodePoint.ofChar '0' :: decimal n else decimal n

/-- A text filled up with spaces on the right; a longer one stays as it is. -/
def padRight (width : Nat) (t : Text) : Text :=
  t ++ List.replicate (width - t.length) CodePoint.space

/-- A text filled up with spaces on the left; a longer one stays as it is. -/
def padLeft (width : Nat) (t : Text) : Text :=
  List.replicate (width - t.length) CodePoint.space ++ t

/-- A text goes before another at the first code point in which they differ, and before all its
extensions. -/
def before : Text → Text → Bool
  | [], _ => true
  | _ :: _, [] => false
  | a :: s, b :: t => if a = b then before s t else a.val < b.val

/-- A name in words joined with dashes: a dash before every capital except at the start, and all in
lower case. -/
def hyphenated : Text → Text
  | [] => []
  | c :: rest => lower c :: rest.flatMap fun c =>
      if 0x41 ≤ c.val && c.val ≤ 0x5A then [CodePoint.dash, lower c] else [c]
where
  /-- Lower case of an ASCII capital. -/
  lower (c : CodePoint) : CodePoint :=
    if h : 0x41 ≤ c.val ∧ c.val ≤ 0x5A then ⟨c.val + 0x20, by omega⟩ else c

end Text

end CommandDispatch
