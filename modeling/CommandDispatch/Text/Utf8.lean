import CommandDispatch.Text.Basic

/-! # Texts as bytes

UTF-8 with two ways to write what it does not cover. A byte that belongs to no character is read as
the surrogate that stands for it (`0xDC00` plus the byte), and that surrogate is written as the byte
again; no other surrogate can be written in this way. The escaped form writes every surrogate as a
backslash, the letter `u` and four digits, and so covers all texts.
-/

namespace CommandDispatch

abbrev Bytes := List UInt8

namespace CodePoint

/-- The surrogates that stand for the bytes `0x80` to `0xFF`. -/
def isByteSurrogate (c : CodePoint) : Bool := 0xDC80 ≤ c.val && c.val ≤ 0xDCFF

/-- The surrogate that stands for a byte that belongs to no character. -/
def ofByte (b : UInt8) : CodePoint :=
  ⟨0xDC00 + b.toNat, by have := b.toNat_lt; omega⟩

/-- The UTF-8 form of a code point. -/
def utf8 (c : CodePoint) : Bytes :=
  if c.val < 0x80 then [UInt8.ofNat c.val]
  else if c.val < 0x800 then
    [UInt8.ofNat (0xC0 + c.val / 64), UInt8.ofNat (0x80 + c.val % 64)]
  else if c.val < 0x10000 then
    [UInt8.ofNat (0xE0 + c.val / 4096), UInt8.ofNat (0x80 + c.val / 64 % 64),
      UInt8.ofNat (0x80 + c.val % 64)]
  else
    [UInt8.ofNat (0xF0 + c.val / 262144), UInt8.ofNat (0x80 + c.val / 4096 % 64),
      UInt8.ofNat (0x80 + c.val / 64 % 64), UInt8.ofNat (0x80 + c.val % 64)]

/-- A surrogate written out as a backslash, the letter `u` and four hexadecimal digits; any other
code point as itself. -/
def surrogateEscaped (c : CodePoint) : Text :=
  if c.isSurrogate then Text.ofString "\\u" ++ Text.hexadecimal 4 c.val else [c]

end CodePoint

namespace Text

/-- The text with every surrogate written out. -/
def surrogatesEscaped (t : Text) : Text := t.flatMap CodePoint.surrogateEscaped

/-- The bytes of a text whose surrogates all stand for bytes; none for any other text. -/
def utf8? : Text → Option Bytes
  | [] => some []
  | c :: rest => do
      let bytes ← utf8? rest
      if c.isByteSurrogate then some (UInt8.ofNat (c.val - 0xDC00) :: bytes)
      else if c.isSurrogate then none
      else some (c.utf8 ++ bytes)

/-- The bytes of a text with every surrogate written out. -/
def utf8Escaped (t : Text) : Bytes := t.surrogatesEscaped.flatMap CodePoint.utf8

/-- The six bits that a continuation byte carries. -/
def continuation? (b : UInt8) : Option Nat :=
  if 0x80 ≤ b.toNat ∧ b.toNat < 0xC0 then some (b.toNat - 0x80) else none

/-- A code point with its number of continuation bytes, unless it is a surrogate or would have had
a shorter form. -/
def scalar? (least value length : Nat) : Option (CodePoint × Nat) :=
  if h : value < 0x110000 then
    if least ≤ value ∧ ¬ (0xD800 ≤ value ∧ value ≤ 0xDFFF) then some (⟨value, h⟩, length) else none
  else none

/-- The character that starts with a byte, and the number of continuation bytes it takes. -/
def character? (b : UInt8) (rest : Bytes) : Option (CodePoint × Nat) :=
  if b.toNat < 0x80 then scalar? 0 b.toNat 0
  else if b.toNat < 0xC0 then none
  else if b.toNat < 0xE0 then
    match rest with
    | b₁ :: _ => do
        let x ← continuation? b₁
        scalar? 0x80 ((b.toNat - 0xC0) * 64 + x) 1
    | _ => none
  else if b.toNat < 0xF0 then
    match rest with
    | b₁ :: b₂ :: _ => do
        let x ← continuation? b₁
        let y ← continuation? b₂
        scalar? 0x800 (((b.toNat - 0xE0) * 64 + x) * 64 + y) 2
    | _ => none
  else if b.toNat < 0xF8 then
    match rest with
    | b₁ :: b₂ :: b₃ :: _ => do
        let x ← continuation? b₁
        let y ← continuation? b₂
        let z ← continuation? b₃
        scalar? 0x10000 ((((b.toNat - 0xF0) * 64 + x) * 64 + y) * 64 + z) 3
    | _ => none
  else none

/-- The text of the bytes after the first `skip`, which an earlier character has taken. -/
def ofUtf8After : (skip : Nat) → Bytes → Text
  | _, [] => []
  | skip + 1, _ :: rest => ofUtf8After skip rest
  | 0, b :: rest =>
      match character? b rest with
      | some (c, taken) => c :: ofUtf8After taken rest
      | none => CodePoint.ofByte b :: ofUtf8After 0 rest

/-- The text of a sequence of bytes. A byte that belongs to no character becomes the surrogate that
stands for it, so every sequence has a text. -/
def ofUtf8 (bytes : Bytes) : Text := ofUtf8After 0 bytes

end Text

end CommandDispatch
