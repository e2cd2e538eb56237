import CommandDispatch.Style
import CommandDispatch.Text.Layout

/-! # Styled texts and console messages

A styled text is a piece of text in one style, and perhaps with spans of further styles. A message
is what the console is given to print, also a text with a base style and spans. A message made of one
piece has that piece's style and spans; in a message put together from several pieces each piece
with text has a span for its style, if it has one, and its own spans behind that. A style that the
console cannot use keeps the message from being printed.
-/

namespace CommandDispatch

/-- A style that covers the code points from `start` up to `stop`. -/
structure Span where
  start : Nat
  stop : Nat
  style : Style
  deriving DecidableEq

/-- The span in a text that has some code points more in front. -/
def Span.shift (count : Nat) (s : Span) : Span := ⟨count + s.start, count + s.stop, s.style⟩

/-- A piece of text with a style, and with spans of further styles. `source` is the text as it was
given, controls included; the spans count without them. -/
structure StyledText where
  source : Text
  style : Style
  spans : List Span
  deriving DecidableEq

namespace StyledText

/-- A piece of text in one style. -/
def uniform (source : Text) (style : Style) : StyledText := ⟨source, style, []⟩

/-- What is shown of a styled text. -/
def plain (t : StyledText) : Text := t.source.shown

/-- The spans of a styled text that stands at a position: one for its style, if it has one, and its
own. -/
def spansAt (position : Nat) (t : StyledText) : List Span :=
  let own := t.spans.map (Span.shift position)
  if t.style.isNone then own else ⟨position, position + t.plain.length, t.style⟩ :: own

/-- The code points of a styled text, each with the styles of the spans that cover it. -/
def characters (t : StyledText) : List StyledText :=
  t.plain.zipIdx.map fun (c, place) =>
    let covering := t.spans.filter fun s => s.start ≤ place && place < s.stop
    ⟨[c], .none, covering.map fun s => ⟨0, 1, s.style⟩⟩

end StyledText

/-- A message for the console. What is no text is laid out for the console in a form of its own. -/
structure Message where
  plain : Text
  style : Style := .none
  spans : List Span := []
  laidOut : Option Text := none
  deriving DecidableEq

namespace Message

def blank : Message := { plain := [] }

def ofStyled (piece : StyledText) : Message :=
  { plain := piece.plain, style := piece.style, spans := piece.spans }

def ofText (t : Text) : Message := ofStyled (.uniform t .none)

/-- The spans of pieces that follow each other, the first at position `start`. A piece without text
has none. -/
def spansFrom : (start : Nat) → List StyledText → List Span
  | _, [] => []
  | start, piece :: rest =>
      let others := spansFrom (start + piece.plain.length) rest
      if piece.plain = [] then others else piece.spansAt start ++ others

def assemble (pieces : List StyledText) : Message :=
  { plain := pieces.flatMap StyledText.plain, spans := spansFrom 0 pieces }

/-- The message with a piece at its end. -/
def appendPiece (m : Message) (piece : StyledText) : Message :=
  { m with
    plain := m.plain ++ piece.plain
    spans := m.spans ++ spansFrom m.plain.length [piece] }

/-- The message with a text in a style at its end. The style has a span even where only controls
are given, of which nothing is shown. -/
def appendText (m : Message) (t : Text) (style : Style) : Message :=
  let stop := m.plain.length + t.shown.length
  let spans := if t = [] ∨ style.isNone then [] else [⟨m.plain.length, stop, style⟩]
  { m with plain := m.plain ++ t.shown, spans := m.spans ++ spans }

def uncolored (m : Message) : Message := { m with style := .none, spans := [] }

/-- The message as a console prints it that may or may not use styles. -/
def colored (colorful : Bool) (m : Message) : Message := if colorful then m else m.uncolored

/-- The styles of a message with the places they cover: the base style covers all of it. -/
def layers (m : Message) : List Span := ⟨0, m.plain.length, m.style⟩ :: m.spans

/-- Whether the console looks up the style of a span. It prints by lines, and a line keeps the spans
that cover some of its characters; only a text of one line without tabs keeps empty spans. -/
def looksUp (m : Message) (span : Span) : Bool :=
  let covered := (m.plain.drop span.start).take (span.stop - span.start)
  covered.any (· ≠ CodePoint.newline) ||
    m.plain.all fun c => c ≠ CodePoint.newline && c ≠ CodePoint.tab

/-- Why the console cannot print a message, if it cannot. -/
def flaw? (m : Message) : Option StyleFlaw :=
  (m.layers.filter m.looksUp).findSome? fun span => span.style.flaw?

/-- The characters that reach the console: tabs expanded, and a newline at the end. -/
def rendered (m : Message) : Text :=
  (m.laidOut.getD m.plain).expandTabs ++ [CodePoint.newline]

end Message

end CommandDispatch
