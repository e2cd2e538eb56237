import CommandDispatch.Value

/-! # Words of an invocation

A word is a short option (a dash and one ASCII letter), a long option (two dashes and a text that
starts with an ASCII letter), or malformed. Values, entry names and paths are malformed too; it
depends on the place whether that is accepted. A switch is selected by its own two spellings only,
where long names count up to a fixed length.
-/

namespace CommandDispatch

/-- The class of a word, with the name it carries. -/
inductive Token where
  | short (letter : CodePoint)
  | long (name : Text)
  | malformed
  deriving DecidableEq

namespace Token

/-- The class of a text. -/
def ofText : Text → Token
  | first :: second :: rest =>
      if first ≠ CodePoint.dash then .malformed
      else if second.isAsciiLetter then
        if rest = [] then .short second else .malformed
      else if second ≠ CodePoint.dash then .malformed
      else match rest with
        | third :: _ => if third.isAsciiLetter then .long rest else .malformed
        | [] => .malformed
  | _ => .malformed

/-- The class of a word. Only texts can be options. -/
def ofWord : Value → Token
  | .text t => ofText t
  | _ => .malformed

/-- The name that an option carries. -/
def name? : Token → Option Text
  | short letter => some [letter]
  | long name => some name
  | malformed => none

end Token

/-- A word that is a short or a long option. -/
def isOption (word : Value) : Bool := Token.ofWord word ≠ .malformed

namespace Switch

/-- Long names are compared on this many code points. -/
def comparedLength : Nat := 255

/-- Two names that agree as far as they are compared. -/
def sameName (s t : Text) : Bool := s.take comparedLength = t.take comparedLength

/-- A word selects a switch by one of the switch's own spellings. A switch without a short name is
selected by no short option. -/
def selectedBy (s : Switch) (word : Value) : Bool :=
  match Token.ofWord word with
  | .short letter => s.shortName = some [letter]
  | .long name => sameName name s.longName
  | .malformed => false

def help : Switch := ⟨"help", some "H"⟩

def version : Switch := ⟨"version", some "V"⟩

end Switch

def isHelp (word : Value) : Bool := Switch.help.selectedBy word

def isVersion (word : Value) : Bool := Switch.version.selectedBy word

/-- The place of the first word that asks for help after the program and its selector. -/
def helpPosition (words : List Value) : Option Nat :=
  ((words.drop 2).findIdx? isHelp).map (· + 2)

/-- How many words come before the first option. -/
def countValues (words : List Value) : Nat := (words.takeWhile fun word => !isOption word).length

end CommandDispatch
