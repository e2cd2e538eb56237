import CommandDispatch.Spec.Literal

/-! # Values

What hosts hand to the engine and get back from it: the arguments of a declaration, the words of an
invocation, and the answers of callbacks. A truth value is also a number, true being one and false
being zero. A callback can be a collection as well.
-/

namespace CommandDispatch

/-- What a collection holds: a sequence of items, the fields of a record, or the members of a
set. -/
inductive Contents (α : Type) where
  | sequence (items : List α)
  | record (fields : List (Text × α))
  | set (members : List α)

def Contents.isEmpty {α : Type} : Contents α → Bool
  | sequence items => items.isEmpty
  | record fields => fields.isEmpty
  | set members => members.isEmpty

inductive Value where
  | null
  | bool (b : Bool)
  | int (n : Int)
  | text (t : Text)
  | styled (t : StyledText)
  | list (items : List Value)
  | record (fields : List (Text × Value))
  | callback (c : Callback)
  /-- A callback that is a collection as well. -/
  | collection (c : Callback) (contents : Contents Value)
  | spec (s : Spec)

instance : Inhabited Value := ⟨.null⟩

namespace Value

/-- The number of a value; a truth value counts as one or zero. -/
def number? : Value → Option Int
  | .int n => some n
  | .bool true => some 1
  | .bool false => some 0
  | _ => none

/-- A value is zero when its number is. -/
def isZero (v : Value) : Bool := v.number? = some 0

/-- A value is true unless it is absent, zero, or empty. -/
def isTrue : Value → Bool
  | .null => false
  | .bool b => b
  | .int n => n ≠ 0
  | .text t => !t.isEmpty
  | .styled t => !t.plain.isEmpty
  | .list items => !items.isEmpty
  | .record fields => !fields.isEmpty
  | .callback _ => true
  | .collection _ contents => !contents.isEmpty
  | .spec _ => true

/-- The items of a value that can be walked through: those of a list, the one-character texts of a
text, the keys of a record. -/
def items? : Value → Option (List Value)
  | .list items | .collection _ (.sequence items) | .collection _ (.set items) => some items
  | .text t => some (t.map fun c => .text [c])
  | .record fields | .collection _ (.record fields) => some (fields.map fun f => .text f.1)
  | _ => none

/-- What a value gives when it is read piece by piece: its items, or, for a styled text, its
characters without its style. -/
def pieces? : Value → Option (List Value)
  | .styled t => some (t.characters.map .styled)
  | v => v.items?

/-- Values that never change can be keys and members of sets. -/
def isKey : Value → Bool
  | .list _ | .record _ | .styled _ | .collection .. => false
  | _ => true

/-- The callback that a value is. -/
def callback? : Value → Option Callback
  | .callback c | .collection c _ => some c
  | _ => none

/-- Two keys are the same when both are absent, or the same text, or the same number. -/
def sameKey : Value → Value → Bool
  | .null, .null => true
  | .text s, .text t => s = t
  | v, w => v.number?.isSome && v.number? = w.number?

mutual

def literal : Value → Text
  | .null => absentLiteral
  | .bool true => "True"
  | .bool false => "False"
  | .int n => Text.integer n
  | .text t => t.quoted
  | .styled t => t.literal
  | .list items => .concat ["[", Text.joinWith ", " (literals items), "]"]
  | .record fields => .concat ["\x7b", Text.joinWith ", " (fieldLiterals fields), "\x7d"]
  | .callback c | .collection c _ => c.literal
  | .spec s => s.literal

/-- How a diagnostic shows each of several values. -/
def literals : List Value → List Text
  | [] => []
  | v :: rest => literal v :: literals rest

/-- How a diagnostic shows each field of a record. -/
def fieldLiterals : List (Text × Value) → List Text
  | [] => []
  | (name, v) :: rest => .concat [name.quoted, ": ", literal v] :: fieldLiterals rest

end

mutual

/-- The numbers that a diagnostic shows of a value. -/
def numbers : Value → List Int
  | .int n => [n]
  | .list items => itemNumbers items
  | .record fields => fieldNumbers fields
  | .spec s => s.numbers
  | _ => []

/-- The numbers of several values. -/
def itemNumbers : List Value → List Int
  | [] => []
  | v :: rest => numbers v ++ itemNumbers rest

/-- The numbers of the fields of a record. -/
def fieldNumbers : List (Text × Value) → List Int
  | [] => []
  | (_, v) :: rest => numbers v ++ fieldNumbers rest

end

/-- How a message shows a value: texts as they are, anything else as in a diagnostic. -/
def display : Value → Text
  | .text t => t
  | .styled t => t.plain
  | v => v.literal

/-- A value in the place of a style. One that is not true is no style. -/
def asStyle : Value → Style
  | .text name => .named name
  | v =>
      if !v.isTrue then .vacant v.display v.literal
      else if v.isKey then .flawed .noName v.display v.literal
      else .flawed .changeable v.display v.literal

/-- A value as a piece of a message: a styled text keeps its style, anything else takes the given
one. -/
def piece (style : Style) : Value → StyledText
  | .styled t => t
  | v => .uniform v.display style

end Value

def Label.toValue : Label → Value
  | .plain t => .text t
  | .styled t => .styled t

def Value.ofText? : Option Text → Value
  | some t => .text t
  | none => .null

def Value.ofLabel? : Option Label → Value
  | some l => l.toValue
  | none => .null

def Value.ofCallback? : Option Callback → Value
  | some c => .callback c
  | none => .null

end CommandDispatch
