import CommandDispatch.Memory

/-! # Fields read back

What was stored in a field reads back in a form that cannot be changed: sequences as tuples, sets as
frozen sets, records as read-only records, and single values as they are. So a callback that is a
collection reads back as what it holds, and not as a callback.
-/

namespace CommandDispatch

/-- How the items of a field are collected before they are stored. -/
inductive CollectionKind where
  | asGiven
  | set
  | frozenSet
  | tuple
  | bytes
  deriving DecidableEq

/-- A field as it reads back. -/
inductive FrozenField where
  | sequence (items : List Value)
  | set (items : List Value)
  | record (fields : List (Text × Value))
  | single (v : Value)

namespace FrozenField

/-- Orders numbers by size and texts by their code points. -/
def sortsBefore : Value → Value → Bool
  | .text s, .text t => s.before t
  | v, w => match v.number?, w.number? with
    | some m, some n => m ≤ n
    | _, _ => true

/-- Values with a common order: all of them numbers, or all of them texts. -/
def areComparable (items : List Value) : Bool :=
  items.all (fun v => v.number?.isSome) || items.all fun v => v matches .text _

/-- The members of a set, each once, in the order in which they first occur. -/
def distinct (items : List Value) : List Value :=
  items.foldl (fun kept v => if kept.any (Value.sameKey v) then kept else kept ++ [v]) []

/-- The members of a set in ascending order. A single member needs no order. -/
def readMembers (items : List Value) : Except Failure (List Value) :=
  let members := distinct items
  if !items.all Value.isKey then .error .notKey
  else if 1 < members.length && !areComparable members then .error .notComparable
  else .ok (members.mergeSort sortsBefore)

/-- Reads a byte: a number from zero to 255. -/
def readByte (v : Value) : Except Failure Value :=
  match v.number? with
  | some n => if 0 ≤ n ∧ n < 256 then .ok (.int n) else .error .notByte
  | none => .error .notIterable

/-- The bytes of a value, each as a number: those that it lists, or as many zeros as its number
tells. A text has no bytes of its own. -/
def readBytes (memory : Memory) (v : Value) : Except Failure (List Value) :=
  match v.number?, v with
  | some n, _ => do
      let size ← memory.size Memory.fixedOverhead n
      if n < 0 then throw .notByte
      return List.replicate size (.int 0)
  | none, .text _ => .error .notIterable
  | none, v => do (← v.readPieces).mapM readByte

/-- A field that holds a value as it was given. -/
def ofStored : Value → FrozenField
  | .list items | .collection _ (.sequence items) => .sequence items
  | .record fields | .collection _ (.record fields) => .record fields
  | .collection _ (.set members) => .set members
  | v => .single v

/-- A field that holds a value, collected in a way. -/
def ofValue (memory : Memory) (kind : CollectionKind) (v : Value) : Except Failure FrozenField :=
  match kind with
  | .asGiven => .ok (ofStored v)
  | .tuple => .sequence <$> v.readPieces
  | .bytes => .sequence <$> readBytes memory v
  | .set | .frozenSet => do return .set (← readMembers (← v.readPieces))

/-- The type name of a field as it reads back. -/
def typeName : FrozenField → Text
  | sequence _ => "tuple"
  | set _ => "frozenset"
  | record _ => "mappingproxy"
  | single .null => "NoneType"
  | single (.bool _) => "bool"
  | single (.int _) => "int"
  | single (.text _) => "str"
  | single (.styled _) => "Text"
  | single (.list _) => "tuple"
  | single (.record _) => "mappingproxy"
  | single (.callback _) | single (.collection ..) => "Callback"
  | single (.spec s) => s.kind.title

def literal : FrozenField → Text
  | sequence items => sequenceLiteral (Value.literals items)
  | set items => sequenceLiteral (Value.literals items)
  | record fields => .concat ["mappingproxy(", (Value.record fields).literal, ")"]
  | single v => v.literal

/-- What is handed out for a field: a read-only record only as a diagnostic shows it. -/
def toValue : FrozenField → Value
  | sequence items => .list items
  | set items => .list items
  | record fields => .text (record fields).literal
  | single v => v

end FrozenField

end CommandDispatch
