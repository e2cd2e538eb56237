import CommandDispatch.Spec.About
import CommandDispatch.Spec.Attribute
import CommandDispatch.Spec.Holding

/-! # Declared specs as records

A declared spec can be inspected by attribute name. Its fields and properties can be read but never
set, and its storage can be neither read nor set; any other name may be given a value, also one that
all specs of a kind share. The one later change of a spec is that a command can be hidden. A host
that insists can open the storage by hand; a field may then hold any value, and what follows from it
follows from that value or fails.
-/

namespace CommandDispatch

/-- A declared spec with what it holds by now under each name, and whether its storage is open. -/
structure SpecRecord where
  spec : Spec
  holdings : List (Text × Holding)
  permission : Value := .bool false

namespace SpecRecord

/-- The flags of a spec as they are held; any other field is held as its value. -/
def holdingOf (s : Spec) (field : Text × Value) : Holding :=
  if field.1 = Text.ofString "flags" then
    match s with
    | .option o => .optionFlags o.flags
    | .command c => .commandFlags c.flags
    | _ => .value field.2
  else .value field.2

/-- The record of a spec with the fields that its storage holds. -/
def ofFields (s : Spec) (stored : Fields) : SpecRecord :=
  { spec := s
    holdings := stored.map fun field => (SpecAttribute.storageName field.1, holdingOf s field) }

/-- The record of a spec as it was declared: storage holds its fields. -/
def ofSpec (s : Spec) : SpecRecord := ofFields s s.fields

/-- What is held under a name. -/
def held? (r : SpecRecord) (name : Text) : Option Holding := r.holdings.lookup name

/-- The record with something held under a name, in place of what was held there. -/
def hold (r : SpecRecord) (name : Text) (held : Holding) : SpecRecord :=
  { r with holdings := (name, held) :: r.holdings.filter fun entry => entry.1 ≠ name }

/-- What was put under a name is held there. -/
@[simp] theorem held?_hold_self (r : SpecRecord) (name : Text) (held : Holding) :
    (r.hold name held).held? name = some held := by
  simp [held?, hold]

/-- What is put under a name last is what counts. -/
@[simp] theorem hold_hold (r : SpecRecord) (name : Text) (held held' : Holding) :
    (r.hold name held).hold name held' = r.hold name held' := by
  simp [hold]

/-- All other names hold what they held. -/
theorem held?_hold_of_ne (r : SpecRecord) {name other : Text} (held : Holding)
    (hne : other ≠ name) : (r.hold name held).held? other = r.held? other := by
  have hkept : ∀ holdings : List (Text × Holding),
      (holdings.filter fun entry => entry.1 ≠ name).lookup other = holdings.lookup other := by
    intro holdings
    induction holdings with
    | nil => rfl
    | cons entry rest ih =>
        obtain ⟨place, found⟩ := entry
        by_cases hplace : place = name
        · subst hplace
          simp_all [List.lookup_cons, beq_eq_false_iff_ne.2 hne]
        · simp_all [List.lookup_cons]
  simpa [held?, hold, List.lookup_cons, beq_eq_false_iff_ne.2 hne] using hkept r.holdings

/-- The fields that storage holds for a declared spec: a second name in place of the first one,
callbacks as they were given, and everything else in the form that declaring gave it. -/
def storedFields (s : Spec) (given : Fields) (secondName : Option Value) : Fields :=
  s.fields.map fun field =>
    if field.1 = Text.ofString "name" then (field.1, secondName.getD field.2)
    else match field.2 with
      | .callback _ => (field.1, given.get field.1)
      | v => (field.1, v)

/-- The record of a spec that is declared. A command can be given a second name, which then is its
name as it stands: nothing checks it, or strips it. -/
def construct (kind : SpecKind) (fields : Fields) (secondName : Option Value) :
    Except DeclarationError SpecRecord := do
  if secondName.isSome && !kind.isCommand then throw (.unknownField "name")
  let s ← Spec.declare kind fields
  return ofFields (s.renamed secondName) (storedFields s fields secondName)

/-- What storage holds for a field. -/
def field (r : SpecRecord) (name : Text) : Except AttributeError Holding :=
  match r.held? (SpecAttribute.storageName name) with
  | some held => .ok held
  | none => .error .absent

/-- Whether the flags hold a flag. -/
def hasFlag (r : SpecRecord) (bit : Nat) : Except AttributeError Value := do
  return .bool (← (← r.field "flags").hasFlag bit)

/-- A field holds a text. -/
def holdsText (r : SpecRecord) (name t : Text) : Except AttributeError Bool := do
  match ← r.field name with
  | .value (.text u) => return u = t
  | _ => return false

/-- Both spellings of a switch. A list in the place of a long name stands for its only item. -/
def label (r : SpecRecord) : Except AttributeError Value := do
  let short ← r.field "short_name"
  let long ← r.field "long_name"
  if short.toValue.isTrue then
    return .text (.concat ["-", short.display, "/--", long.display])
  else match long with
    | .value (.list [item]) => return .text (.concat ["--", item.display])
    | .value (.list _) => .error .unfit
    | long => return .text (.concat ["--", long.display])

/-- The place of the bit that hides a spec. -/
def hidingBit : Spec → Nat
  | .option _ => 2
  | _ => 1

/-- The value of a property. -/
def property (r : SpecRecord) : SpecProperty → Except AttributeError Value
  | .required => r.hasFlag 0
  | .optional => r.hasFlag 1
  | .hidden => r.hasFlag (hidingBit r.spec)
  | .takesValues => do return .bool (!((← r.field "metavar").toValue matches .null))
  | .label => r.label
  | .superuserRequired => r.hasFlag 0
  | .isVersion => do
      if ← r.holdsText "name" "version" then return .bool true
      return .bool (← r.holdsText "short_name" "V")

/-- The attributes that all specs of a kind share. -/
def shared (r : SpecRecord) : Fields := [
  ("__typename__", .text r.spec.kind.typeName),
  ("__introspectable__", .list (r.spec.fields.map fun field => .text field.1)),
  ("__doc__", .text r.spec.kind.about),
  ("__module__", .text "sedcli.specs"),
  ("__slots__", .list [.text "__building"])]

/-- The value of a free attribute: what was set, or else what all specs of a kind share. -/
def free? (r : SpecRecord) (name : Text) : Option Value :=
  ((r.held? name).map Holding.toValue).or (r.shared.lookup name)

/-- The value of an attribute. -/
def get (r : SpecRecord) (name : Text) : Except AttributeError Value :=
  match SpecAttribute.ofName r.spec name with
  | .storage => .error .storageRead
  | .field => do return (← r.field name).frozen.toValue
  | .property p => r.property p
  | .permission => .ok r.permission
  | .kind => .ok (.text (.concat ["<class 'sedcli.specs.", r.spec.kind.title, "'>"]))
  | .contents => .ok (.record (r.holdings.map fun entry => (entry.1, entry.2.toValue)))
  | .watchers => .ok .null
  | .free => match r.free? name with
    | some v => .ok v
    | none => .error .absent

/-- The type name that the record gives for itself. -/
def typeName (r : SpecRecord) : Value := (r.free? "__typename__").getD .null

/-- The record after an attempt to set an attribute. -/
def set (r : SpecRecord) (name : Text) (v : Value) : Except AttributeError SpecRecord :=
  match SpecAttribute.ofName r.spec name, v with
  | .storage, v =>
      if r.permission.isTrue then .ok (r.hold name (.value v)) else .error .storageWrite
  | .field, _ | .property _, _ | .watchers, _ => .error .readOnly
  | .permission, v => .ok { r with permission := v }
  | .contents, .record fields =>
      .ok { r with holdings := fields.map fun field => (field.1, .value field.2) }
  | .kind, _ | .contents, _ => .error .unfit
  | .free, v => .ok (r.hold name (.value v))

/-- The operation of a given name, unless it is replaced. -/
def operation? (r : SpecRecord) (name : Text) : Option SpecOperation :=
  if (r.held? name).isSome then none
  else (SpecOperation.all r.spec).find? fun operation => operation.name = name

/-- What an operation comes to: its own effect, or a callback that is called instead. -/
inductive Implementation where
  | own
  | replaced (c : Callback)

/-- What an operation of a record comes to. -/
def implementation (r : SpecRecord) (operation : SpecOperation) :
    Except AttributeError Implementation :=
  match r.held? operation.name with
  | some (.value v) => match v.callback? with
    | some c => .ok (.replaced c)
    | none => .error .notCallable
  | some _ => .error .notCallable
  | none => if (SpecOperation.all r.spec).contains operation then .ok .own else .error .absent

/-- The record of a command after an attempt to hide it. Storage is closed afterwards also if that
failed. -/
def hide (r : SpecRecord) : SpecRecord × Except AttributeError Unit :=
  let closed := { r with permission := .bool false }
  match r.field "flags" >>= Holding.hidden with
  | .ok flags => (closed.hold (SpecAttribute.storageName "flags") flags, .ok ())
  | .error e => (closed, .error e)

/-- How a diagnostic shows a field of a record. -/
def fieldLiteral (r : SpecRecord) (name : Text) : Except AttributeError (Text × Text) := do
  return (name, (← r.field name).literal)

/-- How a diagnostic shows a record with its fields. -/
def showFields (r : SpecRecord) : Except AttributeError Text := do
  let fields ← r.spec.fields.mapM fun field => r.fieldLiteral field.1
  return fieldsLiteral r.spec.kind.typeName fields

end SpecRecord

end CommandDispatch
