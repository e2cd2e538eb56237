import CommandDispatch.Action
import CommandDispatch.Spec.Record

/-! # Inspection

What an inspection of a declared spec runs: operations that are replaced call the callbacks that
were set in their places. A callback that lists the fields of a spec can list none, as it has no
names for them, and one that opens the storage cannot close it again.
-/

namespace CommandDispatch

/-- An access to an attribute that may fail. -/
def Action.ofAccess {α : Type} (outcome : Except AttributeError α) : Action α :=
  ofExcept (outcome.mapError .access)

@[simp] theorem Action.run_ofAccess {α : Type} (outcome : Except AttributeError α) (h : Host)
    (s : Session) : (ofAccess outcome).run h s = (outcome.mapError .access, s) := rfl

namespace SpecRecord

def literal (r : SpecRecord) : Action Text := do
  match ← Action.ofAccess (r.implementation .listFields) with
  | .own => Action.ofAccess r.showFields
  | .replaced c =>
      match ← Action.ofExcept (← Action.call c .inspection).readPieces with
      | [] => return fieldsLiteral r.spec.kind.typeName []
      | _ => Action.fail (.access .unfit)

/-- The value of an attribute. An operation is shown with the record that it belongs to. -/
def read (r : SpecRecord) (name : Text) : Action Value := do
  match r.operation? name with
  | some operation =>
      return .text (.concat ["<bound method ", operation.title, " of ", ← r.literal, ">"])
  | none => Action.ofAccess (r.get name)

/-- Hides the spec of a record: the record afterwards, and the answer, which a callback may give in
place of that. -/
def runHide (r : SpecRecord) : Action (SpecRecord × Except AttributeError Value) := do
  match ← Action.ofAccess (r.implementation .hideCommand) with
  | .replaced c => return (r, .ok (← Action.call c .inspection))
  | .own =>
      match ← Action.ofAccess (r.implementation .openStorage) with
      | .own => return (r.hide.1, r.hide.2.map fun _ => .null)
      | .replaced c =>
          discard (Action.call c .inspection)
          Action.fail (.access .unfit)

end SpecRecord

end CommandDispatch
