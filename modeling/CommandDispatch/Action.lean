import CommandDispatch.Session

/-! # Actions

An action runs on a host, changes a session, and ends with a result or a failure. What it changed
before a failure stays changed.
-/

namespace CommandDispatch

/-- An action with results of type `α`. -/
structure Action (α : Type) where
  run : Host → Session → Except Failure α × Session

namespace Action

variable {α β : Type}

instance : Monad Action where
  pure a := ⟨fun _ session => (.ok a, session)⟩
  bind action next := ⟨fun host session =>
    match action.run host session with
    | (.ok a, session) => (next a).run host session
    | (.error failure, session) => (.error failure, session)⟩

/-- Ends with a failure. -/
def fail (failure : Failure) : Action α := ⟨fun _ session => (.error failure, session)⟩

def host : Action Host := ⟨fun host session => (.ok host, session)⟩

def session : Action Session := ⟨fun _ session => (.ok session, session)⟩

def update (change : Session → Session) : Action Unit :=
  ⟨fun _ session => (.ok (), change session)⟩

/-- A result that is there already, or a failure. -/
def ofExcept (result : Except Failure α) : Action α := ⟨fun _ session => (result, session)⟩

/-- Runs an action that may end with a fault; other failures go through. -/
def catchFault (action : Action α) : Action (Except Fault α) := ⟨fun host session =>
  match action.run host session with
  | (.ok a, session) => (.ok (.ok a), session)
  | (.error (.fault f), session) => (.ok (.error f), session)
  | (.error failure, session) => (.error failure, session)⟩

/-- Asks a callback, and records the call. A file that the callback cannot open makes it fail. -/
def call (callback : Callback) (request : Request) : Action Value := ⟨fun host session =>
  let reply := host.answer callback (session.requestsTo callback) request
  let session := { session with calls := session.calls ++ [⟨callback, request⟩] }
  match reply.appended with
  | some (path, bytes) =>
      match session.files.appendAt (.text path) bytes with
      | .ok files => (reply.outcome, { session with files })
      | .error failure => (.error failure, session)
  | none => (reply.outcome, session)⟩

/-- A failure, if there is one. -/
def failIf : Option Failure → Action Unit
  | some failure => fail failure
  | none => pure ()

/-- Prints a message on a stream. The message is recorded also when the console cannot print it. -/
def print (stream : Stream) (message : Message) : Action Unit := do
  update fun session => { session with printed := session.printed ++ [⟨stream, message⟩] }
  failIf (message.flaw?.map .styleFlawed)

def note (n : Note) : Action Unit :=
  update fun session => { session with notes := session.notes ++ [n] }

@[simp] theorem run_pure (a : α) (h : Host) (s : Session) :
    (pure a : Action α).run h s = (.ok a, s) := rfl

@[simp] theorem run_bind (action : Action α) (next : α → Action β) (h : Host) (s : Session) :
    (action >>= next).run h s =
      match action.run h s with
      | (.ok a, s) => (next a).run h s
      | (.error failure, s) => (.error failure, s) := rfl

@[simp] theorem run_map (f : α → β) (action : Action α) (h : Host) (s : Session) :
    (f <$> action).run h s =
      match action.run h s with
      | (.ok a, s) => (.ok (f a), s)
      | (.error failure, s) => (.error failure, s) := rfl

@[simp] theorem run_discard (action : Action α) (h : Host) (s : Session) :
    (discard action).run h s =
      match action.run h s with
      | (.ok _, s) => (.ok (), s)
      | (.error failure, s) => (.error failure, s) := rfl

@[simp] theorem run_fail (failure : Failure) (h : Host) (s : Session) :
    (fail failure : Action α).run h s = (.error failure, s) := rfl

@[simp] theorem run_host (h : Host) (s : Session) : host.run h s = (.ok h, s) := rfl

@[simp] theorem run_session (h : Host) (s : Session) : session.run h s = (.ok s, s) := rfl

@[simp] theorem run_update (change : Session → Session) (h : Host) (s : Session) :
    (update change).run h s = (.ok (), change s) := rfl

@[simp] theorem run_ofExcept (result : Except Failure α) (h : Host) (s : Session) :
    (ofExcept result).run h s = (result, s) := rfl

@[simp] theorem run_print (stream : Stream) (message : Message) (h : Host) (s : Session) :
    (print stream message).run h s =
      (match message.flaw? with
        | some flaw => .error (.styleFlawed flaw)
        | none => .ok (),
      { s with printed := s.printed ++ [⟨stream, message⟩] }) := by
  rw [print, run_bind, run_update]
  rcases message.flaw? with _ | _ <;> rfl

@[simp] theorem run_note (n : Note) (h : Host) (s : Session) :
    (note n).run h s = (.ok (), { s with notes := s.notes ++ [n] }) := rfl

@[ext] theorem ext {first second : Action α} (hrun : ∀ h s, first.run h s = second.run h s) :
    first = second := by
  cases first
  cases second
  congr
  funext h s
  exact hrun h s

instance : LawfulMonad Action :=
  LawfulMonad.mk' Action
    (fun action => by
      refine ext fun h s => ?_
      rw [run_map]
      rcases action.run h s with ⟨_ | _, _⟩ <;> rfl)
    (fun _ _ => rfl)
    (fun action next last => by
      refine ext fun h s => ?_
      simp only [run_bind]
      rcases action.run h s with ⟨_ | _, _⟩ <;> rfl)

end Action

end CommandDispatch
