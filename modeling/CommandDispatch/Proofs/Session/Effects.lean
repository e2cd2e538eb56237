import CommandDispatch.Proofs.Journal.Appending
import CommandDispatch.Proofs.Session.InStep

/-! # What actions add

On a host whose callbacks give the same answers on every call, a call does the same wherever it
begins, as long as files were at most added to; and so does a write to a journal. Two runs that are
made of such actions add the same to their sessions.
-/

namespace CommandDispatch

open CommandDispatch.Action

/-- What an action adds to a session: what it prints, the callbacks that it asks, and the bytes that
it adds to the ends of files. -/
structure Effect where
  printed : List Printed := []
  calls : List Call := []
  added : List (Place × Bytes) := []

namespace Session

/-- A session after an effect, with any notes. -/
def after (s : Session) (e : Effect) (notes : List Note) : Session :=
  { s with
    printed := s.printed ++ e.printed
    calls := s.calls ++ e.calls
    files := s.files.appendAll e.added
    notes }

theorem after_after (s : Session) (e e' : Effect) (notes notes' : List Note) :
    (s.after e notes).after e' notes' =
      s.after ⟨e.printed ++ e'.printed, e.calls ++ e'.calls, e.added ++ e'.added⟩ notes' := by
  simp [after]

theorem after_nil (s : Session) : s.after {} s.notes = s := by
  simp [after]

/-- The sessions that come from two others by one effect. -/
def Beside (s₀ t₀ s t : Session) : Prop :=
  ∃ e notes notes', s = s₀.after e notes ∧ t = t₀.after e notes'

theorem Beside.refl (s₀ t₀ : Session) : Beside s₀ t₀ s₀ t₀ :=
  ⟨{}, s₀.notes, t₀.notes, s₀.after_nil.symm, t₀.after_nil.symm⟩

/-- A session in which files were only added to since they were the given ones. -/
def Beyond (files : FileStore) (s : Session) : Prop := ∃ added, s.files = files.appendAll added

theorem Beyond.extends {files : FileStore} {s t : Session} (hbeyond : s.Beyond files)
    (hextends : s.Extends t) : t.Beyond files := by
  obtain ⟨added, hadded⟩ := hbeyond
  obtain ⟨more, hmore⟩ := hextends.files
  exact ⟨added ++ more, by rw [hmore, hadded, FileStore.appendAll_appendAll]⟩

theorem Beyond.after {files : FileStore} {s : Session} (hbeyond : s.Beyond files) (e : Effect)
    (notes : List Note) : (s.after e notes).Beyond files := by
  obtain ⟨added, hadded⟩ := hbeyond
  exact ⟨added ++ e.added, by simp [Session.after, hadded]⟩

end Session

open Session

/-! ## Actions that do the same everywhere -/

/-- An action with one result and one effect, wherever it begins beyond some files. -/
def Action.Steady {α : Type} (h : Host) (files : FileStore) (action : Action α) : Prop :=
  ∃ result e, ∀ s, s.Beyond files → action.run h s = (result, s.after e s.notes)

theorem Action.Steady.inStep {α : Type} {h : Host} {files : FileStore} {action : Action α}
    {stops : Failure → Prop} {s₀ t₀ : Session} (hsteady : action.Steady h files)
    (hleads : action.Leads Extends) (hs₀ : s₀.Beyond files) (ht₀ : t₀.Beyond files) :
    InStep h stops (Beside s₀ t₀) action action where
  leads := hleads
  ends := by
    rintro s t ⟨e, notes, notes', rfl, rfl⟩
    obtain ⟨result, e', hrun⟩ := hsteady
    rw [hrun _ (hs₀.after e notes), hrun _ (ht₀.after e notes'), after_after, after_after]
    exact .inl ⟨rfl, _, _, _, rfl, rfl⟩

/-- What is written to the open file of a journal does not depend on what is in the files. -/
theorem Journal.exists_writeAt (j : Journal) (place : Place) (failures : Failures) (now : Int)
    (message : Text) :
    ∃ result bytes, ∀ store,
      j.writeAt place failures now message store = (result, store.append place bytes) := by
  unfold writeAt
  split
  · exact ⟨_, _, fun _ => rfl⟩
  · exact ⟨_, _, fun _ => rfl⟩

/-- Whatever was added to the files, a journal finds its file or does not find it, and adds the same
bytes to it. -/
theorem Journal.exists_attempt (j : Journal) (failures : Failures) (now : Int) (message : Text)
    (files : FileStore) :
    ∃ result written, ∀ added, j.attempt failures now message (files.appendAll added) =
      (result, files.appendAll (added ++ written)) := by
  cases hfind : files.find j.path with
  | error failure =>
      refine ⟨.error failure, [], fun added => ?_⟩
      rw [attempt, FileStore.find_eq_error hfind, List.append_nil]
  | ok outcome =>
      cases outcome with
      | error obstacle =>
          refine ⟨.ok false, [], fun added => ?_⟩
          -- the obstacle may be another one now, but the path does not lead to a file
          have hpath := (files.exists_find_eq_ok_iff j.path).1 ⟨_, hfind⟩
          obtain ⟨outcome, hlater⟩ := ((files.appendAll added).exists_find_eq_ok_iff j.path).2 hpath
          cases outcome with
          | error obstacle => rw [attempt_of_obstacle hlater, List.append_nil]
          | ok place =>
              rw [FileStore.find_appendAll_eq_ok_iff, hfind] at hlater
              cases hlater
      | ok place =>
          have hlater (added : List (Place × Bytes)) :=
            (files.find_appendAll_eq_ok_iff added place j.path).2 hfind
          cases hopening : failures.opening with
          | true =>
              refine ⟨.ok false, [], fun added => ?_⟩
              simp only [attempt, hlater, hopening, if_true, List.append_nil]
          | false =>
              obtain ⟨result, bytes, hwritten⟩ := j.exists_writeAt place failures now message
              refine ⟨result, [(place, bytes)], fun added => ?_⟩
              simp only [attempt, hlater, hopening, hwritten, Bool.false_eq_true, if_false]
              rw [← FileStore.appendAll_appendAll]
              rfl

theorem Journal.write_steady (j : Journal) (message : Text) (h : Host) (files : FileStore) :
    (j.write message).Steady h files := by
  obtain ⟨result, written, hattempt⟩ := j.exists_attempt h.failures h.now message files
  refine ⟨result, { added := written }, fun s hbeyond => ?_⟩
  obtain ⟨added, hadded⟩ := hbeyond
  simp [run_write, hadded, hattempt, after]

/-! ## Callbacks -/

theorem FileStore.appendAt_eq (store : FileStore) (path : Value) (bytes : Bytes) :
    store.appendAt path bytes =
      match store.find path with
      | .ok (.ok place) => .ok (store.append place bytes)
      | .ok (.error obstacle) => .error (.notOpened obstacle)
      | .error failure => .error failure := by
  unfold appendAt
  cases store.find path with
  | error failure => rfl
  | ok outcome => cases outcome <;> rfl

namespace Reply

/-- The bytes that a reply adds to a file, if its path leads to one. -/
def added (reply : Reply) (files : FileStore) : List (Place × Bytes) :=
  match reply.appended with
  | some (path, bytes) =>
      match files.find (.text path) with
      | .ok (.ok place) => [(place, bytes)]
      | _ => []
  | none => []

/-- What a call ends with. A file that cannot be opened comes before the answer. -/
def result (reply : Reply) (files : FileStore) : Except Failure Value :=
  match reply.appended with
  | some (path, _) =>
      match files.find (.text path) with
      | .ok (.ok _) => reply.outcome
      | .ok (.error obstacle) => .error (.notOpened obstacle)
      | .error failure => .error failure
  | none => reply.outcome

/-- A call ends in the same way where its file is found, or the same obstacle is met. -/
theorem result_congr (reply : Reply) {files other : FileStore}
    (hfind : ∀ path bytes, reply.appended = some (path, bytes) →
      other.find (.text path) = files.find (.text path)) :
    reply.result other = reply.result files := by
  unfold result
  cases happended : reply.appended with
  | none => rfl
  | some written =>
      obtain ⟨path, bytes⟩ := written
      dsimp only
      rw [hfind path bytes happended]

/-- A reply adds to the same file whatever was added to files before. -/
theorem added_appendAll (reply : Reply) (files : FileStore) (more : List (Place × Bytes)) :
    reply.added (files.appendAll more) = reply.added files := by
  unfold added
  cases reply.appended with
  | none => rfl
  | some written =>
      obtain ⟨path, bytes⟩ := written
      have hplaces := fun place => files.find_appendAll_eq_ok_iff more place (.text path)
      dsimp only
      split
      next place hfound => rw [(hplaces place).1 hfound]
      next hnone =>
        split
        next place hfound => exact absurd ((hplaces place).2 hfound) (hnone place)
        next => rfl

end Reply

/-- A call is recorded, and its reply decides the rest. -/
theorem Action.run_call (callback : Callback) (request : Request) (h : Host) (s : Session) :
    (call callback request).run h s =
      ((h.reply s.calls ⟨callback, request⟩).result s.files,
        s.after ⟨[], [⟨callback, request⟩], (h.reply s.calls ⟨callback, request⟩).added s.files⟩
          s.notes) := by
  have hreply : h.answer callback (s.requestsTo callback) request =
      h.reply s.calls ⟨callback, request⟩ := rfl
  simp only [call, hreply, FileStore.appendAt_eq, after, Reply.result, Reply.added,
    List.append_nil]
  cases (h.reply s.calls ⟨callback, request⟩).appended with
  | none => rfl
  | some written =>
      obtain ⟨path, bytes⟩ := written
      dsimp only
      cases s.files.find (.text path) with
      | error failure => rfl
      | ok outcome => cases outcome <;> rfl

/-- What a callback adds to files when it is called. -/
def Host.additions (h : Host) (files : FileStore) (call : Call) : List (Place × Bytes) :=
  match (h.answer call.callback [] call.request).appended with
  | some (path, bytes) =>
      match files.find (.text path) with
      | .ok (.ok place) => [(place, bytes)]
      | _ => []
  | none => []

/-- A host whose callbacks give the same answers on every call. A callback that adds to a file finds
it, or meets the same obstacle, whatever was added to files. -/
structure Host.Steady (h : Host) (files : FileStore) : Prop where
  answer : ∀ callback earlier request,
    h.answer callback earlier request = h.answer callback [] request
  appended : ∀ callback request path bytes,
    (h.answer callback [] request).appended = some (path, bytes) →
      ∀ added, (files.appendAll added).find (.text path) = files.find (.text path)

/-- On such a host a call always has the same result, and adds the same to files. -/
theorem Host.Steady.exists_run_call {h : Host} {files : FileStore} (hsteady : h.Steady files)
    (callback : Callback) (request : Request) :
    ∃ result, ∀ s, s.Beyond files → (call callback request).run h s =
      (result, s.after ⟨[], [⟨callback, request⟩], h.additions files ⟨callback, request⟩⟩
        s.notes) := by
  refine ⟨(h.answer callback [] request).result files, fun s ⟨added, hadded⟩ => ?_⟩
  have hreply : h.reply s.calls ⟨callback, request⟩ = h.answer callback [] request :=
    hsteady.answer callback _ request
  have hresult := (h.answer callback [] request).result_congr fun path bytes happended =>
    hsteady.appended callback request path bytes happended added
  rw [Action.run_call, hreply, hadded, hresult, Reply.added_appendAll]
  rfl

/-- A callback that hands over a value the first time does so every time, on any host with the same
callbacks. -/
theorem Host.Steady.run_call_of_returns {h g : Host} {files : FileStore} (hsteady : h.Steady files)
    (hanswer : g.answer = h.answer) {callback : Callback} {request : Request} {v : Value}
    (hreturns : (h.answer callback [] request).Returns files v) {s : Session}
    (hbeyond : s.Beyond files) :
    (call callback request).run g s =
      (.ok v, s.after ⟨[], [⟨callback, request⟩], h.additions files ⟨callback, request⟩⟩
        s.notes) := by
  obtain ⟨result, hcall⟩ := hsteady.exists_run_call callback request
  have hfirst := congrArg Prod.fst (hcall { files } ⟨[], rfl⟩)
  obtain rfl : result = .ok v := hfirst.symm.trans (run_call_eq_ok_iff.2 hreturns)
  have hasked : (call callback request).run g s = (call callback request).run h s := by
    simp only [call, hanswer]
  rw [hasked, hcall s hbeyond]

theorem Host.Steady.call_steady {h : Host} {files : FileStore} (hsteady : h.Steady files)
    (callback : Callback) (request : Request) : (call callback request).Steady h files := by
  obtain ⟨result, hrun⟩ := hsteady.exists_run_call callback request
  exact ⟨result, _, hrun⟩

end CommandDispatch
