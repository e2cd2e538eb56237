import CommandDispatch.Proofs.Extraction.Acceptance
import CommandDispatch.Proofs.Session.Paths
import CommandDispatch.Proofs.Text.Bytes

/-! # Journals only grow

A journal is only ever added to, and by whole lines. Whatever fails in a call, the line of that call
is in the file afterwards or nothing of it is, and the result tells which. So after any number of
calls the file is what it was before, followed by the lines of the calls that had an effect, in
their order.
-/

namespace CommandDispatch

/-- The clock of a host shows a time, with a year that can be written. -/
structure Host.Timed (h : Host) : Prop where
  clock : CalendarTime.isClockReading h.now = true
  year : (CalendarTime.ofSeconds h.now).year ≤ CalendarTime.lastYear

namespace Journal

/-- A call of a journal: the host as it is then, and the message. -/
structure Entry where
  host : Host
  message : Text

namespace Entry

/-- The line of a call can be put together: the calendar knows the time, and neither telling nor
writing it fails. -/
def builds (e : Entry) : Bool :=
  (CalendarTime.ofSeconds e.host.now).isKnown && !e.host.failures.write && !e.host.failures.time

/-- A call has an effect if the file can be opened and locked, and the line be put together. -/
def effective (e : Entry) : Bool :=
  !e.host.failures.opening && !e.host.failures.lock && e.builds

end Entry

/-- The line of a call. -/
def lineOf (j : Journal) (e : Entry) : Text := j.line e.host.now e.message

/-- The bytes of the line of a call. -/
def recordOf (j : Journal) (e : Entry) : Bytes := j.record e.host.now e.message

/-- Makes calls one after the other, whatever each of them ends with. -/
def writeAll (j : Journal) : List Entry → Session → Session
  | [], s => s
  | e :: rest, s => writeAll j rest ((j.write e.message).run e.host s).2

variable {j : Journal} {e : Entry} {place : Place}

/-! ## One call -/

theorem run_write (j : Journal) (message : Text) (h : Host) (s : Session) :
    (j.write message).run h s =
      ((j.attempt h.failures h.now message s.files).1,
        { s with files := (j.attempt h.failures h.now message s.files).2 }) := rfl

theorem tellsTime_of_timed (htimed : e.host.Timed) :
    tellsTime e.host.failures e.host.now = .ok e.builds := by
  have hyear := Int.not_lt.2 htimed.year
  unfold tellsTime Entry.builds
  rw [htimed.clock]
  dsimp only
  rw [if_neg hyear]
  cases (CalendarTime.ofSeconds e.host.now).isKnown <;> cases e.host.failures.write <;>
    cases e.host.failures.time <;> rfl

/-- All that a call of a journal with a file can come to. -/
theorem attempt_of_find {store : FileStore} (hplace : store.find j.path = .ok (.ok place))
    (htimed : e.host.Timed) :
    j.attempt e.host.failures e.host.now e.message store =
      if e.host.failures.opening then (.ok false, store)
      else if e.host.failures.lock then (.ok false, store.append place [])
      else (if e.host.failures.unlock then .error .unlockDenied else .ok e.builds,
        store.append place (if e.builds then j.recordOf e else [])) := by
  unfold attempt writeAt
  rw [hplace, tellsTime_of_timed htimed]
  cases e.builds <;> rfl

theorem attempt_of_obstacle {store : FileStore} {obstacle : Obstacle}
    (hfind : store.find j.path = .ok (.error obstacle)) (failures : Failures) (now : Int)
    (message : Text) : j.attempt failures now message store = (.ok false, store) := by
  unfold attempt
  rw [hfind]

/-- A call that returns true has found the file, and added its line. -/
theorem run_write_eq_ok_true {h : Host} {message : Text} {s t : Session}
    (hwritten : (j.write message).run h s = (.ok true, t)) :
    ∃ place, s.files.find j.path = .ok (.ok place) ∧
      t = { s with files := s.files.append place (j.record h.now message) } := by
  rw [run_write] at hwritten
  unfold attempt at hwritten
  split at hwritten
  next place hplace =>
    split at hwritten
    · cases hwritten
    · unfold writeAt at hwritten
      split at hwritten
      · cases hwritten
      · obtain ⟨htold, rfl⟩ := Prod.mk.inj hwritten
        dsimp only at htold ⊢
        split at htold
        · cases htold
        · rw [htold]
          exact ⟨place, hplace, rfl⟩
  next => cases hwritten
  next => cases hwritten

/-- Where nothing fails, a call adds its line. -/
theorem run_write_of_tellsTime {h : Host} (hfailures : h.failures = {})
    (htells : tellsTime {} h.now = .ok true) {s : Session}
    (hplace : s.files.find j.path = .ok (.ok place)) (message : Text) :
    (j.write message).run h s =
      (.ok true, { s with files := s.files.append place (j.record h.now message) }) := by
  have hattempt : j.attempt h.failures h.now message s.files =
      (.ok true, s.files.append place (j.record h.now message)) := by
    unfold attempt writeAt
    rw [hplace, hfailures, htells]
    rfl
  rw [run_write, hattempt]

/-- A call adds the whole line to the file, or nothing. -/
theorem content?_run_write (htimed : e.host.Timed) {s : Session}
    (hplace : s.files.find j.path = .ok (.ok place)) :
    ((((j.write e.message).run e.host s).2.files.content? place).getD []) =
      (s.files.content? place).getD [] ++ if e.effective then j.recordOf e else [] := by
  rw [run_write, attempt_of_find hplace htimed]
  unfold Entry.effective
  cases e.host.failures.opening with
  | true => exact (List.append_nil _).symm
  | false =>
      cases e.host.failures.lock with
      | true => exact congrArg (Option.getD · []) (s.files.content?_append_self place [])
      | false =>
          have hadded := s.files.content?_append_self place
            (if e.builds then j.recordOf e else [])
          exact congrArg (Option.getD · []) hadded

theorem content?_run_write_of_ne (hpath : j.path.isPath = true) {s : Session} {h : Host}
    {message : Text} (hplace : s.files.find j.path ≠ .ok (.ok place)) :
    ((j.write message).run h s).2.files.content? place = s.files.content? place := by
  obtain ⟨outcome, hfind⟩ := (s.files.exists_find_eq_ok_iff j.path).2 hpath
  rw [run_write]
  cases outcome with
  | error _ => rw [attempt_of_obstacle hfind]
  | ok other =>
      have hother : place ≠ other := by
        rintro rfl
        exact hplace hfind
      unfold attempt writeAt
      rw [hfind]
      dsimp only
      split
      · rfl
      · split <;> exact s.files.content?_append_of_ne hother _

/-- A call leaves it to the same file that the path of a journal leads to. -/
theorem find_run_write (path : Value) (s : Session) (h : Host) (message : Text) :
    ((j.write message).run h s).2.files.find path = .ok (.ok place) ↔
      s.files.find path = .ok (.ok place) := by
  have hfiles : ((j.write message).run h s).2.files =
      (j.attempt h.failures h.now message s.files).2 := rfl
  rw [hfiles]
  rcases j.attempt_files h.failures h.now message s.files with hsame | ⟨other, bytes, hadded⟩
  · rw [hsame]
  · rw [hadded]
    exact s.files.find_append_eq_ok_iff other place bytes path

/-- What the result of a call tells. If it is true, the line is in the file. If it is false, nothing
is added, though the file may be there only since then. And if there is none, the lock could not be
released, behind a line that is in the file as long as it could be put together. -/
def AllOrNothing (j : Journal) (e : Entry) (s : Session) : Prop :=
  match (j.write e.message).run e.host s with
  | (.ok true, t) =>
      e.effective = true ∧ ∃ place, s.files.find j.path = .ok (.ok place) ∧
        t = { s with files := s.files.append place (j.recordOf e) }
  | (.ok false, t) =>
      (e.effective = true → ∀ place, s.files.find j.path ≠ .ok (.ok place)) ∧
        (t = s ∨ ∃ place, s.files.find j.path = .ok (.ok place) ∧
          t = { s with files := s.files.append place [] })
  | (.error failure, t) =>
      failure = .unlockDenied ∧ e.host.failures.unlock = true ∧ e.effective = e.builds ∧
        ∃ place, s.files.find j.path = .ok (.ok place) ∧
          t = { s with files := s.files.append place (if e.builds then j.recordOf e else []) }

theorem allOrNothing (hpath : j.path.isPath = true) (htimed : e.host.Timed) (s : Session) :
    j.AllOrNothing e s := by
  obtain ⟨outcome, hfind⟩ := (s.files.exists_find_eq_ok_iff j.path).2 hpath
  unfold AllOrNothing
  rw [run_write]
  cases outcome with
  | error obstacle =>
      rw [attempt_of_obstacle hfind]
      refine ⟨fun _ place hplace => ?_, .inl rfl⟩
      cases hfind.symm.trans hplace
  | ok place =>
      rw [attempt_of_find hfind htimed]
      unfold Entry.effective
      cases e.host.failures.opening with
      | true => exact ⟨fun heffective => (by cases heffective), .inl rfl⟩
      | false =>
          cases e.host.failures.lock with
          | true => exact ⟨fun heffective => (by cases heffective), .inr ⟨place, hfind, rfl⟩⟩
          | false =>
              cases e.host.failures.unlock with
              | true => exact ⟨rfl, rfl, rfl, place, hfind, rfl⟩
              | false =>
                  cases e.builds with
                  | true => exact ⟨rfl, place, hfind, rfl⟩
                  | false =>
                      exact ⟨fun heffective => (by cases heffective), .inr ⟨place, hfind, rfl⟩⟩

/-! ## Many calls -/

/-- The bytes that calls add, each of them its line or nothing. -/
theorem content?_writeAll {entries : List Entry} (htimed : ∀ e ∈ entries, e.host.Timed) {s : Session}
    (hplace : s.files.find j.path = .ok (.ok place)) :
    ((j.writeAll entries s).files.content? place).getD [] =
      (s.files.content? place).getD [] ++ (entries.filter Entry.effective).flatMap j.recordOf := by
  induction entries generalizing s with
  | nil => exact (List.append_nil _).symm
  | cons e rest ih =>
      rw [List.forall_mem_cons] at htimed
      rw [writeAll, ih htimed.2 ((find_run_write j.path s e.host e.message).2 hplace),
        content?_run_write htimed.1 hplace, List.append_assoc, List.filter_cons]
      cases e.effective <;> rfl

theorem content?_writeAll_of_ne (hpath : j.path.isPath = true) (entries : List Entry) {s : Session}
    (hplace : s.files.find j.path ≠ .ok (.ok place)) :
    (j.writeAll entries s).files.content? place = s.files.content? place := by
  induction entries generalizing s with
  | nil => rfl
  | cons e rest ih =>
      rw [writeAll, ih (mt (find_run_write j.path s e.host e.message).1 hplace),
        content?_run_write_of_ne hpath hplace]

/-- The bytes of lines are UTF-8: they are read back as the lines with all surrogates written
out. -/
theorem ofUtf8_flatMap_recordOf (j : Journal) (entries : List Entry) :
    Text.ofUtf8 (entries.flatMap j.recordOf) =
      entries.flatMap fun e => (j.lineOf e).surrogatesEscaped := by
  have hbytes : entries.flatMap j.recordOf =
      (entries.flatMap fun e => (j.lineOf e).surrogatesEscaped).flatMap CodePoint.utf8 :=
    List.flatMap_assoc.symm
  rw [hbytes]
  refine Text.ofUtf8_flatMap_utf8 fun c hc => ?_
  obtain ⟨e, -, hc⟩ := List.mem_flatMap.1 hc
  exact Text.isSurrogate_of_mem_surrogatesEscaped hc

/-- A journal is only added to, and each call adds its whole line or nothing. Whatever calls are
made, and whatever fails in them, the file of the journal is afterwards what it was before, followed
by the lines of the calls with an effect, in their order; these are UTF-8, whatever the messages
are. No other file changes. And the result of each call tells which it was. -/
theorem writeAll_adds_lines (j : Journal) (entries : List Entry) (s : Session)
    (hpath : j.path.isPath = true) (htimed : ∀ e ∈ entries, e.host.Timed) :
    (∀ place, s.files.find j.path = .ok (.ok place) →
      ((j.writeAll entries s).files.content? place).getD [] =
        (s.files.content? place).getD [] ++
          (entries.filter Entry.effective).flatMap j.recordOf) ∧
    (∀ place, s.files.find j.path ≠ .ok (.ok place) →
      (j.writeAll entries s).files.content? place = s.files.content? place) ∧
    Text.ofUtf8 ((entries.filter Entry.effective).flatMap j.recordOf) =
      ((entries.filter Entry.effective).flatMap fun e => (j.lineOf e).surrogatesEscaped) ∧
    (∀ e ∈ entries, ∀ c ∈ (j.lineOf e).surrogatesEscaped, c.isSurrogate = false) ∧
    ∀ e ∈ entries, ∀ t, j.AllOrNothing e t :=
  ⟨fun _ hplace => content?_writeAll htimed hplace,
    fun _ hplace => content?_writeAll_of_ne hpath entries hplace,
    ofUtf8_flatMap_recordOf j _,
    fun _ _ _ hc => Text.isSurrogate_of_mem_surrogatesEscaped hc,
    fun e he t => allOrNothing hpath (htimed e he) t⟩

end Journal

namespace Sample

/-- A journal in the start directory. -/
def notebook : Journal := ⟨.text "journal.log", "tool"⟩

/-- Calls of which the second one meets a lock, and the third one cannot release its own. -/
def callsInTrouble : List Journal.Entry :=
  [⟨answering .null, "first"⟩,
    ⟨{ answering .null with failures := { lock := true } }, "second"⟩,
    ⟨{ answering .null with failures := { unlock := true } }, "third"⟩]

/-- The lines of the first and of the third of these calls are in the file. -/
theorem lines_in_notebook :
    ((notebook.writeAll callsInTrouble {}).files.content? [Text.utf8Escaped "journal.log"]).getD [] =
      notebook.recordOf ⟨answering .null, "first"⟩ ++
        notebook.recordOf ⟨answering .null, "third"⟩ := by
  have htimed : ∀ e ∈ callsInTrouble, e.host.Timed := by
    intro e he
    simp only [callsInTrouble, List.mem_cons, List.not_mem_nil, or_false] at he
    rcases he with rfl | rfl | rfl <;> exact ⟨rfl, by decide⟩
  exact (notebook.writeAll_adds_lines callsInTrouble {} rfl htimed).1 _ rfl

/-- No lock is at fault here, but there is no file to ask for, or no time to write: a path with a
NUL, a number that no stream has, and a clock without a time are failures. -/
theorem write_fails :
    (((⟨.text [0], "tool"⟩ : Journal).write "first").run (answering .null) {}).1 =
        .error .pathWithNul ∧
      (((⟨.int (-1), "tool"⟩ : Journal).write "first").run (answering .null) {}).1 =
        .error .streamNegative ∧
      ((notebook.write "first").run { answering .null with now := 9223372036854775808 } {}).1 =
        .error .clockOverflow :=
  ⟨rfl, rfl, rfl⟩

end Sample

end CommandDispatch
