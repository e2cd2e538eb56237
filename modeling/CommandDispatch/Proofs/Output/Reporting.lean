import CommandDispatch.Proofs.Journal.CommandLines
import CommandDispatch.Proofs.Output.Pages
import CommandDispatch.Proofs.Session.Paths
import CommandDispatch.Proofs.Status.Diagnostics

/-! # Output that never fails

Printing, the journal and the pages can fail only for a few reasons, none of which an ordinary host
and application have: a style that the console cannot use, a journal that is no path, a lock that
cannot be released, a time that cannot be written, a driver error that cannot be looked up, a number
that is too long to be written. Journals that cannot be opened, locked or written, and memory that
runs out, are no reasons.
-/

namespace CommandDispatch

variable {α β : Type} {h : Host}

namespace Action

/-- Every run of an action on a host ends with a result of a kind. -/
def Succeeds (h : Host) (P : α → Prop) (action : Action α) : Prop :=
  ∀ s, ∃ a, (action.run h s).1 = .ok a ∧ P a

/-- Every run of an action on a host ends with a result. -/
abbrev NeverFails (h : Host) (action : Action α) : Prop := action.Succeeds h fun _ => True

theorem Succeeds.exists_run {P : α → Prop} {action : Action α} (haction : action.Succeeds h P)
    (s : Session) : ∃ a t, action.run h s = (.ok a, t) ∧ P a := by
  obtain ⟨a, hok, ha⟩ := haction s
  exact ⟨a, _, Prod.ext hok rfl, ha⟩

theorem Succeeds.bind {P : α → Prop} {Q : β → Prop} {action : Action α} {next : α → Action β}
    (haction : action.Succeeds h P) (hnext : ∀ a, P a → (next a).Succeeds h Q) :
    (action >>= next).Succeeds h Q := by
  intro s
  obtain ⟨a, t, hrun, ha⟩ := haction.exists_run s
  rw [run_bind, hrun]
  exact hnext a ha t

/-- An action that is skipped under a condition. -/
theorem Succeeds.skip {p : Prop} [Decidable p] {Q : β → Prop} {action : Action Unit}
    {next : Unit → Action β} (haction : ¬ p → action.NeverFails h)
    (hnext : ∀ a, (next a).Succeeds h Q) :
    (if p then next () else action >>= next).Succeeds h Q := by
  split
  next => exact hnext ()
  next hp => exact (haction hp).bind fun a _ => hnext a

theorem Succeeds.discard {P : α → Prop} {action : Action α} (haction : action.Succeeds h P) :
    (Functor.discard action).NeverFails h :=
  haction.bind fun _ _ _ => ⟨(), rfl, trivial⟩

theorem pure_succeeds {P : α → Prop} {a : α} (ha : P a) : (pure a : Action α).Succeeds h P :=
  fun _ => ⟨a, rfl, ha⟩

theorem host_succeeds : host.Succeeds h fun other => other = h := fun _ => ⟨h, rfl, rfl⟩

theorem session_neverFails : session.NeverFails h := fun s => ⟨s, rfl, trivial⟩

theorem note_neverFails (n : Note) : (note n).NeverFails h := fun _ => ⟨(), rfl, trivial⟩

theorem ofExcept_succeeds {P : α → Prop} {result : Except Failure α} {a : α}
    (hresult : result = .ok a) (ha : P a) : (ofExcept result).Succeeds h P :=
  fun _ => ⟨a, hresult, ha⟩

theorem print_neverFails (stream : Stream) {m : Message} (hreadable : m.Readable) :
    (print stream m).NeverFails h := by
  intro s
  rw [run_print, hreadable.flaw?_eq_none]
  exact ⟨(), rfl, trivial⟩

end Action

open CommandDispatch.Action

/-! ## The journal -/

/-- A journal on a host that can be written, or not, without a failure: its path is one, the lock
can be released, and the clock shows a time with a year that can be written. -/
structure Journal.Kept (j : Journal) (h : Host) : Prop where
  path : j.path.isPath = true
  unlock : h.failures.unlock = false
  clock : CalendarTime.isClockReading h.now = true
  year : (CalendarTime.ofSeconds h.now).year ≤ CalendarTime.lastYear

namespace Journal

theorem exists_tellsTime_eq_ok {j : Journal} (hkept : j.Kept h) :
    ∃ told, tellsTime h.failures h.now = .ok told := by
  unfold tellsTime
  rw [hkept.clock]
  dsimp only
  split
  next hoverflow => cases hoverflow
  next =>
    split
    next => exact ⟨false, rfl⟩
    next =>
      rw [if_neg (Int.not_lt.2 hkept.year)]
      exact ⟨true, rfl⟩

theorem write_neverFails {j : Journal} (hkept : j.Kept h) (message : Text) :
    (j.write message).NeverFails h := by
  intro s
  obtain ⟨told, htold⟩ := exists_tellsTime_eq_ok hkept
  obtain ⟨outcome, hfind⟩ := (s.files.exists_find_eq_ok_iff j.path).2 hkept.path
  -- a file that cannot be opened, locked or written is answered with `false`
  have hattempt : ∃ written, (j.attempt h.failures h.now message s.files).1 = .ok written := by
    unfold attempt
    rw [hfind]
    cases outcome with
    | error _ => exact ⟨false, rfl⟩
    | ok place =>
        dsimp only
        split
        · exact ⟨false, rfl⟩
        · unfold writeAt
          split
          · exact ⟨false, rfl⟩
          · simp only [hkept.unlock, htold, Bool.false_eq_true, if_false]
            exact ⟨told, rfl⟩
  obtain ⟨written, hwritten⟩ := hattempt
  exact ⟨written, hwritten, trivial⟩

end Journal

/-! ## Reporting -/

namespace Reporter

/-- A reporter whose journal, if it has one, is kept. -/
def Kept (r : Reporter) (h : Host) : Prop := ∀ j, r.journal = some j → j.Kept h

variable {r : Reporter}

/-- An error that the console can use is printed, and then goes to the journal. -/
theorem run_error {j : Journal} (hjournal : r.journal = some j) {m : Message}
    (hprintable : (m.colored r.colorful).flaw? = none) (record : Option Text) (s : Session) :
    (r.error m record).run h s =
      (discard (j.write (record.getD (m.colored r.colorful).plain))).run h { s with
        printed := s.printed ++ [⟨.error, m.colored r.colorful⟩] } := by
  have hsevere : Severity.error.isError = true := rfl
  unfold error report
  dsimp only
  rw [if_pos hsevere, run_bind, run_print, hprintable, hjournal]

theorem report_neverFails (hkept : r.Kept h) (severity : Severity) {m : Message}
    (hreadable : r.colorful = true → m.Readable) (record : Option Text) :
    (r.report severity m record).NeverFails h := by
  have hcolored := Message.colored_readable hreadable
  unfold report
  dsimp only
  split
  · refine (print_neverFails .error hcolored).bind fun _ _ => ?_
    split
    next j hj => exact (Journal.write_neverFails (hkept j hj) _).discard
    next => exact pure_succeeds trivial
  · exact print_neverFails .output hcolored

theorem infoAll_neverFails (hkept : r.Kept h) {messages : List Message}
    (hreadable : r.colorful = true → ∀ m ∈ messages, m.Readable) :
    (r.infoAll messages).NeverFails h := by
  induction messages with
  | nil => exact pure_succeeds trivial
  | cons m rest ih =>
      refine (report_neverFails hkept .info (fun hcolorful => ?_) none).bind fun _ _ => ?_
      · exact hreadable hcolorful m List.mem_cons_self
      · exact ih fun hcolorful other hother =>
          hreadable hcolorful other (List.mem_cons_of_mem _ hother)

end Reporter

theorem StatusConfig.report_neverFails {config : StatusConfig} {r : Reporter}
    (hkept : r.Kept h) (hkey : config.errorIsKey = true) {result : Int}
    (hwritable : Text.isWritable result = true) : (config.report r result).NeverFails h := by
  obtain ⟨found, hfound⟩ := exists_decode_eq_ok hkey hwritable
  refine (ofExcept_succeeds (P := fun _ => True) hfound trivial).bind fun found _ => ?_
  split
  · exact Reporter.report_neverFails hkept _ (fun _ => Message.ofText_readable _) none
  · exact pure_succeeds trivial

theorem Journal.logCommand_neverFails {j : Journal} (hkept : j.Kept h) {r : Reporter}
    (hreporter : r.Kept h) (words : List Text) {result : Value} {elapsed : Int}
    (hmessage : ∀ line, ∃ message, auditMessage line result elapsed = .ok message) :
    (j.logCommand (words.map .text) result elapsed (some r) CommandLine.defaultCapacity).NeverFails
      h := by
  unfold logCommand
  refine host_succeeds.bind fun other _ => ?_
  rw [CommandLine.ofWords_eq]
  refine (ofExcept_succeeds (P := fun _ => True) rfl trivial).bind fun line _ => ?_
  -- without memory for the line, the reporter tells that nothing was logged
  cases line with
  | some line =>
      obtain ⟨message, hmessage⟩ := hmessage line.text
      refine (ofExcept_succeeds (P := fun _ => True) hmessage trivial).bind fun message _ => ?_
      exact j.write_neverFails hkept message
  | none =>
      exact (Reporter.report_neverFails hreporter _ (fun _ => Message.ofText_readable _) none).bind
        fun _ _ => pure_succeeds trivial

end CommandDispatch
