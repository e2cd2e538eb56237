import CommandDispatch.Proofs.Dispatch.LoggingFailures
import CommandDispatch.Proofs.Dispatch.Surfacing
import CommandDispatch.Proofs.Journal.Reading

/-! # The account of a run

Where nothing fails, a command that runs leaves a complete account. Its handler is called once, what
there is to say about the result is printed, and the journal gets a record of that if it is an
error, and then a record of the invocation itself.
-/

namespace CommandDispatch

open CommandDispatch.Action

/-! ## Accounts -/

namespace Journal

/-- The files with a record for each message at the end of one of them. -/
def withRecords (j : Journal) (place : Place) (now : Int) (store : FileStore)
    (messages : List Text) : FileStore :=
  store.appendAll (messages.map fun message => (place, j.record now message))

theorem content?_withRecords (j : Journal) (place : Place) (now : Int) (store : FileStore)
    (messages : List Text) :
    ((j.withRecords place now store messages).content? place).getD [] =
      (store.content? place).getD [] ++ messages.flatMap (j.record now) := by
  rw [withRecords, store.content?_appendAll, List.filter_eq_self.2 (by simp), List.flatMap_map]

theorem content?_withRecords_of_ne {place other : Place} (hother : other ≠ place) (j : Journal)
    (now : Int) (store : FileStore) (messages : List Text) :
    (j.withRecords place now store messages).content? other = store.content? other :=
  store.content?_appendAll_of_forall_ne (by simp [hother.symm])

end Journal

namespace Session

/-- A session with more messages printed, and with records of others at the end of a file. -/
def account (j : Journal) (place : Place) (now : Int) (printed : List Printed)
    (records : List Text) (s : Session) : Session :=
  { s with
    printed := s.printed ++ printed
    files := j.withRecords place now s.files records }

theorem account_account (j : Journal) (place : Place) (now : Int) (printed more : List Printed)
    (records further : List Text) (s : Session) :
    (s.account j place now printed records).account j place now more further =
      s.account j place now (printed ++ more) (records ++ further) := by
  simp [account, Journal.withRecords]

theorem account_nil (j : Journal) (place : Place) (now : Int) (s : Session) :
    s.account j place now [] [] = s := by
  simp [account, Journal.withRecords]

end Session

/-! ## Diagnostics -/

namespace Diagnostic

/-- A diagnostic as it is printed: in one piece without a style, on the error stream if it is an
error. -/
def printed (d : Diagnostic) : Printed :=
  ⟨if d.severity.isError then .error else .output, .ofText d.message⟩

/-- What the journal gets for a diagnostic: what is shown of it, if it is an error. -/
def records (d : Diagnostic) : List Text := if d.severity.isError then [d.message.shown] else []

end Diagnostic

namespace Reporter

variable {r : Reporter} {j : Journal} {h : Host} {s : Session} {place : Place}

/-- A diagnostic is printed, and also written to the journal if it is an error. -/
theorem run_report_diagnostic (hjournal : r.journal = some j) (hfailures : h.failures = {})
    (hplace : s.files.find j.path = .ok (.ok place)) {d : Diagnostic}
    (htells : d.records ≠ [] → Journal.tellsTime {} h.now = .ok true) :
    (r.report d.severity (.ofText d.message) none).run h s =
      (.ok (), s.account j place h.now [d.printed] d.records) := by
  have hcolored : (Message.ofText d.message).colored r.colorful = .ofText d.message := by
    cases r.colorful <;> rfl
  have hprintable : (Message.ofText d.message).flaw? = none :=
    (Message.ofText_readable d.message).flaw?_eq_none
  unfold Diagnostic.records at htells
  unfold Session.account Diagnostic.printed Diagnostic.records
  cases hsevere : d.severity.isError with
  | false =>
      rw [report, hsevere]
      simp [hprintable, hcolored, Journal.withRecords]
  | true =>
      have hreport : r.report d.severity (.ofText d.message) none =
          r.error (.ofText d.message) (some d.message.shown) := by
        simp only [error, report, hsevere, hcolored]
        rfl
      rw [hsevere] at htells
      rw [← hcolored] at hprintable
      rw [hreport, run_error_written hjournal hprintable hfailures (htells (by simp)) hplace,
        hcolored]
      rfl

end Reporter

namespace Journal

/-- The message about an invocation: its words, its status, and what it took. -/
def auditText (words : List Text) (n : Int) (duration : Text) : Text :=
  .concat [Text.joinWith [CodePoint.space] (words.map CommandLine.reading), ". Exit status is ",
    .integer n, " (", if n = 0 then "success" else "failure", "). Command took ", duration, " s."]

end Journal

namespace App

variable {app : App} {c : Command} {h : Host} {s : Session} {place : Place} {v : Value} {n : Int}
  {selector duration : Text} {remark : Option Diagnostic}

/-- What there is to say about the result of a handler: nothing if help or the version was asked
for. -/
def remarkOn (app : App) (selector : Text) (n : Int) : Except Failure (Option Diagnostic) :=
  if isHelp (.text selector) || isVersion (.text selector) then .ok none else app.status.decode n

/-- The record of an invocation, unless it is one of the version command. -/
def auditRecords (c : Command) (words : List Text) (n : Int) (duration : Text) : List Text :=
  if c.isVersion then [] else [Journal.auditText words n duration]

/-- The records of a run: what there is to say about the result, if it is an error, and then the
invocation itself. -/
def runRecords (remark : Option Diagnostic) (c : Command) (words : List Text) (n : Int)
    (duration : Text) : List Text :=
  remark.toList.flatMap Diagnostic.records ++ auditRecords c words n duration

theorem run_reportResult (hnumber : v.number? = some n) (hfailures : h.failures = {})
    (hplace : s.files.find app.journal.path = .ok (.ok place))
    (hdecode : app.status.decode n = .ok remark)
    (htells : remark.toList.flatMap Diagnostic.records ≠ [] →
      Journal.tellsTime {} h.now = .ok true) :
    (app.reportResult v).run h s =
      (.ok (), s.account app.journal place h.now (remark.toList.map Diagnostic.printed)
        (remark.toList.flatMap Diagnostic.records)) := by
  unfold reportResult StatusConfig.report
  simp only [hnumber, hdecode, run_bind, run_ofExcept]
  cases remark with
  | none => exact Prod.ext rfl (s.account_nil app.journal place h.now).symm
  | some d =>
      simp only [Option.toList_some, List.flatMap_singleton] at htells
      simpa using Reporter.run_report_diagnostic (r := app.reporter) rfl hfailures hplace htells

/-- The handler answers with a number, and what there is to say about it is told. -/
theorem run_answered (program : Text) (rest : List Text) {t : Session}
    (hcall : (call c.handler .handler).run h s = (.ok v, t))
    (hnumber : v.number? = some n) (hfailures : h.failures = {})
    (hplace : t.files.find app.journal.path = .ok (.ok place))
    (hremark : app.remarkOn selector n = .ok remark)
    (htells : remark.toList.flatMap Diagnostic.records ≠ [] →
      Journal.tellsTime {} h.now = .ok true) :
    (app.answered c ((program :: selector :: rest).map .text)).run h s =
      (.ok v, t.account app.journal place h.now (remark.toList.map Diagnostic.printed)
        (remark.toList.flatMap Diagnostic.records)) := by
  have hargv : (program :: selector :: rest).map Value.text =
      .text program :: .text selector :: rest.map .text := rfl
  unfold remarkOn at hremark
  rw [answered, run_bind, hcall, hargv]
  dsimp only
  cases hsilent : isHelp (.text selector) || isVersion (.text selector) with
  | true =>
      rw [hsilent, if_pos rfl] at hremark
      obtain rfl := Except.ok.inj hremark
      exact Prod.ext rfl (t.account_nil app.journal place h.now).symm
  | false =>
      rw [hsilent, if_neg Bool.false_ne_true] at hremark
      have hreport := run_reportResult hnumber hfailures hplace hremark htells
      simp only [Bool.false_eq_true, if_false, run_bind, hreport, run_pure]

/-- The words of an invocation are put on a line, and that is written to the journal. -/
theorem run_logCommand (hnumber : v.number? = some n) (hfailures : h.failures = {})
    (hplace : s.files.find app.journal.path = .ok (.ok place))
    (hwritable : Text.isWritable n = true) (words : List Text) {milliseconds : Int}
    (hduration : durationText milliseconds = .ok duration)
    (htells : Journal.tellsTime {} h.now = .ok true) :
    (discard (app.journal.logCommand (words.map .text) v milliseconds (some app.reporter)
        CommandLine.defaultCapacity)).run h s =
      (.ok (), s.account app.journal place h.now [] [Journal.auditText words n duration]) := by
  have hgrows : (!h.failures.memory) = true := by rw [hfailures]; rfl
  have hline := CommandLine.ofWords_eq h.memory true words
  rw [if_pos (.inl rfl)] at hline
  have htext := CommandLine.text_eq
    (CommandLine.written_extend (.empty CommandLine.defaultCapacity) words)
  have hmessage : Journal.auditMessage
      ((CommandLine.empty CommandLine.defaultCapacity).extend words).text v milliseconds =
        .ok (Journal.auditText words n duration) := by
    rw [htext]
    exact Journal.auditMessage_eq_ok_iff.2
      ⟨duration, n, _, hduration, hnumber, Text.ofNumber_of_isWritable hwritable, rfl⟩
  have hwritten := Journal.run_write_of_tellsTime hfailures htells hplace
    (Journal.auditText words n duration)
  simp only [Journal.discard_logCommand, run_bind, run_host, hgrows, run_ofExcept, hline,
    Journal.logLine, hmessage, run_discard, hwritten]
  simp [Session.account, Journal.withRecords, FileStore.appendAll_cons]

/-- The record of the invocation is written, unless it is one of the version command. -/
theorem run_recorded (c : Command) (words : List Text) (hnumber : v.number? = some n)
    (hfailures : h.failures = {}) (hplace : s.files.find app.journal.path = .ok (.ok place))
    (hwritable : c.isVersion = false →
      Text.isWritable n = true ∧ durationText (elapsed h) = .ok duration)
    (htells : auditRecords c words n duration ≠ [] → Journal.tellsTime {} h.now = .ok true)
    (cursor : LogCursor) :
    ∃ notes, (app.recorded c (words.map .text) v cursor).run h s =
      (.ok (), { s.account app.journal place h.now [] (auditRecords c words n duration) with
        notes }) := by
  unfold auditRecords at htells ⊢
  unfold recorded
  cases hversion : c.isVersion with
  | true =>
      obtain ⟨notes, hnoted⟩ := noteLogged_onlyNotes c cursor h s
      exact ⟨notes, by simp [hnoted, s.account_nil]⟩
  | false =>
      rw [hversion] at htells
      obtain ⟨hstatus, hduration⟩ := hwritable hversion
      have hlogged := run_logCommand hnumber hfailures hplace hstatus words hduration
        (htells (by simp))
      obtain ⟨notes, hnoted⟩ := noteLogged_onlyNotes c cursor h
        (s.account app.journal place h.now [] [Journal.auditText words n duration])
      refine ⟨notes, ?_⟩
      simp only [Bool.false_eq_true, if_false, run_bind, run_host, hlogged, hnoted]

/-- All that a run comes to once the handler has answered. -/
theorem run_run_of_call (program : Text) (rest : List Text) {t : Session} {cursor : LogCursor}
    (hcursor : LogCursor.enter {} app.syslog s.files = .ok cursor)
    (hcall : (call c.handler .handler).run h s = (.ok v, t)) (hnumber : v.number? = some n)
    (hfailures : h.failures = {}) (hplace : t.files.find app.journal.path = .ok (.ok place))
    (hremark : app.remarkOn selector n = .ok remark)
    (hwritable : c.isVersion = false →
      Text.isWritable n = true ∧ durationText (elapsed h) = .ok duration)
    (htells : runRecords remark c (program :: selector :: rest) n duration ≠ [] →
      Journal.tellsTime {} h.now = .ok true) :
    ∃ notes, (app.run c ((program :: selector :: rest).map .text)).run h s =
      (.ok v, { t.account app.journal place h.now (remark.toList.map Diagnostic.printed)
        (runRecords remark c (program :: selector :: rest) n duration) with notes }) := by
  have hplaced : app.placeCursor.run h s = (.ok cursor, s) := Prod.ext hcursor rfl
  have hanswered := run_answered program rest hcall hnumber hfailures hplace
    hremark fun hne => htells fun hnil => hne (List.append_eq_nil_iff.1 hnil).1
  have hplace' := (t.files.find_appendAll_eq_ok_iff
    ((remark.toList.flatMap Diagnostic.records).map fun message =>
      (place, app.journal.record h.now message)) place app.journal.path).2 hplace
  obtain ⟨notes, hrecorded⟩ := run_recorded c (program :: selector :: rest)
    (s := t.account app.journal place h.now (remark.toList.map Diagnostic.printed)
      (remark.toList.flatMap Diagnostic.records))
    hnumber hfailures hplace' hwritable
    (fun hne => htells fun hnil => hne (List.append_eq_nil_iff.1 hnil).2) cursor
  rw [Session.account_account, List.append_nil] at hrecorded
  refine ⟨notes, ?_⟩
  simp only [run_eq, run_bind, hplaced, hanswered, hrecorded]
  rfl

/-- The account of a run. Let the handler answer with a number, let its files and the journal be
there to be opened and the system logs be paths, and let nothing fail. Then the handler is called
once, and its answer is returned. What there is to say about the number is printed and nothing else
is, unless help or the version was asked for; the number must be one that can be decoded then. And
the journal gets the records of the run in their order, and nothing else changes in the files; if
there are any, the clock must show a time that can be written, and so must the number and the
duration be if the invocation itself has one. -/
theorem run_accounts (app : App) (c : Command) (program selector : Text) (rest : List Text)
    (h : Host) (s : Session) {v : Value} {n : Int} {place : Place} {cursor : LogCursor}
    {remark : Option Diagnostic} {duration : Text}
    (hreturns : (h.reply s.calls ⟨c.handler, .handler⟩).Returns s.files v)
    (hnumber : v.number? = some n)
    (hfailures : h.failures = {})
    (hplace : s.files.find app.journal.path = .ok (.ok place))
    (hcursor : LogCursor.enter {} app.syslog s.files = .ok cursor)
    (hremark : app.remarkOn selector n = .ok remark)
    (hwritable : c.isVersion = false →
      Text.isWritable n = true ∧ durationText (elapsed h) = .ok duration)
    (htells : runRecords remark c (program :: selector :: rest) n duration ≠ [] →
      Journal.tellsTime {} h.now = .ok true) :
    let handled := ((call c.handler .handler).run h s).2
    let records := runRecords remark c (program :: selector :: rest) n duration
    ∃ t, (app.run c ((program :: selector :: rest).map .text)).run h s = (.ok v, t) ∧
      t.calls = s.calls ++ [⟨c.handler, .handler⟩] ∧
      t.printed = s.printed ++ remark.toList.map Diagnostic.printed ∧
      t.files = app.journal.withRecords place h.now handled.files records ∧
      (t.files.content? place).getD [] =
        (handled.files.content? place).getD [] ++ records.flatMap (app.journal.record h.now) ∧
      (∀ other, other ≠ place → t.files.content? other = handled.files.content? other) ∧
      t.hidden = s.hidden ∧ t.configured = s.configured := by
  intro handled records
  have hcall : (call c.handler .handler).run h s = (.ok v, handled) :=
    Prod.ext (run_call_eq_ok_iff.2 hreturns) rfl
  have hkept := call_leads Session.keptByCalls_grows c.handler .handler h s
  obtain ⟨notes, hrun⟩ := run_run_of_call program rest hcursor hcall hnumber hfailures
    (hkept.places.2 hplace) hremark hwritable htells
  refine ⟨_, hrun, calls_run_call c.handler .handler, ?_, rfl,
    app.journal.content?_withRecords place h.now handled.files records,
    fun other hother => app.journal.content?_withRecords_of_ne hother h.now handled.files records,
    call_leads Session.keptByCalls_hidden c.handler .handler h s,
    call_leads Session.keptByCalls_configured c.handler .handler h s⟩
  exact congrArg (· ++ _) (printed_run_call c.handler .handler)

end App

namespace Sample

/-- The account of a run whose handler answers with an error: it is told, and there are two records
in the journal. -/
theorem copy_accounted :
    ∃ t, ((tool (copy [] none) []).run (copy [] none) [.text "tool", .text "--copy"]).run
        (answering (.int 1)) {} = (.ok (.int 1), t) ∧
      t.calls = [⟨⟨0, "copy"⟩, .handler⟩] ∧
      t.printed = [⟨.error, .ofText "status: 0x01 NOT_AUTHORIZED"⟩] ∧
      ∃ place, (t.files.content? place).getD [] = Text.utf8Escaped
        (.concat ["Thu Jan  1 00:00:00 1970 tool: status: 0x01 NOT_AUTHORIZED\n",
          "Thu Jan  1 00:00:00 1970 tool: tool --copy. Exit status is 1 (failure). ",
          "Command took 0.00 s.\n"]) := by
  obtain ⟨t, hrun, hcalls, hprinted, -, hcontent, -⟩ := App.run_accounts (tool (copy [] none) [])
    (copy [] none) "tool" "--copy" [] (answering (.int 1)) {} (v := .int 1) (n := 1)
    ⟨rfl, fun _ _ hadded => by cases hadded⟩ rfl rfl rfl rfl rfl (fun _ => ⟨by decide, rfl⟩)
    (fun _ => rfl)
  refine ⟨t, hrun, hcalls, hprinted.trans ?_, _, hcontent.trans ?_⟩
  · rfl
  · decide +kernel

/-- Neither a handler that answers with a number, nor a journal that can be opened, nor that no
operation fails makes for an account: the handler is not called behind a system log that is no path,
its answer is lost on a driver error that cannot be looked up, on a clock that shows no time or with
too many digits, and there is no record if the calendar does not know the time. -/
theorem copy_unaccounted :
    (((tool (copy [] none) [.text [0]]).run (copy [] none) [.text "tool", .text "--copy"]).run
        (answering (.int 1)) {} = (.error .pathWithNul, {})) ∧
    ((({ tool (copy [] none) [] with status := { errorIsKey := false } } : App).run (copy [] none)
        [.text "tool", .text "--copy"]).run (answering (.int 1)) {}).1 = .error .notKey ∧
    (((tool (copy [] none) []).run (copy [] none) [.text "tool", .text "--copy"]).run
        { answering (.int 1) with now := 9223372036854775808 } {}).1 = .error .clockOverflow ∧
    (((tool (copy [] none) []).run (copy [] none) [.text "tool", .text "--copy"]).run
        (answering (.int (10 ^ Text.longestNumeral : Nat))) {}).1 = .error .numeralTooLong ∧
    (((tool (copy [] none) []).run (copy [] none) [.text "tool", .text "--copy"]).run
        { answering (.int 1) with now := 9223372036854775807 } {}).1 = .ok (.int 1) ∧
    ∀ file ∈ (((tool (copy [] none) []).run (copy [] none) [.text "tool", .text "--copy"]).run
        { answering (.int 1) with now := 9223372036854775807 } {}).2.files.files, file.2 = [] := by
  have hdecode : (tool (copy [] none) []).status.decode (10 ^ Text.longestNumeral : Nat) =
      .error .numeralTooLong := StatusConfig.decode_of_le rfl rfl rfl (Nat.le_refl _)
  refine ⟨rfl, rfl, rfl, ?_, rfl, ?_⟩
  · exact congrArg Prod.fst (App.run_run_of_decode_eq_error rfl rfl rfl hdecode rfl [])
  · decide +kernel

end Sample

end CommandDispatch
