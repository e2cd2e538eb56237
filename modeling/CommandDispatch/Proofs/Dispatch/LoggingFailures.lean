import CommandDispatch.Proofs.Dispatch.ExitStatus
import CommandDispatch.Proofs.Journal.CommandLines
import CommandDispatch.Proofs.Session.Alike

/-! # Failures of logging

Where lines are written, which system logs there are, and what fails while lines are written makes
no difference to an invocation: it ends in the same way, with the same calls and the same output.
Only memory that runs out is told, once, at the end of the output.
-/

namespace CommandDispatch

open CommandDispatch.Action

/-! ## Before the handler -/

/-- What is no error is printed in the same way, whatever journal there is. -/
theorem Reporter.infoAll_eq {r r' : Reporter} (hcolorful : r'.colorful = r.colorful)
    (messages : List Message) : r'.infoAll messages = r.infoAll messages := by
  induction messages with
  | nil => rfl
  | cons m rest ih =>
      have hinfo (r : Reporter) : r.info m = print .output (m.colored r.colorful) := rfl
      rw [infoAll, infoAll, ih, hinfo, hinfo, hcolorful]

namespace App

/-- An application with another path for its journal, and with other system logs. -/
def logging (app : App) (path : Value) (logs : List Value) : App :=
  { app with journal := { app.journal with path }, syslog := logs }

variable {app : App} {path : Value} {logs : List Value}

theorem infoAll_logging :
    (app.logging path logs).reporter.infoAll = app.reporter.infoAll :=
  funext fun messages =>
    @Reporter.infoAll_eq app.reporter (app.logging path logs).reporter rfl messages

theorem showHelp_logging : (app.logging path logs).showHelp = app.showHelp := by
  unfold showHelp
  rw [infoAll_logging]
  rfl

theorem showCommandHelp_logging (c : Command) :
    (app.logging path logs).showCommandHelp c = app.showCommandHelp c := by
  unfold showCommandHelp
  rw [infoAll_logging]
  rfl

/-- Nothing that comes before the handler depends on where lines are written. -/
theorem prepare_logging (argv : List Value) :
    (app.logging path logs).prepare argv = app.prepare argv := by
  have hserve (c : Command) (selector : Value) (rest : List Value) :
      (app.logging path logs).serve c selector rest = app.serve c selector rest := by
    unfold serve
    rw [showCommandHelp_logging]
    rfl
  have hresolve : (app.logging path logs).resolve argv = app.resolve argv := by
    unfold resolve
    simp only [resolveCommand_eq, hserve, showHelp_logging]
    rfl
  unfold prepare
  rw [hresolve]

end App

/-! ## Behind the handler -/

namespace Journal

/-- What is printed when there is no memory for the line of an invocation. -/
def memoryNotice (program : Text) : Printed :=
  ⟨.error, .ofText (.concat [program, ": Memory allocation failed for logging."])⟩

theorem memoryNotice_colored (program : Text) (colorful : Bool) :
    (memoryNotice program).message.colored colorful = (memoryNotice program).message := by
  cases colorful <;> rfl

/-- What follows once the words of an invocation are, or are not, on a line. -/
def logLine (j : Journal) (result : Value) (elapsed : Int) (r : Reporter) :
    Option CommandLine → Action Unit
  | some line => do
      let message ← ofExcept (auditMessage line.text result elapsed)
      discard (j.write message)
  | none => r.error (memoryNotice j.program).message none

theorem discard_logCommand (j : Journal) (argv : List Value) (result : Value) (elapsed : Int)
    (r : Reporter) (capacity : Int) :
    discard (j.logCommand argv result elapsed (some r) capacity) =
      (host >>= fun h =>
        ofExcept (CommandLine.ofWords h.memory (!h.failures.memory) capacity argv) >>=
          j.logLine result elapsed r) := by
  refine Action.ext fun h s => ?_
  simp only [logCommand, run_discard, run_bind, run_host, run_ofExcept]
  cases CommandLine.ofWords h.memory (!h.failures.memory) capacity argv with
  | error _ => rfl
  | ok line? =>
      cases line? with
      | some line =>
          simp only [logLine, run_bind, run_ofExcept]
          cases auditMessage line.text result elapsed <;> rfl
      | none =>
          simp only [logLine, memoryNotice, run_bind]
          rcases (r.error _ none).run h s with ⟨_ | _, _⟩ <;> rfl

/-- A line is written, or the lack of memory told, in the same way by journals that are alike. -/
theorem logLine_agree {h h' : Host} {j j' : Journal} {r r' : Reporter} (heven : j.Even h h' j')
    (hreporters : r.Even h h' r') (hprogram : j'.program = j.program) (result : Value)
    (elapsed : Int) (line? : Option CommandLine) :
    Agree h h' [] (j.logLine result elapsed r line?) (j'.logLine result elapsed r' line?) := by
  cases line? with
  | some line =>
      simp only [logLine]
      exact (ofExcept_agree _).bind fun message _ _ halike =>
        discard_write_endAlike heven message message halike
  | none =>
      simp only [logLine, hprogram]
      exact Reporter.report_agree hreporters _ _ none

/-- Where the one journal gets a line, the lack of memory for it is told to the other. -/
theorem logLine_lacking {h h' : Host} {j j' : Journal} {r r' : Reporter} (heven : j.Even h h' j')
    (hjournal : r'.journal = some j') (hprogram : j'.program = j.program) {result : Value}
    {elapsed : Int} {line : CommandLine} {message : Text}
    (hmessage : auditMessage line.text result elapsed = .ok message) :
    Agree h h' [memoryNotice j.program] (j.logLine result elapsed r (some line))
      (j'.logLine result elapsed r' none) := by
  intro s t halike
  have hcolored := memoryNotice_colored j'.program r'.colorful
  have hprintable : ((memoryNotice j'.program).message.colored r'.colorful).flaw? = none := by
    rw [hcolored]
    exact (Message.ofText_readable _).flaw?_eq_none
  have htold := Reporter.run_error (h := h') hjournal hprintable none t
  rw [hcolored, hprogram] at htold
  simp only [logLine, hprogram]
  rw [htold, hmessage, run_bind, run_ofExcept]
  exact discard_write_endAlike heven _ _ (halike.printMore _)

end Journal

/-- Failures of logging, with another path for the journal and other system logs, that make no
difference to an invocation of an application on a host. The lock can be released, and the clock
shows a time that can be written. The path and the logs are as they were, or all that is asked for
are paths. And where memory runs out for a line, the words are texts, and handlers answer with
numbers that can be written, as can the seconds that a run takes: anything else would be noticed
only while the line is made. -/
structure App.Bears (app : App) (h : Host) (f : Failures) (path : Value) (logs argv : List Value) :
    Prop where
  unlock : f.unlock = false
  clock : h.Timed
  journal : path = app.journal.path ∨ app.journal.path.isPath = true ∧ path.isPath = true
  syslog : logs = app.syslog ∨ ∀ log ∈ app.syslog ++ logs, log.isPath = true
  memory : f.memory = true → CommandLine.outgrows argv = true →
    (∃ words : List Text, argv = words.map .text) ∧
      Text.isWritable (elapsed h / 1000) = true ∧
      ∀ callback earlier v, (h.answer callback earlier .handler).outcome = .ok v →
        ∃ n, v.number? = some n ∧ Text.isWritable n = true

namespace App

variable {app : App} {h : Host} {f : Failures} {path : Value} {logs argv : List Value}

theorem Bears.kept (hbears : app.Bears h f path logs argv) (hpath : path.isPath = true) :
    (app.logging path logs).journal.Kept { h with failures := f } where
  path := hpath
  unlock := hbears.unlock
  clock := hbears.clock.clock
  year := hbears.clock.year

theorem Bears.kept_before (hbears : app.Bears h f path logs argv)
    (hpath : app.journal.path.isPath = true) : app.journal.Kept { h with failures := {} } where
  path := hpath
  unlock := rfl
  clock := hbears.clock.clock
  year := hbears.clock.year

theorem Bears.even (hbears : app.Bears h f path logs argv) :
    app.journal.Even { h with failures := {} } { h with failures := f }
      (app.logging path logs).journal := by
  rcases hbears.journal with rfl | ⟨hbefore, hpath⟩
  · cases hpath : app.journal.path.isPath with
    | true => exact .inl ⟨hbears.kept_before hpath, hbears.kept hpath⟩
    | false =>
        obtain ⟨failure, hfind⟩ := FileStore.exists_find_eq_error hpath
        exact .inr ⟨failure, fun store => ⟨hfind store, hfind store⟩⟩
  · exact .inl ⟨hbears.kept_before hbefore, hbears.kept hpath⟩

theorem Bears.reporters (hbears : app.Bears h f path logs argv) :
    app.reporter.Even { h with failures := {} } { h with failures := f }
      (app.logging path logs).reporter :=
  ⟨rfl, _, _, rfl, rfl, hbears.even⟩

theorem reportResult_agree (hbears : app.Bears h f path logs argv) (result : Value) :
    Agree { h with failures := {} } { h with failures := f } [] (app.reportResult result)
      ((app.logging path logs).reportResult result) := by
  unfold reportResult
  split
  · exact StatusConfig.report_agree hbears.reporters app.status _
  · exact fail_agree _

/-- What is printed when memory for the line of an invocation runs out: a notice, if more of it is
needed than there is to begin with. -/
def notices (app : App) (f : Failures) (argv : List Value) : List Printed :=
  if f.memory && CommandLine.outgrows argv then [Journal.memoryNotice app.journal.program] else []

theorem logCommand_agree (hbears : app.Bears h f path logs argv) {result : Value} {elapsed : Int}
    (hmessage : f.memory = true → CommandLine.outgrows argv = true →
      ∀ line, ∃ message, Journal.auditMessage line result elapsed = .ok message) :
    Agree { h with failures := {} } { h with failures := f } (app.notices f argv)
      (discard (app.journal.logCommand argv result elapsed (some app.reporter)
        CommandLine.defaultCapacity))
      (discard ((app.logging path logs).journal.logCommand argv result elapsed
        (some (app.logging path logs).reporter) CommandLine.defaultCapacity)) := by
  rw [Journal.discard_logCommand, Journal.discard_logCommand]
  refine Agree.host ?_
  dsimp only
  cases hlacking : f.memory && CommandLine.outgrows argv with
  | false =>
      have hline := Journal.logLine_agree hbears.even hbears.reporters rfl result elapsed
      have hsame : CommandLine.ofWords h.memory (!f.memory) CommandLine.defaultCapacity argv =
          CommandLine.ofWords h.memory true CommandLine.defaultCapacity argv := by
        cases hmemory : f.memory with
        | false => rfl
        | true =>
            rw [hmemory, Bool.true_and] at hlacking
            exact CommandLine.ofWords_eq_of_not_outgrows hlacking h.memory
      rw [notices, hlacking, hsame]
      exact (ofExcept_agree _).bind hline
  | true =>
      obtain ⟨hmemory, houtgrows⟩ := Bool.and_eq_true_iff.1 hlacking
      obtain ⟨⟨words, rfl⟩, -⟩ := hbears.memory hmemory houtgrows
      have hmessages := hmessage hmemory houtgrows
      have hroom : ¬ (CommandLine.bytesOf words).length ≤ CommandLine.defaultCapacity := by
        rw [CommandLine.outgrows_eq] at houtgrows
        exact Nat.not_le.2 (of_decide_eq_true houtgrows)
      have hwritten := CommandLine.ofWords_eq h.memory true words
      have hnone := CommandLine.ofWords_eq h.memory false words
      rw [if_pos (.inl rfl)] at hwritten
      rw [if_neg (by simp only [Bool.false_eq_true, hroom, or_self, not_false_iff])] at hnone
      rw [notices, hlacking, hmemory, Bool.not_true, Bool.not_false, hwritten, hnone]
      obtain ⟨message, hmessage⟩ := hmessages
        ((CommandLine.empty CommandLine.defaultCapacity).extend words).text
      exact Journal.logLine_lacking (r := app.reporter) hbears.even rfl rfl hmessage

/-- What was added to a system log is noted, if there is one. -/
def noteLogged (c : Command) (cursor : LogCursor) : Action Unit :=
  match cursor.path with
  | some path => do
      let added := cursor.read (← Action.session).files
      note (.logged added.length path c.longName)
  | none => pure ()

theorem noteLogged_onlyNotes (c : Command) (cursor : LogCursor) :
    (noteLogged c cursor).OnlyNotes := by
  unfold noteLogged
  cases cursor.path with
  | some path => exact fun _ _ => ⟨_, rfl⟩
  | none => exact fun _ s => ⟨s.notes, rfl⟩

/-- The run of a command up to its line in the journal, once a place in the system log is marked:
the handler answers, and its answer is reported. -/
def answered (app : App) (c : Command) (argv : List Value) : Action Value := do
  let result ← call c.handler .handler
  match argv with
  | _ :: selector :: _ =>
      unless isHelp selector || isVersion selector do
        app.reportResult result
      return result
  | _ => fail .withoutSelector

/-- The rest of the run: the line in the journal, and the note about the system log. -/
def recorded (app : App) (c : Command) (argv : List Value) (result : Value) (cursor : LogCursor) :
    Action Unit := do
  unless c.isVersion do
    discard (app.journal.logCommand argv result (elapsed (← Action.host)) (some app.reporter)
      CommandLine.defaultCapacity)
  noteLogged c cursor

theorem run_eq (app : App) (c : Command) (argv : List Value) :
    app.run c argv = (app.placeCursor >>= fun cursor => app.answered c argv >>= fun result =>
      app.recorded c argv result cursor >>= fun _ => pure result) := by
  unfold run answered
  refine congrArg (app.placeCursor >>= ·) (funext fun cursor => ?_)
  rw [bind_assoc]
  refine congrArg (call c.handler .handler >>= ·) (funext fun result => ?_)
  rcases argv with _ | ⟨program, _ | ⟨selector, rest⟩⟩
  · rfl
  · rfl
  · dsimp only [conclude]
    split
    · rw [pure_bind]
      rfl
    · rw [bind_assoc, bind_assoc]
      rfl

/-- A run the result of which has too many digits ends for that, if it has got as far as its line in
the journal. -/
theorem run_run_of_le {v : Value} {n : Int} (hnumber : v.number? = some n)
    (hlong : 10 ^ Text.longestNumeral ≤ n.natAbs) {c : Command} (hversion : c.isVersion = false)
    (hgrows : h.failures.memory = false) {s t : Session} {cursor : LogCursor} {words : List Text}
    (hcursor : LogCursor.enter {} app.syslog s.files = .ok cursor)
    (hanswered : (app.answered c (words.map .text)).run h s = (.ok v, t)) :
    (app.run c (words.map .text)).run h s = (.error .numeralTooLong, t) := by
  have hplaced : app.placeCursor.run h s = (.ok cursor, s) := Prod.ext hcursor rfl
  have hline := CommandLine.ofWords_eq h.memory true words
  rw [if_pos (.inl rfl)] at hline
  have hrecorded : (app.recorded c (words.map .text) v cursor).run h t =
      (.error .numeralTooLong, t) := by
    simp only [recorded, hversion, Bool.false_eq_true, if_false, run_bind, run_host,
      Journal.discard_logCommand, hgrows, Bool.not_false, run_ofExcept, hline, Journal.logLine,
      Journal.auditMessage_of_le hnumber hlong]
  simp only [run_eq, run_bind, hplaced, hanswered, hrecorded]

theorem answered_endAlike (hbears : app.Bears h f path logs argv) (c : Command) (s : Session) :
    EndAlike [] ((app.answered c argv).run { h with failures := {} } s)
      (((app.logging path logs).answered c argv).run { h with failures := f } s) := by
  -- until the handler has answered both runs are in the same session
  have hcall : (call c.handler .handler).run { h with failures := f } s =
      (call c.handler .handler).run { h with failures := {} } s := rfl
  unfold answered
  rw [run_bind, run_bind, hcall]
  cases (call c.handler .handler).run { h with failures := {} } s with
  | mk answer t =>
      cases answer with
      | error failure => exact ⟨rfl, .refl t⟩
      | ok v =>
          dsimp only
          split
          · split
            · exact ⟨rfl, .refl t⟩
            · exact (reportResult_agree hbears v).bind (fun _ => pure_agree v) t t (.refl t)
          · exact ⟨rfl, .refl t⟩

/-- Only the answer of the handler is reported. -/
theorem run_call_of_answered {c : Command} {s : Session} {v : Value}
    (hanswered : ((app.answered c argv).run h s).1 = .ok v) :
    ((call c.handler .handler).run h s).1 = .ok v := by
  unfold answered at hanswered
  rw [run_bind] at hanswered
  cases hrun : (call c.handler .handler).run h s with
  | mk answer t =>
      rw [hrun] at hanswered
      cases answer with
      | error _ => cases hanswered
      | ok w =>
          dsimp only at hanswered
          split at hanswered
          · split at hanswered
            · exact hanswered
            · rw [run_bind] at hanswered
              cases hreport : (app.reportResult w).run h t with
              | mk reported u =>
                  rw [hreport] at hanswered
                  cases reported with
                  | ok _ => exact hanswered
                  | error _ => cases hanswered
          · cases hanswered

theorem recorded_agree (hbears : app.Bears h f path logs argv) (c : Command) {result : Value}
    (hresult : f.memory = true → CommandLine.outgrows argv = true →
      ∃ n, result.number? = some n ∧ Text.isWritable n = true) (cursor cursor' : LogCursor) :
    Agree { h with failures := {} } { h with failures := f }
      (if c.isVersion then [] else app.notices f argv) (app.recorded c argv result cursor)
      ((app.logging path logs).recorded c argv result cursor') := by
  have hnotes {extra : List Printed} {s t : Session} (halike : s.Alike extra t) :
      EndAlike extra ((noteLogged c cursor).run { h with failures := {} } s)
        ((noteLogged c cursor').run { h with failures := f } t) :=
    (noteLogged_onlyNotes c cursor).endAlike (noteLogged_onlyNotes c cursor') halike
  intro s t halike
  unfold recorded
  cases c.isVersion with
  | true => exact hnotes halike
  | false =>
      have hmessage (hmemory : f.memory = true) (houtgrows : CommandLine.outgrows argv = true)
          (line : Text) : ∃ message, Journal.auditMessage line result (elapsed h) = .ok message :=
        Journal.exists_auditMessage_iff.2
          ⟨(hbears.memory hmemory houtgrows).2.1, hresult hmemory houtgrows⟩
      have hlogged := logCommand_agree hbears hmessage s t halike
      exact hlogged.bind fun _ _ _ halike => hnotes halike

/-- The run of a command gets as far as its line in the journal. -/
def RunsToLine (app : App) (c : Command) (argv : List Value) (h : Host) (s : Session) : Prop :=
  ∃ cursor v, LogCursor.enter {} app.syslog s.files = .ok cursor ∧
    ((app.answered c argv).run h s).1 = .ok v

/-- The runs of a command end alike, and with a notice if they get as far as the line. -/
theorem run_endAlike (hbears : app.Bears h f path logs argv) (c : Command) (s : Session) :
    (app.RunsToLine c argv { h with failures := {} } s →
      EndAlike (if c.isVersion then [] else app.notices f argv)
        ((app.run c argv).run { h with failures := {} } s)
        (((app.logging path logs).run c argv).run { h with failures := f } s)) ∧
    (¬ app.RunsToLine c argv { h with failures := {} } s →
      EndAlike [] ((app.run c argv).run { h with failures := {} } s)
        (((app.logging path logs).run c argv).run { h with failures := f } s)) := by
  have hplaced : (∃ failure, LogCursor.enter {} app.syslog s.files = .error failure ∧
        LogCursor.enter {} logs s.files = .error failure) ∨
      ∃ cursor cursor', LogCursor.enter {} app.syslog s.files = .ok cursor ∧
        LogCursor.enter {} logs s.files = .ok cursor' := by
    rcases hbears.syslog with rfl | hpaths
    · cases LogCursor.enter {} app.syslog s.files with
      | error failure => exact .inl ⟨failure, rfl, rfl⟩
      | ok cursor => exact .inr ⟨cursor, cursor, rfl, rfl⟩
    · rw [List.forall_mem_append] at hpaths
      obtain ⟨cursor, hcursor⟩ := LogCursor.exists_enter_eq_ok {} hpaths.1 s.files
      obtain ⟨cursor', hcursor'⟩ := LogCursor.exists_enter_eq_ok {} hpaths.2 s.files
      exact .inr ⟨cursor, cursor', hcursor, hcursor'⟩
  have hcursor : app.placeCursor.run { h with failures := {} } s =
      (LogCursor.enter {} app.syslog s.files, s) := rfl
  have hcursor' : (app.logging path logs).placeCursor.run { h with failures := f } s =
      (LogCursor.enter {} logs s.files, s) := rfl
  have hends := answered_endAlike hbears c s
  rw [run_eq, run_eq, run_bind, run_bind, hcursor, hcursor']
  rcases hplaced with ⟨failure, hplaced, hplaced'⟩ | ⟨cursor, cursor', hplaced, hplaced'⟩
  · rw [hplaced, hplaced']
    refine ⟨?_, fun _ => ⟨rfl, .refl s⟩⟩
    rintro ⟨_, _, hok, -⟩
    rw [hplaced] at hok
    cases hok
  · rw [hplaced, hplaced']
    dsimp only
    rw [run_bind, run_bind]
    cases hrun : (app.answered c argv).run { h with failures := {} } s with
    | mk answer t =>
        cases hrun' : ((app.logging path logs).answered c argv).run { h with failures := f } s with
        | mk answer' t' =>
            rw [hrun, hrun'] at hends
            obtain ⟨hanswer, halike⟩ := hends
            obtain rfl : answer' = answer := hanswer
            cases answer' with
            | error failure =>
                refine ⟨?_, fun _ => ⟨rfl, halike⟩⟩
                rintro ⟨_, _, -, hok⟩
                rw [hrun] at hok
                cases hok
            | ok v =>
                refine ⟨fun _ => ?_, fun hnot => absurd ⟨cursor, v, hplaced, by rw [hrun]⟩ hnot⟩
                have hcall := run_call_of_answered (congrArg Prod.fst hrun)
                have hnumber (hmemory : f.memory = true)
                    (houtgrows : CommandLine.outgrows argv = true) :
                    ∃ n, v.number? = some n ∧ Text.isWritable n = true :=
                  (hbears.memory hmemory houtgrows).2.2 _ _ v (run_call_eq_ok_iff.1 hcall).outcome
                have hrecorded := recorded_agree hbears c hnumber cursor cursor' t t' halike
                exact hrecorded.bind fun _ _ _ halike => ⟨rfl, halike⟩

/-- A fault is surfaced alike. -/
theorem surface_agree (hbears : app.Bears h f path logs argv) (fault : Fault) :
    Agree { h with failures := {} } { h with failures := f } [] (fault.surface app)
      (fault.surface (app.logging path logs)) := by
  have hreport := fun severity m record =>
    Reporter.report_agree hbears.reporters severity m record
  unfold Fault.surface
  have hshell : (app.logging path logs).shell = app.shell := rfl
  rw [hshell]
  split
  · refine Agree.host ((ofExcept_agree _).bind fun palette => (ofExcept_agree _).bind fun program =>
      (ofExcept_agree _).bind fun record => (hreport _ _ _).bind fun _ => ?_)
    split
    · exact (ofExcept_agree _).bind fun hint => (hreport _ _ _).bind fun _ => pure_agree _
    · exact pure_agree _
  · exact fail_agree _

theorem trigger_agree (hbears : app.Bears h f path logs argv) (fault : Fault)
    (further : FaultOptions) :
    Agree { h with failures := {} } { h with failures := f } [] (fault.trigger app further)
      (fault.trigger (app.logging path logs) further) :=
  Agree.host ((ofExcept_agree _).bind fun fault => surface_agree hbears fault)

/-- An invocation gets as far as its line in the journal: it selects a command, not that for the
version, whose run gets as far. -/
def ReachesLine (app : App) (argv : List Value) (h : Host) (s : Session) : Prop :=
  ∃ selection t, (app.prepare argv).run h s = (.ok (some selection), t) ∧
    selection.command.isVersion = false ∧ app.RunsToLine selection.command argv h t

/-- Memory runs out for the line of an invocation. -/
def LacksMemory (app : App) (f : Failures) (argv : List Value) (h : Host) (s : Session) : Prop :=
  f.memory = true ∧ app.ReachesLine argv h s ∧ CommandLine.outgrows argv = true

theorem run_prepare_logging (app : App) (h : Host) (f : Failures) (path : Value)
    (logs argv : List Value) (s : Session) :
    ((app.logging path logs).prepare argv).run { h with failures := f } s =
      (app.prepare argv).run { h with failures := {} } s := by
  rw [prepare_logging]
  exact (app.prepare_built argv).run_failures { h with failures := {} } f s

/-- Where no command is selected, no line is missed. -/
theorem dispatch_unselected (hbears : app.Bears h f path logs argv) {s : Session}
    (hnot : ∀ selection, ((app.prepare argv).run { h with failures := {} } s).1 ≠
      .ok (some selection)) :
    EndAlike [] ((app.dispatch argv).run { h with failures := {} } s)
      (((app.logging path logs).dispatch argv).run { h with failures := f } s) := by
  rw [run_dispatch, run_dispatch, run_prepare_logging]
  cases hrun : (app.prepare argv).run { h with failures := {} } s with
  | mk result t =>
      rw [hrun] at hnot
      cases result with
      | error failure =>
          cases failure with
          | fault fault => exact trigger_agree hbears fault {} t t (.refl t)
          | _ => exact ⟨rfl, .refl t⟩
      | ok prepared =>
          cases prepared with
          | none => exact ⟨rfl, .refl t⟩
          | some selection => exact absurd rfl (hnot selection)

theorem dispatch_selected (hbears : app.Bears h f path logs argv) {s t : Session}
    {selection : Selection}
    (hrun : (app.prepare argv).run { h with failures := {} } s = (.ok (some selection), t)) :
    (app.LacksMemory f argv { h with failures := {} } s →
      EndAlike [Journal.memoryNotice app.journal.program]
        ((app.dispatch argv).run { h with failures := {} } s)
        (((app.logging path logs).dispatch argv).run { h with failures := f } s)) ∧
    (¬ app.LacksMemory f argv { h with failures := {} } s →
      EndAlike [] ((app.dispatch argv).run { h with failures := {} } s)
        (((app.logging path logs).dispatch argv).run { h with failures := f } s)) := by
  have hends := run_endAlike hbears selection.command t
  rw [run_dispatch, run_dispatch, run_prepare_logging, hrun]
  refine ⟨?_, fun hroom => ?_⟩
  · rintro ⟨hmemory, ⟨other, u, hprepared, hversion, hline⟩, houtgrows⟩
    rw [hrun] at hprepared
    cases hprepared
    have htold := hends.1 hline
    rw [hversion, notices, hmemory, houtgrows] at htold
    exact htold
  · by_cases hline : app.RunsToLine selection.command argv { h with failures := {} } t
    · have htold := hends.1 hline
      cases hversion : selection.command.isVersion with
      | true =>
          rw [hversion] at htold
          exact htold
      | false =>
          -- the line was reached, so there is memory or room for it
          have hquiet : ¬ (f.memory && CommandLine.outgrows argv) = true := by
            intro hboth
            obtain ⟨hmemory, houtgrows⟩ := Bool.and_eq_true_iff.1 hboth
            exact hroom ⟨hmemory, ⟨selection, t, hrun, hversion, hline⟩, houtgrows⟩
          rw [hversion, notices, if_neg hquiet] at htold
          exact htold
    · exact hends.2 hline

/-- Failures of logging never change an invocation. Wherever its lines are written, and whatever
fails while they are, it ends with the same result, makes the same calls, hides the same commands
and prints the same messages. But where memory runs out for a line that does not fit into the buffer
to begin with, a notice of that is printed after everything else. -/
theorem dispatch_despite_failures_of_logging (app : App) (h : Host) (f : Failures) (path : Value)
    (logs argv : List Value) (s : Session) (hbears : app.Bears h f path logs argv) :
    (app.LacksMemory f argv { h with failures := {} } s →
      EndAlike [Journal.memoryNotice app.journal.program]
        ((app.dispatch argv).run { h with failures := {} } s)
        (((app.logging path logs).dispatch argv).run { h with failures := f } s)) ∧
    (¬ app.LacksMemory f argv { h with failures := {} } s →
      EndAlike [] ((app.dispatch argv).run { h with failures := {} } s)
        (((app.logging path logs).dispatch argv).run { h with failures := f } s)) := by
  by_cases hnot : ∀ selection, ((app.prepare argv).run { h with failures := {} } s).1 ≠
      .ok (some selection)
  · refine ⟨?_, fun _ => dispatch_unselected hbears hnot⟩
    rintro ⟨-, ⟨selection, _, hrun, -⟩, -⟩
    exact absurd (congrArg Prod.fst hrun) (hnot selection)
  · obtain ⟨selection, hselected⟩ := Classical.not_forall.1 hnot
    exact dispatch_selected hbears (Prod.ext (Classical.not_not.1 hselected) rfl)

end App

namespace Sample

/-- A word for which a buffer must grow. -/
def longWord : Text := List.replicate 100 (CodePoint.ofChar 'a')

/-- Words that take more room than there is to begin with. -/
def longWords : List Text := ["tool", "--copy", "-f", longWord]

/-- Everything fails but the lock, which can be released. -/
def troubles : Failures :=
  { opening := true, lock := true, write := true, time := true, memory := true }

theorem longWords_borne :
    (tool (copy [file] none) []).Bears (answering (.int 0)) troubles (.text "missing/log")
      [.text "missing/messages"] (longWords.map .text) where
  unlock := rfl
  clock := ⟨rfl, by decide⟩
  journal := .inr ⟨rfl, rfl⟩
  syslog := .inr fun log hlog => by
    rw [List.mem_singleton.1 hlog]
    rfl
  memory _ _ := by
    refine ⟨⟨longWords, rfl⟩, by decide, ?_⟩
    rintro _ _ _ ⟨⟩
    exact ⟨0, rfl, by decide⟩

set_option maxRecDepth 8192 in
/-- In all these troubles, the sample invocation ends as ever, and with a notice. -/
theorem longWords_noticed :
    ((((tool (copy [file] none) []).logging (.text "missing/log")
        [.text "missing/messages"]).dispatch (longWords.map .text)).run
          { answering (.int 0) with failures := troubles } {}).1 =
        (((tool (copy [file] none) []).dispatch (longWords.map .text)).run
          (answering (.int 0)) {}).1 ∧
      ((((tool (copy [file] none) []).logging (.text "missing/log")
        [.text "missing/messages"]).dispatch (longWords.map .text)).run
          { answering (.int 0) with failures := troubles } {}).2.printed =
        (((tool (copy [file] none) []).dispatch (longWords.map .text)).run
          (answering (.int 0)) {}).2.printed ++ [Journal.memoryNotice "tool"] := by
  have hdespite := App.dispatch_despite_failures_of_logging (tool (copy [file] none) [])
    (answering (.int 0)) troubles (.text "missing/log") [.text "missing/messages"]
    (longWords.map .text) {} longWords_borne
  have hends := hdespite.1 ⟨rfl, ⟨_, _, rfl, rfl, _, _, rfl, rfl⟩, rfl⟩
  exact ⟨hends.result, hends.alike.printed⟩

/-- A command without options, which ignores the words behind its selector. -/
def plain (longName : Text) : Command := { copy [] none with longName, body := .plain }

/-- Words that ask for help, and take more room than there is to begin with. -/
def helpWords : List Text := ["tool", "--help", longWord]

set_option maxRecDepth 8192 in
/-- A result with too many digits ends the invocation that asks for help. -/
theorem help_unlogged {n : Nat} (hlong : 10 ^ Text.longestNumeral ≤ n) :
    (((tool (plain "help") []).dispatch (helpWords.map .text)).run (answering (.int n)) {}).1 =
      .error .numeralTooLong := by
  obtain ⟨t, hprepared⟩ : ∃ t, ((tool (plain "help") []).prepare (helpWords.map .text)).run
      (answering (.int n)) {} = (.ok (some ⟨plain "help", none, none, 2⟩), t) := ⟨_, rfl⟩
  have hanswered : ((tool (plain "help") []).answered (plain "help") (helpWords.map .text)).run
      (answering (.int n)) t =
        (.ok (.int n), { t with calls := t.calls ++ [⟨(plain "help").handler, .handler⟩] }) := rfl
  have hnumber : (Value.int n).number? = some (n : Int) := rfl
  rw [App.run_dispatch, hprepared]
  exact congrArg Prod.fst (App.run_run_of_le hnumber hlong rfl rfl rfl hanswered)

set_option maxRecDepth 8192 in
/-- Failures of logging that change an invocation, each beside the same invocation without them. A
word that is no text, an answer that is no number or has too many digits and a time that cannot be
written are noticed only while a line is made, and a log that is no path only if those before it
cannot be opened. -/
theorem invocation_changed :
    ((((tool (plain "copy") []).dispatch [.text "tool", .text "--copy", .text longWord, .int 5]).run
        { answering (.int 0) with failures := { memory := true } } {}).1 = .ok (.int 0) ∧
      (((tool (plain "copy") []).dispatch [.text "tool", .text "--copy", .text longWord, .int 5]).run
        (answering (.int 0)) {}).1 = .error .wordNotText) ∧
    ((((tool (plain "help") []).dispatch [.text "tool", .text "--help", .text longWord]).run
        { answering .null with failures := { memory := true } } {}).1 = .ok .null ∧
      (((tool (plain "help") []).dispatch [.text "tool", .text "--help", .text longWord]).run
        (answering .null) {}).1 = .error .resultNotInteger) ∧
    ((((tool (plain "help") []).dispatch (helpWords.map .text)).run
        { answering (.int (10 ^ Text.longestNumeral : Nat)) with failures := { memory := true } }
          {}).1 = .ok (.int (10 ^ Text.longestNumeral : Nat)) ∧
      (((tool (plain "help") []).dispatch (helpWords.map .text)).run
        (answering (.int (10 ^ Text.longestNumeral : Nat))) {}).1 = .error .numeralTooLong) ∧
    ((((tool (plain "copy") []).dispatch [.text "tool", .text "--copy"]).run
        { answering (.int 0) with now := 9223372036854775808, failures := { lock := true } }
          {}).1 = .ok (.int 0) ∧
      (((tool (plain "copy") []).dispatch [.text "tool", .text "--copy"]).run
        { answering (.int 0) with now := 9223372036854775808 } {}).1 = .error .clockOverflow) ∧
    ((((tool (plain "copy") [.text "missing/messages", .text [0]]).dispatch
        [.text "tool", .text "--copy"]).run (answering (.int 0)) {}).1 = .error .pathWithNul ∧
      (((tool (plain "copy") [.text "messages", .text [0]]).dispatch
        [.text "tool", .text "--copy"]).run (answering (.int 0))
          { files := { files := [([Text.utf8Escaped "messages"], [])] } }).1 = .ok (.int 0)) :=
  ⟨⟨rfl, rfl⟩, ⟨rfl, rfl⟩, ⟨rfl, help_unlogged (Nat.le_refl _)⟩, ⟨rfl, rfl⟩, ⟨rfl, rfl⟩⟩

end Sample

end CommandDispatch
