import CommandDispatch.Proofs.Dispatch.Settling

/-! # Exit statuses

In a shell, an invocation with texts as words ends in one of three ways: the handler of a command
was run, and its answer is the exit status; help was shown, and the status is that of success; or a
fault was rendered, and the status is that of a failure.
-/

namespace CommandDispatch

open CommandDispatch.Action

/-- Every callback answers with a number, and a handler with one that can be written. -/
structure AnswersNumber (call : Call) (v : Value) : Prop where
  isNumber : v.number?.isSome = true
  writable : call.request = .handler → ∀ n, v.number? = some n → Text.isWritable n = true

/-- A report is recorded, whether or not it can be printed. -/
theorem Reporter.printed_run_report {r : Reporter} {h : Host} {s : Session} (severity : Severity)
    (m : Message) (record : Option Text) :
    ((r.report severity m record).run h s).2.printed = s.printed ++
      [⟨if severity.isError then .error else .output, m.colored r.colorful⟩] := by
  unfold report
  dsimp only
  split
  · rw [run_bind, run_print]
    cases (m.colored r.colorful).flaw? with
    | some _ => rfl
    | none =>
        dsimp only
        split
        next j _ =>
          rw [run_discard]
          -- the journal writes to files only
          generalize hprinted : Session.mk _ _ _ _ _ _ = t
          have hwritten : ((j.write (record.getD (m.colored r.colorful).plain)).run h t).2.printed =
              t.printed := rfl
          cases hrun : (j.write (record.getD (m.colored r.colorful).plain)).run h t with
          | mk result u =>
              rw [hrun, ← hprinted] at hwritten
              cases result <;> exact hwritten
        next => rfl
  · rw [run_print]

namespace Fault

variable {app : App} {h : Host} {s : Session} {f : Fault}

/-- What the rendering of a fault puts on the console: an error line, and perhaps a hint. -/
def rendering (f : Fault) (app : App) (h : Host) (palette : Palette) : List Printed :=
  ⟨.error, (f.errorLine (app.program h) palette.styleOf).colored app.colorful⟩ ::
    (f.hintFor (app.program h)).toList.map fun hint =>
      ⟨.output, (hintLine hint palette.styleOf).colored app.colorful⟩

/-- In a shell, a fault of the engine is rendered, and gives the status of a failure. -/
theorem run_trigger_in_shell (hserviceable : app.Serviceable h) (hshell : app.shell = true)
    (hplain : f.Plain) :
    ((f.trigger app {}).run h s).1 = .ok (.int exitFailure) ∧
      ∃ palette, h.palette Fault.palette = .ok palette ∧
        ((f.trigger app {}).run h s).2.printed = s.printed ++ f.rendering app h palette := by
  obtain ⟨palette, hpalette, hreadable⟩ := hserviceable.exists_palette Fault.palette_readable
  obtain ⟨code, hcode⟩ := Option.isSome_iff_exists.1 hplain.code
  have hkept := hserviceable.reporter
  have hstyle := fun hcolorful => Palette.styleOf_readable (hreadable hcolorful)
  have hprogram : (app.program h).writable = .ok (app.program h) := hserviceable.label
  have hrecord : ∃ record, f.record h = .ok record := by
    rw [record, hcode]
    dsimp only
    rw [FaultCode.isWritable_label hserviceable.codeLabels code]
    exact ⟨_, rfl⟩
  obtain ⟨record, hrecord⟩ := hrecord
  have hline := fun hcolorful =>
    errorLine_readable (f := f) (hserviceable.program hcolorful) (hstyle hcolorful)
  obtain ⟨_, t, hreport, -⟩ := (Reporter.report_neverFails hkept .error hline
    (some record)).exists_run s
  have hprinted := @Reporter.printed_run_report app.reporter h s .error
    (f.errorLine (app.program h) palette.styleOf) (some record)
  rw [hreport] at hprinted
  rw [run_trigger (h.rebuild_eq_self hplain.kind)]
  simp only [surface, hshell, if_true, run_bind, run_host, run_ofExcept, hpalette, hprogram,
    hrecord, Reporter.error, Reporter.info, hreport]
  cases hhint : f.hintFor (app.program h) with
  | none =>
      refine ⟨rfl, palette, rfl, ?_⟩
      rw [rendering, hhint]
      exact hprinted
  | some hint =>
      -- a fault of the engine has no hint but a text
      obtain ⟨pointer, rfl⟩ : ∃ pointer, hint = .text pointer := by
        unfold hintFor at hhint
        split at hhint
        next => exact ⟨_, (Option.some.inj hhint).symm⟩
        next => cases hhint
        next v hgiven => exact absurd hgiven (hplain.hint v)
      have hreadable : (Value.text pointer).Readable := nofun
      have hhintLine := fun hcolorful => hintLine_readable hreadable (hstyle hcolorful)
      obtain ⟨_, u, hinfo, -⟩ :=
        (Reporter.report_neverFails hkept .info hhintLine none).exists_run t
      have hhinted := @Reporter.printed_run_report app.reporter h t .info
        (hintLine (.text pointer) palette.styleOf) none
      rw [hinfo] at hhinted
      dsimp only at hprinted hhinted ⊢
      rw [run_bind, run_ofExcept, Value.isWritable_text]
      dsimp only
      rw [run_bind, hinfo]
      refine ⟨rfl, palette, rfl, ?_⟩
      rw [hprinted, List.append_assoc] at hhinted
      rw [rendering, hhint]
      exact hhinted

end Fault

namespace App

variable {app : App} {h : Host} {s : Session}

theorem reportResult_neverFails (hserviceable : app.Serviceable h) {result : Value} {n : Int}
    (hn : result.number? = some n) (hwritable : Text.isWritable n = true) :
    (app.reportResult result).NeverFails h := by
  unfold reportResult
  rw [hn]
  exact StatusConfig.report_neverFails hserviceable.reporter hserviceable.driverError hwritable

/-- What follows the handler of a command never fails if it answered with a number that can be
written. -/
theorem conclude_neverFails (hserviceable : app.Serviceable h) (c : Command) {words : List Text}
    (hwords : 2 ≤ words.length) {result : Value} {n : Int} (hn : result.number? = some n)
    (hwritable : Text.isWritable n = true) (cursor : LogCursor) :
    (app.conclude c (words.map .text) result cursor).NeverFails h := by
  rcases words with _ | ⟨program, _ | ⟨selector, rest⟩⟩
  · simp at hwords
  · simp at hwords
  · have hlogged := (Journal.logCommand_neverFails hserviceable.journal hserviceable.reporter
      (program :: selector :: rest) fun _ =>
        Journal.exists_auditMessage_iff.2 ⟨hserviceable.duration, n, hn, hwritable⟩).discard
    have hnoted := fun path => (@session_neverFails h).bind fun session _ =>
      note_neverFails (.logged (cursor.read session.files).length path c.longName)
    unfold conclude
    dsimp only [List.map_cons] at hlogged ⊢
    refine Succeeds.skip (fun _ => reportResult_neverFails hserviceable hn hwritable) fun _ => ?_
    by_cases hversion : c.isVersion = true
    · simp only [hversion, if_true]
      split
      · exact hnoted _
      · exact pure_succeeds trivial
    · simp only [hversion]
      refine host_succeeds.bind fun other hother => ?_
      subst hother
      refine hlogged.bind fun _ _ => ?_
      split
      · exact hnoted _
      · exact pure_succeeds trivial

/-- A command is run by calling its handler, whose answer is the result. -/
theorem run_run (hserviceable : app.Serviceable h) (c : Command) {words : List Text}
    (hwords : 2 ≤ words.length)
    (hanswered : s.Answered h AnswersNumber ((app.run c (words.map .text)).run h s).2) :
    ∃ v, ((app.run c (words.map .text)).run h s).1 = .ok v ∧ v.number?.isSome = true ∧
      (h.reply s.calls ⟨c.handler, .handler⟩).outcome = .ok v ∧
      ((app.run c (words.map .text)).run h s).2.calls = s.calls ++ [⟨c.handler, .handler⟩] := by
  obtain ⟨cursor, hcursor⟩ := LogCursor.exists_enter_eq_ok {} hserviceable.syslog s.files
  have hrun : (app.run c (words.map .text)).run h s = ((call c.handler .handler >>= fun result =>
      app.conclude c (words.map .text) result cursor >>= fun _ => pure result).run h s) := by
    unfold run placeCursor
    simp only [run_bind, run_session, run_ofExcept, hcursor]
  have hkept := Session.keptByOutput_grows
  rw [hrun] at hanswered ⊢
  obtain ⟨v, t, hcall, hnumber, hcalls, -⟩ := run_call_of_answered hanswered
    (grows_run_bind fun _ => Leads.bind hkept (app.conclude_leads hkept _ _ _ _) fun _ =>
      pure_leads hkept _)
  have hreturns := run_call_eq_ok_iff.1 (congrArg Prod.fst hcall)
  obtain ⟨n, hn⟩ := Option.isSome_iff_exists.1 hnumber.isNumber
  obtain ⟨_, u, hconclude, -⟩ :=
    (conclude_neverFails hserviceable c hwords hn (hnumber.writable rfl n hn) cursor).exists_run t
  have hkeeps := app.conclude_leads Session.keptByOutput_calls c (words.map .text) v cursor h t
  rw [hconclude] at hkeeps
  rw [run_bind, hcall]
  dsimp only
  rw [run_bind, hconclude]
  exact ⟨v, rfl, hnumber.isNumber, hreturns.outcome, hkeeps.trans hcalls⟩

/-- While an invocation is prepared, no handler is called. -/
theorem calls_run_prepare_ne_handler {argv : List Value}
    (hanswered : s.Answered h AnswersNumber ((app.prepare argv).run h s).2) :
    ∃ made, ((app.prepare argv).run h s).2.calls = s.calls ++ made ∧
      ∀ call ∈ made, call.request ≠ .handler := by
  have hconfigures := hanswered.imp (Q := ConfiguresByNumber) fun _ _ hnumber _ => hnumber.isNumber
  have hconfigured : ∀ call ∈ (if s.configured then [] else configurations app.commands),
      call.request ≠ .handler := by
    intro call hcall
    split at hcall
    · cases hcall
    · rw [request_of_mem_configurations hcall]
      intro hrequest
      cases hrequest
  cases hselected : app.selected? argv with
  | none =>
      refine ⟨[], ?_, List.forall_mem_nil _⟩
      rw [(calls_run_prepare_of_selected?_eq_none hselected).1, List.append_nil]
  | some found =>
      obtain ⟨position, c⟩ := found
      cases hhelp : (argv.drop 2).any isHelp with
      | true =>
          refine ⟨_, by
            rw [(calls_run_prepare_of_help hselected hhelp hconfigures).1, List.append_assoc], ?_⟩
          refine List.forall_mem_append.2 ⟨hconfigured, fun call hcall => ?_⟩
          split at hcall
          · cases hcall
          · rw [request_of_mem_helpCalls hcall]
            intro hrequest
            cases hrequest
      | false =>
          obtain ⟨options, hcalls, hoptions, -, -⟩ :=
            calls_run_prepare hselected hhelp rfl hconfigures
          refine ⟨_, by rw [hcalls, List.append_assoc, List.append_assoc], ?_⟩
          refine List.forall_mem_append.2 ⟨hconfigured, List.forall_mem_append.2 ⟨?_, ?_⟩⟩
          · intro call hcall
            split at hcall
            · rw [request_of_mem_probes hcall]
              intro hrequest
              cases hrequest
            · cases hcall
          · exact fun call hcall =>
              Command.request_ne_handler_of_isOptionCall (hoptions call hcall)

/-- What is ready to run belongs to the command that the invocation selects. -/
theorem selected?_of_run_prepare {argv : List Value} {selection : Selection}
    (hanswered : s.Answered h AnswersNumber ((app.prepare argv).run h s).2)
    (hprepared : ((app.prepare argv).run h s).1 = .ok (some selection)) :
    ∃ position c, app.selected? argv = some (position, c) ∧
      selection.command.handler = c.handler := by
  have hconfigures := hanswered.imp (Q := ConfiguresByNumber) fun _ _ hnumber _ => hnumber.isNumber
  cases hselected : app.selected? argv with
  | none =>
      exact absurd hprepared ((calls_run_prepare_of_selected?_eq_none hselected).2 selection)
  | some found =>
      obtain ⟨position, c⟩ := found
      cases hhelp : (argv.drop 2).any isHelp with
      | true =>
          exact absurd hprepared
            ((calls_run_prepare_of_help hselected hhelp hconfigures).2 selection)
      | false =>
          obtain ⟨options, -, -, -, hready⟩ := calls_run_prepare hselected hhelp rfl hconfigures
          obtain ⟨⟨_, hsame, hhandler⟩, -⟩ := hready _ hprepared
          obtain rfl := Option.some.inj hsame
          exact ⟨position, c, rfl, hhandler⟩

end App

/-- How an invocation ends in a shell. -/
inductive Ending where
  | handled (answer : Value)
  | helped
  | faulted (f : Fault)

/-- The exit status of an ending. -/
def Ending.status : Ending → Value
  | handled answer => answer
  | helped => .int exitSuccess
  | faulted _ => .int exitFailure

namespace App

/-- An invocation ended with the answer of a handler: that of the selected command was called last,
after all that was called before. Or it ended with help: resolution served it. Or it ended with a
fault: the invocation could not be prepared, and what was printed after that is the fault. -/
def EndsWith (app : App) (argv : List Value) (h : Host) (s : Session) : Ending → Prop
  | .handled answer => ∃ position c earlier, app.selected? argv = some (position, c) ∧
      s.calls <+: earlier ∧
      ((app.dispatch argv).run h s).2.calls = earlier ++ [⟨c.handler, .handler⟩] ∧
      (h.reply earlier ⟨c.handler, .handler⟩).outcome = .ok answer
  | .helped => ∃ shown, ((app.resolve argv).run h s).1 = .ok (.served shown)
  | .faulted f => ((app.prepare argv).run h s).1 = .error (.fault f) ∧
      ∃ palette, h.palette Fault.palette = .ok palette ∧
        ((app.dispatch argv).run h s).2.printed =
          ((app.prepare argv).run h s).2.printed ++ f.rendering app h palette

variable {app : App} {h : Host} {s : Session}

theorem run_prepare_eq_ok_none_iff {argv : List Value} :
    ((app.prepare argv).run h s).1 = .ok none ↔
      ∃ shown, ((app.resolve argv).run h s).1 = .ok (.served shown) := by
  rw [run_prepare]
  cases (app.resolve argv).run h s with
  | mk result t =>
      cases result with
      | error _ =>
          refine ⟨fun hnone => ?_, fun hserved => ?_⟩
          · cases hnone
          · obtain ⟨_, hshown⟩ := hserved
            cases hshown
      | ok resolution =>
          cases resolution with
          | served shown => exact ⟨fun _ => ⟨shown, rfl⟩, fun _ => rfl⟩
          | selected selection =>
              refine ⟨fun hnone => ?_, fun hserved => ?_⟩
              · dsimp only at hnone
                split at hnone
                · split at hnone <;> cases hnone
                · cases hnone
              · obtain ⟨_, hshown⟩ := hserved
                cases hshown

/-- A handler was called only if the invocation was ready to run. -/
theorem EndsWith.prepared {argv : List Value} {answer : Value}
    (hanswered : s.Answered h AnswersNumber ((app.prepare argv).run h s).2)
    (hends : app.EndsWith argv h s (.handled answer)) :
    ∃ selection, ((app.prepare argv).run h s).1 = .ok (some selection) := by
  obtain ⟨position, c, earlier, -, ⟨more, rfl⟩, hcalls, -⟩ := hends
  obtain ⟨made, hmade, hnotHandler⟩ := calls_run_prepare_ne_handler hanswered
  obtain ⟨handled, hdispatched, hran, -⟩ := @calls_run_dispatch_eq h s app argv
  -- with nothing ready, the last call would be one of the preparation, which calls no handler
  apply Classical.byContradiction
  intro hnot
  have hnothing : handled = [] := by
    apply Classical.byContradiction
    intro hne
    obtain ⟨selection, hok, -⟩ := hran hne
    exact hnot ⟨selection, hok⟩
  rw [hcalls, hmade, hnothing, List.append_nil, List.append_assoc, List.append_cancel_left_eq]
    at hdispatched
  exact hnotHandler ⟨c.handler, .handler⟩ (by rw [← hdispatched]; simp) rfl

/-- An invocation ends in one way. -/
theorem EndsWith.unique {argv : List Value} {ending other : Ending}
    (hanswered : s.Answered h AnswersNumber ((app.prepare argv).run h s).2)
    (hends : app.EndsWith argv h s ending) (hother : app.EndsWith argv h s other) :
    other = ending := by
  cases ending with
  | handled answer =>
      obtain ⟨selection, hprepared⟩ := hends.prepared hanswered
      cases other with
      | handled answer' =>
          obtain ⟨_, c, earlier, -, -, hcalls, hreply⟩ := hends
          obtain ⟨_, c', earlier', -, -, hcalls', hreply'⟩ := hother
          -- both handlers were called last, so it was one call
          obtain ⟨rfl, hcall⟩ := List.append_inj' (hcalls.symm.trans hcalls') rfl
          rw [List.cons.injEq, Call.mk.injEq] at hcall
          rw [hcall.1.1] at hreply
          rw [Except.ok.inj (hreply'.symm.trans hreply)]
      | helped => cases hprepared.symm.trans (run_prepare_eq_ok_none_iff.2 hother)
      | faulted f => cases hprepared.symm.trans hother.1
  | helped =>
      have hnone := run_prepare_eq_ok_none_iff.2 hends
      cases other with
      | handled answer =>
          obtain ⟨selection, hprepared⟩ := hother.prepared hanswered
          cases hprepared.symm.trans hnone
      | helped => rfl
      | faulted f => cases hnone.symm.trans hother.1
  | faulted f =>
      cases other with
      | handled answer =>
          obtain ⟨selection, hprepared⟩ := hother.prepared hanswered
          cases hprepared.symm.trans hends.1
      | helped => cases hends.1.symm.trans (run_prepare_eq_ok_none_iff.2 hother)
      | faulted f' =>
          have hsame := hends.1.symm.trans hother.1
          rw [Except.error.injEq, Failure.fault.injEq] at hsame
          rw [hsame]

theorem two_le_length_of_selected? {words : List Text} {found : Nat × Command}
    (hselected : app.selected? (words.map .text) = some found) : 2 ≤ words.length := by
  rcases words with _ | ⟨program, _ | ⟨selector, rest⟩⟩
  · cases hselected
  · cases hselected
  · simp

/-- A shell serves an invocation with texts as words to an ending, and the status of that ending is
what it returns. -/
theorem exists_endsWith (hshell : app.shell = true) (hserviceable : app.Serviceable h)
    {words : List Text}
    (hanswered : s.Answered h AnswersNumber ((app.dispatch (words.map .text)).run h s).2) :
    ∃ ending, app.EndsWith (words.map .text) h s ending ∧
      ((app.dispatch (words.map .text)).run h s).1 = .ok ending.status ∧
      ending.status.number?.isSome = true := by
  have hgrows := app.prepare_leads Session.keptBySteps_grows (words.map .text) h s
  have hpreparing := hanswered.before (app.grows_run_dispatch (words.map .text))
  have hsettled := (prepare_settles hserviceable
    (fun _ _ hnumber _ => hnumber.isNumber) words).settled s hpreparing
  have hselects := @selected?_of_run_prepare app h s (words.map .text)
  have hdispatch := app.run_dispatch (words.map .text) (h := h) (s := s)
  cases hrun : (app.prepare (words.map .text)).run h s with
  | mk result t =>
      rw [hrun] at hgrows hpreparing hsettled hselects hdispatch
      rcases hsettled with ⟨prepared, rfl⟩ | ⟨f, rfl, hplain⟩
      · cases prepared with
        | none =>
            have hhelped := run_prepare_eq_ok_none_iff.1 (congrArg Prod.fst hrun)
            exact ⟨.helped, hhelped, congrArg Prod.fst hdispatch, rfl⟩
        | some selection =>
            obtain ⟨position, c, hselected, hhandler⟩ := hselects hpreparing rfl
            rw [hdispatch] at hanswered
            obtain ⟨answer, hresult, hnumber, hreply, hcalls⟩ := run_run hserviceable
              selection.command (two_le_length_of_selected? hselected) (hanswered.after hgrows)
            rw [hhandler] at hreply hcalls
            refine ⟨.handled answer, ⟨position, c, t.calls, hselected, hgrows.calls, ?_, hreply⟩,
              ?_, hnumber⟩
            · rw [hdispatch]
              exact hcalls
            · rw [hdispatch]
              exact hresult
      · obtain ⟨hresult, palette, hpalette, hprinted⟩ :=
          @Fault.run_trigger_in_shell app h t f hserviceable hshell hplain
        refine ⟨.faulted f, ⟨congrArg Prod.fst hrun, palette, hpalette, ?_⟩, ?_, rfl⟩
        · rw [hdispatch, hrun]
          exact hprinted
        · rw [hdispatch]
          exact hresult

/-- In a shell an invocation never fails, and its exit status is exact: with texts as words, and
with numbers as the answers of all callbacks, it ends in one way and no other, with the answer of
the handler that was called last, with help, or with a rendered fault; and it returns the status of
that ending. -/
theorem dispatch_status_exact (app : App) (h : Host) (s : Session) (words : List Text)
    (hshell : app.shell = true) (hserviceable : app.Serviceable h)
    (hanswered : s.Answered h AnswersNumber ((app.dispatch (words.map .text)).run h s).2) :
    ∃ ending, app.EndsWith (words.map .text) h s ending ∧
      (∀ other, app.EndsWith (words.map .text) h s other → other = ending) ∧
      ((app.dispatch (words.map .text)).run h s).1 = .ok ending.status ∧
      ending.status.number?.isSome = true := by
  obtain ⟨ending, hends, hresult, hnumber⟩ := exists_endsWith hshell hserviceable hanswered
  have hpreparing := hanswered.before (app.grows_run_dispatch (words.map .text))
  exact ⟨ending, hends, fun _ hother => hends.unique hpreparing hother, hresult, hnumber⟩

/-- A run ends for what keeps the result of its handler from being decoded, if that is told at
all. -/
theorem run_run_of_decode_eq_error {app : App} {h : Host} {s t : Session} {v : Value} {n : Int}
    {c : Command} {cursor : LogCursor} {program selector : Value} {failure : Failure}
    (hcursor : LogCursor.enter {} app.syslog s.files = .ok cursor)
    (hcall : (call c.handler .handler).run h s = (.ok v, t)) (hnumber : v.number? = some n)
    (hdecode : app.status.decode n = .error failure)
    (htold : (isHelp selector || isVersion selector) = false) (rest : List Value) :
    (app.run c (program :: selector :: rest)).run h s = (.error failure, t) := by
  have hplaced : app.placeCursor.run h s = (.ok cursor, s) := Prod.ext hcursor rfl
  have hreport : (app.reportResult v).run h t = (.error failure, t) := by
    simp only [reportResult, StatusConfig.report, hnumber, hdecode, run_bind, run_ofExcept]
  simp only [run, run_bind, hplaced, hcall, conclude, htold, hreport, Bool.false_eq_true, if_false]

end App

namespace Sample

/-- The words of the sample invocation are texts. -/
def copyingWords : List Text := ["tool", "--copy", "-f", "a", "b", "--verbose"]

theorem copy_readable {schema : List OptionSpec} (configure : Option Callback)
    (hdescr : ∀ o ∈ schema, o.descr = none) : (copy schema configure).Readable where
  descr _ hstyled := by cases hstyled
  options schema' _ hbody o ho t hstyled := by
    obtain ⟨rfl, -⟩ := CommandBody.options.inj hbody
    rw [hdescr o ho] at hstyled
    cases hstyled
  entries _ _ hbody := by cases hbody

theorem tool_serviceable :
    (tool (copy [file, verbose] none) []).Serviceable (answering (.int 0)) where
  info := .inl ⟨_, rfl⟩
  syslog := List.forall_mem_nil _
  journal := ⟨rfl, rfl, rfl, by decide⟩
  driverError := rfl
  label := Value.isWritable_text _
  codeLabels := List.forall_mem_nil _
  duration := by decide
  styles := ⟨[], rfl, fun _ => List.forall_mem_nil _⟩
  program _ _ hprogram := by cases hprogram
  titles _ := ⟨fun _ htitle => (by cases htitle), fun _ hinfo => by cases hinfo⟩
  commands := by
    intro _ c hc
    rw [List.mem_singleton.1 hc]
    exact copy_readable none (by decide)

/-- The sample invocation returns what its handler answered. -/
theorem copying_status :
    ∃ ending, (tool (copy [file, verbose] none) []).EndsWith (copyingWords.map .text)
        (answering (.int 0)) {} ending ∧
      (((tool (copy [file, verbose] none) []).dispatch (copyingWords.map .text)).run
        (answering (.int 0)) {}).1 = .ok ending.status := by
  obtain ⟨ending, hends, -, hresult, -⟩ := App.dispatch_status_exact
    (tool (copy [file, verbose] none) []) (answering (.int 0)) {} copyingWords rfl tool_serviceable
    (answered_answering (.int 0) _ _ fun _ => ⟨rfl, fun _ n hn => Option.some.inj hn ▸ by decide⟩)
  exact ⟨ending, hends, hresult⟩

/-- The name of a colour of which a component is missing. -/
def unreadableName : Text := "rgb(1,,2)"

set_option maxRecDepth 8192 in
/-- A result with too many digits ends the invocation. -/
theorem copy_undecoded {n : Nat} (hlong : 10 ^ Text.longestNumeral ≤ n) :
    (((tool (copy [] none) []).dispatch [.text "tool", .text "--copy"]).run
      (answering (.int n)) {}).1 = .error .numeralTooLong := by
  have hdecode : (tool (copy [] none) []).status.decode n = .error .numeralTooLong :=
    StatusConfig.decode_of_le rfl rfl rfl hlong
  obtain ⟨t, hprepared⟩ : ∃ t, ((tool (copy [] none) []).prepare
      [.text "tool", .text "--copy"]).run (answering (.int n)) {} =
        (.ok (some ⟨copy [] none, none, some [], 2⟩), t) := ⟨_, rfl⟩
  rw [App.run_dispatch, hprepared]
  exact congrArg Prod.fst (App.run_run_of_decode_eq_error rfl rfl rfl hdecode rfl [])

set_option maxRecDepth 8192 in
/-- The ways in which an invocation in a shell can fail although all callbacks answer with zero: a
style of the host or of the title that the console cannot read, a driver error that cannot be looked
up, a journal or a system log that is no path, a clock without a time, and a number with too many
digits. -/
theorem dispatch_fails :
    (((tool (copy [] none) []).dispatch [.text "tool"]).run
      { answering (.int 0) with styles := .record [("hint", .text unreadableName)] } {}).1 =
        .error (.styleFlawed .unreadable) ∧
    ((({ tool (copy [] none) [] with
      title := .styled (.uniform "Tool" (.named unreadableName)) } : App).dispatch
        [.text "tool", .text "--help"]).run (answering (.int 0)) {}).1 =
        .error (.styleFlawed .unreadable) ∧
    ((({ tool (copy [] none) [] with status := { errorIsKey := false } } : App).dispatch
        [.text "tool", .text "--copy"]).run (answering (.int 0)) {}).1 = .error .notKey ∧
    ((({ tool (copy [] none) [] with journal := ⟨.text [0], "tool"⟩ } : App).dispatch
        [.text "tool", .text "--copy"]).run (answering (.int 0)) {}).1 = .error .pathWithNul ∧
    (((tool (copy [] none) [.text [0]]).dispatch [.text "tool", .text "--copy"]).run
        (answering (.int 0)) {}).1 = .error .pathWithNul ∧
    (((tool (copy [] none) []).dispatch [.text "tool", .text "--copy"]).run
        { answering (.int 0) with now := 9223372036854775808 } {}).1 = .error .clockOverflow ∧
    (((tool (copy [] none) []).dispatch [.text "tool", .text "--copy"]).run
        (answering (.int (10 ^ Text.longestNumeral : Nat))) {}).1 = .error .numeralTooLong := by
  refine ⟨?_, ?_, ?_, ?_, ?_, ?_, copy_undecoded (Nat.le_refl _)⟩
  · rfl
  · rfl
  · rfl
  · rfl
  · rfl
  · rfl

end Sample

end CommandDispatch
