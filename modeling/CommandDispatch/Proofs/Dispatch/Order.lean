import CommandDispatch.Proofs.Extraction.Acceptance
import CommandDispatch.Proofs.Session.Paths

/-! # The order of calls

The calls of one invocation come in a fixed order: the configuration of the command table, if it was
not configured before; then either help, or the privilege check, the options, and the handler. Each
of them is reached only past the ones before it.
-/

namespace CommandDispatch

namespace Command

/-- A call that hands an option to the callback of a command. -/
def IsOptionCall (c : Command) (call : Call) : Prop :=
  match c.body with
  | .plain => False
  | .options _ parse => ∃ name values, call = ⟨parse, .option name values⟩
  | .namespaced _ parse => ∃ entry name values, call = ⟨parse, .entryOption entry name values⟩

theorem isOptionCall_of_call? {s : Selection} {d : Extraction.Delivery} {call : Call}
    (hcall : s.call? d = some call) : s.command.IsOptionCall call := by
  unfold Selection.call? at hcall
  unfold IsOptionCall
  split at hcall
  next hbody =>
    rw [hbody]
    exact ⟨_, _, (Option.some.inj hcall).symm⟩
  next hbody _ =>
    rw [hbody]
    exact ⟨_, _, _, (Option.some.inj hcall).symm⟩
  next => cases hcall

theorem request_ne_handler_of_isOptionCall {c : Command} {call : Call}
    (hoption : c.IsOptionCall call) : call.request ≠ .handler := by
  unfold IsOptionCall at hoption
  split at hoption
  next => exact hoption.elim
  next =>
    obtain ⟨_, _, rfl⟩ := hoption
    intro hrequest
    cases hrequest
  next =>
    obtain ⟨_, _, _, rfl⟩ := hoption
    intro hrequest
    cases hrequest

end Command

namespace Selection

variable {h : Host} {session : Session}

/-- Extraction asks the callback for options only. -/
theorem calls_run_extract (s : Selection) (argv : List Value) :
    ∃ made, ((s.extract argv).run h session).2.calls = session.calls ++ made ∧
      ∀ call ∈ made, s.command.IsOptionCall call := by
  have hnothing : ∃ made, session.calls = session.calls ++ made ∧
      ∀ call ∈ made, s.command.IsOptionCall call :=
    ⟨[], (List.append_nil _).symm, List.forall_mem_nil _⟩
  cases hschema : s.schema with
  | none =>
      simp only [extract, hschema, Action.run_fail]
      exact hnothing
  | some schema =>
      cases haudit : Extraction.audit schema (s.words argv) with
      | some f =>
          rw [run_extract_of_audit hschema haudit]
          exact hnothing
      | none =>
          obtain ⟨made, later, hplanned, hcalls, -⟩ := @calls_run_deliverAll h session s
            (Extraction.plan schema (s.words argv)).deliveries
          have hkeeps := (Extraction.audit_eq_none_iff _ _).1 haudit
          refine ⟨made, ?_, fun call hcall => ?_⟩
          · rw [(run_extract_of_keepsLimits hschema hkeeps).1, hcalls]
          · have hmem : some call ∈ made.map some ++ later :=
              List.mem_append_left _ (List.mem_map_of_mem hcall)
            rw [hplanned] at hmem
            obtain ⟨d, -, hd⟩ := List.mem_map.1 hmem
            exact Command.isOptionCall_of_call? hd

/-- Extraction succeeds only with zeros from the callback. -/
theorem answered_of_run_extract {s : Selection} {argv : List Value} (hdelivers : s.Delivers)
    (hok : ((s.extract argv).run h session).1 = .ok ()) :
    session.Answered h (fun _ v => v.isZero = true) ((s.extract argv).run h session).2 := by
  cases hschema : s.schema with
  | none =>
      simp only [extract, hschema, Action.run_fail] at hok
      cases hok
  | some schema =>
      obtain ⟨hkeeps, hdelivered, -⟩ := (run_extract_eq_ok_iff hschema).1 hok
      rw [(run_extract_of_keepsLimits hschema hkeeps).1]
      exact (run_deliverAll_eq_ok_iff hdelivers _).1 hdelivered

end Selection

namespace App

variable {h : Host} {s : Session}

/-- Running a command asks its handler, or nothing if a system log is no path. -/
theorem calls_run_run (app : App) (c : Command) (argv : List Value) :
    ∃ handled, ((app.run c argv).run h s).2.calls = s.calls ++ handled ∧
      (handled = [] ∨ handled = [⟨c.handler, .handler⟩]) ∧
      ((∀ path ∈ app.syslog, path.isPath = true) → handled ≠ []) := by
  have hcursor : app.placeCursor.run h s = (LogCursor.enter {} app.syslog s.files, s) := rfl
  rw [run, Action.run_bind, hcursor]
  cases hplaced : LogCursor.enter {} app.syslog s.files with
  | error failure =>
      refine ⟨[], (List.append_nil _).symm, .inl rfl, fun hpaths => ?_⟩
      obtain ⟨placed, hok⟩ := LogCursor.exists_enter_eq_ok {} hpaths s.files
      cases hplaced.symm.trans hok
  | ok cursor =>
      refine ⟨[⟨c.handler, .handler⟩], ?_, .inr rfl, fun _ => by simp⟩
      have hkept := Session.keptByOutput_calls
      refine Action.calls_run_bind (Action.calls_run_call _ _) fun v => ?_
      exact Action.Leads.bind hkept (app.conclude_leads hkept _ _ _ _) fun _ =>
        Action.pure_leads hkept _

/-- What follows the resolution of an invocation: nothing after help, or the extraction of the
options if the command takes any. -/
theorem run_prepare (app : App) (argv : List Value) :
    (app.prepare argv).run h s =
      match (app.resolve argv).run h s with
      | (.ok (.served _), t) => (.ok none, t)
      | (.ok (.selected selection), t) =>
          if selection.schema.isSome then
            match (selection.extract argv).run h t with
            | (.ok _, u) => (.ok (some selection), u)
            | (.error failure, u) => (.error failure, u)
          else (.ok (some selection), t)
      | (.error failure, t) => (.error failure, t) := by
  rw [prepare, Action.run_bind]
  cases (app.resolve argv).run h s with
  | mk result t =>
      cases result with
      | error _ => rfl
      | ok resolution =>
          cases resolution with
          | served _ => rfl
          | selected selection =>
              dsimp only
              split
              · rw [Action.run_bind]
                cases (selection.extract argv).run h t with
                | mk result u => cases result <;> rfl
              · rfl

/-- What follows the preparation of an invocation: nothing after help, the command that it selects,
or the surfacing of its fault. -/
theorem run_dispatch (app : App) (argv : List Value) :
    (app.dispatch argv).run h s =
      match (app.prepare argv).run h s with
      | (.ok none, t) => (.ok (.int exitSuccess), t)
      | (.ok (some selection), t) => (app.run selection.command argv).run h t
      | (.error (.fault f), t) => (f.trigger app {}).run h t
      | (.error failure, t) => (.error failure, t) := by
  rw [dispatch, Action.run_bind, Action.catchFault]
  dsimp only
  cases (app.prepare argv).run h s with
  | mk result t =>
      cases result with
      | error failure => cases failure <;> rfl
      | ok prepared => cases prepared <;> rfl

/-- The resolution of an invocation ends on the way to its preparation. -/
theorem grows_run_prepare (app : App) (argv : List Value) :
    ((app.resolve argv).run h s).2.Grows ((app.prepare argv).run h s).2 := by
  rw [run_prepare]
  split
  next hrun => rw [hrun]; exact Session.keptBySteps_grows.refl _
  next selection t hrun =>
    have hextracted := selection.extract_leads Session.keptByCalls_grows argv h t
    rw [hrun]
    split
    · split
      next hextract => rw [hextract] at hextracted; exact hextracted
      next hextract => rw [hextract] at hextracted; exact hextracted
    · exact Session.keptBySteps_grows.refl _
  next hrun => rw [hrun]; exact Session.keptBySteps_grows.refl _

/-- An invocation for which nothing is selected is prepared with its resolution. -/
theorem run_prepare_of_not_selected {app : App} {argv : List Value}
    (hnot : ∀ selection, ((app.resolve argv).run h s).1 ≠ .ok (.selected selection)) :
    ((app.prepare argv).run h s).2 = ((app.resolve argv).run h s).2 ∧
      ∀ selection, ((app.prepare argv).run h s).1 ≠ .ok (some selection) := by
  rw [run_prepare]
  cases hrun : (app.resolve argv).run h s with
  | mk result t =>
      rw [hrun] at hnot
      cases result with
      | error _ => exact ⟨rfl, fun _ hok => by cases hok⟩
      | ok resolution =>
          cases resolution with
          | served _ => exact ⟨rfl, fun _ hok => by cases hok⟩
          | selected selection => exact absurd rfl (hnot selection)

/-- An invocation that selects no command asks nothing while it is prepared. -/
theorem calls_run_prepare_of_selected?_eq_none {app : App} {argv : List Value}
    (hselected : app.selected? argv = none) :
    ((app.prepare argv).run h s).2.calls = s.calls ∧
      ∀ selection, ((app.prepare argv).run h s).1 ≠ .ok (some selection) := by
  obtain ⟨hkept, hnot⟩ := app.resolve_of_selected?_eq_none hselected Session.keptByOutput_calls
  obtain ⟨hsession, hprepared⟩ := run_prepare_of_not_selected (hnot h s)
  rw [hsession]
  exact ⟨hkept h s, hprepared⟩

/-- A selected command for which help is asked asks at most its help callback. -/
theorem calls_run_prepare_of_help {app : App} {argv : List Value} {position : Nat} {c : Command}
    (hselected : app.selected? argv = some (position, c))
    (hhelp : (argv.drop 2).any isHelp = true)
    (hanswered : s.Answered h ConfiguresByNumber ((app.prepare argv).run h s).2) :
    ((app.prepare argv).run h s).2.calls =
        s.calls ++ (if s.configured then [] else configurations app.commands) ++
          (if (shownIn (app.configure.run h s).2 position c).hidden then []
            else app.helpCalls c) ∧
      ∀ selection, ((app.prepare argv).run h s).1 ≠ .ok (some selection) := by
  obtain ⟨selector, t, hconfigure, hcalls, hresolve⟩ := run_resolve_of_selected? hselected
    (hanswered.before (app.grows_run_prepare argv))
  obtain ⟨hserved, hnot⟩ := @run_serve_of_help h t app (shownIn t position c) selector _ hhelp
  rw [← hresolve] at hserved hnot
  obtain ⟨hsession, hprepared⟩ := run_prepare_of_not_selected hnot
  rw [hsession, hserved, hcalls, hconfigure, helpCalls_shownIn]
  exact ⟨rfl, hprepared⟩

theorem isOptionCall_shownIn {t : Session} {position : Nat} {c : Command} {call : Call} :
    (shownIn t position c).IsOptionCall call ↔ c.IsOptionCall call := by
  unfold Command.IsOptionCall
  rw [body_shownIn]

/-- The preparation of an invocation ends on the way to its end. -/
theorem grows_run_dispatch (app : App) (argv : List Value) :
    ((app.prepare argv).run h s).2.Grows ((app.dispatch argv).run h s).2 := by
  rw [run_dispatch]
  cases (app.prepare argv).run h s with
  | mk result t =>
      cases result with
      | error failure =>
          cases failure with
          | fault f => exact f.trigger_leads Session.keptByOutput_grows app {} h t
          | _ => exact Session.keptBySteps_grows.refl t
      | ok prepared =>
          cases prepared with
          | none => exact Session.keptBySteps_grows.refl t
          | some selection => exact app.run_leads Session.keptByCalls_grows _ _ h t

/-- What was made ready to run has passed the privilege check, and its options were answered with
zeros. -/
structure Ready (app : App) (h : Host) (c : Command) (earlier options : List Call) : Prop where
  granted : c.superuserRequired = true → app.Grants h earlier
  zeros : ∀ before call after, options = before ++ call :: after →
    ∃ v, (h.reply (earlier ++ (if c.superuserRequired then app.probes else []) ++ before)
      call).outcome = .ok v ∧ v.isZero = true

/-- Past its resolution, an invocation asks for options of the command that was selected, and it is
made ready only if each of them is answered with zero. -/
theorem calls_run_prepare_of_selected {app : App} {argv : List Value} {selection : Selection}
    {t : Session} (hresolve : (app.resolve argv).run h s = (.ok (.selected selection), t))
    (hdelivers : selection.schema.isSome = true → selection.Delivers) :
    ∃ options, ((app.prepare argv).run h s).2.calls = t.calls ++ options ∧
      (∀ call ∈ options, selection.command.IsOptionCall call) ∧
      ∀ prepared, ((app.prepare argv).run h s).1 = .ok prepared →
        prepared = some selection ∧
        t.Answered h (fun _ v => v.isZero = true) ((app.prepare argv).run h s).2 := by
  rw [run_prepare, hresolve]
  by_cases hschema : selection.schema.isSome = true
  · have hzeros := @Selection.answered_of_run_extract h t selection argv (hdelivers hschema)
    obtain ⟨options, hmade, hoptions⟩ := @Selection.calls_run_extract h t selection argv
    simp only [if_pos hschema]
    cases hextract : (selection.extract argv).run h t with
    | mk result u =>
        rw [hextract] at hmade hzeros
        cases result with
        | error _ => exact ⟨options, hmade, hoptions, fun _ hok => by cases hok⟩
        | ok _ =>
            refine ⟨options, hmade, hoptions, fun prepared hprepared => ?_⟩
            exact ⟨(Except.ok.inj hprepared).symm, hzeros rfl⟩
  · simp only [if_neg hschema]
    refine ⟨[], (List.append_nil _).symm, List.forall_mem_nil _, fun prepared hprepared => ?_⟩
    exact ⟨(Except.ok.inj hprepared).symm, Session.Answered.of_calls_eq rfl⟩

/-- A selected command for which no help is asked is prepared by asking for the privilege, and then
for options. -/
theorem calls_run_prepare {app : App} {argv : List Value} {position : Nat} {c : Command}
    {configured : List Call}
    (hselected : app.selected? argv = some (position, c))
    (hhelp : (argv.drop 2).any isHelp = false)
    (hconfigured : configured = if s.configured then [] else configurations app.commands)
    (hanswered : s.Answered h ConfiguresByNumber ((app.prepare argv).run h s).2) :
    ∃ options, ((app.prepare argv).run h s).2.calls =
        s.calls ++ configured ++ (if c.superuserRequired then app.probes else []) ++ options ∧
      (∀ call ∈ options, c.IsOptionCall call) ∧
      (options ≠ [] → c.superuserRequired = true → app.Grants h (s.calls ++ configured)) ∧
      ∀ prepared, ((app.prepare argv).run h s).1 = .ok prepared →
        (∃ selection, prepared = some selection ∧ selection.command.handler = c.handler) ∧
        app.Ready h c (s.calls ++ configured) options := by
  obtain ⟨selector, t, -, hcalls, hresolve⟩ := run_resolve_of_selected? hselected
    (hanswered.before (app.grows_run_prepare argv))
  obtain ⟨hprobed, hnotServed, hserved⟩ :=
    @run_serve_of_not_help h t app (shownIn t position c) selector _ hhelp
  rw [← hresolve] at hprobed hnotServed hserved
  rw [hcalls, ← hconfigured] at hprobed hserved
  -- hiding a command changes neither its privilege nor its callbacks
  simp only [superuserRequired_shownIn] at hprobed hserved
  cases hrun : (app.resolve argv).run h s with
  | mk result u =>
      rw [hrun] at hprobed hnotServed hserved
      cases result with
      | error failure =>
          rw [run_prepare, hrun]
          refine ⟨[], ?_, List.forall_mem_nil _, fun hne => absurd rfl hne,
            fun _ hok => by cases hok⟩
          rw [List.append_nil]
          exact hprobed
      | ok resolution =>
          cases resolution with
          | served shown => exact absurd rfl (hnotServed shown)
          | selected selection =>
              obtain ⟨hselect, hgranted⟩ := hserved selection rfl
              have hcommand := Command.command_of_select_eq_ok hselect
              obtain ⟨options, hmade, hoptions, hready⟩ := calls_run_prepare_of_selected hrun
                (Command.delivers_of_select_eq_ok hselect)
              rw [hprobed] at hmade
              rw [hcommand] at hoptions
              have hown := fun call hcall => isOptionCall_shownIn.1 (hoptions call hcall)
              refine ⟨options, hmade, hown, fun _ => hgranted, fun prepared hprepared => ?_⟩
              obtain ⟨rfl, hzeros⟩ := hready prepared hprepared
              refine ⟨⟨selection, rfl, by rw [hcommand, handler_shownIn]⟩, hgranted, ?_⟩
              intro before call after hsplit
              obtain ⟨v, hreturns, hzero⟩ := hzeros before call after (by
                rw [hmade, hprobed, hsplit, ← List.append_assoc])
              rw [hprobed] at hreturns
              exact ⟨v, hreturns.outcome, hzero⟩

/-- After an invocation is prepared, only the handler of what is left to run is asked. -/
theorem calls_run_dispatch_eq (app : App) (argv : List Value) :
    ∃ handled, ((app.dispatch argv).run h s).2.calls =
        ((app.prepare argv).run h s).2.calls ++ handled ∧
      (handled ≠ [] → ∃ selection, ((app.prepare argv).run h s).1 = .ok (some selection) ∧
        handled = [⟨selection.command.handler, .handler⟩]) ∧
      ((∀ path ∈ app.syslog, path.isPath = true) →
        (∃ selection, ((app.prepare argv).run h s).1 = .ok (some selection)) → handled ≠ []) := by
  rw [run_dispatch]
  cases (app.prepare argv).run h s with
  | mk result t =>
      cases result with
      | error failure =>
          refine ⟨[], ?_, fun hne => absurd rfl hne, fun _ hok => by simp at hok⟩
          rw [List.append_nil]
          cases failure with
          | fault f => exact f.trigger_leads Session.keptByOutput_calls app {} h t
          | _ => rfl
      | ok prepared =>
          cases prepared with
          | none =>
              exact ⟨[], (List.append_nil _).symm, fun hne => absurd rfl hne,
                fun _ hok => by simp at hok⟩
          | some selection =>
              obtain ⟨handled, hcalls, hshape, hcalled⟩ :=
                @calls_run_run h t app selection.command argv
              exact ⟨handled, hcalls, fun hne => ⟨selection, rfl, hshape.resolve_left hne⟩,
                fun hpaths _ => hcalled hpaths⟩

/-- The calls of an invocation, in their order: if it selects a command, the table is configured
unless that was done before. Then, if help is asked for, the command's own help callback is called,
unless the command is hidden by now. Else the privilege is asked for if the command needs it, then
options are handed over, and then the handler is called. Without the privilege neither options nor
the handler are reached; the handler is called only for what was prepared, each option of which was
answered with zero, and then it is called as long as the system logs are paths. -/
theorem calls_run_dispatch (app : App) (argv : List Value) (h : Host) (s : Session)
    (hanswered : s.Answered h ConfiguresByNumber ((app.dispatch argv).run h s).2) :
    ∃ configured rest, ((app.dispatch argv).run h s).2.calls = s.calls ++ configured ++ rest ∧
      match app.selected? argv with
      | none => configured = [] ∧ rest = []
      | some (position, c) =>
          configured = (if s.configured then [] else configurations app.commands) ∧
          if (argv.drop 2).any isHelp then
            rest = if (shownIn (app.configure.run h s).2 position c).hidden then []
              else app.helpCalls c
          else
            ∃ options handled,
              rest = (if c.superuserRequired then app.probes else []) ++ options ++ handled ∧
              (∀ call ∈ options, c.IsOptionCall call) ∧
              (handled = [] ∨ handled = [⟨c.handler, .handler⟩]) ∧
              (c.superuserRequired = true → ¬ app.Grants h (s.calls ++ configured) →
                options = [] ∧ handled = []) ∧
              (handled ≠ [] →
                (∃ selection, ((app.prepare argv).run h s).1 = .ok (some selection)) ∧
                app.Ready h c (s.calls ++ configured) options) ∧
              ((∀ path ∈ app.syslog, path.isPath = true) →
                (∃ prepared, ((app.prepare argv).run h s).1 = .ok prepared) →
                  handled ≠ []) := by
  obtain ⟨handled, hdispatched, hran, hcalled⟩ := @calls_run_dispatch_eq h s app argv
  have hprepared : s.Answered h ConfiguresByNumber ((app.prepare argv).run h s).2 :=
    hanswered.before (app.grows_run_dispatch argv)
  -- a handler is called for what was made ready only
  have hnothing (hnot : ∀ selection, ((app.prepare argv).run h s).1 ≠ .ok (some selection)) :
      handled = [] := by
    apply Classical.byContradiction
    intro hne
    obtain ⟨selection, hok, -⟩ := hran hne
    exact hnot selection hok
  split
  next hselected =>
    obtain ⟨hcalls, hnot⟩ := @calls_run_prepare_of_selected?_eq_none h s app argv hselected
    refine ⟨[], [], ?_, rfl, rfl⟩
    rw [hdispatched, hcalls, hnothing hnot]
    simp only [List.append_nil]
  next position c hselected =>
    refine ⟨if s.configured then [] else configurations app.commands, ?_⟩
    generalize hconfigured : (if s.configured then [] else configurations app.commands) = configured
    cases hhelp : (argv.drop 2).any isHelp with
    | true =>
        obtain ⟨hcalls, hnot⟩ := calls_run_prepare_of_help hselected hhelp hprepared
        refine ⟨_, ?_, rfl, rfl⟩
        rw [hdispatched, hcalls, hnothing hnot, hconfigured, List.append_nil]
    | false =>
        obtain ⟨options, hcalls, hoptions, hgranted, hready⟩ :=
          calls_run_prepare hselected hhelp hconfigured.symm hprepared
        refine ⟨_, ?_, rfl, options, handled, rfl, hoptions, ?_, ?_, ?_, ?_⟩
        · rw [hdispatched, hcalls]
          simp only [List.append_assoc]
        · cases handled with
          | nil => exact .inl rfl
          | cons call rest =>
              obtain ⟨selection, hok, hhandled⟩ := hran (by simp)
              obtain ⟨⟨_, hsame, hhandler⟩, -⟩ := hready _ hok
              obtain rfl := Option.some.inj hsame
              rw [hhandler] at hhandled
              exact .inr hhandled
        · intro hrequired hdenied
          refine ⟨Classical.byContradiction fun hne => hdenied (hgranted hne hrequired),
            Classical.byContradiction fun hne => ?_⟩
          obtain ⟨selection, hok, -⟩ := hran hne
          exact hdenied ((hready _ hok).2.granted hrequired)
        · intro hne
          obtain ⟨selection, hok, -⟩ := hran hne
          exact ⟨⟨selection, hok⟩, (hready _ hok).2⟩
        · rintro hpaths ⟨prepared, hok⟩
          obtain ⟨⟨selection, rfl, -⟩, -⟩ := hready prepared hok
          exact hcalled hpaths ⟨selection, hok⟩

end App

namespace Sample

/-- The sample invocation gets to the handler, which is asked last. -/
theorem copying_handled :
    ∃ earlier, (((tool (copy [file, verbose] none) []).dispatch copying).run
      (answering (.int 0)) {}).2.calls = earlier ++ [⟨⟨0, "copy"⟩, .handler⟩] := by
  obtain ⟨configured, rest, hcalls, hrest⟩ := App.calls_run_dispatch
    (tool (copy [file, verbose] none) []) copying (answering (.int 0)) {}
    (answered_answering (.int 0) _ _ fun _ _ => rfl)
  have hselected : (tool (copy [file, verbose] none) []).selected? copying =
      some (0, copy [file, verbose] none) := rfl
  have hhelp : (copying.drop 2).any isHelp = false := rfl
  rw [hselected, hhelp] at hrest
  obtain ⟨-, options, handled, rfl, -, hshape, -, -, hcalled⟩ := hrest
  have hne := hcalled (List.forall_mem_nil _) ⟨_, rfl⟩
  rw [hcalls, hshape.resolve_left hne]
  exact ⟨configured ++ options, by simp [copy, Command.superuserRequired,
    CommandFlags.superuserRequired]⟩

/-- A tool of two commands, both of which are configured. -/
def configurable : App :=
  { tool (copy [] none) [] with
    commands := [copy [] (some ⟨2, "first"⟩),
      { copy [] (some ⟨3, "second"⟩) with longName := "move" }] }

/-- No callback fails in either case. But a configuration callback that answers with no number ends
the configuration before the table is through, and no fault is behind that; and a system log that is
no path ends an invocation that was made ready, before its handler is called. -/
theorem handler_not_called :
    (configurable.dispatch [.text "tool", .text "--copy"]).run (answering .null) {} =
        (.error .resultNotInteger,
          { configured := true, calls := [⟨⟨2, "first"⟩, .configure⟩] }) ∧
      ((tool (copy [] none) [.text [0]]).prepare [.text "tool", .text "--copy"]).run
          (answering (.int 0)) {} =
        (.ok (some ⟨copy [] none, none, some [], 2⟩),
          { configured := true, notes := [.resolved (.text "--copy") "copy"] }) ∧
      ((tool (copy [] none) [.text [0]]).dispatch [.text "tool", .text "--copy"]).run
          (answering (.int 0)) {} =
        (.error .pathWithNul,
          { configured := true, notes := [.resolved (.text "--copy") "copy"] }) :=
  ⟨rfl, rfl, rfl⟩

end Sample

end CommandDispatch
