import CommandDispatch.Proofs.Dispatch.Configuration
import CommandDispatch.Proofs.Extraction.Delivery

/-! # Selecting a command

The word behind the program selects the first command of the table that has one of its spellings.
What follows is one of two things: help for the command, or its privilege check and a selection of
that command. A selection with a schema always has a callback that options are delivered to.
-/

namespace CommandDispatch

/-- Only options select switches. -/
theorem Switch.isOption_of_selectedBy {switch : Switch} {word : Value}
    (hselects : switch.selectedBy word = true) : isOption word = true := by
  unfold selectedBy at hselects
  unfold isOption
  split at hselects <;> simp_all

namespace Command

/-- A command whose namespace is entered: the words behind the selector are the switch of the
namespace, the name of an entry, and the options of that entry. -/
theorem select_eq_ok {c : Command} {rest : List Value} {selection : Selection}
    (hselect : c.select rest = .ok selection) :
    (c.body = .plain ∧ selection = ⟨c, none, none, 2⟩) ∨
    (∃ schema parse, c.body = .options schema parse ∧ selection = ⟨c, none, some schema, 2⟩) ∨
    (∃ scope parse entry, c.body = .namespaced scope parse ∧
      selection = ⟨c, some entry, some entry.options, 4⟩) := by
  unfold select at hselect
  split at hselect
  next hbody => exact .inl ⟨hbody, (Except.ok.inj hselect).symm⟩
  next schema parse hbody => exact .inr (.inl ⟨schema, parse, hbody, (Except.ok.inj hselect).symm⟩)
  next scope parse hbody =>
    refine .inr (.inr ⟨scope, parse, ?_⟩)
    split at hselect
    next => cases hselect
    next => cases hselect
    next flag name _ =>
      split at hselect
      next =>
        cases hfind : scope.find? name with
        | error _ =>
            rw [hfind] at hselect
            cases hselect
        | ok found =>
            rw [hfind] at hselect
            cases found with
            | none => cases hselect
            | some entry => exact ⟨entry, hbody, (Except.ok.inj hselect).symm⟩
      next => cases hselect

theorem command_of_select_eq_ok {c : Command} {rest : List Value} {selection : Selection}
    (hselect : c.select rest = .ok selection) : selection.command = c := by
  rcases select_eq_ok hselect with ⟨_, rfl⟩ | ⟨_, _, _, rfl⟩ | ⟨_, _, _, _, rfl⟩ <;> rfl

/-- A selected command that takes options has a callback for them. -/
theorem delivers_of_select_eq_ok {c : Command} {rest : List Value} {selection : Selection}
    (hselect : c.select rest = .ok selection) (hschema : selection.schema.isSome = true) :
    selection.Delivers := by
  intro d
  rcases select_eq_ok hselect with ⟨_, rfl⟩ | ⟨_, _, hbody, rfl⟩ | ⟨_, _, _, hbody, rfl⟩
  · cases hschema
  · simp [Selection.call?, hbody]
  · simp [Selection.call?, hbody]

end Command

namespace App

/-- The command that an invocation selects, with its position in the table. -/
def selected? (app : App) : List Value → Option (Nat × Command)
  | _ :: selector :: _ => find? app.commands selector
  | _ => none

/-- The call that shows the help of a command, if it has a callback for that. -/
def helpCalls (app : App) (c : Command) : List Call :=
  match c.help with
  | some callback => [⟨callback, .help app.name c.longName⟩]
  | none => []

/-- The call that asks whether the user is privileged, if there is a callback to ask. -/
def probes (app : App) : List Call :=
  match app.privileged with
  | .process => []
  | .callback probe => [⟨probe, .privilege⟩]

/-- The user is privileged: by the rights of the process, or by what the callback answers after
earlier calls. -/
def Grants (app : App) (h : Host) (earlier : List Call) : Prop :=
  match app.privileged with
  | .process => h.superuser = true
  | .callback probe => ∃ v, (h.reply earlier ⟨probe, .privilege⟩).outcome = .ok v ∧ v.isTrue = true

theorem request_of_mem_helpCalls {app : App} {c : Command} {call : Call}
    (hcall : call ∈ app.helpCalls c) : call.request = .help app.name c.longName := by
  unfold helpCalls at hcall
  split at hcall
  · rw [List.mem_singleton.1 hcall]
  · cases hcall

theorem request_of_mem_probes {app : App} {call : Call} (hcall : call ∈ app.probes) :
    call.request = .privilege := by
  unfold probes at hcall
  split at hcall
  · cases hcall
  · rw [List.mem_singleton.1 hcall]

variable {h : Host} {s : Session}

theorem calls_run_showCommandHelp (app : App) (c : Command) :
    ((app.showCommandHelp c).run h s).2.calls = s.calls ++ app.helpCalls c := by
  have hkept := Session.keptByOutput_calls
  unfold showCommandHelp helpCalls
  cases c.help with
  | some callback =>
      exact Action.calls_run_bind (Action.calls_run_call _ _) fun _ => Action.pure_leads hkept _
  | none =>
      dsimp only
      rw [List.append_nil]
      refine Action.Leads.bind hkept (Action.host_leads hkept) (fun _ => ?_) h s
      exact Action.Leads.bind hkept (Action.ofExcept_leads hkept _) fun _ =>
        app.reporter.infoAll_leads hkept _

theorem calls_run_isPrivileged (app : App) :
    (app.isPrivileged.run h s).2.calls = s.calls ++ app.probes := by
  unfold isPrivileged probes
  cases app.privileged with
  | process => exact (List.append_nil _).symm
  | callback probe =>
      exact Action.calls_run_bind (Action.calls_run_call _ _) fun _ =>
        Action.pure_leads Session.keptByOutput_calls _

theorem grants_of_run_isPrivileged {app : App} (hok : (app.isPrivileged.run h s).1 = .ok true) :
    app.Grants h s.calls := by
  unfold isPrivileged at hok
  unfold Grants
  cases hprobe : app.privileged with
  | process =>
      rw [hprobe] at hok
      exact Except.ok.inj hok
  | callback probe =>
      simp only [hprobe, Action.run_bind] at hok
      cases hrun : (Action.call probe .privilege).run h s with
      | mk result t =>
          rw [hrun] at hok
          cases result with
          | error _ => cases hok
          | ok v =>
              have hcalled : ((Action.call probe .privilege).run h s).1 = .ok v := by rw [hrun]
              exact ⟨v, (Action.run_call_eq_ok_iff.1 hcalled).outcome, Except.ok.inj hok⟩

theorem calls_run_requirePrivilege (app : App) (c : Command) :
    ((app.requirePrivilege c).run h s).2.calls =
      s.calls ++ if c.superuserRequired then app.probes else [] := by
  have hkept := Session.keptByOutput_calls
  unfold requirePrivilege
  cases c.superuserRequired with
  | false => exact (List.append_nil _).symm
  | true =>
      simp only [if_true]
      refine Action.calls_run_bind app.calls_run_isPrivileged fun granted => ?_
      split
      · exact Action.pure_leads hkept _
      · exact Action.fail_leads hkept _

/-- A user gets past the privilege check only with the privilege. -/
theorem grants_of_run_requirePrivilege {app : App} {c : Command}
    (hok : ((app.requirePrivilege c).run h s).1 = .ok ()) (hrequired : c.superuserRequired = true) :
    app.Grants h s.calls := by
  apply grants_of_run_isPrivileged
  unfold requirePrivilege at hok
  simp only [hrequired, if_true, Action.run_bind] at hok
  cases hrun : app.isPrivileged.run h s with
  | mk result t =>
      rw [hrun] at hok
      cases result with
      | error _ => cases hok
      | ok granted =>
          cases granted with
          | false => cases hok
          | true => rfl

/-- Help for a selected command asks the help callback of the command, unless the command is
hidden, and leaves nothing to run. -/
theorem run_serve_of_help (app : App) (c : Command) (selector : Value) {rest : List Value}
    (hhelp : rest.any isHelp = true) :
    ((app.serve c selector rest).run h s).2.calls =
        s.calls ++ (if c.hidden then [] else app.helpCalls c) ∧
      ∀ selection, ((app.serve c selector rest).run h s).1 ≠ .ok (.selected selection) := by
  have hcalls := app.calls_run_showCommandHelp (h := h) (s := s) c
  unfold serve
  simp only [hhelp, if_true]
  cases hhidden : c.hidden with
  | true => exact ⟨(List.append_nil _).symm, fun _ hok => by cases hok⟩
  | false =>
      simp only [Bool.false_eq_true, if_false, Action.run_bind]
      cases hrun : (app.showCommandHelp c).run h s with
      | mk result t =>
          rw [hrun] at hcalls
          cases result with
          | error _ => exact ⟨hcalls, fun _ hok => by cases hok⟩
          | ok _ => exact ⟨hcalls, fun _ hok => by cases hok⟩

/-- Without a request for help, the privilege of the user is checked, and the command is selected
only past that check. -/
theorem run_serve_of_not_help (app : App) (c : Command) (selector : Value) {rest : List Value}
    (hhelp : rest.any isHelp = false) :
    ((app.serve c selector rest).run h s).2.calls =
        s.calls ++ (if c.superuserRequired then app.probes else []) ∧
      (∀ shown, ((app.serve c selector rest).run h s).1 ≠ .ok (.served shown)) ∧
      ∀ selection, ((app.serve c selector rest).run h s).1 = .ok (.selected selection) →
        c.select rest = .ok selection ∧ (c.superuserRequired = true → app.Grants h s.calls) := by
  have hcalls := app.calls_run_requirePrivilege (h := h) (s := s) c
  have hgranted := @grants_of_run_requirePrivilege h s app c
  unfold serve
  simp only [hhelp, Bool.false_eq_true, if_false, Action.run_bind]
  cases hrun : (app.requirePrivilege c).run h s with
  | mk result t =>
      rw [hrun] at hcalls hgranted
      cases result with
      | error _ => exact ⟨hcalls, fun _ hok => (by cases hok), fun _ hok => by cases hok⟩
      | ok _ =>
          simp only [Action.run_note, Action.run_ofExcept]
          cases hselect : c.select rest with
          | error _ => exact ⟨hcalls, fun _ hok => (by cases hok), fun _ hok => by cases hok⟩
          | ok selection =>
              refine ⟨hcalls, fun _ hok => (by cases hok), fun other hother => ?_⟩
              obtain ⟨rfl⟩ := Resolution.selected.inj (Except.ok.inj hother)
              exact ⟨rfl, fun hrequired => hgranted rfl hrequired⟩

/-- A word selects the first command of the table that has it as a spelling. -/
theorem exists_split_of_find? {commands : List Command} {word : Value} {position : Nat}
    {c : Command} (hfind : find? commands word = some (position, c)) :
    ∃ earlier later, commands = earlier ++ c :: later ∧ position = earlier.length ∧
      c.toSwitch.selectedBy word = true ∧ ∀ b ∈ earlier, b.toSwitch.selectedBy word = false := by
  simp only [find?, Option.map_eq_some_iff] at hfind
  obtain ⟨entry, hentry, hfound⟩ := hfind
  obtain ⟨rfl, rfl⟩ := Prod.mk.inj hfound
  obtain ⟨hselects, before, after, hsplit, hbefore⟩ := List.find?_eq_some_iff_append.1 hentry
  obtain ⟨earlier, rest, rfl, rfl, hrest⟩ := List.zipIdx_eq_append_iff.1 hsplit
  obtain ⟨c, later, rfl, rfl, -⟩ := List.zipIdx_eq_cons_iff.1 hrest.symm
  refine ⟨earlier, later, rfl, Nat.zero_add _, hselects, fun b hb => ?_⟩
  obtain ⟨i, hi⟩ := List.mem_iff_getElem?.1 hb
  simpa using hbefore (b, i) (List.mem_zipIdx_iff_getElem?.2 hi)

theorem find?_eq_none_iff {commands : List Command} {word : Value} :
    find? commands word = none ↔ ∀ c ∈ commands, c.toSwitch.selectedBy word = false := by
  simp only [find?, Option.map_eq_none_iff, List.find?_eq_none, Bool.not_eq_true]
  constructor
  · intro hnone c hc
    obtain ⟨i, hi⟩ := List.mem_iff_getElem?.1 hc
    exact hnone (c, i) (List.mem_zipIdx_iff_getElem?.2 hi)
  · intro hnone entry hentry
    exact hnone entry.1 (List.fst_mem_of_mem_zipIdx hentry)

theorem isOption_of_find?_eq_some {commands : List Command} {word : Value}
    {found : Nat × Command} (hfind : find? commands word = some found) : isOption word = true := by
  obtain ⟨_, _, _, _, hselects, -⟩ := exists_split_of_find? hfind
  exact Switch.isOption_of_selectedBy hselects

/-- Resolution of words of which the first behind the program selects a command. -/
theorem resolve_of_find? (app : App) {selector : Value} {position : Nat} {c : Command}
    (hfind : find? app.commands selector = some (position, c)) (program : Value)
    (rest : List Value) :
    app.resolve (program :: selector :: rest) = app.resolveCommand position c selector rest := by
  simp only [resolve, isOption_of_find?_eq_some hfind, hfind, if_true]

/-- Resolution of an invocation that selects a command. -/
theorem resolve_of_selected? (app : App) {argv : List Value} {position : Nat} {c : Command}
    (hselected : app.selected? argv = some (position, c)) :
    ∃ selector, app.resolve argv = app.resolveCommand position c selector (argv.drop 2) := by
  rcases argv with _ | ⟨program, _ | ⟨selector, rest⟩⟩
  · cases hselected
  · cases hselected
  · exact ⟨selector, app.resolve_of_find? hselected program rest⟩

/-- An invocation that selects no command asks no callback, and nothing is left to run. -/
theorem resolve_of_selected?_eq_none (app : App) {argv : List Value}
    (hselected : app.selected? argv = none) {R : Session → Session → Prop}
    (hkept : Session.KeptByOutput R) :
    (app.resolve argv).Leads R ∧
      ∀ h s selection, ((app.resolve argv).run h s).1 ≠ .ok (.selected selection) := by
  have hnot (failure : Failure) : (Action.fail failure : Action Resolution).Leads R ∧
      ∀ h s selection, ((Action.fail failure).run h s).1 ≠ .ok (Resolution.selected selection) :=
    ⟨Action.fail_leads hkept _, fun _ _ _ hok => by cases hok⟩
  rcases argv with _ | ⟨program, _ | ⟨selector, rest⟩⟩
  · exact hnot _
  · exact hnot _
  · dsimp only [selected?] at hselected
    simp only [resolve, hselected]
    by_cases hoption : isOption selector = true
    · rw [if_pos hoption]
      by_cases hhelp : isHelp selector = true
      · rw [if_pos hhelp]
        refine ⟨Action.Leads.bind hkept (app.showHelp_leads hkept) fun _ =>
          Action.pure_leads hkept _, ?_⟩
        intro h s selection hok
        rw [Action.run_bind] at hok
        split at hok <;> cases hok
      · rw [if_neg hhelp]
        exact hnot _
    · rw [if_neg hoption]
      exact hnot _

@[simp] theorem helpCalls_shownIn (app : App) (t : Session) (position : Nat) (c : Command) :
    app.helpCalls (shownIn t position c) = app.helpCalls c := by
  rcases shownIn_eq_or t position c with hshown | hshown <;> rw [hshown]
  rfl

/-- Resolution of a selected command configures the table and goes on with what is then shown of the
command. -/
theorem run_resolve_of_selected? {app : App} {argv : List Value} {position : Nat} {c : Command}
    (hselected : app.selected? argv = some (position, c))
    (hanswered : s.Answered h ConfiguresByNumber ((app.resolve argv).run h s).2) :
    ∃ selector t, app.configure.run h s = (.ok (), t) ∧
      t.calls = s.calls ++ (if s.configured then [] else configurations app.commands) ∧
      (app.resolve argv).run h s =
        (app.serve (shownIn t position c) selector (argv.drop 2)).run h t := by
  have hkept := Session.keptBySteps_grows
  obtain ⟨selector, hresolve⟩ := app.resolve_of_selected? hselected
  rw [hresolve, resolveCommand_eq] at hanswered ⊢
  obtain ⟨hok, hcalls⟩ := app.run_configure (hanswered.before (Action.grows_run_bind fun _ =>
    Action.Leads.bind hkept.toKeptByOutput (Action.session_leads hkept.toKeptByOutput) fun _ =>
      app.serve_leads hkept.toKeptByCalls _ _ _))
  refine ⟨selector, (app.configure.run h s).2, Prod.ext hok rfl, hcalls, ?_⟩
  rw [Action.run_bind]
  cases hconfigured : app.configure.run h s with
  | mk result t =>
      rw [hconfigured] at hok
      cases hok
      rfl

/-- What is selected is the command that the invocation selects, as the session shows it once the
table is configured; help was not asked for. -/
theorem select_of_run_resolve {app : App} {argv : List Value} {selection : Selection}
    (hresolved : ((app.resolve argv).run h s).1 = .ok (.selected selection)) :
    ∃ position c, app.selected? argv = some (position, c) ∧ (argv.drop 2).any isHelp = false ∧
      (shownIn (app.configure.run h s).2 position c).select (argv.drop 2) = .ok selection := by
  cases hselected : app.selected? argv with
  | none =>
      exact absurd hresolved
        ((app.resolve_of_selected?_eq_none hselected Session.keptByOutput_calls).2 h s selection)
  | some found =>
      obtain ⟨position, c⟩ := found
      obtain ⟨selector, hresolve⟩ := app.resolve_of_selected? hselected
      rw [hresolve, resolveCommand_eq, Action.run_bind] at hresolved
      cases hconfigured : app.configure.run h s with
      | mk result t =>
          rw [hconfigured] at hresolved
          cases result with
          | error _ => cases hresolved
          | ok _ =>
              dsimp only at hresolved
              rw [Action.run_bind, Action.run_session] at hresolved
              cases hhelp : (argv.drop 2).any isHelp with
              | true =>
                  exact absurd hresolved
                    ((app.run_serve_of_help (shownIn t position c) selector hhelp).2 selection)
              | false =>
                  exact ⟨position, c, rfl, rfl, ((app.run_serve_of_not_help _ selector hhelp).2.2
                    selection hresolved).1⟩

/-- What is selected is selected by some command of the table, as a session shows it. -/
theorem exists_select_of_run_resolve {app : App} {argv : List Value} {selection : Selection}
    (hresolved : ((app.resolve argv).run h s).1 = .ok (.selected selection)) :
    ∃ c : Command, c.select (argv.drop 2) = .ok selection := by
  obtain ⟨_, _, -, -, hselect⟩ := select_of_run_resolve hresolved
  exact ⟨_, hselect⟩

end App

end CommandDispatch
