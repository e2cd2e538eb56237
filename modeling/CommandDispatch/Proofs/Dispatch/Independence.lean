import CommandDispatch.Proofs.Dispatch.Coupled
import CommandDispatch.Proofs.Dispatch.ConfigurationReach
import CommandDispatch.Proofs.Session.Effects

/-! # What earlier uses leave behind

Uses of an application leave three things behind: that its commands are configured, which of them
are hidden, and bytes at the ends of files. On a host whose callbacks give the same answers on every
call an invocation does the same after any of them as it does at first, but for the callbacks that
configure the commands, which are not asked again.
-/

namespace CommandDispatch

open CommandDispatch.Action Session

/-- The later session comes from the earlier one by asking callbacks to configure commands, if by
anything. -/
def Session.Readies (h : Host) (files : FileStore) (s t : Session) : Prop :=
  ∃ made, (∀ call ∈ made, call.configures = true) ∧
    t = { s.after ⟨[], made, made.flatMap (h.additions files)⟩ s.notes with
      configured := t.configured
      hidden := t.hidden }

theorem Session.Readies.refl (h : Host) (files : FileStore) (s : Session) : s.Readies h files s :=
  ⟨[], List.forall_mem_nil _, s.after_nil.symm⟩

namespace App

variable {app : App} {h : Host} {files : FileStore}

/-- Whether a system log can be opened or a candidate for one is refused is the same whatever was
added to files. -/
def SteadyLogs (app : App) (files : FileStore) : Prop :=
  ∀ added, (LogCursor.enter {} app.syslog (files.appendAll added)).isOk =
    (LogCursor.enter {} app.syslog files).isOk

/-- The smallest things that an invocation does are the same in two sessions in which files were
only added to, if that is so of the calls that are asked, and if a system log is refused in both or
in neither. -/
theorem coupled_of_calls {s₀ t₀ : Session} {asked : Call → Prop} (hs₀ : s₀.Beyond files)
    (ht₀ : t₀.Beyond files)
    (hcalls : ∀ callback request, asked ⟨callback, request⟩ →
      InStep h (fun _ => False) (Beside s₀ t₀) (call callback request) (call callback request))
    (hlogs : ∀ added, (LogCursor.enter {} app.syslog (t₀.files.appendAll added)).isOk =
      (LogCursor.enter {} app.syslog (s₀.files.appendAll added)).isOk) :
    app.Coupled app.colorful app.colorful h (fun _ => False) (Beside s₀ t₀) asked where
  colours := .inl rfl
  faults _ hstops := hstops
  print stream m hbeside := by
    obtain ⟨e, notes, notes', rfl, rfl⟩ := hbeside
    have hprinted (s : Session) (notes : List Note) :
        { s.after e notes with
          printed := (s.after e notes).printed ++ [⟨stream, m.colored app.colorful⟩] } =
        s.after { e with printed := e.printed ++ [⟨stream, m.colored app.colorful⟩] } notes := by
      simp [after]
    exact ⟨_, notes, notes', hprinted s₀ notes, hprinted t₀ notes'⟩
  note notes notes' hbeside := by
    obtain ⟨e, -, -, rfl, rfl⟩ := hbeside
    exact ⟨e, notes, notes', rfl, rfl⟩
  write message := (app.journal.write_steady message h files).inStep
    (app.journal.write_leads keptByOutput_extends message) hs₀ ht₀
  call := hcalls
  cursor := by
    rintro s t ⟨e, notes, notes', rfl, rfl⟩
    exact LogCursor.enter_cases (hlogs e.added)

/-- The smallest things that an invocation does are the same wherever files were only added to. -/
theorem coupled_beside {s₀ t₀ : Session} (hsteady : h.Steady files) (hlogs : app.SteadyLogs files)
    (hs₀ : s₀.Beyond files) (ht₀ : t₀.Beyond files) :
    app.Coupled app.colorful app.colorful h (fun _ => False) (Beside s₀ t₀) := by
  refine coupled_of_calls hs₀ ht₀ (fun callback request _ => ?_) fun added => ?_
  · exact (hsteady.call_steady callback request).inStep
      (call_leads keptByCalls_extends callback request) hs₀ ht₀
  · obtain ⟨more, hmore⟩ := hs₀
    obtain ⟨more', hmore'⟩ := ht₀
    rw [hmore, hmore', FileStore.appendAll_appendAll, FileStore.appendAll_appendAll]
    exact (hlogs (more' ++ added)).trans (hlogs (more ++ added)).symm

/-! ## The configuration -/

/-- All callbacks that configure commands answer with numbers. -/
def AllAnswer (h : Host) (files : FileStore) (commands : List Command) : Prop :=
  ∀ c ∈ commands, ∀ callback ∈ c.configure,
    ∃ v n, (h.answer callback [] .configure).Returns files v ∧ v.number? = some n

theorem beyond_hideIfNegative {s : Session} (hbeyond : s.Beyond files) (n : Int) (position : Nat) :
    (hideIfNegative n position s).Beyond files := by
  unfold hideIfNegative
  split <;> exact hbeyond

/-- A pass over the table, on any host with the same callbacks. It hides the same commands wherever
it begins. -/
theorem exists_run_configureFrom (hsteady : h.Steady files) (position : Nat)
    {commands : List Command} (hanswers : AllAnswer h files commands) :
    ∃ hidden, ∀ g s, g.answer = h.answer → s.Beyond files →
      (configureFrom position commands).run g s =
        (.ok (), { s.after ⟨[], configurations commands,
            (configurations commands).flatMap (h.additions files)⟩ s.notes with
          hidden := hidden ++ s.hidden }) := by
  induction commands generalizing position with
  | nil => exact ⟨[], fun g s _ _ => congrArg (Prod.mk _) s.after_nil.symm⟩
  | cons c rest ih =>
      obtain ⟨hfirst, hrest⟩ := List.forall_mem_cons.1 hanswers
      obtain ⟨hidden, hpass⟩ := ih (position + 1) hrest
      cases hconfigure : c.configure with
      | none =>
          refine ⟨hidden, fun g s hanswer hbeyond => ?_⟩
          rw [run_configureFrom_cons, hconfigure, configurations_cons_of_eq_none hconfigure]
          exact hpass g s hanswer hbeyond
      | some callback =>
          obtain ⟨v, n, hreturns, hnumber⟩ := hfirst callback hconfigure
          -- the callback always gives this number, so its command is always hidden or never
          refine ⟨hidden ++ if n < 0 then [position] else [], fun g s hanswer hbeyond => ?_⟩
          have hcall := hsteady.run_call_of_returns hanswer hreturns hbeyond
          have hcalled := hbeyond.after ⟨[], [⟨callback, .configure⟩],
            h.additions files ⟨callback, .configure⟩⟩ s.notes
          have hpassed := hpass g _ hanswer (beyond_hideIfNegative hcalled n position)
          rw [run_configureFrom_cons, hconfigure, configurations_cons_of_eq_some hconfigure]
          simp only [hcall, hnumber, hpassed]
          unfold hideIfNegative
          split <;> simp [after]

/-- On any host with the same callbacks the configuration does nothing if it was begun before, and
else asks all callbacks for it and hides some commands, always the same ones. -/
def ConfiguresAlike (app : App) (h : Host) (files : FileStore) (hidden : List Nat) : Prop :=
  ∀ g s, g.answer = h.answer → s.Beyond files →
    app.configure.run g s =
      (.ok (), if s.configured then s else
        { s.after ⟨[], configurations app.commands,
            (configurations app.commands).flatMap (h.additions files)⟩ s.notes with
          configured := true
          hidden := hidden ++ s.hidden })

theorem exists_configuresAlike (hsteady : h.Steady files)
    (hanswers : AllAnswer h files app.commands) : ∃ hidden, app.ConfiguresAlike h files hidden := by
  obtain ⟨hidden, hpass⟩ := exists_run_configureFrom hsteady 0 hanswers
  refine ⟨hidden, fun g s hanswer hbeyond => ?_⟩
  cases hconfigured : s.configured with
  | true => exact app.run_configure_of_configured g hconfigured
  | false =>
      rw [app.run_configure_of_fresh g hconfigured]
      exact hpass g { s with configured := true } hanswer hbeyond

/-! ## Many uses -/

/-- What uses leave behind: files were only added to, and commands are hidden only once they are
configured, and then always the same ones. -/
structure Leaves (files : FileStore) (hidden : List Nat) (s : Session) : Prop where
  beyond : s.Beyond files
  fresh : s.configured = false → s.hidden = []
  settled : s.configured = true → s.hidden = hidden

section Uses

variable {hidden : List Nat} {s : Session}

theorem readies_configure (halike : app.ConfiguresAlike h files hidden) (hbeyond : s.Beyond files) :
    s.Readies h files (app.configure.run h s).2 := by
  rw [halike h s rfl hbeyond]
  split
  · exact .refl h files s
  · refine ⟨configurations app.commands, fun call hcall => ?_, rfl⟩
    simp [Call.configures, request_of_mem_configurations hcall]

theorem Leaves.configure (hleaves : Leaves files hidden s)
    (halike : app.ConfiguresAlike h files hidden) {g : Host} (hanswer : g.answer = h.answer) :
    Leaves files hidden (app.configure.run g s).2 := by
  rw [halike g s hanswer hleaves.beyond]
  split
  · exact hleaves
  next hfresh =>
    refine ⟨hleaves.beyond.after _ s.notes, fun hconfigured => (by cases hconfigured), fun _ => ?_⟩
    dsimp only
    rw [hleaves.fresh (Bool.eq_false_iff.2 hfresh), List.append_nil]

theorem Leaves.onward {t : Session} (hleaves : Leaves files hidden s) (honward : s.Onward t)
    (hbeyond : t.Beyond files) : Leaves files hidden t where
  beyond := hbeyond
  fresh hfresh := honward.hidden.trans (hleaves.fresh (honward.configured ▸ hfresh))
  settled hconfigured := honward.hidden.trans (hleaves.settled (honward.configured ▸ hconfigured))

theorem use_extends (app : App) (g : Host) (s : Session) (next : Use) :
    s.Extends (app.use g s next) := by
  cases next with
  | dispatch argv => exact app.dispatch_leads keptBySteps_extends argv g s
  | configure => exact app.configure_leads keptBySteps_extends g s

theorem Leaves.use (hleaves : Leaves files hidden s) (halike : app.ConfiguresAlike h files hidden)
    {g : Host} (hanswer : g.answer = h.answer) (next : Use) :
    Leaves files hidden (app.use g s next) := by
  have hbeyond := hleaves.beyond.extends (app.use_extends g s next)
  rcases app.use_onward g s next with honward | honward
  · exact hleaves.onward honward hbeyond
  · exact (hleaves.configure halike hanswer).onward honward hbeyond

theorem Leaves.afterUses (hleaves : Leaves files hidden s)
    (halike : app.ConfiguresAlike h files hidden) {uses : List (Host × Use)}
    (hanswers : ∀ next ∈ uses, next.1.answer = h.answer) :
    Leaves files hidden (app.afterUses uses s) := by
  induction uses generalizing s with
  | nil => exact hleaves
  | cons next rest ih =>
      obtain ⟨hnext, hrest⟩ := List.forall_mem_cons.1 hanswers
      exact ih (hleaves.use halike hnext next.2) hrest

end Uses

/-! ## One more invocation -/

/-- Invocations that are resolved alike go on alike. -/
theorem run_dispatch_of_run_resolve_eq {argv : List Value} {s t : Session}
    (hresolve : (app.resolve argv).run h s = (app.resolve argv).run h t) :
    (app.dispatch argv).run h s = (app.dispatch argv).run h t := by
  rw [run_dispatch, run_dispatch, run_prepare, run_prepare, hresolve]

/-- An invocation that selects a command is as good as one that finds the commands configured. -/
theorem run_dispatch_of_run_configure {argv : List Value} {found : Nat × Command}
    (hselected : app.selected? argv = some found) {s : Session}
    (hok : (app.configure.run h s).1 = .ok ()) :
    (app.dispatch argv).run h s = (app.dispatch argv).run h (app.configure.run h s).2 := by
  obtain ⟨selector, hresolve⟩ := app.resolve_of_selected? hselected
  have hfirst : app.configure.run h s = (.ok (), (app.configure.run h s).2) := Prod.ext hok rfl
  have hagain := app.run_configure_of_configured h (app.configured_run_configure h s)
  apply run_dispatch_of_run_resolve_eq
  rw [hresolve, resolveCommand_eq, run_bind, run_bind, hagain, hfirst]

/-- An invocation that selects no command and does not ask for help has one fault. -/
theorem exists_fault_of_selected?_eq_none {argv : List Value}
    (hselected : app.selected? argv = none)
    (hhelp : ∀ selector ∈ argv[1]?, isHelp selector = false) :
    ∃ f : Fault, ∀ h s, (app.resolve argv).run h s = (.error (.fault f), s) := by
  rcases argv with _ | ⟨program, _ | ⟨selector, rest⟩⟩
  · exact ⟨_, fun _ _ => rfl⟩
  · exact ⟨_, fun _ _ => rfl⟩
  · have hnone : isHelp selector = false := hhelp selector rfl
    dsimp only [selected?] at hselected
    simp only [resolve, hselected, hnone]
    split <;> exact ⟨_, fun _ _ => rfl⟩

/-- Invocations that find the commands configured, and the same ones hidden, go in step. -/
theorem dispatch_beside {s t : Session} (hsteady : h.Steady files) (hlogs : app.SteadyLogs files)
    (hbeyond : s.Beyond files) (hbeyond' : t.Beyond files) (hconfigured : s.configured = true)
    (hconfigured' : t.configured = true) (hhidden : t.hidden = s.hidden) (argv : List Value) :
    EndInStep (fun _ => False) (Beside s t) ((app.dispatch argv).run h s)
      ((app.dispatch argv).run h t) := by
  have hshown (u v : Session) (hbeside : Beside s t u v) : shownIn v = shownIn u := by
    obtain ⟨e, notes, notes', rfl, rfl⟩ := hbeside
    funext position c
    exact shownIn_of_hidden_eq hhidden position c
  have hconfigure : InStep h (fun _ => False) (Beside s t) app.configure app.configure :=
    ⟨app.configure_leads keptBySteps_extends, fun u v hbeside => by
      obtain ⟨e, notes, notes', rfl, rfl⟩ := hbeside
      have hfirst := app.run_configure_of_configured (s := s.after e notes) h hconfigured
      have hsecond := app.run_configure_of_configured (s := t.after e notes') h hconfigured'
      rw [hfirst, hsecond]
      exact .inl ⟨rfl, e, notes, notes', rfl, rfl⟩⟩
  have hcoupled := app.coupled_beside hsteady hlogs hbeyond hbeyond'
  exact (hcoupled.dispatch_inStep hshown hconfigure argv).ends s t (.refl s t)

/-- An invocation does the same in any two sessions that uses leave behind, once the commands are
configured, if they are to be. -/
theorem exists_dispatch_beside {hidden : List Nat} {s t : Session} {argv : List Value}
    (hsteady : h.Steady files) (hlogs : app.SteadyLogs files)
    (halike : app.ConfiguresAlike h files hidden) (hs : Leaves files hidden s)
    (ht : Leaves files hidden t)
    (hhelp : app.selected? argv = none → ∀ selector ∈ argv[1]?, isHelp selector = false) :
    ∃ s' t', s.Readies h files s' ∧ t.Readies h files t' ∧
      s'.Onward ((app.dispatch argv).run h s).2 ∧
      EndInStep (fun _ => False) (Beside s' t') ((app.dispatch argv).run h s)
        ((app.dispatch argv).run h t) := by
  cases hselected : app.selected? argv with
  | none =>
      obtain ⟨f, hfault⟩ := exists_fault_of_selected?_eq_none hselected (hhelp hselected)
      have hsurfaced (u : Session) : (app.dispatch argv).run h u = (f.trigger app {}).run h u := by
        rw [run_dispatch, run_prepare, hfault]
      have hcoupled := app.coupled_beside hsteady hlogs hs.beyond ht.beyond
      refine ⟨s, t, .refl h files s, .refl h files t, dispatch_onward hselected h s, ?_⟩
      rw [hsurfaced s, hsurfaced t]
      exact (hcoupled.trigger_inStep f {}).ends s t (.refl s t)
  | some found =>
      have hs' := hs.configure halike rfl
      have ht' := ht.configure halike rfl
      have hconfigured := app.configured_run_configure h s
      have hconfigured' := app.configured_run_configure h t
      have hhidden := (ht'.settled hconfigured').trans (hs'.settled hconfigured).symm
      refine ⟨_, _, readies_configure halike hs.beyond, readies_configure halike ht.beyond,
        configured_onward_dispatch hselected h s, ?_⟩
      rw [run_dispatch_of_run_configure hselected (congrArg Prod.fst (halike h s rfl hs.beyond)),
        run_dispatch_of_run_configure hselected (congrArg Prod.fst (halike h t rfl ht.beyond))]
      exact dispatch_beside hsteady hlogs hs'.beyond ht'.beyond hconfigured hconfigured' hhidden
        argv

/-- What an application was used for makes no difference. Let the callbacks give the same answers on
every call, those that configure commands numbers, and let it not depend on what was added to files
whether a system log is found or refused. Then an invocation that does not ask for the page of the
whole tool ends after any uses as it ends first, with the same messages, the same calls and the same
bytes at the ends of the same files, but for the callbacks that configure the commands and what
these add. -/
theorem dispatch_after_uses (app : App) (files : FileStore) (h : Host) (uses : List (Host × Use))
    (more : List (Place × Bytes)) (argv : List Value) (hsteady : h.Steady files)
    (hanswers : AllAnswer h files app.commands) (hlogs : app.SteadyLogs files)
    (huses : ∀ next ∈ uses, next.1.answer = h.answer)
    (hhelp : app.selected? argv = none → ∀ selector ∈ argv[1]?, isHelp selector = false) :
    let s := app.afterUses uses { files }
    let t : Session := { files := files.appendAll more }
    let last := (app.dispatch argv).run h s
    let first := (app.dispatch argv).run h t
    last.1 = first.1 ∧
      ∃ s' t' e notes notes', s.Readies h files s' ∧ t.Readies h files t' ∧
        last.2 = s'.after e notes ∧ first.2 = t'.after e notes' ∧
        ∀ call ∈ e.calls, call.configures = false := by
  intro s t last first
  obtain ⟨hidden, halike⟩ := exists_configuresAlike hsteady hanswers
  have hstart (added : List (Place × Bytes)) :
      Leaves files hidden { files := files.appendAll added } :=
    ⟨⟨added, rfl⟩, fun _ => rfl, fun hconfigured => by cases hconfigured⟩
  have hs : Leaves files hidden s := (hstart []).afterUses halike huses
  obtain ⟨s', t', hreadies, hreadies', honward, hends⟩ :=
    exists_dispatch_beside hsteady hlogs halike hs (hstart more) hhelp
  rcases hends with ⟨hresult, e, notes, notes', hlast, hfirst⟩ | ⟨_, hstops, -⟩
  · refine ⟨hresult.symm, s', t', e, notes, notes', hreadies, hreadies', hlast, hfirst, ?_⟩
    obtain ⟨made, hmade, hnone⟩ := honward.calls
    rw [hlast] at hmade
    rwa [List.append_cancel_left hmade]
  · exact hstops.elim

end App

namespace Sample

theorem answering_steady (v : Value) (files : FileStore) : (answering v).Steady files :=
  ⟨fun _ _ _ => rfl, fun _ _ _ _ happended => by cases happended⟩

/-- Uses of the sample tool: one without a command, and one of the second command. -/
def moved : List (Host × App.Use) :=
  [(answering (.int (-1)), .dispatch [.text "tool"]), (answering (.int (-1)), .dispatch moving)]

/-- The second command runs once more as it runs first. Its configuration hides all commands. -/
theorem moving_again :
    let last := (configurable.dispatch moving).run (answering (.int (-1)))
      (configurable.afterUses moved {})
    let first := (configurable.dispatch moving).run (answering (.int (-1))) {}
    last.1 = first.1 ∧ ∃ (s' t' : Session) (e : Effect) (notes notes' : List Note),
      last.2 = s'.after e notes ∧ first.2 = t'.after e notes' := by
  have hsteady := answering_steady (.int (-1)) {}
  have hanswers : App.AllAnswer (answering (.int (-1))) {} configurable.commands :=
    fun _ _ _ _ => ⟨.int (-1), -1, ⟨rfl, fun _ _ happended => by cases happended⟩, rfl⟩
  have hlogs : configurable.SteadyLogs {} := fun _ => rfl
  have huses : ∀ next ∈ moved, next.1.answer = (answering (.int (-1))).answer := by simp [moved]
  obtain ⟨hsame, s', t', e, notes, notes', -, -, hlast, hfirst, -⟩ :=
    App.dispatch_after_uses configurable {} (answering (.int (-1))) moved [] moving hsteady hanswers
      hlogs huses fun hnone => by cases hnone
  exact ⟨hsame, s', t', e, notes, notes', hlast, hfirst⟩

/-- A host on which callbacks that configure commands answer with nothing. -/
def undecided : Host where
  answer := fun _ _ request =>
    { outcome := .ok (match request with
        | .configure => .null
        | _ => .int 0) }

/-- The sample tool looks for a system log in its own journal, and then at no path. -/
def introspective : App := tool (copy [] none) [.text "journal.log", .text "\x00"]

/-- An invocation ends after earlier ones as it ends first. -/
def EndsAsFirst (app : App) (h : Host) (earlier : List (List Value)) (argv : List Value) : Prop :=
  ((app.dispatch argv).run h (app.afterUses (earlier.map fun words => (h, .dispatch words)) {})).1 =
    ((app.dispatch argv).run h {}).1

theorem not_endsAsFirst {app : App} {h : Host} {earlier : List (List Value)} {argv : List Value}
    (hlast : ((app.dispatch argv).run h
      (app.afterUses (earlier.map fun words => (h, .dispatch words)) {})).1.isOk = true)
    (hfirst : ((app.dispatch argv).run h {}).1.isOk = false) :
    ¬ EndsAsFirst app h earlier argv := by
  intro hsame
  rw [hsame, hfirst] at hlast
  cases hlast

/-- A system log that is no path is found out first, but not once a journal was written that is
found before it. And a callback that gives no number is found out first, but not once it was
asked. -/
theorem history_noticed :
    (¬ ∀ (app : App) (h : Host) (earlier : List (List Value)) (argv : List Value),
        h.Steady {} → h.failures = {} → App.AllAnswer h {} app.commands →
        argv.any isHelp = false → EndsAsFirst app h earlier argv) ∧
      ¬ ∀ (app : App) (h : Host) (earlier : List (List Value)) (argv : List Value),
        h.Steady {} → h.failures = {} → app.SteadyLogs {} →
        (∀ c ∈ app.commands, ∀ callback ∈ c.configure,
          ∃ v, (h.answer callback [] .configure).Returns {} v) →
        argv.any isHelp = false → EndsAsFirst app h earlier argv := by
  refine ⟨fun hall => ?_, fun hall => ?_⟩
  · have hanswers : App.AllAnswer (answering (.int 0)) {} introspective.commands := by
      rintro c hc callback hcallback
      obtain rfl := List.mem_singleton.1 hc
      cases hcallback
    have hsame := hall introspective (answering (.int 0)) [[.text "tool"]]
      [.text "tool", .text "--copy"] (answering_steady _ _) rfl hanswers (by decide +kernel)
    exact not_endsAsFirst (by decide +kernel) (by decide +kernel) hsame
  · have hsteady : undecided.Steady {} :=
      ⟨fun _ _ _ => rfl, fun _ _ _ _ happended => by cases happended⟩
    have hreturns : ∀ c ∈ configurable.commands, ∀ callback ∈ c.configure,
        ∃ v, (undecided.answer callback [] .configure).Returns {} v :=
      fun _ _ _ _ => ⟨.null, rfl, fun _ _ happended => by cases happended⟩
    have hsame := hall configurable undecided [moving] moving hsteady rfl (fun _ => rfl) hreturns
      (by decide +kernel)
    exact not_endsAsFirst (by decide +kernel) (by decide +kernel) hsame

end Sample

end CommandDispatch
