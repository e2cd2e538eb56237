import CommandDispatch.Proofs.Dispatch.Independence

/-! # Tables that grow at their end

The first entry of a table wins, so entries behind the others make no difference to what was found
before. Options behind those of a schema leave every invocation as it was that the schema accepts,
as long as words need not have them and may have them any number of times. Commands behind those of
an application leave every invocation as it was that selects one of the first, but for the callbacks
that configure them.
-/

namespace CommandDispatch

open Extraction Session CommandDispatch.Action

/-! ## Schemas -/

namespace Extraction

variable {schema extra : List OptionSpec}

theorem find?_append_of_eq_some {word : Value} {o : OptionSpec}
    (hfind : find? schema word = some o) (extra : List OptionSpec) :
    find? (schema ++ extra) word = some o := by
  unfold find? at hfind ⊢
  rw [List.find?_append, hfind, Option.some_or]

theorem planGroups_append {groups : List Group} (hstop : (planGroups schema groups).stop = none)
    (extra : List OptionSpec) : planGroups (schema ++ extra) groups = planGroups schema groups := by
  induction groups with
  | nil => rfl
  | cons g rest ih =>
      unfold planGroups at hstop ⊢
      cases hfind : find? schema g.switch with
      | none =>
          rw [hfind] at hstop
          cases hstop
      | some o =>
          rw [hfind] at hstop
          rw [find?_append_of_eq_some hfind]
          dsimp only at hstop ⊢
          split at hstop
          next htakes =>
            split at hstop
            next => cases hstop
            next hcount => simp only [if_pos htakes, if_neg hcount, ih hstop]
          next hflag =>
            split at hstop
            next hvalues => simp only [if_neg hflag, hvalues, ih hstop]
            next => cases hstop

theorem plan_append {words : List Value} (hstop : (plan schema words).stop = none)
    (extra : List OptionSpec) : plan (schema ++ extra) words = plan schema words := by
  unfold plan at hstop ⊢
  split at hstop
  next => exact planGroups_append hstop extra
  next => cases hstop

/-- Options that words need not have, and may have any number of times, set no further limit. -/
theorem KeepsLimits.append {words : List Value} (hkeeps : KeepsLimits schema words)
    (hextra : ∀ o ∈ extra, o.required = false ∧ o.maxOccurrences = 0) :
    KeepsLimits (schema ++ extra) words := by
  intro o ho
  rcases List.mem_append.1 ho with ho | ho
  · exact hkeeps o ho
  · obtain ⟨hrequired, hlimit⟩ := hextra o ho
    refine ⟨fun hmust => ?_, fun hmost => absurd hlimit hmost⟩
    rw [hrequired] at hmust
    cases hmust

end Extraction

namespace Selection

variable {s t : Selection}

theorem deliver_congr {d : Delivery} (hcall : t.call? d = s.call? d) :
    t.deliver d = s.deliver d := by
  cases hsame : s.call? d with
  | none => rw [deliver_of_call?_eq_none hsame, deliver_of_call?_eq_none (hcall.trans hsame)]
  | some call => rw [deliver_of_call? hsame, deliver_of_call? (hcall.trans hsame)]

theorem deliverAll_congr (hcalls : ∀ d, t.call? d = s.call? d) (deliveries : List Delivery) :
    t.deliverAll deliveries = s.deliverAll deliveries := by
  induction deliveries with
  | nil => rfl
  | cons d rest ih =>
      unfold deliverAll
      rw [deliver_congr (hcalls d), ih]

/-- What a schema accepts is extracted in the same way with further options behind it. -/
theorem run_extract_append {schema extra : List OptionSpec} {argv : List Value} {h : Host}
    {session : Session} (hschema : s.schema = some schema)
    (hschema' : t.schema = some (schema ++ extra)) (hwords : t.words argv = s.words argv)
    (hcalls : ∀ d, t.call? d = s.call? d)
    (hextra : ∀ o ∈ extra, o.required = false ∧ o.maxOccurrences = 0)
    (hok : ((s.extract argv).run h session).1 = .ok ()) :
    (t.extract argv).run h session = (s.extract argv).run h session := by
  obtain ⟨hkeeps, -, hstop⟩ := (run_extract_eq_ok_iff hschema).1 hok
  have hkeeps' : KeepsLimits (schema ++ extra) (t.words argv) := by
    rw [hwords]
    exact hkeeps.append hextra
  rw [run_extract_eq hschema hkeeps, run_extract_eq hschema' hkeeps', hwords,
    plan_append hstop extra, deliverAll_congr hcalls]

end Selection

/-! ## Command tables -/

/-- What calls add to files, made one after the other behind earlier ones. -/
def Host.gains (h : Host) (files : FileStore) : (earlier made : List Call) → List (Place × Bytes)
  | _, [] => []
  | earlier, call :: rest =>
      (h.reply earlier call).added files ++ gains h files (earlier ++ [call]) rest

theorem Host.gains_appendAll (h : Host) (files : FileStore) (added : List (Place × Bytes))
    (earlier made : List Call) :
    h.gains (files.appendAll added) earlier made = h.gains files earlier made := by
  induction made generalizing earlier with
  | nil => rfl
  | cons call rest ih =>
      unfold gains
      rw [Reply.added_appendAll, ih]

/-- The later session comes from the earlier one by calls and by what these add to files; commands
may have been hidden. -/
def Session.Called (h : Host) (made : List Call) (s t : Session) : Prop :=
  t = { s.after ⟨[], made, h.gains s.files s.calls made⟩ s.notes with hidden := t.hidden }

theorem Session.Called.refl (h : Host) (s : Session) : s.Called h [] s := s.after_nil.symm

theorem Session.Called.after {h : Host} {s t : Session} {made : List Call}
    (hcalled : s.Called h made t) (e : Effect) (notes : List Note) :
    t.after e notes =
      { s.after ⟨e.printed, made ++ e.calls, h.gains s.files s.calls made ++ e.added⟩ notes with
        hidden := t.hidden } := by
  unfold Called at hcalled
  rw [hcalled]
  simp [Session.after]

/-- A call, perhaps the hiding of a command, and further calls. -/
theorem Session.Called.cons {h : Host} {s t : Session} {call : Call} {made : List Call}
    {hidden : List Nat}
    (hrest : Called h made { s.after ⟨[], [call], (h.reply s.calls call).added s.files⟩ s.notes with
      hidden } t) : s.Called h (call :: made) t := by
  unfold Called at hrest ⊢
  rw [hrest]
  simp [Session.after, Host.gains, Host.gains_appendAll]

namespace App

/-- The application with further commands at the end of its table. -/
def appending (app : App) (more : List Command) : App :=
  { app with commands := app.commands ++ more }

variable {app : App} {more : List Command} {h : Host} {s : Session}

theorem find?_append_of_eq_some {commands : List Command} {word : Value} {found : Nat × Command}
    (hfind : find? commands word = some found) (more : List Command) :
    find? (commands ++ more) word = some found := by
  unfold find? at hfind ⊢
  obtain ⟨entry, hentry, hfound⟩ := Option.map_eq_some_iff.1 hfind
  rw [List.zipIdx_append, List.find?_append, hentry, Option.some_or, Option.map_some, hfound]

/-! ### The configuration of further commands -/

theorem configureFrom_append (position : Nat) (commands more : List Command) :
    configureFrom position (commands ++ more) =
      (configureFrom position commands >>= fun _ =>
        configureFrom (position + commands.length) more) := by
  induction commands generalizing position with
  | nil => rfl
  | cons c rest ih =>
      refine Action.ext fun h s => ?_
      have hrest := ih (position + 1)
      rw [Nat.add_right_comm, Nat.add_assoc] at hrest
      rw [List.cons_append, run_configureFrom_cons, run_bind, run_configureFrom_cons, hrest]
      cases c.configure with
      | none => rfl
      | some callback =>
          dsimp only
          cases (call callback .configure).run h s with
          | mk result t =>
              cases result with
              | error _ => rfl
              | ok answer =>
                  dsimp only
                  cases answer.number? <;> rfl

theorem exists_hidden_hideIfNegative (n : Int) (position : Nat) (s : Session) :
    ∃ hidden, hideIfNegative n position s = { s with hidden } := by
  unfold hideIfNegative
  split
  · exact ⟨_, rfl⟩
  · exact ⟨_, rfl⟩

/-- A pass over a table only makes calls, and hides commands. -/
theorem configureFrom_called (position : Nat) (commands : List Command) (h : Host) (s : Session) :
    ∃ made, s.Called h made ((configureFrom position commands).run h s).2 := by
  induction commands generalizing position s with
  | nil => exact ⟨[], .refl h s⟩
  | cons c rest ih =>
      rw [run_configureFrom_cons]
      cases c.configure with
      | none => exact ih (position + 1) s
      | some callback =>
          have hcalled : s.Called h [⟨callback, .configure⟩]
              ((call callback .configure).run h s).2 := by
            rw [Action.run_call]
            exact Session.Called.cons (.refl h _)
          dsimp only
          cases hrun : (call callback .configure).run h s with
          | mk result t =>
              rw [hrun] at hcalled
              cases result with
              | error failure => exact ⟨_, hcalled⟩
              | ok answer =>
                  dsimp only
                  cases answer.number? with
                  | none => exact ⟨_, hcalled⟩
                  | some n =>
                      obtain ⟨hidden, hhidden⟩ := exists_hidden_hideIfNegative n position t
                      obtain ⟨made, hmade⟩ := ih (position + 1) (hideIfNegative n position t)
                      have ht := congrArg Prod.snd hrun
                      rw [Action.run_call] at ht
                      dsimp only at ht hmade ⊢
                      rw [hhidden, ← ht] at hmade ⊢
                      exact ⟨_, hmade.cons⟩

/-- A pass over a table whose callbacks answer with numbers asks all of them, and hides no command
in front of the table. -/
theorem configureFrom_called_of_answered {position : Nat} {commands : List Command}
    (hanswered : s.Answered h ConfiguresByNumber ((configureFrom position commands).run h s).2) :
    ((configureFrom position commands).run h s).1 = .ok () ∧
      s.Called h (configurations commands) ((configureFrom position commands).run h s).2 ∧
      ∀ i < position,
        i ∈ ((configureFrom position commands).run h s).2.hidden ↔ i ∈ s.hidden := by
  obtain ⟨hok, hcalls⟩ := run_configureFrom position commands hanswered
  obtain ⟨made, hcalled⟩ := configureFrom_called position commands h s
  have hpass := configureFrom_configures h position commands s
  refine ⟨hok, ?_, fun i hi => ⟨fun hhidden => ?_, fun hhidden => hpass.keeps hhidden⟩⟩
  · have hmade : made = configurations commands := by
      apply (List.append_right_inj s.calls).1
      rw [← hcalls, hcalled]
      rfl
    rwa [← hmade]
  · rcases hpass.hides i hhidden with hbefore | ⟨k, rfl, -⟩
    · exact hbefore
    · omega

/-- Further commands are configured behind the other ones, if these are. -/
theorem run_configure_appending (app : App) (more : List Command) (h : Host) (s : Session) :
    (app.appending more).configure.run h s = app.configure.run h s ∨
      ∃ t, app.configure.run h s = (.ok (), t) ∧
        (app.appending more).configure.run h s =
          (configureFrom app.commands.length more).run h t := by
  rw [run_configure_eq, run_configure_eq]
  split
  next => exact .inl rfl
  next =>
    dsimp only [appending]
    rw [configureFrom_append, run_bind, Nat.zero_add]
    cases (configureFrom 0 app.commands).run h { s with configured := true } with
    | mk result t =>
        cases result with
        | error _ => exact .inl rfl
        | ok _ => exact .inr ⟨t, rfl, rfl⟩

/-- Further commands whose callbacks answer with numbers make a difference to the configuration by
their own calls only. -/
theorem configure_appending
    (hanswered : (app.configure.run h s).2.Answered h ConfiguresByNumber
      ((app.appending more).configure.run h s).2) :
    ((app.appending more).configure.run h s).1 = (app.configure.run h s).1 ∧
      (∃ extra, (extra = [] ∨ extra = configurations more) ∧
        (app.configure.run h s).2.Called h extra ((app.appending more).configure.run h s).2) ∧
      ∀ position < app.commands.length,
        position ∈ ((app.appending more).configure.run h s).2.hidden ↔
          position ∈ (app.configure.run h s).2.hidden := by
  rcases app.run_configure_appending more h s with hsame | ⟨t, hfirst, hsecond⟩
  · rw [hsame]
    exact ⟨rfl, ⟨[], .inl rfl, .refl h _⟩, fun _ _ => Iff.rfl⟩
  · rw [hfirst, hsecond] at hanswered
    obtain ⟨hok, hcalled, hhidden⟩ := configureFrom_called_of_answered hanswered
    rw [hfirst, hsecond]
    exact ⟨hok, ⟨_, .inr rfl, hcalled⟩, hhidden⟩

/-! ### Invocations -/

/-- The calls that an invocation may make once it has selected a command. -/
def MayAsk (app : App) (c : Command) (call : Call) : Prop :=
  call ∈ app.helpCalls c ∨ call ∈ app.probes ∨ c.IsOptionCall call ∨ call = ⟨c.handler, .handler⟩

theorem mayAsk_shownIn {t : Session} {position : Nat} {c : Command} {call : Call} :
    app.MayAsk (shownIn t position c) call ↔ app.MayAsk c call := by
  unfold MayAsk
  rw [helpCalls_shownIn, isOptionCall_shownIn, handler_shownIn]

/-- What a later session makes no difference to, whatever comes next: what the callbacks of a
command and the one for privilege answer, whether they find the files to which they add, and whether
a candidate for a system log is refused. -/
structure Undisturbed (app : App) (h : Host) (c : Command) (s t : Session) : Prop where
  replies : ∀ call, app.MayAsk c call → ∀ later,
    h.reply (t.calls ++ later) call = h.reply (s.calls ++ later) call
  results : ∀ call, app.MayAsk c call → ∀ later added,
    (h.reply (s.calls ++ later) call).result (t.files.appendAll added) =
      (h.reply (s.calls ++ later) call).result (s.files.appendAll added)
  logs : ∀ added, (LogCursor.enter {} app.syslog (t.files.appendAll added)).isOk =
    (LogCursor.enter {} app.syslog (s.files.appendAll added)).isOk

/-- Calls of other callbacks that add nothing to files make no difference. -/
theorem Undisturbed.of_others {c : Command} {t : Session} {made : List Call}
    (hcalls : t.calls = s.calls ++ made) (hfiles : t.files = s.files)
    (hothers : ∀ call, app.MayAsk c call → ∀ other ∈ made, other.callback ≠ call.callback) :
    app.Undisturbed h c s t where
  replies call hcall later := by
    have hnone : made.filter (fun other => other.callback = call.callback) = [] := by
      rw [List.filter_eq_nil_iff]
      intro other hother hsame
      exact hothers call hcall other hother (of_decide_eq_true hsame)
    simp [Host.reply, hcalls, hnone]
  results _ _ _ _ := by rw [hfiles]
  logs _ := by rw [hfiles]

section Continuing

variable {c : Command} {s₀ t₀ : Session} (hundisturbed : app.Undisturbed h c s₀ t₀)
  (hbeyond : t₀.Beyond s₀.files)

include hundisturbed hbeyond

theorem call_beside {callback : Callback} {request : Request}
    (hasked : app.MayAsk c ⟨callback, request⟩) :
    InStep h (fun _ => False) (Beside s₀ t₀) (call callback request) (call callback request) where
  leads := call_leads keptByCalls_extends callback request
  ends := by
    rintro s t ⟨e, notes, notes', rfl, rfl⟩
    obtain ⟨more, hmore⟩ := hbeyond
    have hreply : h.reply (t₀.after e notes').calls ⟨callback, request⟩ =
        h.reply (s₀.after e notes).calls ⟨callback, request⟩ :=
      hundisturbed.replies _ hasked e.calls
    have hresult := hundisturbed.results _ hasked e.calls e.added
    have hadded : (h.reply (s₀.after e notes).calls ⟨callback, request⟩).added
        (t₀.after e notes').files =
        (h.reply (s₀.after e notes).calls ⟨callback, request⟩).added (s₀.after e notes).files := by
      simp only [after, hmore, Reply.added_appendAll]
    rw [Action.run_call, Action.run_call, hreply, hadded, after_after, after_after]
    exact .inl ⟨hresult, _, _, _, rfl, rfl⟩

theorem coupled_of_undisturbed :
    app.Coupled app.colorful app.colorful h (fun _ => False) (Beside s₀ t₀) (app.MayAsk c) :=
  coupled_of_calls ⟨[], rfl⟩ hbeyond (fun _ _ => call_beside hundisturbed hbeyond)
    hundisturbed.logs

end Continuing

/-- Invocations of a command that was found before go in step from where the commands are
configured. -/
theorem dispatch_appending_ends {position : Nat} {c : Command} {argv : List Value}
    (hselected : app.selected? argv = some (position, c))
    (hanswered : (app.configure.run h s).2.Answered h ConfiguresByNumber
      ((app.appending more).configure.run h s).2)
    (hundisturbed : app.Undisturbed h c (app.configure.run h s).2
      ((app.appending more).configure.run h s).2) :
    EndInStep (fun _ => False)
      (Beside (app.configure.run h s).2 ((app.appending more).configure.run h s).2)
      ((app.dispatch argv).run h s) (((app.appending more).dispatch argv).run h s) := by
  obtain ⟨hsame, ⟨extra, -, hcalled⟩, hhidden⟩ := configure_appending hanswered
  have hcoupled := coupled_of_undisturbed hundisturbed ⟨_, congrArg Session.files hcalled⟩
  rcases argv with _ | ⟨program, _ | ⟨selector, rest⟩⟩
  · cases hselected
  · cases hselected
  have hposition : position < app.commands.length := by
    obtain ⟨earlier, later, hsplit, rfl, -⟩ := exists_split_of_find? hselected
    rw [hsplit, List.length_append, List.length_cons]
    omega
  have hresolve := app.resolve_of_find? hselected program rest
  have hresolve' := (app.appending more).resolve_of_find?
    (find?_append_of_eq_some hselected more) program rest
  rw [dispatch_eq, dispatch_eq, prepare_eq, prepare_eq]
  refine hcoupled.finish_ends ?_ fun selection hresolved => ?_
  · rw [hresolve, hresolve', resolveCommand_eq, resolveCommand_eq]
    have hleads (_ : Unit) : (session >>= fun t =>
        (app.appending more).serve (shownIn t position c) selector rest).Leads Extends :=
      Leads.bind keptByOutput_extends (session_leads keptByOutput_extends) fun _ =>
        serve_leads keptByCalls_extends _ _ selector rest
    refine EndInStep.bind (.inl ⟨hsame, .refl _ _⟩) hleads fun _ u v _ hbeside => ?_
    rw [run_bind, run_session, run_bind, run_session]
    dsimp only
    have hshown : shownIn v position c = shownIn u position c := by
      obtain ⟨e, notes, notes', rfl, rfl⟩ := hbeside
      exact shownIn_congr (hhidden position hposition) c
    rw [hshown]
    have hserve := hcoupled.serve_inStep (shownIn u position c) selector rest
      (fun call hcall => mayAsk_shownIn.1 (.inl hcall)) fun call hcall => .inr (.inl hcall)
    exact hserve.ends u v hbeside
  · obtain ⟨_, _, hfound, -, hselect⟩ := select_of_run_resolve hresolved
    obtain ⟨rfl, rfl⟩ := Prod.mk.inj (Option.some.inj (hselected.symm.trans hfound))
    rw [Command.command_of_select_eq_ok hselect]
    exact ⟨fun call hcall => mayAsk_shownIn.1 (.inr (.inr (.inl hcall))),
      mayAsk_shownIn.1 (.inr (.inr (.inr rfl)))⟩

/-- The first entry wins, so tables may grow at their end.

Words that a schema accepts are extracted in the same way if options stand behind it that words need
not have and may have any number of times.

An invocation that selects a command ends in the same way, with the same messages, if commands stand
behind those of the application whose configuration callbacks answer with numbers, unless these
callbacks disturb the ones of the command. It makes the same calls, but for those that configure the
further commands, and behind what these add it adds the same bytes to the same files. -/
theorem first_entry_wins :
    (∀ (s t : Selection) (schema extra : List OptionSpec) (argv : List Value) (h : Host)
        (session : Session),
      s.schema = some schema → t.schema = some (schema ++ extra) → t.offset = s.offset →
      (∀ d, t.call? d = s.call? d) →
      (∀ o ∈ extra, o.required = false ∧ o.maxOccurrences = 0) →
      ((s.extract argv).run h session).1 = .ok () →
      (t.extract argv).run h session = (s.extract argv).run h session) ∧
    ∀ (app : App) (more : List Command) (argv : List Value) (h : Host) (session : Session)
        (found : Nat × Command),
      let s := (app.configure.run h session).2
      let t := ((app.appending more).configure.run h session).2
      let first := (app.dispatch argv).run h session
      let second := ((app.appending more).dispatch argv).run h session
      app.selected? argv = some found → s.Answered h ConfiguresByNumber t →
      app.Undisturbed h found.2 s t →
      second.1 = first.1 ∧ ∃ extra e notes notes', (extra = [] ∨ extra = configurations more) ∧
        first.2 = s.after e notes ∧
        second.2 = { s.after ⟨e.printed, extra ++ e.calls, h.gains s.files s.calls extra ++ e.added⟩
          notes' with hidden := t.hidden } ∧
        ∀ place, (∀ next ∈ h.gains s.files s.calls extra, next.1 ≠ place) →
          second.2.files.content? place = first.2.files.content? place := by
  constructor
  · intro s t schema extra argv h session hschema hschema' hoffset hcalls hextra hok
    have hwords : t.words argv = s.words argv := by rw [Selection.words, hoffset, Selection.words]
    exact Selection.run_extract_append hschema hschema' hwords hcalls hextra hok
  · intro app more argv h session found s t first second hselected hanswered hundisturbed
    obtain ⟨-, ⟨extra, hextra, hcalled⟩, -⟩ := configure_appending hanswered
    rcases dispatch_appending_ends hselected hanswered hundisturbed with
      ⟨hsame, e, notes, notes', hfirst, hsecond⟩ | ⟨_, hstops, -⟩
    · have hadded := hsecond.trans (hcalled.after e notes')
      refine ⟨hsame, extra, e, notes, notes', hextra, hfirst, hadded, fun place hnone => ?_⟩
      dsimp only [second, first]
      rw [hadded, hfirst]
      dsimp only [after]
      rw [← FileStore.appendAll_appendAll]
      exact FileStore.content?_appendAll_congr
        (s.files.content?_appendAll_of_forall_ne hnone) e.added
    · exact hstops.elim

end App

namespace Sample

/-- A command that is configured, to stand behind the others of a table. -/
def further : Command := { copy [] (some ⟨3, "second"⟩) with longName := "move" }

/-- The sample flag stands behind the required option, and another command behind the sample one. An
invocation without the flag, and of the sample command, ends as before. -/
theorem copying_extended :
    ((⟨copy [file, verbose] none, none, some [file, verbose], 2⟩ : Selection).extract
        [.text "tool", .text "--copy", .text "-f", .text "a"]).run (answering (.int 0)) {} =
      ((⟨copy [file] none, none, some [file], 2⟩ : Selection).extract
        [.text "tool", .text "--copy", .text "-f", .text "a"]).run (answering (.int 0)) {} ∧
    ((((tool (copy [file, verbose] none) []).appending [further]).dispatch copying).run
        (answering (.int 0)) {}).1 =
      (((tool (copy [file, verbose] none) []).dispatch copying).run (answering (.int 0)) {}).1 := by
  obtain ⟨hextract, hdispatch⟩ := App.first_entry_wins
  constructor
  · exact hextract ⟨copy [file] none, none, some [file], 2⟩
      ⟨copy [file, verbose] none, none, some [file, verbose], 2⟩ [file] [verbose] _
      (answering (.int 0)) {} rfl rfl rfl (fun _ => rfl) (by decide) rfl
  · have hothers : ∀ call, (tool (copy [file, verbose] none) []).MayAsk (copy [file, verbose] none)
        call → ∀ other ∈ App.configurations [further], other.callback ≠ call.callback := by
      rintro call (hcall | hcall | ⟨_, _, rfl⟩ | rfl) other hother
      · cases hcall
      · cases hcall
      · rw [List.mem_singleton.1 hother]
        intro hsame
        cases congrArg Callback.slot hsame
      · rw [List.mem_singleton.1 hother]
        intro hsame
        cases congrArg Callback.slot hsame
    exact (hdispatch (tool (copy [file, verbose] none) []) [further] copying (answering (.int 0)) {}
      (0, copy [file, verbose] none) rfl (answered_answering (.int 0) _ _ fun _ _ => rfl)
      (.of_others rfl rfl hothers)).1

/-- Commands behind those of an application make no difference to an invocation of one of these, if
the callbacks that configure them return. -/
def Unnoticed (app : App) (more : List Command) (h : Host) (argv : List Value) : Prop :=
  (app.selected? argv).isSome = true →
    (∀ c ∈ more, ∀ callback ∈ c.configure, ∀ earlier,
      ∃ v, (h.answer callback earlier .configure).Returns {} v) →
    let first := (app.dispatch argv).run h {}
    let second := ((app.appending more).dispatch argv).run h {}
    second.1 = first.1 ∧ ∀ place, ({} : FileStore).find app.journal.path = .ok (.ok place) →
      second.2.files.content? place = first.2.files.content? place

/-- A host on which callbacks that configure commands add to one file, and handlers to another one,
if there is a path to it. -/
def scribbling (path : Text) (behind : Option Text) : Host where
  answer := fun _ _ request =>
    { appended := match request with
        | .configure => some (path, [120])
        | .handler => behind.map fun path => (path, [120])
        | _ => none
      outcome := .ok (.int 0) }

/-- A host on which every callback counts how often it was asked before. -/
def counting : Host where
  answer := fun _ earlier _ => { outcome := .ok (.int earlier.length) }

theorem scribbling_returns (path : Text) (behind : Option Text) (place : Place)
    (hplace : ({} : FileStore).find (.text path) = .ok (.ok place)) (callback : Callback)
    (earlier : List Request) :
    ((scribbling path behind).answer callback earlier .configure).Returns {} (.int 0) := by
  refine ⟨rfl, fun other bytes hother => ?_⟩
  obtain ⟨rfl, -⟩ := Prod.mk.inj (Option.some.inj hother)
  exact ⟨place, hplace⟩

/-- A further callback is noticed that answers with no number, that is the handler of the command
and counts its calls, or that makes a file: the journal, a system log which was not there, or a file
where the handler looks for a directory. -/
theorem further_noticed :
    ¬ Unnoticed (tool (copy [] none) []) [further] undecided [.text "tool", .text "--copy"] ∧
      ¬ Unnoticed (tool (copy [] none) []) [copy [] (some ⟨0, "copy"⟩)] counting
        [.text "tool", .text "--copy"] ∧
      ¬ Unnoticed (tool (copy [] none) []) [further] (scribbling "journal.log" none)
        [.text "tool", .text "--copy"] ∧
      ¬ Unnoticed (tool (copy [] none) [.text "messages", .text [0]]) [further]
        (scribbling "messages" none) [.text "tool", .text "--copy"] ∧
      ¬ Unnoticed (tool (copy [] none) []) [further] (scribbling "log" (some "log/all"))
        [.text "tool", .text "--copy"] := by
  refine ⟨fun hsame => ?_, fun hsame => ?_, fun hsame => ?_, fun hsame => ?_, fun hsame => ?_⟩
  · have hends := (hsame rfl fun _ _ _ _ _ => ⟨.null, rfl, fun _ _ hadded => by cases hadded⟩).1
    exact absurd (congrArg Except.isOk hends) (by decide +kernel)
  · have hends := (hsame rfl fun _ _ _ _ _ => ⟨_, rfl, fun _ _ hadded => by cases hadded⟩).1
    cases hends
  · have hplace : ({} : FileStore).find (.text "journal.log") =
        .ok (.ok [Text.utf8Escaped "journal.log"]) := rfl
    have hjournal := (hsame rfl fun _ _ callback _ earlier =>
      ⟨.int 0, scribbling_returns _ _ _ hplace callback earlier⟩).2 _ hplace
    exact absurd hjournal (by decide +kernel)
  · have hplace : ({} : FileStore).find (.text "messages") =
        .ok (.ok [Text.utf8Escaped "messages"]) := rfl
    have hends := (hsame rfl fun _ _ callback _ earlier =>
      ⟨.int 0, scribbling_returns _ _ _ hplace callback earlier⟩).1
    exact absurd (congrArg Except.isOk hends) (by decide +kernel)
  · have hplace : ({} : FileStore).find (.text "log") = .ok (.ok [Text.utf8Escaped "log"]) := rfl
    have hends := (hsame rfl fun _ _ callback _ earlier =>
      ⟨.int 0, scribbling_returns _ _ _ hplace callback earlier⟩).1
    cases hends

end Sample

end CommandDispatch
