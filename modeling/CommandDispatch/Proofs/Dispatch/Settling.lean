import CommandDispatch.Proofs.Dispatch.Order
import CommandDispatch.Proofs.Output.Reporting
import CommandDispatch.Proofs.Session.Building

/-! # Preparing without failures

When all callbacks answer, what an invocation runs into before its handler is called is a fault of
the engine, or nothing: help is shown, or a command is made ready to run. Such a fault always has a
code and never brings a hint of its own. Actions of which this holds are closed under sequencing, so
every stage is settled by the stages that it is made of.
-/

namespace CommandDispatch

/-- A result, or a fault of the engine. -/
def Settled {α : Type} (result : Except Failure α) : Prop :=
  (∃ a, result = .ok a) ∨ ∃ f : Fault, result = .error (.fault f) ∧ f.Plain

theorem Settled.ok {α : Type} (a : α) : Settled (.ok a : Except Failure α) := .inl ⟨a, rfl⟩

theorem Settled.fault {α : Type} {f : Fault} (hplain : f.Plain) :
    Settled (.error (.fault f) : Except Failure α) :=
  .inr ⟨f, rfl, hplain⟩

namespace Action

variable {α β : Type} {h : Host} {P : Call → Value → Prop}

/-- An action only adds to a session, and ends with a result or with a fault of the engine as long
as all of its calls are answered. -/
structure Settles (h : Host) (P : Call → Value → Prop) (action : Action α) : Prop where
  grows : action.Leads Session.Grows
  settled : ∀ s, s.Answered h P (action.run h s).2 → Settled (action.run h s).1

theorem Settles.bind {action : Action α} {next : α → Action β} (haction : action.Settles h P)
    (hnext : ∀ a, (next a).Settles h P) : (action >>= next).Settles h P where
  grows := Leads.bind Session.keptByOutput_grows haction.grows fun a => (hnext a).grows
  settled s hanswered := by
    have hfirst := haction.settled s (hanswered.before (grows_run_bind fun a => (hnext a).grows))
    have hgrows := haction.grows h s
    rw [run_bind] at hanswered ⊢
    cases hrun : action.run h s with
    | mk result t =>
        rw [hrun] at hanswered hfirst hgrows
        rcases hfirst with ⟨a, rfl⟩ | ⟨f, rfl, hplain⟩
        · exact (hnext a).settled t (hanswered.after hgrows)
        · exact .fault hplain

/-- An action that is skipped under a condition. -/
theorem Settles.skip {p : Prop} [Decidable p] {action : Action Unit} {next : Unit → Action β}
    (haction : action.Settles h P) (hnext : ∀ a, (next a).Settles h P) :
    (if p then next () else action >>= next).Settles h P := by
  split
  · exact hnext ()
  · exact haction.bind hnext

theorem pure_settles (a : α) : (pure a : Action α).Settles h P :=
  ⟨pure_leads Session.keptByOutput_grows a, fun _ _ => .ok a⟩

theorem fail_settles {f : Fault} (hplain : f.Plain) :
    (fail (.fault f) : Action α).Settles h P :=
  ⟨fail_leads Session.keptByOutput_grows _, fun _ _ => .fault hplain⟩

theorem session_settles : session.Settles h P :=
  ⟨session_leads Session.keptByOutput_grows, fun s _ => .ok s⟩

theorem note_settles (n : Note) : (note n).Settles h P :=
  ⟨note_leads Session.keptByOutput_grows n, fun _ _ => .ok ()⟩

theorem ofExcept_settles {result : Except Failure α} (hsettled : Settled result) :
    (ofExcept result).Settles h P :=
  ⟨ofExcept_leads Session.keptByOutput_grows result, fun _ _ => hsettled⟩

theorem call_settles (callback : Callback) (request : Request) :
    (call callback request).Settles h P where
  grows := call_leads Session.keptByCalls_grows callback request
  settled s hanswered := by
    obtain ⟨v, hok, -⟩ := answered_run_call_iff.1 hanswered
    exact .inl ⟨v, hok⟩

theorem Succeeds.settles {Q : α → Prop} {action : Action α} (hsucceeds : action.Succeeds h Q)
    (hgrows : action.Leads Session.Grows) : action.Settles h P where
  grows := hgrows
  settled s _ := by
    obtain ⟨a, hok, -⟩ := hsucceeds s
    exact .inl ⟨a, hok⟩

end Action

/-- What an application and its host must be like for every line to be printed and written: the
usage line has an end, the logs are paths, the journal is kept, the driver error can be looked up,
the labels and the seconds that a run takes can be written, and, in colour, every style can be read
that comes from the host or from what was declared. -/
structure App.Serviceable (app : App) (h : Host) : Prop where
  info : (∃ t, app.info = .text t) ∨ ∃ t, app.info = .styled t
  syslog : ∀ path ∈ app.syslog, path.isPath = true
  journal : app.journal.Kept h
  driverError : app.status.errorIsKey = true
  label : (app.program h).IsWritable
  codeLabels : ∀ entry ∈ h.faultLabels, entry.2.IsWritable
  duration : Text.isWritable (elapsed h / 1000) = true
  styles : ∃ fields, h.styles = .record fields ∧
    (app.colorful = true → ∀ field ∈ fields, field.2.asStyle.Readable)
  program : app.colorful = true → (app.program h).Readable
  titles : app.colorful = true → app.title.Readable ∧ app.info.Readable
  commands : app.colorful = true → ∀ c ∈ app.commands, c.Readable

open CommandDispatch.Action

namespace App

variable {app : App} {h : Host} {P : Call → Value → Prop}

theorem Serviceable.reporter (hserviceable : app.Serviceable h) : app.reporter.Kept h := by
  intro j hj
  cases hj
  exact hserviceable.journal

/-- The palette of a host is there, and readable in colour. -/
theorem Serviceable.exists_palette (hserviceable : app.Serviceable h) {defaults : Palette}
    (hdefaults : defaults.Readable) :
    ∃ palette, h.palette defaults = .ok palette ∧ (app.colorful = true → palette.Readable) := by
  obtain ⟨fields, hfields, hreadable⟩ := hserviceable.styles
  exact ⟨_, Host.exists_palette_eq_ok hfields, fun hcolorful =>
    Palette.append_ofFields_readable hdefaults (hreadable hcolorful)⟩

theorem Serviceable.exists_look (hserviceable : app.Serviceable h) :
    ∃ look, Help.Look.of app h = .ok look ∧ (app.colorful = true → look.Readable) := by
  obtain ⟨palette, hpalette, hreadable⟩ := hserviceable.exists_palette Help.palette_readable
  refine ⟨⟨app.program h, palette.styleOf⟩, ?_, fun hcolorful => ?_⟩
  · rw [Help.Look.of, hpalette]
    rfl
  · exact ⟨Palette.styleOf_readable (hreadable hcolorful), hserviceable.program hcolorful⟩

theorem showHelp_neverFails (hserviceable : app.Serviceable h) : app.showHelp.NeverFails h := by
  obtain ⟨look, hlook, hreadable⟩ := hserviceable.exists_look
  obtain ⟨usage, husage, hline⟩ := Help.exists_usageLine_eq_ok look hserviceable.info
  have hkept := hserviceable.reporter
  unfold showHelp
  refine host_succeeds.bind fun other hother => ?_
  subst hother
  refine (ofExcept_succeeds hlook (P := fun l => l = look) rfl).bind fun l hl => ?_
  subst hl
  refine session_neverFails.bind fun session _ => ?_
  refine (Reporter.infoAll_neverFails hkept fun hcolorful => ?_).bind fun _ _ => ?_
  · exact Help.banner_readable (hreadable hcolorful) (hserviceable.titles hcolorful).1
  refine (ofExcept_succeeds husage (P := fun m => m = usage) rfl).bind fun m hm => ?_
  subst hm
  refine Reporter.infoAll_neverFails hkept fun hcolorful => ?_
  exact Help.overview_readable (hreadable hcolorful) _
    (hline (hreadable hcolorful) (hserviceable.titles hcolorful).2)
    (table_readable (hserviceable.commands hcolorful) session)

/-! ## Resolution -/

theorem showCommandHelp_settles (hserviceable : app.Serviceable h) {c : Command}
    (hreadable : app.colorful = true → c.Readable) : (app.showCommandHelp c).Settles h P := by
  have hgrows := app.showCommandHelp_leads Session.keptByCalls_grows c
  unfold showCommandHelp at hgrows ⊢
  cases hhelp : c.help with
  | some callback => exact (call_settles _ _).bind fun _ => pure_settles _
  | none =>
      simp only [hhelp] at hgrows
      obtain ⟨look, hlook, hlookReadable⟩ := hserviceable.exists_look
      refine Succeeds.settles (Q := fun _ => True) ?_ hgrows
      refine host_succeeds.bind fun other hother => ?_
      subst hother
      refine (ofExcept_succeeds hlook (P := fun l => l = look) rfl).bind fun l hl => ?_
      subst hl
      exact Reporter.infoAll_neverFails hserviceable.reporter fun hcolorful =>
        Help.page_readable (hlookReadable hcolorful) (hreadable hcolorful)

theorem isPrivileged_settles : app.isPrivileged.Settles h P := by
  unfold isPrivileged
  split
  · exact (host_succeeds.settles (host_leads Session.keptByOutput_grows)).bind fun _ =>
      pure_settles _
  · exact (call_settles _ _).bind fun _ => pure_settles _

theorem requirePrivilege_settles (c : Command) : (app.requirePrivilege c).Settles h P := by
  unfold requirePrivilege
  split
  · refine isPrivileged_settles.bind fun granted => ?_
    split
    · exact pure_settles _
    · exact fail_settles (Fault.ofCode_plain _ _)
  · exact pure_settles _

/-- Texts as words select an entry, or meet a fault of the engine. -/
theorem settled_select (c : Command) (words : List Text) :
    Settled (c.select (words.map .text)) := by
  unfold Command.select
  split
  next => exact .ok _
  next => exact .ok _
  next scope parse _ =>
    rcases words with _ | ⟨flag, _ | ⟨name, rest⟩⟩
    · exact .fault (Fault.ofCode_plain _ _)
    · exact .fault (Fault.ofCode_plain _ _)
    · simp only [List.map_cons]
      split
      · -- the name of an entry is a text, so looking it up is no failure
        simp only [Namespace.find?]
        cases scope.entries.find? fun entry => Switch.sameName name entry.name with
        | some entry => exact .ok _
        | none => exact .fault (Fault.about_plain _ _ _)
      · exact .fault (Fault.about_plain _ _ _)

theorem serve_settles (hserviceable : app.Serviceable h) {c : Command}
    (hreadable : app.colorful = true → c.Readable) (selector : Value) (words : List Text) :
    (app.serve c selector (words.map .text)).Settles h P := by
  unfold serve
  split
  · exact (showCommandHelp_settles hserviceable hreadable).skip fun _ => pure_settles _
  · refine (requirePrivilege_settles c).bind fun _ => (note_settles _).bind fun _ => ?_
    exact (ofExcept_settles (settled_select c words)).bind fun _ => pure_settles _

theorem configure_settles (hnumbers : ∀ call v, P call v → ConfiguresByNumber call v) :
    app.configure.Settles h P where
  grows := app.configure_leads Session.keptBySteps_grows
  settled _ hanswered := .inl ⟨(), (app.run_configure (hanswered.imp hnumbers)).1⟩

theorem mem_of_find?_eq_some {commands : List Command} {word : Value} {position : Nat}
    {c : Command} (hfind : find? commands word = some (position, c)) : c ∈ commands := by
  obtain ⟨earlier, later, rfl, -⟩ := exists_split_of_find? hfind
  exact List.mem_append_right _ List.mem_cons_self

theorem resolve_settles (hserviceable : app.Serviceable h)
    (hnumbers : ∀ call v, P call v → ConfiguresByNumber call v) (words : List Text) :
    (app.resolve (words.map .text)).Settles h P := by
  rcases words with _ | ⟨program, _ | ⟨selector, rest⟩⟩
  · exact fail_settles (Fault.ofCode_plain _ _)
  · exact fail_settles (Fault.ofCode_plain _ _)
  · simp only [List.map_cons, resolve]
    split
    · split
      next position c hfind =>
        have hmem := mem_of_find?_eq_some hfind
        rw [resolveCommand_eq]
        refine (configure_settles hnumbers).bind fun _ => session_settles.bind fun session => ?_
        exact serve_settles hserviceable
          (fun hcolorful => shownIn_readable (hserviceable.commands hcolorful c hmem) session _)
          _ rest
      next =>
        split
        · refine Settles.bind ?_ fun _ => pure_settles _
          exact (showHelp_neverFails hserviceable).settles
            (app.showHelp_leads Session.keptByOutput_grows)
        · exact fail_settles (Fault.about_plain _ _ _)
    · exact fail_settles (Fault.about_plain _ _ _)

end App

/-! ## Extraction -/

namespace Selection

open Extraction

variable {h : Host} {P : Call → Value → Prop}

theorem deliver_settles (s : Selection) (d : Delivery) : (s.deliver d).Settles h P := by
  cases hcall : s.call? d with
  | none =>
      rw [deliver_of_call?_eq_none hcall]
      exact fail_settles undeliverable_plain
  | some c =>
      rw [deliver_of_call? hcall]
      exact call_settles _ _

theorem deliverAll_settles (s : Selection) (deliveries : List Delivery) :
    (s.deliverAll deliveries).Settles h P := by
  induction deliveries with
  | nil => exact pure_settles ()
  | cons d rest ih =>
      refine (note_settles _).bind fun _ => (s.deliver_settles d).bind fun answer => ?_
      split
      · exact ih
      · exact fail_settles (Fault.ofCode_plain _ _)

theorem extract_settles {s : Selection} {schema : List OptionSpec}
    (hschema : s.schema = some schema) (argv : List Value) : (s.extract argv).Settles h P := by
  simp only [extract, hschema]
  split
  next haudit => exact fail_settles (audit_plain haudit)
  next =>
    refine (s.deliverAll_settles _).bind fun _ => ?_
    split
    next hstop => exact fail_settles (plan_plain hstop)
    next => exact pure_settles _

end Selection

/-- An invocation with texts as words is prepared, or meets a fault of the engine, if all of its
calls are answered, and those of the configuration with numbers. -/
theorem App.prepare_settles {app : App} {h : Host} {P : Call → Value → Prop}
    (hserviceable : app.Serviceable h)
    (hnumbers : ∀ call v, P call v → ConfiguresByNumber call v) (words : List Text) :
    (app.prepare (words.map .text)).Settles h P := by
  unfold prepare
  refine (resolve_settles hserviceable hnumbers words).bind fun resolution => ?_
  split
  next => exact pure_settles _
  next selection =>
    dsimp only
    split
    next hschema =>
      obtain ⟨schema, hschema⟩ := Option.isSome_iff_exists.1 hschema
      exact (Selection.extract_settles hschema _).bind fun _ => pure_settles _
    next => exact pure_settles _

end CommandDispatch
