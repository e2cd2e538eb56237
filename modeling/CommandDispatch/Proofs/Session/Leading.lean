import CommandDispatch.Dispatch

/-! # Where actions lead

A relation between sessions that single steps keep holds between the beginning and the end of every
run that is made of such steps, also of one that ends with a failure. Steps come in three groups:
output prints, notes and adds to files; calls ask callbacks; configuration hides commands. Every
action of the engine is placed in the smallest group that covers it, once, so that what it leaves
alone is read off for any relation.
-/

namespace CommandDispatch

namespace Session

/-- A relation that output keeps: printing, noting, adding to a file, and all of it in a row. -/
structure KeptByOutput (R : Session → Session → Prop) : Prop where
  refl : ∀ s, R s s
  trans : ∀ {s t u}, R s t → R t u → R s u
  print : ∀ s p, R s { s with printed := s.printed ++ [p] }
  note : ∀ s n, R s { s with notes := s.notes ++ [n] }
  append : ∀ s place bytes, R s { s with files := s.files.append place bytes }

/-- A relation that output and calls keep. -/
structure KeptByCalls (R : Session → Session → Prop) : Prop extends KeptByOutput R where
  call : ∀ s c, R s { s with calls := s.calls ++ [c] }

/-- A relation that all steps keep, those of the configuration included. -/
structure KeptBySteps (R : Session → Session → Prop) : Prop extends KeptByCalls R where
  configured : ∀ s, R s { s with configured := true }
  hide : ∀ s position, R s { s with hidden := position :: s.hidden }

/-- Output leaves what callbacks were asked and what is hidden. -/
theorem keptByOutput_calls : KeptByOutput fun s t => t.calls = s.calls where
  refl _ := rfl
  trans hfirst hsecond := hsecond.trans hfirst
  print _ _ := rfl
  note _ _ := rfl
  append _ _ _ := rfl

/-- Only the configuration hides commands. -/
theorem keptByCalls_hidden : KeptByCalls fun s t => t.hidden = s.hidden where
  refl _ := rfl
  trans hfirst hsecond := hsecond.trans hfirst
  print _ _ := rfl
  note _ _ := rfl
  append _ _ _ := rfl
  call _ _ := rfl

/-- Only the configuration marks the commands as configured. -/
theorem keptByCalls_configured : KeptByCalls fun s t => t.configured = s.configured where
  refl _ := rfl
  trans hfirst hsecond := hsecond.trans hfirst
  print _ _ := rfl
  note _ _ := rfl
  append _ _ _ := rfl
  call _ _ := rfl

end Session

/-- Bytes are added at a path exactly when it leads to the place of a file. -/
theorem FileStore.appendAt_eq_ok_iff {store files : FileStore} {path : Value} {bytes : Bytes} :
    store.appendAt path bytes = .ok files ↔
      ∃ place, store.find path = .ok (.ok place) ∧ files = store.append place bytes := by
  unfold appendAt
  cases hfind : store.find path with
  | error failure =>
      constructor
      · intro hok
        cases hok
      · rintro ⟨_, hplace, -⟩
        cases hplace
  | ok outcome =>
      cases outcome with
      | error obstacle =>
          constructor
          · intro hok
            cases hok
          · rintro ⟨_, hplace, -⟩
            cases hplace
      | ok place =>
          constructor
          · rintro ⟨⟩
            exact ⟨place, rfl, rfl⟩
          · rintro ⟨_, hplace, rfl⟩
            cases hplace
            rfl

open Session

variable {α β : Type} {R : Session → Session → Prop}

namespace Action

/-- What holds at the end of a sequence: the next action ends it, or the first one has failed. -/
theorem run_bind_cases {P : Except Failure β × Session → Prop} {action : Action α}
    {next : α → Action β} {h : Host} {s : Session}
    (hok : ∀ a t, action.run h s = (.ok a, t) → P ((next a).run h t))
    (herror : ∀ failure t, action.run h s = (.error failure, t) → P (.error failure, t)) :
    P ((action >>= next).run h s) := by
  rw [run_bind]
  cases hrun : action.run h s with
  | mk result t =>
      cases result with
      | ok a => exact hok a t hrun
      | error failure => exact herror failure t hrun

/-- Every run of an action leads from a session to a related one. -/
def Leads (R : Session → Session → Prop) (action : Action α) : Prop :=
  ∀ h s, R s (action.run h s).2

namespace Leads

theorem bind (hkept : KeptByOutput R) {action : Action α} {next : α → Action β}
    (haction : Leads R action) (hnext : ∀ a, Leads R (next a)) : Leads R (action >>= next) := by
  intro h s
  have hfirst := haction h s
  refine run_bind_cases (P := fun ended => R s ended.2) (fun a t hrun => ?_) fun _ t hrun => ?_
  · rw [hrun] at hfirst
    exact hkept.trans hfirst (hnext a h t)
  · rw [hrun] at hfirst
    exact hfirst

/-- An action that is skipped under a condition. -/
theorem skip (hkept : KeptByOutput R) {p : Prop} [Decidable p] {action : Action Unit}
    {next : Unit → Action β} (haction : Leads R action) (hnext : ∀ a, Leads R (next a)) :
    Leads R (if p then next () else action >>= next) := by
  split
  · exact hnext ()
  · exact bind hkept haction hnext

theorem discard (hkept : KeptByOutput R) {action : Action α} (haction : Leads R action) :
    Leads R (Functor.discard action) :=
  bind hkept haction fun _ _ s => hkept.refl s

theorem catchFault {action : Action α} (haction : Leads R action) : Leads R action.catchFault := by
  intro h s
  have hrun := haction h s
  unfold Action.catchFault
  dsimp only
  split <;> simp_all only

end Leads

theorem pure_leads (hkept : KeptByOutput R) (a : α) : Leads R (pure a : Action α) :=
  fun _ s => hkept.refl s

theorem fail_leads (hkept : KeptByOutput R) (failure : Failure) :
    Leads R (fail failure : Action α) :=
  fun _ s => hkept.refl s

theorem host_leads (hkept : KeptByOutput R) : Leads R host := fun _ s => hkept.refl s

theorem session_leads (hkept : KeptByOutput R) : Leads R session := fun _ s => hkept.refl s

theorem ofExcept_leads (hkept : KeptByOutput R) (result : Except Failure α) :
    Leads R (ofExcept result) :=
  fun _ s => hkept.refl s

theorem note_leads (hkept : KeptByOutput R) (n : Note) : Leads R (note n) :=
  fun _ s => hkept.note s n

theorem print_leads (hkept : KeptByOutput R) (stream : Stream) (message : Message) :
    Leads R (print stream message) := by
  intro h s
  rw [run_print]
  exact hkept.print s ⟨stream, message⟩

/-- A call adds to the record of calls, and may add bytes to a file. -/
theorem call_leads (hkept : KeptByCalls R) (callback : Callback) (request : Request) :
    Leads R (call callback request) := by
  intro h s
  -- the call is on record first, so bytes that cannot be added leave it there
  have hcalled := hkept.call s ⟨callback, request⟩
  simp only [call]
  split
  next path bytes _ =>
    split
    next files hfiles =>
      obtain ⟨place, _, rfl⟩ := FileStore.appendAt_eq_ok_iff.1 hfiles
      exact hkept.trans hcalled (hkept.append _ place bytes)
    next => exact hcalled
  next => exact hcalled

end Action

open CommandDispatch.Action

/-! ## Output -/

/-- A journal leaves the files as they are, or adds to one of them. -/
theorem Journal.attempt_files (j : Journal) (failures : Failures) (now : Int) (message : Text)
    (store : FileStore) :
    (j.attempt failures now message store).2 = store ∨
      ∃ place bytes, (j.attempt failures now message store).2 = store.append place bytes := by
  unfold attempt
  split
  next place _ =>
    split
    · exact Or.inl rfl
    · refine Or.inr ⟨place, ?_⟩
      unfold writeAt
      split
      · exact ⟨[], rfl⟩
      · exact ⟨_, rfl⟩
  next => exact Or.inl rfl
  next => exact Or.inl rfl

theorem Journal.write_leads (hkept : KeptByOutput R) (j : Journal) (message : Text) :
    Leads R (j.write message) := by
  intro h s
  have hfiles : R s { s with files := (j.attempt h.failures h.now message s.files).2 } := by
    rcases j.attempt_files h.failures h.now message s.files with hsame | ⟨place, bytes, hadded⟩
    · rw [hsame]
      exact hkept.refl s
    · rw [hadded]
      exact hkept.append s place bytes
  exact hfiles

namespace Reporter

theorem report_leads (hkept : KeptByOutput R) (r : Reporter) (severity : Severity)
    (message : Message) (record : Option Text) :
    Leads R (r.report severity message record) := by
  unfold report
  dsimp only
  split
  · refine Leads.bind hkept (print_leads hkept _ _) fun _ => ?_
    split
    · exact Leads.discard hkept (Journal.write_leads hkept _ _)
    · exact pure_leads hkept _
  · exact print_leads hkept _ _

theorem infoAll_leads (hkept : KeptByOutput R) (r : Reporter) (messages : List Message) :
    Leads R (r.infoAll messages) := by
  induction messages with
  | nil => exact pure_leads hkept _
  | cons message rest ih => exact Leads.bind hkept (r.report_leads hkept _ _ _) fun _ => ih

end Reporter

theorem StatusConfig.report_leads (hkept : KeptByOutput R) (config : StatusConfig)
    (r : Reporter) (result : Int) : Leads R (config.report r result) := by
  unfold report
  refine Leads.bind hkept (ofExcept_leads hkept _) fun found => ?_
  split
  · exact r.report_leads hkept _ _ _
  · exact pure_leads hkept _

theorem Journal.logCommand_leads (hkept : KeptByOutput R) (j : Journal) (argv : List Value)
    (result : Value) (elapsed : Int) (reporter : Option Reporter) (capacity : Int) :
    Leads R (j.logCommand argv result elapsed reporter capacity) := by
  unfold logCommand
  refine Leads.bind hkept (host_leads hkept) fun _ => ?_
  refine Leads.bind hkept (ofExcept_leads hkept _) fun line => ?_
  cases line with
  | some line =>
      exact Leads.bind hkept (ofExcept_leads hkept _) fun message => j.write_leads hkept message
  | none =>
      cases reporter with
      | some r => exact Leads.bind hkept (r.report_leads hkept _ _ _) fun _ => pure_leads hkept _
      | none => exact pure_leads hkept _

theorem Fault.surface_leads (hkept : KeptByOutput R) (f : Fault) (app : App) :
    Leads R (f.surface app) := by
  unfold surface
  split
  · refine Leads.bind hkept (host_leads hkept) fun h => ?_
    refine Leads.bind hkept (ofExcept_leads hkept _) fun palette => ?_
    refine Leads.bind hkept (ofExcept_leads hkept _) fun program => ?_
    refine Leads.bind hkept (ofExcept_leads hkept _) fun record => ?_
    refine Leads.bind hkept (app.reporter.report_leads hkept _ _ _) fun _ => ?_
    split
    · refine Leads.bind hkept (ofExcept_leads hkept _) fun hint => ?_
      exact Leads.bind hkept (app.reporter.report_leads hkept _ _ _) fun _ => pure_leads hkept _
    · exact pure_leads hkept _
  · exact fail_leads hkept _

/-- What a fault comes to when it is created anew is surfaced. -/
theorem Fault.run_trigger {f g : Fault} {further : FaultOptions} {h : Host}
    (hrebuild : h.rebuild f further = .ok g) (app : App) (s : Session) :
    (f.trigger app further).run h s = (g.surface app).run h s := by
  rw [trigger, Action.run_bind, Action.run_host]
  dsimp only
  rw [Action.run_bind, Action.run_ofExcept, hrebuild]

theorem Fault.trigger_leads (hkept : KeptByOutput R) (f : Fault) (app : App)
    (further : FaultOptions) : Leads R (f.trigger app further) := by
  unfold trigger
  refine Leads.bind hkept (host_leads hkept) fun h => ?_
  exact Leads.bind hkept (ofExcept_leads hkept _) fun f => f.surface_leads hkept app

namespace App

theorem showHelp_leads (hkept : KeptByOutput R) (app : App) : Leads R app.showHelp := by
  unfold showHelp
  refine Leads.bind hkept (host_leads hkept) fun h => ?_
  refine Leads.bind hkept (ofExcept_leads hkept _) fun look => ?_
  refine Leads.bind hkept (session_leads hkept) fun s => ?_
  refine Leads.bind hkept (app.reporter.infoAll_leads hkept _) fun _ => ?_
  exact Leads.bind hkept (ofExcept_leads hkept _) fun _ => app.reporter.infoAll_leads hkept _

theorem placeCursor_leads (hkept : KeptByOutput R) (app : App) : Leads R app.placeCursor :=
  Leads.bind hkept (session_leads hkept) fun _ => ofExcept_leads hkept _

theorem reportResult_leads (hkept : KeptByOutput R) (app : App) (result : Value) :
    Leads R (app.reportResult result) := by
  unfold reportResult
  split
  · exact app.status.report_leads hkept _ _
  · exact fail_leads hkept _

theorem conclude_leads (hkept : KeptByOutput R) (app : App) (c : Command) (argv : List Value)
    (result : Value) (cursor : LogCursor) : Leads R (app.conclude c argv result cursor) := by
  unfold conclude
  split
  · refine Leads.skip hkept (app.reportResult_leads hkept _) fun _ => ?_
    by_cases hversion : c.isVersion = true
    · simp only [hversion, if_true]
      split
      · exact Leads.bind hkept (session_leads hkept) fun _ => note_leads hkept _
      · exact pure_leads hkept _
    · simp only [hversion]
      refine Leads.bind hkept (host_leads hkept) fun h => ?_
      refine Leads.bind hkept (Leads.discard hkept (app.journal.logCommand_leads hkept _ _ _ _ _))
        fun _ => ?_
      split
      · exact Leads.bind hkept (session_leads hkept) fun _ => note_leads hkept _
      · exact pure_leads hkept _
  · exact fail_leads hkept _

end App

/-! ## Calls -/

namespace App

theorem isPrivileged_leads (hkept : KeptByCalls R) (app : App) : Leads R app.isPrivileged := by
  unfold isPrivileged
  split
  · exact Leads.bind hkept.toKeptByOutput (host_leads hkept.toKeptByOutput) fun _ =>
      pure_leads hkept.toKeptByOutput _
  · exact Leads.bind hkept.toKeptByOutput (call_leads hkept _ _) fun _ =>
      pure_leads hkept.toKeptByOutput _

theorem requirePrivilege_leads (hkept : KeptByCalls R) (app : App) (c : Command) :
    Leads R (app.requirePrivilege c) := by
  unfold requirePrivilege
  split
  · refine Leads.bind hkept.toKeptByOutput (app.isPrivileged_leads hkept) fun granted => ?_
    split
    · exact pure_leads hkept.toKeptByOutput _
    · exact fail_leads hkept.toKeptByOutput _
  · exact pure_leads hkept.toKeptByOutput _

theorem showCommandHelp_leads (hkept : KeptByCalls R) (app : App) (c : Command) :
    Leads R (app.showCommandHelp c) := by
  unfold showCommandHelp
  split
  · exact Leads.discard hkept.toKeptByOutput (call_leads hkept _ _)
  · refine Leads.bind hkept.toKeptByOutput (host_leads hkept.toKeptByOutput) fun h => ?_
    exact Leads.bind hkept.toKeptByOutput (ofExcept_leads hkept.toKeptByOutput _) fun look =>
      app.reporter.infoAll_leads hkept.toKeptByOutput _

/-- What resolution does for a selected command, as the session shows it, once the commands are
configured. -/
def serve (app : App) (c : Command) (selector : Value) (rest : List Value) : Action Resolution := do
  if rest.any isHelp then
    unless c.hidden do
      app.showCommandHelp c
    return .served (some c)
  app.requirePrivilege c
  Action.note (.resolved selector c.longName)
  return .selected (← Action.ofExcept (c.select rest))

theorem serve_leads (hkept : KeptByCalls R) (app : App) (c : Command) (selector : Value)
    (rest : List Value) : Leads R (app.serve c selector rest) := by
  have houtput := hkept.toKeptByOutput
  unfold serve
  split
  · exact Leads.skip houtput (app.showCommandHelp_leads hkept _) fun _ => pure_leads houtput _
  · refine Leads.bind houtput (app.requirePrivilege_leads hkept _) fun _ => ?_
    refine Leads.bind houtput (note_leads houtput _) fun _ => ?_
    exact Leads.bind houtput (ofExcept_leads houtput _) fun _ => pure_leads houtput _

theorem run_leads (hkept : KeptByCalls R) (app : App) (c : Command) (argv : List Value) :
    Leads R (app.run c argv) := by
  unfold run
  refine Leads.bind hkept.toKeptByOutput (app.placeCursor_leads hkept.toKeptByOutput) fun _ => ?_
  refine Leads.bind hkept.toKeptByOutput (call_leads hkept _ _) fun _ => ?_
  exact Leads.bind hkept.toKeptByOutput (app.conclude_leads hkept.toKeptByOutput _ _ _ _) fun _ =>
    pure_leads hkept.toKeptByOutput _

end App

namespace Selection

theorem deliver_leads (hkept : KeptByCalls R) (s : Selection) (d : Extraction.Delivery) :
    Leads R (s.deliver d) := by
  unfold deliver
  split
  · exact call_leads hkept _ _
  · exact call_leads hkept _ _
  · exact fail_leads hkept.toKeptByOutput _

theorem deliverAll_leads (hkept : KeptByCalls R) (s : Selection)
    (deliveries : List Extraction.Delivery) : Leads R (s.deliverAll deliveries) := by
  induction deliveries with
  | nil => exact pure_leads hkept.toKeptByOutput _
  | cons d rest ih =>
      refine Leads.bind hkept.toKeptByOutput (note_leads hkept.toKeptByOutput _) fun _ => ?_
      refine Leads.bind hkept.toKeptByOutput (s.deliver_leads hkept d) fun answer => ?_
      split
      · exact ih
      · exact fail_leads hkept.toKeptByOutput _

theorem extract_leads (hkept : KeptByCalls R) (s : Selection) (argv : List Value) :
    Leads R (s.extract argv) := by
  unfold extract
  split
  · exact fail_leads hkept.toKeptByOutput _
  · dsimp only
    split
    · exact fail_leads hkept.toKeptByOutput _
    · refine Leads.bind hkept.toKeptByOutput (s.deliverAll_leads hkept _) fun _ => ?_
      split
      · exact fail_leads hkept.toKeptByOutput _
      · exact pure_leads hkept.toKeptByOutput _

end Selection

/-! ## Configuration -/

namespace App

theorem configureFrom_leads (hkept : KeptBySteps R) (position : Nat) (commands : List Command) :
    Leads R (configureFrom position commands) := by
  have houtput := hkept.toKeptByOutput
  induction commands generalizing position with
  | nil => exact pure_leads houtput _
  | cons c rest ih =>
      unfold configureFrom
      split
      · refine Leads.bind houtput (call_leads hkept.toKeptByCalls _ _) fun answer => ?_
        split
        · split
          · exact Leads.bind houtput (fun _ s => hkept.hide s position) fun _ => ih _
          · exact ih _
        · exact Leads.bind houtput (fail_leads houtput _) fun _ => ih _
      · exact ih _

theorem configure_leads (hkept : KeptBySteps R) (app : App) : Leads R app.configure := by
  have houtput := hkept.toKeptByOutput
  unfold configure
  refine Leads.bind houtput (session_leads houtput) fun s => ?_
  split
  · exact pure_leads houtput _
  · exact Leads.bind houtput (fun _ s => hkept.configured s) fun _ =>
      configureFrom_leads hkept 0 app.commands

theorem resolveCommand_eq (app : App) (position : Nat) (c : Command) (selector : Value)
    (rest : List Value) :
    app.resolveCommand position c selector rest =
      (app.configure >>= fun _ => Action.session >>= fun session =>
        app.serve (shownIn session position c) selector rest) := rfl

theorem resolveCommand_leads (hkept : KeptBySteps R) (app : App) (position : Nat) (c : Command)
    (selector : Value) (rest : List Value) :
    Leads R (app.resolveCommand position c selector rest) := by
  have houtput := hkept.toKeptByOutput
  rw [resolveCommand_eq]
  refine Leads.bind houtput (app.configure_leads hkept) fun _ => ?_
  exact Leads.bind houtput (session_leads houtput) fun _ =>
    app.serve_leads hkept.toKeptByCalls _ _ _

theorem resolve_leads (hkept : KeptBySteps R) (app : App) (argv : List Value) :
    Leads R (app.resolve argv) := by
  have houtput := hkept.toKeptByOutput
  unfold resolve
  split
  · split
    · split
      · exact app.resolveCommand_leads hkept _ _ _ _
      · split
        · exact Leads.bind houtput (app.showHelp_leads houtput) fun _ => pure_leads houtput _
        · exact fail_leads houtput _
    · exact fail_leads houtput _
  · exact fail_leads houtput _

end App

/-! ## Whole invocations -/

/-- The selection of a resolution, once its options are extracted; none if help was shown. -/
def Resolution.extract (argv : List Value) : Resolution → Action (Option Selection)
  | .served _ => return none
  | .selected selection => do
      if selection.schema.isSome then
        selection.extract argv
      return some selection

theorem Resolution.extract_leads (hkept : KeptByCalls R) (argv : List Value)
    (resolution : Resolution) : Leads R (resolution.extract argv) := by
  have houtput := hkept.toKeptByOutput
  cases resolution with
  | served _ => exact pure_leads houtput _
  | selected selection =>
      simp only [extract]
      split
      · exact Leads.bind houtput (selection.extract_leads hkept argv) fun _ => pure_leads houtput _
      · exact pure_leads houtput _

namespace App

/-- How an invocation ends: with nothing more after help, with the run of the command that it
selects, or with the surfacing of its fault. -/
def finish (app : App) (argv : List Value) : Except Fault (Option Selection) → Action Value
  | .ok none => return .int exitSuccess
  | .ok (some selection) => app.run selection.command argv
  | .error f => f.trigger app {}

theorem finish_leads (hkept : KeptByCalls R) (app : App) (argv : List Value)
    (outcome : Except Fault (Option Selection)) : Leads R (app.finish argv outcome) := by
  cases outcome with
  | error f => exact f.trigger_leads hkept.toKeptByOutput app {}
  | ok prepared =>
      cases prepared with
      | none => exact pure_leads hkept.toKeptByOutput _
      | some selection => exact app.run_leads hkept _ argv

theorem prepare_eq (app : App) (argv : List Value) :
    app.prepare argv = app.resolve argv >>= Resolution.extract argv := rfl

theorem dispatch_eq (app : App) (argv : List Value) :
    app.dispatch argv = (app.prepare argv).catchFault >>= app.finish argv := rfl

theorem prepare_leads (hkept : KeptBySteps R) (app : App) (argv : List Value) :
    Leads R (app.prepare argv) := by
  rw [prepare_eq]
  exact Leads.bind hkept.toKeptByOutput (app.resolve_leads hkept argv)
    (Resolution.extract_leads hkept.toKeptByCalls argv)

theorem dispatch_leads (hkept : KeptBySteps R) (app : App) (argv : List Value) :
    Leads R (app.dispatch argv) := by
  rw [dispatch_eq]
  exact Leads.bind hkept.toKeptByOutput (app.prepare_leads hkept argv).catchFault
    (app.finish_leads hkept.toKeptByCalls argv)

end App

end CommandDispatch
