import CommandDispatch.Proofs.Dispatch.LoggingFailures
import CommandDispatch.Proofs.Output.HiddenCommands
import CommandDispatch.Proofs.Session.InStep

/-! # Invocations in step

Two invocations of an application, with or without colours, go in step from related sessions if that
is so for the smallest things that an invocation does: printing, writing to the journal, asking a
callback, and placing a cursor in a system log. Of the calls only those matter that are asked in the
invocation.
-/

namespace CommandDispatch

open CommandDispatch.Action Session

namespace App

/-- A selection that was prepared is the one that was resolved. -/
theorem selected_of_run_extract {resolve : Action Resolution} {argv : List Value}
    {selection : Selection} {h : Host} {s : Session}
    (hrun : ((resolve >>= Resolution.extract argv).run h s).1 = .ok (some selection)) :
    (resolve.run h s).1 = .ok (.selected selection) := by
  rw [run_bind] at hrun
  cases hresolve : resolve.run h s with
  | mk result t =>
      rw [hresolve] at hrun
      cases result with
      | error failure => cases hrun
      | ok resolution =>
          cases resolution with
          | served _ => cases hrun
          | selected other =>
              have hsame : some selection = some other := by
                simp only [Resolution.extract] at hrun
                split at hrun
                · rw [run_bind] at hrun
                  split at hrun
                  · exact (Except.ok.inj hrun).symm
                  · cases hrun
                · exact (Except.ok.inj hrun).symm
              rw [Option.some.inj hsame]

/-- An application that uses styles, or does not. -/
def coloring (app : App) (colorful : Bool) : App := { app with colorful }

/-- What goes in step for an application that uses styles or not in the first run, and in the second
one. Where these differ the second run uses none, and the first one may be stopped by a style that
the console cannot read. The calls that are asked go in step, which may be all. -/
structure Coupled (app : App) (b b' : Bool) (h : Host) (stops : Failure → Prop)
    (R : Session → Session → Prop) (asked : Call → Prop := fun _ => True) : Prop where
  colours : b' = b ∨ b' = false ∧ ∀ flaw, stops (.styleFlawed flaw)
  faults : ∀ f, ¬ stops (.fault f)
  print : ∀ {s t} stream (m : Message), R s t →
    R { s with printed := s.printed ++ [⟨stream, m.colored b⟩] }
      { t with printed := t.printed ++ [⟨stream, m.colored b'⟩] }
  note : ∀ {s t} (notes notes' : List Note), R s t → R { s with notes } { t with notes := notes' }
  write : ∀ message, InStep h stops R (app.journal.write message) (app.journal.write message)
  call : ∀ callback request, asked ⟨callback, request⟩ →
    InStep h stops R (Action.call callback request) (Action.call callback request)
  cursor : ∀ {s t}, R s t →
    (∃ failure, LogCursor.enter {} app.syslog s.files = .error failure ∧
      LogCursor.enter {} app.syslog t.files = .error failure) ∨
    ∃ cursor cursor', LogCursor.enter {} app.syslog s.files = .ok cursor ∧
      LogCursor.enter {} app.syslog t.files = .ok cursor'

namespace Coupled

variable {app : App} {b b' : Bool} {h : Host} {stops : Failure → Prop}
  {R : Session → Session → Prop} {asked : Call → Prop}

/-! ## Output -/

theorem print_inStep (hcoupled : app.Coupled b b' h stops R asked) (stream : Stream) (m : Message) :
    InStep h stops R (Action.print stream (m.colored b)) (Action.print stream (m.colored b')) where
  leads := print_leads keptByOutput_extends stream _
  ends s t hrelated := by
    have hprinted := hcoupled.print stream m hrelated
    rw [run_print, run_print]
    rcases hcoupled.colours with rfl | ⟨rfl, hstops⟩
    · exact .inl ⟨rfl, hprinted⟩
    · have hplain : (m.colored false).flaw? = none :=
        (Message.colored_readable fun hcolors => by cases hcolors).flaw?_eq_none
      cases hflaw : (m.colored b).flaw? with
      | none => exact .inl ⟨by rw [hplain], hprinted⟩
      | some flaw =>
          exact .inr ⟨_, hstops flaw, rfl, _, hprinted, keptByOutput_extends.refl _⟩

theorem onlyNotes_inStep (hcoupled : app.Coupled b b' h stops R asked) {first second : Action Unit}
    (hfirst : first.OnlyNotes) (hsecond : second.OnlyNotes) : InStep h stops R first second where
  leads := by
    intro g s
    obtain ⟨notes, hrun⟩ := hsecond g s
    rw [hrun]
    exact .of_files_eq ⟨List.prefix_rfl, List.prefix_rfl, Iff.rfl⟩ rfl
  ends s t hrelated := by
    obtain ⟨notes, hrun⟩ := hfirst h s
    obtain ⟨notes', hrun'⟩ := hsecond h t
    rw [hrun, hrun']
    exact .inl ⟨rfl, hcoupled.note notes notes' hrelated⟩

theorem note_inStep (hcoupled : app.Coupled b b' h stops R asked) (n : Note) :
    InStep h stops R (Action.note n) (Action.note n) :=
  hcoupled.onlyNotes_inStep (fun _ s => ⟨s.notes ++ [n], rfl⟩) fun _ s => ⟨s.notes ++ [n], rfl⟩

theorem report_inStep (hcoupled : app.Coupled b b' h stops R asked) (severity : Severity)
    (m : Message) (record : Option Text) :
    InStep h stops R ((app.coloring b).reporter.report severity m record)
      ((app.coloring b').reporter.report severity m record) := by
  unfold Reporter.report
  dsimp only [coloring, reporter]
  rw [m.plain_colored b, m.plain_colored b']
  split
  · exact (hcoupled.print_inStep .error m).bind fun _ => (hcoupled.write _).discard
  · exact hcoupled.print_inStep .output m

theorem infoAll_inStep (hcoupled : app.Coupled b b' h stops R asked) (messages : List Message) :
    InStep h stops R ((app.coloring b).reporter.infoAll messages)
      ((app.coloring b').reporter.infoAll messages) := by
  induction messages with
  | nil => exact .pure ()
  | cons m rest ih => exact (hcoupled.report_inStep .info m none).bind fun _ => ih

theorem surface_inStep (hcoupled : app.Coupled b b' h stops R asked) (f : Fault) :
    InStep h stops R (f.surface (app.coloring b)) (f.surface (app.coloring b')) := by
  refine InStep.ite ?_ (.fail _)
  refine InStep.host.bind fun g => ?_
  refine (InStep.ofExcept _).bind fun palette => ?_
  refine (InStep.ofExcept _).bind fun program => ?_
  refine (InStep.ofExcept _).bind fun record => ?_
  refine (hcoupled.report_inStep .error _ (some record)).bind fun _ => ?_
  cases f.hintFor program with
  | some hint =>
      refine (InStep.ofExcept _).bind fun hint => ?_
      exact (hcoupled.report_inStep .info _ none).bind fun _ => .pure _
  | none => exact .pure _

theorem trigger_inStep (hcoupled : app.Coupled b b' h stops R asked) (f : Fault)
    (further : FaultOptions) :
    InStep h stops R (f.trigger (app.coloring b) further)
      (f.trigger (app.coloring b') further) :=
  InStep.host.bind fun _ => (InStep.ofExcept _).bind fun f => hcoupled.surface_inStep f

theorem showTable_inStep (hcoupled : app.Coupled b b' h stops R asked) (table : List Command) :
    InStep h stops R ((app.coloring b).showTable table) ((app.coloring b').showTable table) := by
  refine InStep.host.bind fun g => (InStep.ofExcept _).bind fun look => ?_
  refine (hcoupled.infoAll_inStep _).bind fun _ => ?_
  exact (InStep.ofExcept _).bind fun usage => hcoupled.infoAll_inStep _

theorem showHelp_inStep (hcoupled : app.Coupled b b' h stops R asked)
    (htable : ∀ s t, R s t → app.table t = app.table s) :
    InStep h stops R (app.coloring b).showHelp (app.coloring b').showHelp where
  leads := showHelp_leads keptByOutput_extends _
  ends s t hrelated := by
    have hfirst : (app.coloring b).table s = app.table s := rfl
    have hsecond : (app.coloring b').table t = app.table s := htable s t hrelated
    rw [run_showHelp, run_showHelp, hfirst, hsecond]
    exact (hcoupled.showTable_inStep (app.table s)).ends s t hrelated

theorem showCommandHelp_inStep (hcoupled : app.Coupled b b' h stops R asked) (c : Command)
    (hasked : ∀ call ∈ app.helpCalls c, asked call) :
    InStep h stops R ((app.coloring b).showCommandHelp c)
      ((app.coloring b').showCommandHelp c) := by
  unfold showCommandHelp
  unfold helpCalls at hasked
  cases hhelp : c.help with
  | some callback =>
      rw [hhelp] at hasked
      exact (hcoupled.call _ _ (hasked _ List.mem_cons_self)).discard
  | none =>
      refine InStep.host.bind fun g => ?_
      exact (InStep.ofExcept _).bind fun look => hcoupled.infoAll_inStep _

/-! ## Up to the handler -/

theorem requirePrivilege_inStep (hcoupled : app.Coupled b b' h stops R asked) (c : Command)
    (hasked : ∀ call ∈ app.probes, asked call) :
    InStep h stops R (app.requirePrivilege c) (app.requirePrivilege c) := by
  unfold requirePrivilege
  refine InStep.ite ?_ (.pure ())
  have hprivileged : InStep h stops R app.isPrivileged app.isPrivileged := by
    unfold isPrivileged
    unfold probes at hasked
    cases hprobe : app.privileged with
    | process => exact InStep.host.bind fun _ => .pure _
    | callback probe =>
        rw [hprobe] at hasked
        exact (hcoupled.call _ _ (hasked _ List.mem_cons_self)).bind fun _ => .pure _
  exact hprivileged.bind fun granted => InStep.ite (.pure ()) (.fail _)

theorem serve_inStep (hcoupled : app.Coupled b b' h stops R asked) (c : Command) (selector : Value)
    (rest : List Value) (hhelp : ∀ call ∈ app.helpCalls c, asked call)
    (hprobe : ∀ call ∈ app.probes, asked call) :
    InStep h stops R ((app.coloring b).serve c selector rest)
      ((app.coloring b').serve c selector rest) := by
  unfold serve
  refine InStep.ite ?_ ?_
  · exact InStep.skip (hcoupled.showCommandHelp_inStep c hhelp) fun _ => .pure _
  · refine (hcoupled.requirePrivilege_inStep c hprobe).bind fun _ => ?_
    refine (hcoupled.note_inStep _).bind fun _ => ?_
    exact (InStep.ofExcept _).bind fun selection => .pure _

theorem deliverAll_inStep (hcoupled : app.Coupled b b' h stops R asked) (selection : Selection)
    (deliveries : List Extraction.Delivery)
    (hasked : ∀ call, selection.command.IsOptionCall call → asked call) :
    InStep h stops R (selection.deliverAll deliveries) (selection.deliverAll deliveries) := by
  induction deliveries with
  | nil => exact .pure ()
  | cons d rest ih =>
      have hdeliver : InStep h stops R (selection.deliver d) (selection.deliver d) := by
        cases hcall : selection.call? d with
        | none =>
            rw [Selection.deliver_of_call?_eq_none hcall]
            exact .fail _
        | some call =>
            rw [Selection.deliver_of_call? hcall]
            exact hcoupled.call _ _ (hasked _ (Command.isOptionCall_of_call? hcall))
      refine (hcoupled.note_inStep _).bind fun _ => ?_
      exact hdeliver.bind fun answer => InStep.ite ih (.fail _)

theorem extract_inStep (hcoupled : app.Coupled b b' h stops R asked) (selection : Selection)
    (argv : List Value) (hasked : ∀ call, selection.command.IsOptionCall call → asked call) :
    InStep h stops R (selection.extract argv) (selection.extract argv) := by
  unfold Selection.extract
  split
  · exact .fail _
  · dsimp only
    split
    · exact .fail _
    · refine (hcoupled.deliverAll_inStep selection _ hasked).bind fun _ => ?_
      split
      · exact .fail _
      · exact .pure ()

/-! ## The handler and what follows it -/

theorem reportResult_inStep (hcoupled : app.Coupled b b' h stops R asked) (result : Value) :
    InStep h stops R ((app.coloring b).reportResult result)
      ((app.coloring b').reportResult result) := by
  unfold reportResult
  cases result.number? with
  | none => exact .fail _
  | some n =>
      refine (InStep.ofExcept (app.status.decode n)).bind fun found => ?_
      cases found with
      | none => exact .pure ()
      | some d => exact hcoupled.report_inStep _ _ _

theorem answered_inStep (hcoupled : app.Coupled b b' h stops R asked) (c : Command)
    (argv : List Value) (hasked : asked ⟨c.handler, .handler⟩) :
    InStep h stops R ((app.coloring b).answered c argv) ((app.coloring b').answered c argv) := by
  refine (hcoupled.call _ _ hasked).bind fun result => ?_
  split
  · exact InStep.skip (hcoupled.reportResult_inStep result) fun _ => .pure _
  · exact .fail _

theorem logCommand_inStep (hcoupled : app.Coupled b b' h stops R asked) (argv : List Value)
    (result : Value) (elapsed : Int) (capacity : Int) :
    InStep h stops R
      (discard (app.journal.logCommand argv result elapsed (some (app.coloring b).reporter)
        capacity))
      (discard (app.journal.logCommand argv result elapsed (some (app.coloring b').reporter)
        capacity)) := by
  rw [Journal.discard_logCommand, Journal.discard_logCommand]
  refine InStep.host.bind fun g => ?_
  refine (InStep.ofExcept _).bind fun line? => ?_
  cases line? with
  | none => exact hcoupled.report_inStep .error _ none
  | some line => exact (InStep.ofExcept _).bind fun message => (hcoupled.write message).discard

theorem recorded_inStep (hcoupled : app.Coupled b b' h stops R asked) (c : Command)
    (argv : List Value) (result : Value) (cursor cursor' : LogCursor) :
    InStep h stops R ((app.coloring b).recorded c argv result cursor)
      ((app.coloring b').recorded c argv result cursor') := by
  have hnoted := hcoupled.onlyNotes_inStep (noteLogged_onlyNotes c cursor)
    (noteLogged_onlyNotes c cursor')
  refine InStep.ite hnoted ?_
  refine InStep.host.bind fun g => ?_
  exact (hcoupled.logCommand_inStep argv result (elapsed g) _).bind fun _ => hnoted

/-- The runs of a command, in which the cursors may be placed differently, but not in one run
only. -/
theorem run_inStep (hcoupled : app.Coupled b b' h stops R asked) (c : Command) (argv : List Value)
    (hasked : asked ⟨c.handler, .handler⟩) :
    InStep h stops R ((app.coloring b).run c argv) ((app.coloring b').run c argv) where
  leads := run_leads keptByCalls_extends _ c argv
  ends s t hrelated := by
    have hplaced (r : Session) (b : Bool) : (app.coloring b).placeCursor.run h r =
        (LogCursor.enter {} app.syslog r.files, r) := rfl
    rw [run_eq, run_eq, run_bind, run_bind, hplaced s b, hplaced t b']
    rcases hcoupled.cursor hrelated with
      ⟨failure, hfirst, hsecond⟩ | ⟨cursor, cursor', hfirst, hsecond⟩
    · rw [hfirst, hsecond]
      exact .inl ⟨rfl, hrelated⟩
    · rw [hfirst, hsecond]
      refine InStep.ends ?_ s t hrelated
      refine (hcoupled.answered_inStep c argv hasked).bind fun result => ?_
      exact (hcoupled.recorded_inStep c argv result cursor cursor').bind fun _ => .pure result

/-! ## Whole invocations -/

/-- What follows the resolution of an invocation goes in step if the resolution did, and if the
callbacks are asked of the command that is selected. -/
theorem finish_ends (hcoupled : app.Coupled b b' h stops R asked) {first second : Action Resolution}
    {argv : List Value} {s t : Session}
    (hresolve : EndInStep stops R (first.run h s) (second.run h t))
    (hasked : ∀ selection, (first.run h s).1 = .ok (.selected selection) →
      (∀ call, selection.command.IsOptionCall call → asked call) ∧
        asked ⟨selection.command.handler, .handler⟩) :
    EndInStep stops R
      (((first >>= Resolution.extract argv).catchFault >>= (app.coloring b).finish argv).run h s)
      (((second >>= Resolution.extract argv).catchFault >>=
        (app.coloring b').finish argv).run h t) := by
  have hprepare : EndInStep stops R ((first >>= Resolution.extract argv).run h s)
      ((second >>= Resolution.extract argv).run h t) := by
    refine hresolve.bind (Resolution.extract_leads keptByCalls_extends argv)
      fun resolution u v hrun hrelated => ?_
    cases resolution with
    | served shown => exact .inl ⟨rfl, hrelated⟩
    | selected selection =>
        obtain ⟨hoptions, -⟩ := hasked selection (congrArg Prod.fst hrun)
        have hextract := hcoupled.extract_inStep selection argv hoptions
        exact (InStep.ite (hextract.bind fun _ => .pure _) (.pure _)).ends u v hrelated
  refine (hprepare.catchFault hcoupled.faults).bind
    (finish_leads keptByCalls_extends _ argv) fun outcome u v hrun hrelated => ?_
  cases outcome with
  | error f => exact (hcoupled.trigger_inStep f {}).ends u v hrelated
  | ok prepared =>
      cases prepared with
      | none => exact .inl ⟨rfl, hrelated⟩
      | some selection =>
          have hprepared := congrArg Prod.fst hrun
          rw [result_run_catchFault] at hprepared
          have hselected := selected_of_run_extract (result_eq_of_caught hprepared)
          exact (hcoupled.run_inStep selection.command argv (hasked selection hselected).2).ends
            u v hrelated

section Dispatching

variable (hshown : ∀ s t, R s t → shownIn t = shownIn s)
  (hconfigure : InStep h stops R app.configure app.configure)

include hshown hconfigure

theorem resolve_inStep (hcoupled : app.Coupled b b' h stops R) (argv : List Value) :
    InStep h stops R ((app.coloring b).resolve argv) ((app.coloring b').resolve argv) := by
  have hselect (position : Nat) (c : Command) (selector : Value) (rest : List Value) :
      InStep h stops R ((app.coloring b).resolveCommand position c selector rest)
        ((app.coloring b').resolveCommand position c selector rest) := by
    rw [resolveCommand_eq, resolveCommand_eq]
    refine hconfigure.bind fun _ => ?_
    exact InStep.view (fun s => shownIn s position c)
      (fun s t hrelated => by rw [hshown s t hrelated]) fun shown =>
        hcoupled.serve_inStep shown selector rest (fun _ _ => trivial) fun _ _ => trivial
  unfold resolve
  split
  · refine InStep.ite ?_ (.fail _)
    dsimp only [coloring]
    split
    · exact hselect _ _ _ _
    · refine InStep.ite ?_ (.fail _)
      refine (hcoupled.showHelp_inStep fun s t hrelated => ?_).bind fun _ => .pure _
      rw [table, table, hshown s t hrelated]
  · exact .fail _

/-- Invocations go in step, from sessions that show the same commands, as soon as the configuration
of the commands does. -/
theorem dispatch_inStep (hcoupled : app.Coupled b b' h stops R) (argv : List Value) :
    InStep h stops R ((app.coloring b).dispatch argv) ((app.coloring b').dispatch argv) where
  leads := (app.coloring b').dispatch_leads keptBySteps_extends argv
  ends s t hrelated := by
    rw [dispatch_eq, dispatch_eq, prepare_eq, prepare_eq]
    have hresolve := hcoupled.resolve_inStep hshown hconfigure argv
    exact hcoupled.finish_ends (hresolve.ends s t hrelated) fun _ _ =>
      ⟨fun _ _ => trivial, trivial⟩

end Dispatching

end Coupled

end App

end CommandDispatch
