import CommandDispatch.Proofs.Dispatch.Coupled
import CommandDispatch.Proofs.Dispatch.Uses

/-! # Colours

Whether an application uses colours makes no difference to what it does and says. Without them no
message has a style; with them the same messages are printed, as long as the console can read their
styles. A style that it cannot read stops the invocation with colours at that message, behind which
the one without them goes on.
-/

namespace CommandDispatch

open CommandDispatch.Action

/-- A message without its styles, on the same stream. -/
def Printed.uncolored (p : Printed) : Printed := { p with message := p.message.uncolored }

namespace Session

/-- The second session is the first one, but what was printed since an earlier one has no styles.
The notes do not matter. -/
def Fades (base s t : Session) : Prop :=
  ∃ new notes, s.printed = base.printed ++ new ∧
    t = { s with printed := base.printed ++ new.map Printed.uncolored, notes }

theorem Fades.refl (s : Session) : s.Fades s s := ⟨[], s.notes, by simp, by simp⟩

end Session

open Session

namespace App

variable {app : App} {h : Host} {base : Session}

/-- The failures that stop an invocation with colours only. -/
def UnreadableIn (colorful : Bool) (failure : Failure) : Prop :=
  colorful = true ∧ ∃ flaw, failure = .styleFlawed flaw

theorem write_fades (stops : Failure → Prop) (message : Text) :
    InStep h stops base.Fades (app.journal.write message) (app.journal.write message) where
  leads := app.journal.write_leads keptByOutput_extends message
  ends s t hfades := by
    obtain ⟨new, notes, hnew, rfl⟩ := hfades
    exact .inl ⟨rfl, new, notes, hnew, rfl⟩

/-- A callback does not see what was printed and noted. -/
theorem run_call_with (callback : Callback) (request : Request) (printed : List Printed)
    (notes : List Note) (s : Session) :
    (call callback request).run h { s with printed, notes } =
      (((call callback request).run h s).1,
        { ((call callback request).run h s).2 with printed, notes }) := by
  have hrequests : ({ s with printed, notes } : Session).requestsTo callback =
      s.requestsTo callback := rfl
  simp only [call, hrequests]
  split
  · split <;> rfl
  · rfl

theorem call_fades (stops : Failure → Prop) (callback : Callback) (request : Request) :
    InStep h stops base.Fades (call callback request) (call callback request) where
  leads := call_leads keptByCalls_extends callback request
  ends s t hfades := by
    obtain ⟨new, notes, hnew, rfl⟩ := hfades
    have hrun := run_call_with (h := h) callback request
      (base.printed ++ new.map Printed.uncolored) notes s
    rw [hrun]
    exact .inl ⟨rfl, new, notes, (printed_run_call callback request).trans hnew, rfl⟩

/-- With or without colours in the first run, and without them in the second one, the smallest
things that an invocation does go in step. -/
theorem coupled_fades (app : App) (b : Bool) (h : Host) (base : Session) :
    app.Coupled b false h (UnreadableIn b) base.Fades where
  colours := by
    cases b with
    | false => exact .inl rfl
    | true => exact .inr ⟨rfl, fun flaw => ⟨rfl, flaw, rfl⟩⟩
  faults f hstops := by
    obtain ⟨-, flaw, hflaw⟩ := hstops
    cases hflaw
  print stream m hfades := by
    obtain ⟨new, notes, hnew, rfl⟩ := hfades
    have hfaded : m.colored false = (m.colored b).uncolored := by cases b <;> rfl
    refine ⟨new ++ [⟨stream, m.colored b⟩], notes, ?_, ?_⟩
    · simp [hnew]
    · simp [hfaded, Printed.uncolored]
  note notes notes' hfades := by
    obtain ⟨new, -, hnew, rfl⟩ := hfades
    exact ⟨new, notes', hnew, rfl⟩
  write := write_fades _
  call callback request _ := call_fades _ callback request
  cursor := by
    rintro s t ⟨new, notes, -, rfl⟩
    cases hplaced : LogCursor.enter {} app.syslog s.files with
    | error failure => exact .inl ⟨failure, rfl, rfl⟩
    | ok cursor => exact .inr ⟨cursor, cursor, rfl, rfl⟩

theorem shownIn_of_fades {s t : Session} (hfades : base.Fades s t) : shownIn t = shownIn s := by
  obtain ⟨new, notes, -, rfl⟩ := hfades
  funext position c
  exact shownIn_of_hidden_eq rfl position c

/-! ## The configuration -/

theorem update_fades (stops : Failure → Prop) {change : Session → Session}
    (hleads : (Action.update change).Leads Extends)
    (hchange : ∀ s t, base.Fades s t → base.Fades (change s) (change t)) :
    InStep h stops base.Fades (Action.update change) (Action.update change) where
  leads := hleads
  ends s t hfades := .inl ⟨rfl, hchange s t hfades⟩

theorem hideAt_fades (stops : Failure → Prop) (position : Nat) :
    InStep h stops base.Fades (hideAt position) (hideAt position) := by
  refine update_fades stops (fun _ s => keptBySteps_extends.hide s position) ?_
  rintro s t ⟨new, notes, hnew, rfl⟩
  exact ⟨new, notes, hnew, rfl⟩

theorem configureFrom_fades (stops : Failure → Prop) (position : Nat) (commands : List Command) :
    InStep h stops base.Fades (configureFrom position commands)
      (configureFrom position commands) := by
  induction commands generalizing position with
  | nil => exact .pure ()
  | cons c rest ih =>
      unfold configureFrom
      split
      · refine (call_fades stops _ _).bind fun answer => ?_
        split
        · split
          · exact (hideAt_fades stops position).bind fun _ => ih _
          · exact ih _
        · exact (InStep.fail _).bind fun _ => ih _
      · exact ih _

theorem configure_fades (stops : Failure → Prop) (app : App) :
    InStep h stops base.Fades app.configure app.configure := by
  have hlook (s t : Session) (hfades : base.Fades s t) : t.configured = s.configured := by
    obtain ⟨new, notes, -, rfl⟩ := hfades
    rfl
  have hbegin : InStep h stops base.Fades
      (Action.update fun session => { session with configured := true })
      (Action.update fun session => { session with configured := true }) := by
    refine update_fades stops (fun _ s => keptBySteps_extends.configured s) ?_
    rintro s t ⟨new, notes, hnew, rfl⟩
    exact ⟨new, notes, hnew, rfl⟩
  have hnext (configured : Bool) : InStep h stops base.Fades
      (if configured = true then Pure.pure () else
        Action.update (fun session => { session with configured := true }) >>= fun _ =>
          configureFrom 0 app.commands)
      (if configured = true then Pure.pure () else
        Action.update (fun session => { session with configured := true }) >>= fun _ =>
          configureFrom 0 app.commands) :=
    InStep.ite (.pure ()) (hbegin.bind fun _ => configureFrom_fades stops 0 app.commands)
  exact InStep.view Session.configured hlook hnext

/-! ## Whole invocations -/

theorem dispatch_fades (app : App) (b : Bool) (h : Host) (s : Session) (argv : List Value) :
    EndInStep (UnreadableIn b) s.Fades (((app.coloring b).dispatch argv).run h s)
      (((app.coloring false).dispatch argv).run h s) :=
  ((app.coupled_fades b h s).dispatch_inStep (fun _ _ => shownIn_of_fades)
    (configure_fades _ app) argv).ends s s (.refl s)

/-- Colours change nothing that is said or done. Without them no message has a style. With them an
invocation ends in the same way, with the same calls, files and hidden commands, and it prints the
same messages, which may have styles; or it is stopped by a style that the console cannot read, and
up to there it has said and done what the invocation without colours begins with. -/
theorem dispatch_without_colours (app : App) (h : Host) (s : Session) (argv : List Value) :
    let coloured := ((app.coloring true).dispatch argv).run h s
    let plain := ((app.coloring false).dispatch argv).run h s
    (∃ new, plain.2.printed = s.printed ++ new ∧
      ∀ p ∈ new, p.message.style = .none ∧ p.message.spans = []) ∧
    (plain.1 = coloured.1 ∧ s.Fades coloured.2 plain.2 ∨
      ∃ flaw, coloured.1 = .error (.styleFlawed flaw) ∧
        ∃ u, s.Fades coloured.2 u ∧ u.Extends plain.2) := by
  intro coloured plain
  refine ⟨?_, ?_⟩
  · -- without colours in both runs, what is printed is what is printed without its styles
    rcases app.dispatch_fades false h s argv with ⟨-, new, notes, hnew, hfaded⟩ | ⟨_, hstops, -⟩
    · refine ⟨new, hnew, fun p hp => ?_⟩
      have hprinted := congrArg Session.printed hfaded
      have hsame : new = new.map Printed.uncolored :=
        List.append_cancel_left (hnew.symm.trans hprinted)
      rw [hsame] at hp
      obtain ⟨q, -, rfl⟩ := List.mem_map.1 hp
      exact ⟨rfl, rfl⟩
    · cases hstops.1
  · rcases app.dispatch_fades true h s argv with hends | ⟨_, ⟨-, flaw, rfl⟩, hfailed, hrest⟩
    · exact .inl hends
    · exact .inr ⟨flaw, hfailed, hrest⟩

end App

namespace Sample

/-- A host with a style for hints that the console cannot read. -/
def unreadable : Host :=
  { answering (.int 0) with styles := .record [("hint", .text unreadableName)] }

/-- The sample tool is started without a command. The invocation with colours is stopped at the
hint; without them the hint is printed, and the tool returns the status of a failure. -/
theorem hint_unreadable :
    ¬ ∀ (app : App) (h : Host) (s : Session) (argv : List Value),
      (((app.coloring false).dispatch argv).run h s).1 =
        (((app.coloring true).dispatch argv).run h s).1 := by
  intro hall
  let unread (ended : Except Failure Value) : Bool := ended matches .error (.styleFlawed _)
  have hplain : ((((tool (copy [] none) []).coloring false).dispatch [.text "tool"]).run
      unreadable {}).1 = .ok (.int 1) := rfl
  have hcoloured : unread ((((tool (copy [] none) []).coloring true).dispatch [.text "tool"]).run
      unreadable {}).1 = true := by
    decide +kernel
  have hsame := hplain.symm.trans (hall (tool (copy [] none) []) unreadable {} [.text "tool"])
  exact Bool.false_ne_true ((congrArg unread hsame).trans hcoloured)

end Sample

end CommandDispatch
