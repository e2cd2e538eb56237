import CommandDispatch.Proofs.Session.Leading

/-! # What actions do not see

A change of sessions is unread if it keeps what actions look at on their way (the files, the calls,
and whether the commands are configured) and lets every step through. An action is blind to such a
change if it makes no difference whether the change comes before or after it: the result is the
same, and so is all that the action itself does to the session. All of the engine is blind but for
what asks whether a command is hidden.
-/

namespace CommandDispatch

namespace Session

/-- A change of sessions that keeps what actions look at, and through which steps can be moved. -/
structure Unread (change : Session → Session) : Prop where
  configured : ∀ s, (change s).configured = s.configured
  files : ∀ s, (change s).files = s.files
  calls : ∀ s, (change s).calls = s.calls
  begin : ∀ s, change { s with configured := true } = { change s with configured := true }
  hide : ∀ s position, change { s with hidden := position :: s.hidden } =
    { change s with hidden := position :: (change s).hidden }
  store : ∀ s files, change { s with files } = { change s with files }
  print : ∀ s p, change { s with printed := s.printed ++ [p] } =
    { change s with printed := (change s).printed ++ [p] }
  call : ∀ s c, change { s with calls := s.calls ++ [c] } =
    { change s with calls := (change s).calls ++ [c] }
  note : ∀ s n, change { s with notes := s.notes ++ [n] } =
    { change s with notes := (change s).notes ++ [n] }

/-- The session with further commands hidden. -/
def withHidden (more : List Nat) (s : Session) : Session := { s with hidden := s.hidden ++ more }

/-- The session with no command hidden. -/
def unhidden (s : Session) : Session := { s with hidden := [] }

theorem withHidden_unhidden (s : Session) : s.unhidden.withHidden s.hidden = s := rfl

theorem withHidden_unread (more : List Nat) : Unread (withHidden more) := by
  constructor <;> intros <;> rfl

end Session

open Session

variable {α β : Type} {change : Session → Session}

namespace Action

/-- It makes no difference to an action, nor does the action make one, whether a change of the
session comes before it or after it. -/
def Blind (change : Session → Session) (action : Action α) : Prop :=
  ∀ h s, action.run h (change s) = ((action.run h s).1, change (action.run h s).2)

namespace Blind

theorem bind {action : Action α} {next : α → Action β} (haction : Blind change action)
    (hnext : ∀ a, Blind change (next a)) : Blind change (action >>= next) := by
  intro h s
  rw [run_bind, haction, run_bind]
  cases action.run h s with
  | mk result t =>
      cases result with
      | ok a => exact hnext a h t
      | error failure => rfl

/-- A look at the session, of which nothing is used that the change concerns. -/
theorem session {next : Session → Action β} (hnext : ∀ s, Blind change (next s))
    (hsame : ∀ s, next (change s) = next s) : Blind change (Action.session >>= next) := by
  intro h s
  rw [run_bind, run_session, run_bind, run_session]
  dsimp only
  rw [hsame]
  exact hnext s h s

theorem skip {p : Prop} [Decidable p] {action : Action Unit} {next : Unit → Action β}
    (haction : Blind change action) (hnext : ∀ a, Blind change (next a)) :
    Blind change (if p then next () else action >>= next) := by
  split
  · exact hnext ()
  · exact haction.bind hnext

theorem discard {action : Action α} (haction : Blind change action) :
    Blind change (Functor.discard action) :=
  haction.bind fun _ _ _ => rfl

theorem catchFault {action : Action α} (haction : Blind change action) :
    Blind change action.catchFault := by
  intro h s
  simp only [Action.catchFault, haction h s]
  cases action.run h s with
  | mk result t =>
      cases result with
      | ok _ => rfl
      | error failure => cases failure <;> rfl

end Blind

theorem pure_blind (a : α) : Blind change (pure a : Action α) := fun _ _ => rfl

theorem fail_blind (failure : Failure) : Blind change (fail failure : Action α) := fun _ _ => rfl

theorem host_blind : Blind change host := fun _ _ => rfl

theorem ofExcept_blind (result : Except Failure α) : Blind change (ofExcept result) := fun _ _ => rfl

theorem note_blind (hunread : Unread change) (n : Note) : Blind change (note n) := by
  intro h s
  simp [hunread.note]

theorem print_blind (hunread : Unread change) (stream : Stream) (message : Message) :
    Blind change (print stream message) := by
  intro h s
  simp [hunread.print]

/-- A callback is told of earlier calls only, and may add to a file. -/
theorem call_blind (hunread : Unread change) (callback : Callback) (request : Request) :
    Blind change (call callback request) := by
  intro h s
  have hcalled := hunread.call s ⟨callback, request⟩
  simp only [hunread.calls, hunread.files] at hcalled
  simp only [call, requestsTo, hunread.calls, hunread.files]
  split
  · split
    next files _ =>
      have hstored := hunread.store { s with calls := s.calls ++ [⟨callback, request⟩] } files
      rw [hcalled] at hstored
      exact Prod.ext rfl hstored.symm
    next => exact Prod.ext rfl hcalled.symm
  · exact Prod.ext rfl hcalled.symm

end Action

open CommandDispatch.Action

/-! ## Output -/

theorem Journal.write_blind (hunread : Unread change) (j : Journal) (message : Text) :
    Blind change (j.write message) := by
  intro h s
  have hrun (s : Session) : (j.write message).run h s =
      ((j.attempt h.failures h.now message s.files).1,
        { s with files := (j.attempt h.failures h.now message s.files).2 }) := rfl
  rw [hrun, hrun, hunread.files]
  exact Prod.ext rfl (hunread.store s _).symm

namespace Reporter

theorem report_blind (hunread : Unread change) (r : Reporter) (severity : Severity)
    (message : Message) (record : Option Text) :
    Blind change (r.report severity message record) := by
  unfold report
  dsimp only
  split
  · refine (print_blind hunread _ _).bind fun _ => ?_
    split
    · exact (Journal.write_blind hunread _ _).discard
    · exact pure_blind _
  · exact print_blind hunread _ _

theorem infoAll_blind (hunread : Unread change) (r : Reporter) (messages : List Message) :
    Blind change (r.infoAll messages) := by
  induction messages with
  | nil => exact pure_blind _
  | cons message rest ih => exact (r.report_blind hunread _ _ _).bind fun _ => ih

end Reporter

theorem StatusConfig.report_blind (hunread : Unread change) (config : StatusConfig) (r : Reporter)
    (result : Int) : Blind change (config.report r result) := by
  refine (ofExcept_blind _).bind fun found => ?_
  split
  · exact r.report_blind hunread _ _ _
  · exact pure_blind _

theorem Journal.logCommand_blind (hunread : Unread change) (j : Journal) (argv : List Value)
    (result : Value) (elapsed : Int) (reporter : Option Reporter) (capacity : Int) :
    Blind change (j.logCommand argv result elapsed reporter capacity) := by
  refine host_blind.bind fun _ => (ofExcept_blind _).bind fun line => ?_
  cases line with
  | some line => exact (ofExcept_blind _).bind fun message => j.write_blind hunread message
  | none =>
      cases reporter with
      | some r => exact (r.report_blind hunread _ _ _).bind fun _ => pure_blind _
      | none => exact pure_blind _

theorem Fault.surface_blind (hunread : Unread change) (f : Fault) (app : App) :
    Blind change (f.surface app) := by
  unfold surface
  split
  · refine host_blind.bind fun h => (ofExcept_blind _).bind fun palette => ?_
    refine (ofExcept_blind _).bind fun program => (ofExcept_blind _).bind fun record => ?_
    refine (app.reporter.report_blind hunread _ _ _).bind fun _ => ?_
    split
    · refine (ofExcept_blind _).bind fun hint => ?_
      exact (app.reporter.report_blind hunread _ _ _).bind fun _ => pure_blind _
    · exact pure_blind _
  · exact fail_blind _

theorem Fault.trigger_blind (hunread : Unread change) (f : Fault) (app : App)
    (further : FaultOptions) : Blind change (f.trigger app further) :=
  host_blind.bind fun _ => (ofExcept_blind _).bind fun f => f.surface_blind hunread app

namespace App

theorem placeCursor_blind (hunread : Unread change) (app : App) : Blind change app.placeCursor := by
  refine Blind.session (fun _ => ofExcept_blind _) fun s => ?_
  rw [hunread.files]

theorem reportResult_blind (hunread : Unread change) (app : App) (result : Value) :
    Blind change (app.reportResult result) := by
  unfold reportResult
  split
  · exact app.status.report_blind hunread _ _
  · exact fail_blind _

/-- The last step of a run notes how much was added to the system log. -/
theorem noteAdded_blind (hunread : Unread change) (c : Command) (cursor : LogCursor) :
    Blind change (match cursor.path with
      | some path => do
          let added := cursor.read (← Action.session).files
          Action.note (.logged added.length path c.longName)
      | none => pure ()) := by
  split
  · refine Blind.session (fun _ => note_blind hunread _) fun s => ?_
    rw [hunread.files]
  · exact pure_blind _

theorem conclude_blind (hunread : Unread change) (app : App) (c : Command) (argv : List Value)
    (result : Value) (cursor : LogCursor) : Blind change (app.conclude c argv result cursor) := by
  unfold conclude
  split
  · refine Blind.skip (app.reportResult_blind hunread _) fun _ => ?_
    have hlast := noteAdded_blind hunread c cursor
    by_cases hversion : c.isVersion = true
    · simp only [hversion, if_true]
      exact hlast
    · simp only [hversion]
      refine host_blind.bind fun h => ?_
      exact (app.journal.logCommand_blind hunread _ _ _ _ _).discard.bind fun _ => hlast
  · exact fail_blind _

/-! ## Calls -/

theorem isPrivileged_blind (hunread : Unread change) (app : App) :
    Blind change app.isPrivileged := by
  unfold isPrivileged
  split
  · exact host_blind.bind fun _ => pure_blind _
  · exact (call_blind hunread _ _).bind fun _ => pure_blind _

theorem requirePrivilege_blind (hunread : Unread change) (app : App) (c : Command) :
    Blind change (app.requirePrivilege c) := by
  unfold requirePrivilege
  split
  · refine (app.isPrivileged_blind hunread).bind fun granted => ?_
    split
    · exact pure_blind _
    · exact fail_blind _
  · exact pure_blind _

theorem run_blind (hunread : Unread change) (app : App) (c : Command) (argv : List Value) :
    Blind change (app.run c argv) := by
  refine (app.placeCursor_blind hunread).bind fun _ => (call_blind hunread _ _).bind fun _ => ?_
  exact (app.conclude_blind hunread _ _ _ _).bind fun _ => pure_blind _

end App

namespace Selection

theorem deliver_blind (hunread : Unread change) (s : Selection) (d : Extraction.Delivery) :
    Blind change (s.deliver d) := by
  unfold deliver
  split
  · exact call_blind hunread _ _
  · exact call_blind hunread _ _
  · exact fail_blind _

theorem deliverAll_blind (hunread : Unread change) (s : Selection)
    (deliveries : List Extraction.Delivery) : Blind change (s.deliverAll deliveries) := by
  induction deliveries with
  | nil => exact pure_blind _
  | cons d rest ih =>
      refine (note_blind hunread _).bind fun _ => (s.deliver_blind hunread d).bind fun answer => ?_
      split
      · exact ih
      · exact fail_blind _

theorem extract_blind (hunread : Unread change) (s : Selection) (argv : List Value) :
    Blind change (s.extract argv) := by
  unfold extract
  split
  · exact fail_blind _
  · dsimp only
    split
    · exact fail_blind _
    · refine (s.deliverAll_blind hunread _).bind fun _ => ?_
      split
      · exact fail_blind _
      · exact pure_blind _

end Selection

/-! ## Configuration -/

namespace App

theorem hideAt_blind (hunread : Unread change) (position : Nat) :
    Blind change (hideAt position) := by
  intro h s
  simp [hideAt, hunread.hide]

theorem configureFrom_blind (hunread : Unread change) (position : Nat) (commands : List Command) :
    Blind change (configureFrom position commands) := by
  induction commands generalizing position with
  | nil => exact pure_blind _
  | cons c rest ih =>
      unfold configureFrom
      cases c.configure with
      | none => exact ih _
      | some callback =>
          refine (call_blind hunread _ _).bind fun answer => ?_
          cases answer.number? with
          | none => exact fail_blind _
          | some n =>
              dsimp only
              split
              · exact (hideAt_blind hunread position).bind fun _ => ih _
              · exact ih _

theorem configure_blind (hunread : Unread change) (app : App) : Blind change app.configure := by
  refine Blind.session (fun s => ?_) fun s => ?_
  · split
    · exact pure_blind _
    · have hbegin : Blind change (update fun session => { session with configured := true }) := by
        intro h s
        simp [hunread.begin]
      exact hbegin.bind fun _ => configureFrom_blind hunread 0 app.commands
  · rw [hunread.configured]

end App

end CommandDispatch
