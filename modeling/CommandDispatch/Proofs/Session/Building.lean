import CommandDispatch.Proofs.Session.Growth

/-! # What a preparation is built of

Whatever comes before the handler of a command is built of a few parts, one after the other: results
that are there already, looks at the host and at the session, changes that leave the files alone,
and calls. So it never notices which operations on the journal fail, its faults have a message and a
code and are created anew as they were if that is so for those of the callbacks, and only callbacks
add to files. All of it is silent but help.
-/

namespace CommandDispatch

/-- A fault with a message and a code. -/
structure Fault.Complete (f : Fault) : Prop where
  message : f.message.isSome = true
  code : f.code.isSome = true

/-- A fault as the engine makes it: it is of one of the engine's own kinds, and never brings a hint
of its own. -/
structure Fault.Plain (f : Fault) : Prop extends f.Complete where
  kind : ∀ faults, f.kind ≠ .custom faults
  hint : ∀ v, f.hint ≠ .given v

theorem Fault.ofCode_plain (code : FaultCode) (message : Text) : (ofCode code message).Plain :=
  ⟨⟨rfl, rfl⟩, nofun, nofun⟩

theorem Fault.about_plain (code : FaultCode) (message : Text) (word : Value) :
    (about code message word).Plain :=
  ⟨⟨rfl, rfl⟩, nofun, nofun⟩

/-- No callback adds to a file. -/
def Host.Quiet (h : Host) : Prop :=
  ∀ callback earlier request, (h.answer callback earlier request).appended = none

/-- If a result is a fault, then one of the engine. -/
def FaultPlain {α : Type} (result : Except Failure α) : Prop :=
  ∀ f, result = .error (.fault f) → f.Plain

theorem FaultPlain.ok {α : Type} (a : α) : FaultPlain (.ok a) := fun _ hfault => by cases hfault

theorem FaultPlain.plain {α : Type} {f : Fault} (hplain : f.Plain) :
    FaultPlain (.error (.fault f) : Except Failure α) := by
  rintro _ ⟨⟩
  exact hplain

/-- A result that is no fault. -/
def Faultless {α : Type} (result : Except Failure α) : Prop := ∀ f, result ≠ .error (.fault f)

theorem Faultless.faultPlain {α : Type} {result : Except Failure α}
    (hfaultless : Faultless result) : FaultPlain result :=
  fun f hfault => absurd hfault (hfaultless f)

/-- A path that leads to no file is no fault. -/
theorem FileStore.faultless_appendAt (store : FileStore) (path : Value) (bytes : Bytes) :
    Faultless (store.appendAt path bytes) := by
  unfold appendAt find
  intro f hfault
  split at hfault
  · split at hfault
    · split at hfault
      · cases hfault
      · cases hlocate : store.locate _ with
        | ok _ =>
            rw [hlocate] at hfault
            cases hfault
        | error _ =>
            rw [hlocate] at hfault
            cases hfault
    · cases hfault
  · split at hfault
    · split at hfault
      · cases hfault
      · split at hfault <;> cases hfault
    · cases hfault

namespace Action

/-- An action that is built of the parts of preparations. A silent one prints nothing. -/
inductive Built (silent : Bool) : {α : Type} → Action α → Prop where
  | ofExcept {α : Type} {result : Except Failure α} (hplain : FaultPlain result) :
      Built silent (ofExcept result)
  | bind {α β : Type} {action : Action α} {next : α → Action β} (haction : Built silent action)
      (hnext : ∀ a, Built silent (next a)) : Built silent (action >>= next)
  | host {β : Type} {next : Host → Action β}
      (hblind : ∀ h failures, next { h with failures } = next h)
      (hnext : ∀ h, Built silent (next h)) : Built silent (host >>= next)
  | session : Built silent session
  | update {change : Session → Session} (hfiles : ∀ s, (change s).files = s.files)
      (hprinted : silent = true → ∀ s, (change s).printed = s.printed) :
      Built silent (update change)
  | call (callback : Callback) (request : Request) : Built silent (call callback request)

variable {α β : Type} {action : Action α} {silent : Bool}

/-- It is not noticed which operations on the journal fail. -/
theorem Built.run_failures (hbuilt : action.Built silent) (h : Host) (failures : Failures)
    (s : Session) : action.run { h with failures } s = action.run h s := by
  induction hbuilt generalizing s with
  | ofExcept | session | update | call => rfl
  | @bind α β action next _ _ ihaction ihnext =>
      rw [run_bind, ihaction, run_bind]
      cases action.run h s with
      | mk result t =>
          cases result with
          | ok a => exact ihnext a t
          | error _ => rfl
  | @host β next hblind _ ih =>
      have hnext := congrArg (fun action => action.run { h with failures } s) (hblind h failures)
      exact hnext.trans (ih h s)

/-- Such an action leaves the files alone if the callbacks do. -/
theorem Built.files_run (hbuilt : action.Built silent) {h : Host} (hquiet : h.Quiet) (s : Session) :
    (action.run h s).2.files = s.files := by
  induction hbuilt generalizing s with
  | ofExcept | session => rfl
  | update hfiles _ => exact hfiles s
  | @bind α β action next _ _ ihaction ihnext =>
      have hfirst := ihaction s
      refine run_bind_cases (P := fun ended => ended.2.files = s.files) (fun a t hrun => ?_) ?_
      · rw [hrun] at hfirst
        exact (ihnext a t).trans hfirst
      · intro _ t hrun
        rw [hrun] at hfirst
        exact hfirst
  | host _ _ ih => exact ih h s
  | call callback request =>
      simp only [Action.call]
      rw [hquiet]

theorem Built.printed_run (hbuilt : action.Built true) (h : Host) (s : Session) :
    (action.run h s).2.printed = s.printed := by
  induction hbuilt generalizing s with
  | ofExcept | session => rfl
  | update _ hprinted => exact hprinted rfl s
  | @bind α β action next _ _ ihaction ihnext =>
      have hfirst := ihaction s
      refine run_bind_cases (P := fun ended => ended.2.printed = s.printed) (fun a t hrun => ?_) ?_
      · rw [hrun] at hfirst
        exact (ihnext a t).trans hfirst
      · intro _ t hrun
        rw [hrun] at hfirst
        exact hfirst
  | host _ _ ih => exact ih h s
  | call callback request =>
      simp only [Action.call]
      split
      · split <;> rfl
      · rfl

/-! ## The parts -/

theorem pure_built (a : α) : (pure a : Action α).Built silent :=
  show Built silent (ofExcept (.ok a)) from .ofExcept (.ok a)

theorem fail_built {failure : Failure} (hplain : FaultPlain (.error failure : Except Failure α)) :
    (fail failure : Action α).Built silent :=
  show Built silent (ofExcept (.error failure)) from .ofExcept hplain

theorem fail_plain_built {f : Fault} (hplain : f.Plain) :
    (fail (.fault f) : Action α).Built silent :=
  fail_built (.plain hplain)

theorem note_built (n : Note) : (note n).Built silent :=
  .update (fun _ => rfl) fun _ _ => rfl

theorem print_built (stream : Stream) (message : Message) : (print stream message).Built false := by
  refine .bind (.update (fun _ => rfl) fun hsilent => by cases hsilent) fun _ => ?_
  unfold failIf
  cases message.flaw? with
  | none => exact pure_built ()
  | some flaw => exact fail_built fun _ hfault => by cases hfault

/-- An action that is skipped under a condition. -/
theorem Built.skip {p : Prop} [Decidable p] {first : Action Unit} {next : Unit → Action β}
    (hfirst : first.Built silent) (hnext : ∀ a, (next a).Built silent) :
    (if p then next () else first >>= next).Built silent := by
  split
  · exact hnext ()
  · exact .bind hfirst hnext

theorem Built.discard (hbuilt : action.Built silent) : (Functor.discard action).Built silent :=
  .bind hbuilt fun _ => pure_built ()

end Action

open CommandDispatch.Action

/-- What keeps a command from being selected is a fault of the engine, or the name of an entry that
is no text. -/
theorem Command.faultPlain_select (c : Command) (rest : List Value) :
    FaultPlain (c.select rest) := by
  unfold select
  split
  next => exact .ok _
  next => exact .ok _
  next scope parse _ =>
    split
    · exact .plain (Fault.ofCode_plain _ _)
    · exact .plain (Fault.ofCode_plain _ _)
    next flag name _ =>
      split
      · unfold Namespace.find?
        cases name with
        | text t =>
            dsimp only
            cases scope.entries.find? fun entry => Switch.sameName t entry.name with
            | some entry => exact .ok _
            | none => exact .plain (Fault.about_plain _ _ _)
        | list | styled => exact .plain (Fault.about_plain _ _ _)
        | collection c contents =>
            cases contents with
            | sequence => exact .plain (Fault.about_plain _ _ _)
            | record | set => exact fun _ hfault => by cases hfault
        | null | bool | int | record | callback | spec => exact fun _ hfault => by cases hfault
      · exact .plain (Fault.about_plain _ _ _)

/-! ## Help -/

/-- What is no error is printed, and not written to the journal. -/
theorem Reporter.info_built (r : Reporter) (message : Message) : (r.info message).Built false :=
  print_built .output (message.colored r.colorful)

theorem Reporter.infoAll_built (r : Reporter) (messages : List Message) :
    (r.infoAll messages).Built false := by
  induction messages with
  | nil => exact pure_built ()
  | cons message rest ih => exact .bind (r.info_built message) fun _ => ih

theorem Host.faultless_palette (h : Host) (defaults : Palette) :
    Faultless (h.palette defaults) := by
  intro f hfault
  unfold palette at hfault
  split at hfault <;> cases hfault

theorem Help.faultless_look (app : App) (h : Host) : Faultless (Look.of app h) := by
  unfold Look.of
  have hpalette := h.faultless_palette palette
  intro f hfault
  cases hfound : h.palette palette with
  | ok _ =>
      rw [hfound] at hfault
      cases hfault
  | error _ =>
      rw [hfound] at hfault hpalette
      cases hfault
      exact hpalette f rfl

theorem Help.faultless_withTail (m : Message) (tail style : Value) :
    Faultless (withTail m tail style) := by
  intro f hfault
  unfold withTail at hfault
  split at hfault
  · cases hfault
  · cases hfault
  · split at hfault <;> cases hfault
  · cases hfault

theorem Help.faultless_usageLine (look : Look) (tail : Value) :
    Faultless (usageLine look tail) := by
  unfold usageLine
  dsimp only
  split
  · exact faultless_withTail _ _ _
  · exact faultless_withTail _ _ _
  · exact faultless_withTail _ _ _
  · exact faultless_withTail _ _ _
  · exact fun _ hfault => by cases hfault

namespace App

theorem showHelp_built (app : App) : app.showHelp.Built false := by
  refine .host (fun _ _ => rfl) fun h => ?_
  refine .bind (.ofExcept (Help.faultless_look app h).faultPlain) fun look => ?_
  refine .bind .session fun session => .bind (app.reporter.infoAll_built _) fun _ => ?_
  exact .bind (.ofExcept (Help.faultless_usageLine look app.info).faultPlain) fun _ =>
    app.reporter.infoAll_built _

theorem showCommandHelp_built (app : App) (c : Command) : (app.showCommandHelp c).Built false := by
  unfold showCommandHelp
  split
  · exact (Built.call _ _).discard
  · refine .host (fun _ _ => rfl) fun h => ?_
    exact .bind (.ofExcept (Help.faultless_look app h).faultPlain) fun look =>
      app.reporter.infoAll_built _

/-! ## Resolution -/

theorem isPrivileged_built (app : App) : app.isPrivileged.Built silent := by
  unfold isPrivileged
  split
  · exact .host (fun _ _ => rfl) fun h => pure_built _
  · exact .bind (.call _ _) fun _ => pure_built _

theorem requirePrivilege_built (app : App) (c : Command) :
    (app.requirePrivilege c).Built silent := by
  unfold requirePrivilege
  split
  · refine .bind app.isPrivileged_built fun granted => ?_
    split
    · exact pure_built _
    · exact fail_plain_built (Fault.ofCode_plain _ _)
  · exact pure_built _

theorem serve_built (app : App) (c : Command) (selector : Value) (rest : List Value) :
    (app.serve c selector rest).Built false := by
  unfold serve
  split
  · exact (app.showCommandHelp_built c).skip fun _ => pure_built _
  · refine .bind (app.requirePrivilege_built c) fun _ => .bind (note_built _) fun _ => ?_
    exact .bind (.ofExcept (Command.faultPlain_select c rest)) fun _ => pure_built _

theorem configureFrom_built (position : Nat) (commands : List Command) :
    (configureFrom position commands).Built silent := by
  induction commands generalizing position with
  | nil => exact pure_built ()
  | cons c rest ih =>
      unfold configureFrom
      split
      · refine .bind (.call _ _) fun answer => ?_
        split
        · split
          · exact .bind (.update (fun _ => rfl) fun _ _ => rfl) fun _ => ih _
          · exact ih _
        · exact .bind (fail_built fun _ hfault => by cases hfault) fun _ => ih _
      · exact ih _

theorem configure_built (app : App) : app.configure.Built silent := by
  unfold configure
  refine .bind .session fun session => ?_
  split
  · exact pure_built ()
  · exact .bind (.update (fun _ => rfl) fun _ _ => rfl) fun _ => configureFrom_built 0 app.commands

theorem resolve_built (app : App) (argv : List Value) : (app.resolve argv).Built false := by
  unfold resolve
  split
  · split
    · split
      · rw [resolveCommand_eq]
        exact .bind app.configure_built fun _ => .bind .session fun _ => app.serve_built _ _ _
      · split
        · exact .bind app.showHelp_built fun _ => pure_built _
        · exact fail_plain_built (Fault.about_plain _ _ _)
    · exact fail_plain_built (Fault.about_plain _ _ _)
  · exact fail_plain_built (Fault.ofCode_plain _ _)

end App

/-! ## Extraction -/

namespace Extraction

theorem occurrenceFault?_plain {words : List Value} {o : OptionSpec} {f : Fault}
    (hfault : occurrenceFault? words o = some f) : f.Plain := by
  unfold occurrenceFault? at hfault
  split at hfault
  · cases hfault
    exact Fault.ofCode_plain _ _
  · split at hfault
    · cases hfault
      exact Fault.ofCode_plain _ _
    · cases hfault

theorem audit_plain {schema : List OptionSpec} {words : List Value} {f : Fault}
    (haudit : audit schema words = some f) : f.Plain := by
  obtain ⟨o, -, hfault⟩ := List.exists_of_findSome?_eq_some haudit
  exact occurrenceFault?_plain hfault

theorem planGroups_plain {schema : List OptionSpec} {groups : List Group} {f : Fault}
    (hstop : (planGroups schema groups).stop = some f) : f.Plain := by
  induction groups with
  | nil => cases hstop
  | cons g rest ih =>
      simp only [planGroups] at hstop
      split at hstop
      next =>
        cases hstop
        exact Fault.about_plain _ _ _
      next o _ =>
        split at hstop
        · split at hstop
          · cases hstop
            exact Fault.about_plain _ _ _
          · exact ih hstop
        · split at hstop
          · exact ih hstop
          · cases hstop
            exact Fault.about_plain _ _ _

theorem plan_plain {schema : List OptionSpec} {words : List Value} {f : Fault}
    (hstop : (plan schema words).stop = some f) : f.Plain := by
  unfold plan at hstop
  split at hstop
  · exact planGroups_plain hstop
  · cases hstop
    exact Fault.about_plain _ _ _

theorem undeliverable_plain : undeliverable.Plain :=
  ⟨⟨rfl, rfl⟩, nofun, nofun⟩

end Extraction

namespace Selection

open Extraction

theorem deliver_built (s : Selection) (d : Delivery) : (s.deliver d).Built silent := by
  unfold deliver
  split
  · exact .call _ _
  · exact .call _ _
  · exact fail_plain_built undeliverable_plain

theorem deliverAll_built (s : Selection) (deliveries : List Delivery) :
    (s.deliverAll deliveries).Built silent := by
  induction deliveries with
  | nil => exact pure_built ()
  | cons d rest ih =>
      refine .bind (note_built _) fun _ => .bind (s.deliver_built d) fun answer => ?_
      split
      · exact ih
      · exact fail_plain_built (Fault.ofCode_plain _ _)

theorem extract_built (s : Selection) (argv : List Value) : (s.extract argv).Built silent := by
  unfold extract
  split
  · exact fail_built fun _ hfault => by cases hfault
  · dsimp only
    split
    next haudit => exact fail_plain_built (audit_plain haudit)
    next =>
      refine .bind (s.deliverAll_built _) fun _ => ?_
      split
      next hstop => exact fail_plain_built (plan_plain hstop)
      next => exact pure_built ()

end Selection

/-- Everything that comes before the handler of a command is built of such parts. -/
theorem App.prepare_built (app : App) (argv : List Value) : (app.prepare argv).Built false := by
  unfold prepare
  refine .bind (app.resolve_built argv) fun resolution => ?_
  split
  · exact pure_built _
  · dsimp only
    split
    · exact .bind (Selection.extract_built _ _) fun _ => pure_built _
    · exact pure_built _

end CommandDispatch
