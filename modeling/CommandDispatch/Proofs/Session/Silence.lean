import CommandDispatch.Proofs.Session.Building

/-! # Faults before any output

A preparation prints nothing but help. The pages of the engine are shown without a fault, and once
help is shown nothing is left to be done. So an invocation that ends with a fault before its handler
is called has printed nothing.
-/

namespace CommandDispatch

open CommandDispatch.Action

namespace Action

variable {α β : Type}

/-- No run of the action ends with a fault. -/
def FaultFree (action : Action α) : Prop := ∀ h s, Faultless (action.run h s).1

theorem FaultFree.bind {action : Action α} {next : α → Action β} (haction : action.FaultFree)
    (hnext : ∀ a, (next a).FaultFree) : (action >>= next).FaultFree := by
  intro h s
  have hfirst := haction h s
  refine run_bind_cases (P := fun ended => Faultless ended.1) (fun a t _ => hnext a h t) ?_
  intro failure t hrun
  rw [hrun] at hfirst
  rintro f ⟨⟩
  exact hfirst f rfl

theorem pure_faultFree (a : α) : (pure a : Action α).FaultFree :=
  fun _ _ _ hfault => by cases hfault

theorem host_faultFree : host.FaultFree := fun _ _ _ hfault => by cases hfault

theorem session_faultFree : session.FaultFree := fun _ _ _ hfault => by cases hfault

theorem ofExcept_faultFree {result : Except Failure α} (hfaultless : Faultless result) :
    (ofExcept result).FaultFree :=
  fun _ _ => hfaultless

/-- What the console cannot read is no fault. -/
theorem print_faultFree (stream : Stream) (message : Message) :
    (print stream message).FaultFree := by
  intro h s f hfault
  rw [run_print] at hfault
  cases hflaw : message.flaw? with
  | none =>
      rw [hflaw] at hfault
      cases hfault
  | some flaw =>
      rw [hflaw] at hfault
      cases hfault

/-- Every run of the action prints nothing, or its end is of a kind. -/
def SilentOr (Q : Except Failure α → Prop) (action : Action α) : Prop :=
  ∀ h s, (action.run h s).2.printed = s.printed ∨ Q (action.run h s).1

/-- What is silent comes first. -/
theorem SilentOr.bind {Q : Except Failure β → Prop} {action : Action α} {next : α → Action β}
    (hbuilt : action.Built true) (hnext : ∀ a, (next a).SilentOr Q) :
    (action >>= next).SilentOr Q := by
  intro h s
  have hfirst := hbuilt.printed_run h s
  refine run_bind_cases (P := fun ended => ended.2.printed = s.printed ∨ Q ended.1)
    (fun a t hrun => ?_) fun _ t hrun => ?_
  · rw [hrun] at hfirst
    rw [← hfirst]
    exact hnext a h t
  · rw [hrun] at hfirst
    exact .inl hfirst

end Action

theorem Reporter.infoAll_faultFree (r : Reporter) (messages : List Message) :
    (r.infoAll messages).FaultFree := by
  induction messages with
  | nil => exact pure_faultFree ()
  | cons message rest ih => exact (print_faultFree _ _).bind fun _ => ih

namespace App

theorem showHelp_faultFree (app : App) : app.showHelp.FaultFree := by
  refine host_faultFree.bind fun h => ?_
  refine (ofExcept_faultFree (Help.faultless_look app h)).bind fun look => ?_
  refine session_faultFree.bind fun session => ?_
  refine (app.reporter.infoAll_faultFree _).bind fun _ => ?_
  exact (ofExcept_faultFree (Help.faultless_usageLine look app.info)).bind fun _ =>
    app.reporter.infoAll_faultFree _

end App

end CommandDispatch
