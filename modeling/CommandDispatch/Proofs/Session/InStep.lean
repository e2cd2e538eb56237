import CommandDispatch.Proofs.Session.Growth

/-! # Two runs in step

Two runs that begin in related sessions go in step if they end with the same result, in sessions
that are related again. The first run may also be stopped by a failure that the second one is
spared. Then the second run came through a session that is related to the one in which the first run
stopped, and went on from there. What actions are made of goes in step as soon as its parts do.
-/

namespace CommandDispatch

namespace Session

/-- A later session that has grown, and in which files were only added to. -/
structure Extends (s t : Session) : Prop extends Grows s t where
  files : ∃ added, t.files = s.files.appendAll added

theorem Extends.of_files_eq {s t : Session} (hgrows : s.Grows t) (hfiles : t.files = s.files) :
    s.Extends t :=
  ⟨hgrows, [], hfiles⟩

theorem Extends.trans {s t u : Session} (hfirst : s.Extends t) (hsecond : t.Extends u) :
    s.Extends u := by
  obtain ⟨added, hadded⟩ := hfirst.files
  obtain ⟨more, hmore⟩ := hsecond.files
  refine ⟨hfirst.toGrows.trans hsecond.toGrows, added ++ more, ?_⟩
  rw [hmore, hadded, FileStore.appendAll_appendAll]

/-- All steps of the engine extend the session. -/
theorem keptBySteps_extends : KeptBySteps Extends where
  refl s := .of_files_eq (keptBySteps_grows.refl s) rfl
  trans := Extends.trans
  print s p := .of_files_eq (keptBySteps_grows.print s p) rfl
  note s n := .of_files_eq (keptBySteps_grows.note s n) rfl
  append s place bytes := ⟨keptBySteps_grows.append s place bytes, [(place, bytes)], rfl⟩
  call s c := .of_files_eq (keptBySteps_grows.call s c) rfl
  configured s := .of_files_eq (keptBySteps_grows.configured s) rfl
  hide s position := .of_files_eq (keptBySteps_grows.hide s position) rfl

theorem keptByCalls_extends : KeptByCalls Extends := keptBySteps_extends.toKeptByCalls

theorem keptByOutput_extends : KeptByOutput Extends := keptByCalls_extends.toKeptByOutput

end Session

open Session

namespace Action

variable {α β : Type} {h : Host} {stops : Failure → Prop} {R : Session → Session → Prop}

/-- The ends of two runs in step: the results are the same and the sessions related, or the first
run was stopped where the second one went on. -/
def EndInStep (stops : Failure → Prop) (R : Session → Session → Prop)
    (first second : Except Failure α × Session) : Prop :=
  second.1 = first.1 ∧ R first.2 second.2 ∨
    ∃ failure, stops failure ∧ first.1 = .error failure ∧ ∃ u, R first.2 u ∧ u.Extends second.2

/-- Two actions that go in step wherever they begin. -/
structure InStep (h : Host) (stops : Failure → Prop) (R : Session → Session → Prop)
    (first second : Action α) : Prop where
  leads : second.Leads Extends
  ends : ∀ s t, R s t → EndInStep stops R (first.run h s) (second.run h t)

variable {first second : Action α} {next next' : α → Action β}

/-- What comes next goes in step if it does so from where both runs have got to, with one result. -/
theorem EndInStep.bind {s t : Session}
    (hends : EndInStep stops R (first.run h s) (second.run h t))
    (hleads : ∀ a, (next' a).Leads Extends)
    (hnext : ∀ a u v, first.run h s = (.ok a, u) → R u v →
      EndInStep stops R ((next a).run h u) ((next' a).run h v)) :
    EndInStep stops R ((first >>= next).run h s) ((second >>= next').run h t) := by
  rw [run_bind, run_bind]
  cases hrun : first.run h s with
  | mk result u =>
      cases hrun' : second.run h t with
      | mk result' v =>
          rw [hrun, hrun'] at hends
          rcases hends with ⟨hresult, hrelated⟩ | ⟨failure, hstops, hfailed, w, hrelated, hextends⟩
          · obtain rfl : result' = result := hresult
            cases result' with
            | ok a => exact hnext a u v hrun hrelated
            | error _ => exact .inl ⟨rfl, hrelated⟩
          · obtain rfl : result = .error failure := hfailed
            refine .inr ⟨failure, hstops, rfl, w, hrelated, ?_⟩
            cases result' with
            | ok a => exact keptByOutput_extends.trans hextends (hleads a h v)
            | error _ => exact hextends

/-- What is left of a result when faults are caught. -/
def caught : Except Failure α → Except Failure (Except Fault α)
  | .ok a => .ok (.ok a)
  | .error (.fault f) => .ok (.error f)
  | .error failure => .error failure

theorem result_eq_of_caught {result : Except Failure α} {a : α}
    (hcaught : caught result = .ok (.ok a)) : result = .ok a := by
  cases result with
  | ok b => rw [Except.ok.inj (Except.ok.inj hcaught)]
  | error failure => cases failure <;> cases hcaught

theorem result_run_catchFault (action : Action α) (h : Host) (s : Session) :
    (action.catchFault.run h s).1 = caught (action.run h s).1 := by
  unfold catchFault
  dsimp only
  cases action.run h s with
  | mk result t =>
      cases result with
      | ok a => rfl
      | error failure => cases failure <;> rfl

theorem session_run_catchFault (action : Action α) (h : Host) (s : Session) :
    (action.catchFault.run h s).2 = (action.run h s).2 := by
  unfold catchFault
  dsimp only
  cases action.run h s with
  | mk result t =>
      cases result with
      | ok a => rfl
      | error failure => cases failure <;> rfl

/-- Faults are caught in both runs, if a fault never stops the first one only. -/
theorem EndInStep.catchFault {s t : Session} (hstops : ∀ f, ¬ stops (.fault f))
    (hends : EndInStep stops R (first.run h s) (second.run h t)) :
    EndInStep stops R (first.catchFault.run h s) (second.catchFault.run h t) := by
  rcases hends with ⟨hresult, hrelated⟩ | ⟨failure, hstop, hfailed, u, hrelated, hextends⟩
  · refine .inl ⟨?_, ?_⟩
    · rw [result_run_catchFault, result_run_catchFault, hresult]
    · rwa [session_run_catchFault, session_run_catchFault]
  · refine .inr ⟨failure, hstop, ?_, u, ?_, ?_⟩
    · rw [result_run_catchFault, hfailed]
      cases failure with
      | fault f => exact absurd hstop (hstops f)
      | _ => rfl
    · rwa [session_run_catchFault]
    · rwa [session_run_catchFault]

namespace InStep

theorem bind (hfirst : InStep h stops R first second)
    (hnext : ∀ a, InStep h stops R (next a) (next' a)) :
    InStep h stops R (first >>= next) (second >>= next') where
  leads := Leads.bind keptByOutput_extends hfirst.leads fun a => (hnext a).leads
  ends s t hrelated := (hfirst.ends s t hrelated).bind (fun a => (hnext a).leads)
    fun a u v _ hrelated => (hnext a).ends u v hrelated

/-- Results that are there already. -/
theorem ofExcept (result : Except Failure α) :
    InStep h stops R (Action.ofExcept result) (Action.ofExcept result) where
  leads := ofExcept_leads keptByOutput_extends result
  ends _ _ hrelated := .inl ⟨rfl, hrelated⟩

theorem pure (a : α) : InStep h stops R (Pure.pure a : Action α) (Pure.pure a) :=
  ofExcept (.ok a)

theorem fail (failure : Failure) :
    InStep h stops R (Action.fail failure : Action α) (Action.fail failure) :=
  ofExcept (.error failure)

theorem host : InStep h stops R Action.host Action.host where
  leads := host_leads keptByOutput_extends
  ends _ _ hrelated := .inl ⟨rfl, hrelated⟩

theorem ite {p : Prop} [Decidable p] {other other' : Action α}
    (haction : InStep h stops R first second) (hother : InStep h stops R other other') :
    InStep h stops R (if p then first else other) (if p then second else other') := by
  split
  · exact haction
  · exact hother

/-- An action that is skipped under a condition. -/
theorem skip {p : Prop} [Decidable p] {first second : Action Unit} {next next' : Unit → Action β}
    (haction : InStep h stops R first second)
    (hnext : ∀ a, InStep h stops R (next a) (next' a)) :
    InStep h stops R (if p then next () else first >>= next)
      (if p then next' () else second >>= next') :=
  ite (hnext ()) (haction.bind hnext)

/-- What related sessions agree on may be looked at. -/
theorem view {γ : Type} (look : Session → γ) (hlook : ∀ s t, R s t → look t = look s)
    {next next' : γ → Action β} (hnext : ∀ c, InStep h stops R (next c) (next' c)) :
    InStep h stops R (session >>= fun s => next (look s))
      (session >>= fun s => next' (look s)) where
  leads := Leads.bind keptByOutput_extends (session_leads keptByOutput_extends) fun s =>
    (hnext (look s)).leads
  ends s t hrelated := by
    rw [run_bind, run_session, run_bind, run_session]
    dsimp only
    rw [hlook s t hrelated]
    exact (hnext (look s)).ends s t hrelated

theorem discard (haction : InStep h stops R first second) :
    InStep h stops R (Functor.discard first) (Functor.discard second) :=
  haction.bind fun _ => pure ()

theorem catchFault (hstops : ∀ f, ¬ stops (.fault f)) (haction : InStep h stops R first second) :
    InStep h stops R first.catchFault second.catchFault where
  leads := Leads.catchFault haction.leads
  ends s t hrelated := (haction.ends s t hrelated).catchFault hstops

end InStep

end Action

end CommandDispatch
