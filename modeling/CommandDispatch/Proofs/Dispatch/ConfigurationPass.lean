import CommandDispatch.Proofs.Dispatch.Order

/-! # The configuration pass

One pass over the table asks the configuration callbacks in their order, up to the first one that
gives no number. A command is hidden in it only when its own callback has answered with a negative
number. What an invocation does besides asks no configuration callback and hides nothing.
-/

namespace CommandDispatch

open CommandDispatch.Action

/-- A call that asks a callback to configure its command. -/
def Call.configures (call : Call) : Bool := call.request matches .configure

namespace Session

/-- A later session in which no command was configured meanwhile. -/
structure Onward (s t : Session) : Prop where
  configured : t.configured = s.configured
  hidden : t.hidden = s.hidden
  calls : ∃ made, t.calls = s.calls ++ made ∧ ∀ call ∈ made, call.configures = false

theorem Onward.refl (s : Session) : s.Onward s :=
  ⟨rfl, rfl, [], (List.append_nil _).symm, List.forall_mem_nil _⟩

theorem Onward.trans {s t u : Session} (hfirst : s.Onward t) (hsecond : t.Onward u) :
    s.Onward u := by
  obtain ⟨made, hcalls, hmade⟩ := hfirst.calls
  obtain ⟨more, hcalls', hmore⟩ := hsecond.calls
  refine ⟨hsecond.configured.trans hfirst.configured, hsecond.hidden.trans hfirst.hidden,
    made ++ more, ?_, ?_⟩
  · rw [hcalls', hcalls, List.append_assoc]
  · exact List.forall_mem_append.2 ⟨hmade, hmore⟩

theorem keptByOutput_onward : KeptByOutput Onward where
  refl := Onward.refl
  trans := Onward.trans
  print s _ := ⟨rfl, rfl, (Onward.refl s).calls⟩
  note s _ := ⟨rfl, rfl, (Onward.refl s).calls⟩
  append s _ _ := ⟨rfl, rfl, (Onward.refl s).calls⟩

theorem Onward.filter_calls {s t : Session} (honward : s.Onward t) :
    t.calls.filter Call.configures = s.calls.filter Call.configures := by
  obtain ⟨made, hcalls, hmade⟩ := honward.calls
  have hnone : made.filter Call.configures = [] := by
    simpa [List.filter_eq_nil_iff] using hmade
  rw [hcalls, List.filter_append, hnone, List.append_nil]

end Session

open Session

namespace App

variable {h : Host} {s : Session}

/-! ## What follows the configuration -/

theorem serve_onward (app : App) (c : Command) (selector : Value) (rest : List Value) :
    (app.serve c selector rest).Leads Onward := by
  intro h s
  refine ⟨app.serve_leads keptByCalls_configured c selector rest h s,
    app.serve_leads keptByCalls_hidden c selector rest h s, ?_⟩
  cases hhelp : rest.any isHelp with
  | true =>
      refine ⟨_, (app.run_serve_of_help c selector hhelp).1, fun call hcall => ?_⟩
      split at hcall
      · cases hcall
      · simp [Call.configures, request_of_mem_helpCalls hcall]
  | false =>
      refine ⟨_, (app.run_serve_of_not_help c selector hhelp).1, fun call hcall => ?_⟩
      split at hcall
      · simp [Call.configures, request_of_mem_probes hcall]
      · cases hcall

theorem extract_onward (selection : Selection) (argv : List Value) :
    (selection.extract argv).Leads Onward := by
  intro h s
  refine ⟨selection.extract_leads keptByCalls_configured argv h s,
    selection.extract_leads keptByCalls_hidden argv h s, ?_⟩
  obtain ⟨made, hcalls, hmade⟩ := selection.calls_run_extract argv
  refine ⟨made, hcalls, fun call hcall => ?_⟩
  have hoption := hmade call hcall
  unfold Command.IsOptionCall at hoption
  split at hoption
  next => exact hoption.elim
  next =>
    obtain ⟨_, _, rfl⟩ := hoption
    rfl
  next =>
    obtain ⟨_, _, _, rfl⟩ := hoption
    rfl

theorem run_onward (app : App) (c : Command) (argv : List Value) :
    (app.run c argv).Leads Onward := by
  intro h s
  refine ⟨app.run_leads keptByCalls_configured c argv h s,
    app.run_leads keptByCalls_hidden c argv h s, ?_⟩
  obtain ⟨handled, hcalls, hhandled, -⟩ := app.calls_run_run c argv
  refine ⟨handled, hcalls, fun call hcall => ?_⟩
  rcases hhandled with rfl | rfl
  · cases hcall
  · rw [List.mem_singleton.1 hcall]
    rfl

/-- What an invocation does once its resolution is where a session goes on from. -/
theorem onward_run_dispatch {app : App} {argv : List Value} {u : Session}
    (hresolve : u.Onward ((app.resolve argv).run h s).2) :
    u.Onward ((app.dispatch argv).run h s).2 := by
  have hkept := keptByOutput_onward
  have hprepare : u.Onward ((app.prepare argv).run h s).2 := by
    rw [run_prepare]
    split
    next hrun => rwa [hrun] at hresolve
    next selection t hrun =>
      rw [hrun] at hresolve
      have hextract := hresolve.trans (extract_onward selection argv h t)
      split
      · split
        next hextracted => rwa [hextracted] at hextract
        next hextracted => rwa [hextracted] at hextract
      · exact hresolve
    next hrun => rwa [hrun] at hresolve
  rw [run_dispatch]
  split
  next hrun => rwa [hrun] at hprepare
  next selection t hrun =>
    rw [hrun] at hprepare
    exact hprepare.trans (app.run_onward _ argv h t)
  next f t hrun =>
    rw [hrun] at hprepare
    exact hprepare.trans (f.trigger_leads hkept app {} h t)
  next hrun => rwa [hrun] at hprepare

/-! ## The configuration -/

/-- The command at a position was asked in its turn, before anything else that an action asked, and
its callback answered with a negative number. -/
def Withdraws (h : Host) (commands : List Command) (position : Nat) (s t : Session) : Prop :=
  ∃ c callback later v n, c ∈ commands[position]? ∧ c.configure = some callback ∧
    t.calls = s.calls ++ configurations (commands.take position) ++
      ⟨callback, .configure⟩ :: later ∧
    (h.reply (s.calls ++ configurations (commands.take position)) ⟨callback, .configure⟩).Returns
      s.files v ∧
    v.number? = some n ∧ n < 0

theorem Withdraws.onward {commands : List Command} {position : Nat} {t u : Session}
    (hwithdraws : Withdraws h commands position s t) (honward : t.Onward u) :
    Withdraws h commands position s u := by
  obtain ⟨c, callback, later, v, n, hc, hconfigure, hcalls, hreply⟩ := hwithdraws
  obtain ⟨made, hmade, -⟩ := honward.calls
  refine ⟨c, callback, later ++ made, v, n, hc, hconfigure, ?_, hreply⟩
  rw [hmade, hcalls, List.append_assoc, List.cons_append]

/-- What became of the commands that are configured from a position on: their callbacks were asked in
their order, perhaps not all of them, and only what was withdrawn is hidden. -/
structure Configures (h : Host) (position : Nat) (commands : List Command) (s t : Session) :
    Prop where
  configured : t.configured = s.configured
  calls : ∃ made, made <+: configurations commands ∧ t.calls = s.calls ++ made
  keeps : s.hidden ⊆ t.hidden
  hides : ∀ i ∈ t.hidden, i ∈ s.hidden ∨ ∃ k, i = position + k ∧ Withdraws h commands k s t

/-- A command without a callback makes no difference to the ones behind it. -/
theorem Withdraws.cons_of_eq_none {c : Command} {commands : List Command} {k : Nat} {t : Session}
    (hconfigure : c.configure = none) (hwithdraws : Withdraws h commands k s t) :
    Withdraws h (c :: commands) (k + 1) s t := by
  obtain ⟨d, callback, later, v, n, hd, hrest⟩ := hwithdraws
  refine ⟨d, callback, later, v, n, by simpa using hd, ?_⟩
  rwa [List.take_succ_cons, configurations_cons_of_eq_none hconfigure]

/-- Behind the call of a command come those of the other ones. -/
theorem Withdraws.cons_of_eq_some {c : Command} {callback : Callback} {commands : List Command}
    {k : Nat} {t u : Session} (hconfigure : c.configure = some callback) (hgrows : s.Grows t)
    (hcalls : t.calls = s.calls ++ [⟨callback, .configure⟩])
    (hwithdraws : Withdraws h commands k t u) : Withdraws h (c :: commands) (k + 1) s u := by
  obtain ⟨d, other, later, v, n, hd, hother, hmade, hreturns, hnegative⟩ := hwithdraws
  have hearlier : t.calls ++ configurations (commands.take k) =
      s.calls ++ configurations ((c :: commands).take (k + 1)) := by
    rw [List.take_succ_cons, configurations_cons_of_eq_some hconfigure, hcalls]
    simp
  rw [hearlier] at hmade hreturns
  exact ⟨d, other, later, v, n, by simpa using hd, hother, hmade,
    (Reply.returns_iff_of_grows hgrows).1 hreturns, hnegative⟩

theorem mem_hidden_hideIfNegative {n : Int} {position i : Nat} :
    i ∈ (hideIfNegative n position s).hidden ↔ i ∈ s.hidden ∨ i = position ∧ n < 0 := by
  unfold hideIfNegative
  split
  next hnegative => simp [hnegative, or_comm]
  next hnegative => simp [hnegative]

theorem configured_hideIfNegative (n : Int) (position : Nat) (s : Session) :
    (hideIfNegative n position s).configured = s.configured := by
  unfold hideIfNegative
  split <;> rfl

section Asking

variable {c : Command} {callback : Callback} {rest : List Command} {position : Nat}

/-- A command that is asked is left as it is if nothing comes of the answer. -/
theorem call_configures (hconfigure : c.configure = some callback) (h : Host) (position : Nat)
    (rest : List Command) (s : Session) :
    Configures h position (c :: rest) s ((Action.call callback .configure).run h s).2 := by
  have hhidden := call_leads keptByCalls_hidden callback .configure h s
  refine ⟨call_leads keptByCalls_configured callback .configure h s,
    ⟨_, ?_, calls_run_call callback .configure⟩, ?_, fun i hi => .inl ?_⟩
  · rw [configurations_cons_of_eq_some hconfigure]
    exact ⟨_, rfl⟩
  · rw [hhidden]
    exact List.Subset.refl _
  · rwa [hhidden] at hi

/-- A command whose callback answers with a number is hidden if that is negative, and then the ones
behind it are configured. -/
theorem Configures.cons {answer : Value} {n : Int} {t u : Session}
    (hconfigure : c.configure = some callback)
    (hrun : (Action.call callback .configure).run h s = (.ok answer, t))
    (hnumber : answer.number? = some n)
    (hrest : Configures h (position + 1) rest (hideIfNegative n position t) u) :
    Configures h position (c :: rest) s u := by
  have hasked := call_configures hconfigure h position rest s
  have hcalls := @calls_run_call h s callback .configure
  have hgrows := call_leads keptByCalls_grows callback .configure h s
  have hhidden := call_leads keptByCalls_hidden callback .configure h s
  have hanswer := @run_call_eq_ok_iff h s callback .configure
  simp only [hrun] at hasked hcalls hgrows hhidden hanswer
  have hasking : (hideIfNegative n position t).calls = s.calls ++ [⟨callback, .configure⟩] :=
    (hideIfNegative_calls n position t).trans hcalls
  obtain ⟨made, hmade, hcalls'⟩ := hrest.calls
  rw [hasking, List.append_assoc, List.singleton_append] at hcalls'
  refine ⟨?_, ⟨_, ?_, hcalls'⟩, fun i hi => ?_, fun i hi => ?_⟩
  · rw [hrest.configured, configured_hideIfNegative, hasked.configured]
  · rw [configurations_cons_of_eq_some hconfigure]
    exact (List.prefix_cons_inj _).2 hmade
  · exact hrest.keeps (mem_hidden_hideIfNegative.2 (.inl (hasked.keeps hi)))
  · rcases hrest.hides i hi with hi | ⟨k, rfl, hwithdraws⟩
    · rcases mem_hidden_hideIfNegative.1 hi with hi | ⟨rfl, hnegative⟩
      · rw [hhidden] at hi
        exact .inl hi
      · refine .inr ⟨0, rfl, c, callback, made, answer, n, rfl, hconfigure, ?_, ?_, hnumber,
          hnegative⟩
        · simpa [configurations] using hcalls'
        · simpa [configurations] using hanswer.1 rfl
    · refine .inr ⟨k + 1, by omega, ?_⟩
      exact hwithdraws.cons_of_eq_some hconfigure
        (hgrows.trans (grows_hideIfNegative n position t)) hasking

end Asking

theorem configureFrom_configures (h : Host) (position : Nat) (commands : List Command)
    (s : Session) :
    Configures h position commands s ((configureFrom position commands).run h s).2 := by
  induction commands generalizing position s with
  | nil =>
      exact ⟨rfl, ⟨[], List.prefix_rfl, (List.append_nil _).symm⟩, List.Subset.refl _,
        fun i hi => .inl hi⟩
  | cons c rest ih =>
      rw [run_configureFrom_cons]
      cases hconfigure : c.configure with
      | none =>
          have hrest := ih (position + 1) s
          refine ⟨hrest.configured, ?_, hrest.keeps, fun i hi => (hrest.hides i hi).imp_right ?_⟩
          · rw [configurations_cons_of_eq_none hconfigure]
            exact hrest.calls
          · rintro ⟨k, rfl, hwithdraws⟩
            exact ⟨k + 1, by omega, hwithdraws.cons_of_eq_none hconfigure⟩
      | some callback =>
          have hasked := call_configures hconfigure h position rest s
          dsimp only
          cases hrun : (Action.call callback .configure).run h s with
          | mk result t =>
              rw [hrun] at hasked
              cases result with
              | error failure => exact hasked
              | ok answer =>
                  dsimp only
                  cases hnumber : answer.number? with
                  | none => exact hasked
                  | some n => exact (ih (position + 1) _).cons hconfigure hrun hnumber

/-- The commands are configured if that was not begun before. -/
theorem run_configure_cases (app : App) (h : Host) (s : Session) :
    s.configured = true ∧ (app.configure.run h s).2 = s ∨
      s.configured = false ∧ (app.configure.run h s).2.configured = true ∧
        Configures h 0 app.commands { s with configured := true } (app.configure.run h s).2 := by
  cases hconfigured : s.configured with
  | true =>
      rw [app.run_configure_of_configured h hconfigured]
      exact .inl ⟨rfl, rfl⟩
  | false =>
      rw [app.run_configure_of_fresh h hconfigured]
      have hpass := configureFrom_configures h 0 app.commands { s with configured := true }
      exact .inr ⟨rfl, hpass.configured, hpass⟩

end App

end CommandDispatch
