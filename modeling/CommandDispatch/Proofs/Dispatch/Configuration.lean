import CommandDispatch.Proofs.Session.Growth

/-! # Configuring the command table

The configuration callbacks are asked once, in the order of the table. When each of them answers
with a number, the whole table is configured, whichever commands are hidden by it.
-/

namespace CommandDispatch.App

/-- The calls that configure commands: one for each command with a callback for it. -/
def configurations (commands : List Command) : List Call :=
  commands.filterMap fun c => c.configure.map fun callback => ⟨callback, .configure⟩

theorem configurations_cons_of_eq_none {c : Command} (hconfigure : c.configure = none)
    (rest : List Command) : configurations (c :: rest) = configurations rest := by
  rw [configurations, List.filterMap_cons, hconfigure]
  rfl

theorem configurations_cons_of_eq_some {c : Command} {callback : Callback}
    (hconfigure : c.configure = some callback) (rest : List Command) :
    configurations (c :: rest) = ⟨callback, .configure⟩ :: configurations rest := by
  rw [configurations, List.filterMap_cons, hconfigure]
  rfl

theorem request_of_mem_configurations {commands : List Command} {call : Call}
    (hcall : call ∈ configurations commands) : call.request = .configure := by
  obtain ⟨c, -, hc⟩ := List.mem_filterMap.1 hcall
  obtain ⟨callback, -, rfl⟩ := Option.map_eq_some_iff.1 hc
  rfl

/-- Configuration callbacks answer with numbers; a call of another kind may answer anything. -/
def ConfiguresByNumber (call : Call) (v : Value) : Prop :=
  call.request = .configure → v.number?.isSome = true

variable {h : Host} {s : Session}

/-- Hides the command at a position if a number is negative. -/
def hideIfNegative (n : Int) (position : Nat) (s : Session) : Session :=
  if n < 0 then { s with hidden := position :: s.hidden } else s

theorem run_configureFrom_cons (position : Nat) (c : Command) (rest : List Command) :
    (configureFrom position (c :: rest)).run h s =
      match c.configure with
      | none => (configureFrom (position + 1) rest).run h s
      | some callback =>
          match (Action.call callback .configure).run h s with
          | (.ok answer, t) =>
              match answer.number? with
              | some n => (configureFrom (position + 1) rest).run h (hideIfNegative n position t)
              | none => (.error .resultNotInteger, t)
          | (.error failure, t) => (.error failure, t) := by
  rw [configureFrom]
  cases c.configure with
  | none => rfl
  | some callback =>
      simp only [Action.run_bind]
      cases (Action.call callback .configure).run h s with
      | mk result t =>
          cases result with
          | error _ => rfl
          | ok answer =>
              dsimp only
              cases answer.number? with
              | none => rfl
              | some n =>
                  dsimp only
                  unfold hideIfNegative
                  split <;> rfl

theorem hideIfNegative_calls (n : Int) (position : Nat) (s : Session) :
    (hideIfNegative n position s).calls = s.calls := by
  unfold hideIfNegative
  split <;> rfl

theorem grows_hideIfNegative (n : Int) (position : Nat) (s : Session) :
    s.Grows (hideIfNegative n position s) := by
  unfold hideIfNegative
  split
  · exact Session.keptBySteps_grows.hide s position
  · exact Session.keptBySteps_grows.refl s

/-- The session in which the first command was asked is one on the way. -/
theorem grows_run_configureFrom_cons {c : Command} {callback : Callback}
    (hconfigure : c.configure = some callback) (position : Nat) (rest : List Command) :
    ((Action.call callback .configure).run h s).2.Grows
      ((configureFrom position (c :: rest)).run h s).2 := by
  simp only [run_configureFrom_cons, hconfigure]
  split
  next answer t hrun =>
    rw [hrun]
    split
    · exact (grows_hideIfNegative _ position t).trans
        (configureFrom_leads Session.keptBySteps_grows _ rest h _)
    · exact Session.keptBySteps_grows.refl t
  next failure t hrun =>
    rw [hrun]
    exact Session.keptBySteps_grows.refl t

/-- Commands are configured one after the other, if each callback answers with a number. -/
theorem run_configureFrom (position : Nat) (commands : List Command)
    (hanswered : s.Answered h ConfiguresByNumber ((configureFrom position commands).run h s).2) :
    ((configureFrom position commands).run h s).1 = .ok () ∧
      ((configureFrom position commands).run h s).2.calls = s.calls ++ configurations commands := by
  induction commands generalizing position s with
  | nil => exact ⟨rfl, (List.append_nil _).symm⟩
  | cons c rest ih =>
      cases hconfigure : c.configure with
      | none =>
          rw [configurations_cons_of_eq_none hconfigure]
          simp only [run_configureFrom_cons, hconfigure] at hanswered ⊢
          exact ih (position + 1) hanswered
      | some callback =>
          rw [configurations_cons_of_eq_some hconfigure]
          obtain ⟨answer, t, hrun, hnumber, hcalls, hst, hanswered⟩ :=
            Action.run_call_of_answered hanswered (grows_run_configureFrom_cons hconfigure _ _)
          obtain ⟨n, hn⟩ := Option.isSome_iff_exists.1 (hnumber rfl)
          simp only [run_configureFrom_cons, hconfigure, hrun, hn] at hanswered ⊢
          obtain ⟨hok, hmade⟩ := ih (position + 1)
            (hanswered.after (grows_hideIfNegative n position t))
          refine ⟨hok, ?_⟩
          rw [hmade, hideIfNegative_calls, hcalls, List.append_assoc]
          rfl

/-- The table is configured unless that was begun before. -/
theorem run_configure_eq (app : App) (h : Host) (s : Session) :
    app.configure.run h s =
      if s.configured then (.ok (), s)
      else (configureFrom 0 app.commands).run h { s with configured := true } := by
  unfold configure
  rw [Action.run_bind, Action.run_session]
  dsimp only
  split <;> rfl

theorem run_configure_of_configured (app : App) (h : Host) (hconfigured : s.configured = true) :
    app.configure.run h s = (.ok (), s) := by
  rw [run_configure_eq, if_pos hconfigured]

theorem run_configure_of_fresh (app : App) (h : Host) (hfresh : s.configured = false) :
    app.configure.run h s =
      (configureFrom 0 app.commands).run h { s with configured := true } := by
  rw [run_configure_eq, if_neg (Bool.eq_false_iff.1 hfresh)]

/-- The table is configured once. -/
theorem run_configure (app : App)
    (hanswered : s.Answered h ConfiguresByNumber (app.configure.run h s).2) :
    (app.configure.run h s).1 = .ok () ∧
      (app.configure.run h s).2.calls =
        s.calls ++ if s.configured then [] else configurations app.commands := by
  cases hconfigured : s.configured with
  | true =>
      rw [run_configure_of_configured app h hconfigured]
      exact ⟨rfl, (List.append_nil _).symm⟩
  | false =>
      rw [run_configure_of_fresh app h hconfigured] at hanswered ⊢
      exact run_configureFrom 0 app.commands
        (hanswered.after (Session.keptBySteps_grows.configured s))

/-! ## What a session shows -/

/-- A session may hide a command, and changes nothing else about it. -/
theorem shownIn_eq_or (s : Session) (position : Nat) (c : Command) :
    shownIn s position c = c ∨ shownIn s position c = c.hide := by
  unfold shownIn
  split
  · exact .inr rfl
  · exact .inl rfl

@[simp] theorem body_shownIn (s : Session) (position : Nat) (c : Command) :
    (shownIn s position c).body = c.body := by
  rcases shownIn_eq_or s position c with hshown | hshown <;> rw [hshown]
  rfl

@[simp] theorem handler_shownIn (s : Session) (position : Nat) (c : Command) :
    (shownIn s position c).handler = c.handler := by
  rcases shownIn_eq_or s position c with hshown | hshown <;> rw [hshown]
  rfl

@[simp] theorem superuserRequired_shownIn (s : Session) (position : Nat) (c : Command) :
    (shownIn s position c).superuserRequired = c.superuserRequired := by
  rcases shownIn_eq_or s position c with hshown | hshown <;> rw [hshown]
  simp [Command.superuserRequired, Command.hide, CommandFlags.superuserRequired, CommandFlags.hide]

/-- A session that hides nothing shows the table as it was declared. -/
theorem table_of_hidden_eq_nil (app : App) {s : Session} (hhidden : s.hidden = []) :
    app.table s = app.commands := by
  have hshown : shownIn s = fun _ c => c := by
    funext position c
    simp [shownIn, hhidden]
  rw [table, hshown]
  exact List.ext_getElem? fun i => by simp

end CommandDispatch.App
