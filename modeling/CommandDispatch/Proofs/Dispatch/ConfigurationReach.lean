import CommandDispatch.Proofs.Dispatch.Uses

/-! # How far a configuration reaches

The commands are configured up to the first callback that gives no number. The configuration fails
there and is not taken up again, but the session counts as configured: from then on every invocation
works on the table as it was left, in which only the commands before that one are configured.
-/

namespace CommandDispatch

open CommandDispatch.Action Session

namespace App

variable {h : Host} {s t : Session}

/-- The callback of the command at a position, asked in its turn, answers with a number. -/
def AnswersWith (h : Host) (commands : List Command) (s : Session) (position : Nat) (n : Int) :
    Prop :=
  ∃ c callback v, c ∈ commands[position]? ∧ c.configure = some callback ∧
    (h.reply (s.calls ++ configurations (commands.take position)) ⟨callback, .configure⟩).Returns
      s.files v ∧
    v.number? = some n

/-- What the configuration has made of a session for commands the first of which stands at
`position`, when it got as far as the one behind `reach` others: the callbacks up to there were
asked, all but the last answered with numbers, and the commands with negative ones are hidden. If
there is a command there, its callback gave no number. -/
structure Reaches (h : Host) (position : Nat) (commands : List Command) (s t : Session)
    (reach : Nat) : Prop where
  within : reach ≤ commands.length
  asked : ∃ later, t.calls = s.calls ++ configurations (commands.take (reach + 1)) ++ later ∧
    ∀ call ∈ later, call.configures = false
  answered : ∀ k < reach, ∀ c ∈ commands[k]?, c.configure.isSome = true →
    ∃ n, AnswersWith h commands s k n
  halted : ∀ c ∈ commands[reach]?,
    c.configure.isSome = true ∧ ∀ n, ¬ AnswersWith h commands s reach n
  hidden : ∀ i, i ∈ t.hidden ↔
    i ∈ s.hidden ∨ ∃ k n, i = position + k ∧ k < reach ∧ AnswersWith h commands s k n ∧ n < 0

theorem Reaches.onward {position reach : Nat} {commands : List Command} {u : Session}
    (hreaches : Reaches h position commands s t reach) (honward : t.Onward u) :
    Reaches h position commands s u reach := by
  obtain ⟨later, hcalls, hlater⟩ := hreaches.asked
  obtain ⟨made, hmade, hnot⟩ := honward.calls
  refine ⟨hreaches.within, ⟨later ++ made, ?_, ?_⟩, hreaches.answered, hreaches.halted, ?_⟩
  · rw [hmade, hcalls, List.append_assoc]
  · exact List.forall_mem_append.2 ⟨hlater, hnot⟩
  · rw [honward.hidden]
    exact hreaches.hidden

/-! ## One pass -/

section Pass

variable {c : Command} {callback : Callback} {rest : List Command} {position reach : Nat}

/-- A command without a callback makes no difference to the ones behind it. -/
theorem answersWith_cons_of_eq_none (hconfigure : c.configure = none) {k : Nat} {n : Int} :
    AnswersWith h (c :: rest) s (k + 1) n ↔ AnswersWith h rest s k n := by
  unfold AnswersWith
  rw [List.getElem?_cons_succ, List.take_succ_cons, configurations_cons_of_eq_none hconfigure]

theorem not_answersWith_cons_zero_of_eq_none (hconfigure : c.configure = none) (n : Int) :
    ¬ AnswersWith h (c :: rest) s 0 n := by
  rintro ⟨d, callback, v, hd, hcallback, -⟩
  obtain rfl : c = d := Option.some.inj hd
  cases hconfigure.symm.trans hcallback

/-- Behind the call of a command come those of the other ones. -/
theorem answersWith_cons_of_eq_some (hconfigure : c.configure = some callback)
    (hgrows : s.Grows t) (hcalls : t.calls = s.calls ++ [⟨callback, .configure⟩]) {k : Nat}
    {n : Int} : AnswersWith h (c :: rest) s (k + 1) n ↔ AnswersWith h rest t k n := by
  have hearlier : t.calls ++ configurations (rest.take k) =
      s.calls ++ configurations ((c :: rest).take (k + 1)) := by
    rw [List.take_succ_cons, configurations_cons_of_eq_some hconfigure, hcalls]
    simp
  unfold AnswersWith
  rw [List.getElem?_cons_succ, hearlier]
  simp only [Reply.returns_iff_of_grows hgrows]

/-- The first command answers with what its call ends with. -/
theorem answersWith_cons_zero (hconfigure : c.configure = some callback) {n : Int} :
    AnswersWith h (c :: rest) s 0 n ↔
      ∃ v, ((Action.call callback .configure).run h s).1 = .ok v ∧ v.number? = some n := by
  simp only [AnswersWith, run_call_eq_ok_iff]
  constructor
  · rintro ⟨d, other, v, hd, hother, hreturns, hnumber⟩
    obtain rfl : c = d := Option.some.inj hd
    obtain rfl : callback = other := Option.some.inj (hconfigure.symm.trans hother)
    rw [List.take_zero, configurations, List.filterMap_nil, List.append_nil] at hreturns
    exact ⟨v, hreturns, hnumber⟩
  · rintro ⟨v, hreturns, hnumber⟩
    refine ⟨c, callback, v, rfl, hconfigure, ?_, hnumber⟩
    rwa [List.take_zero, configurations, List.filterMap_nil, List.append_nil]

theorem Reaches.cons_of_eq_none (hconfigure : c.configure = none)
    (hrest : Reaches h (position + 1) rest s t reach) :
    Reaches h position (c :: rest) s t (reach + 1) where
  within := Nat.succ_le_succ hrest.within
  asked := by
    rw [List.take_succ_cons, configurations_cons_of_eq_none hconfigure]
    exact hrest.asked
  answered := by
    rintro (_ | k) hk d hd hcallback
    · obtain rfl : c = d := Option.some.inj hd
      simp [hconfigure] at hcallback
    · simp only [answersWith_cons_of_eq_none hconfigure]
      exact hrest.answered k (by omega) d hd hcallback
  halted d hd := by
    simp only [answersWith_cons_of_eq_none hconfigure]
    exact hrest.halted d hd
  hidden i := by
    refine (hrest.hidden i).trans (or_congr_right ⟨?_, ?_⟩)
    · rintro ⟨k, n, rfl, hk, hanswers, hnegative⟩
      exact ⟨k + 1, n, by omega, by omega, (answersWith_cons_of_eq_none hconfigure).2 hanswers,
        hnegative⟩
    · rintro ⟨k, n, rfl, hk, hanswers, hnegative⟩
      cases k with
      | zero => exact absurd hanswers (not_answersWith_cons_zero_of_eq_none hconfigure n)
      | succ k =>
          exact ⟨k, n, by omega, by omega, (answersWith_cons_of_eq_none hconfigure).1 hanswers,
            hnegative⟩

/-- The configuration ends with a callback that gives no number. -/
theorem reaches_zero (hconfigure : c.configure = some callback)
    (hnot : ∀ v, ((Action.call callback .configure).run h s).1 = .ok v → v.number? = none) :
    Reaches h position (c :: rest) s ((Action.call callback .configure).run h s).2 0 where
  within := Nat.zero_le _
  asked := by
    refine ⟨[], ?_, List.forall_mem_nil _⟩
    rw [calls_run_call, List.take_succ_cons, configurations_cons_of_eq_some hconfigure]
    simp [configurations]
  answered k hk := absurd hk (Nat.not_lt_zero k)
  halted d hd := by
    obtain rfl : c = d := Option.some.inj hd
    refine ⟨by simp [hconfigure], fun n hanswers => ?_⟩
    obtain ⟨v, hok, hnumber⟩ := (answersWith_cons_zero hconfigure).1 hanswers
    cases (hnot v hok).symm.trans hnumber
  hidden i := by
    rw [call_leads keptByCalls_hidden callback .configure h s]
    simp

theorem Reaches.cons_of_eq_some {answer : Value} {n : Int} {u : Session}
    (hconfigure : c.configure = some callback)
    (hrun : (Action.call callback .configure).run h s = (.ok answer, t))
    (hnumber : answer.number? = some n)
    (hrest : Reaches h (position + 1) rest (hideIfNegative n position t) u reach) :
    Reaches h position (c :: rest) s u (reach + 1) := by
  have hcalls := @calls_run_call h s callback .configure
  have hgrows := call_leads keptByCalls_grows callback .configure h s
  have hhidden := call_leads keptByCalls_hidden callback .configure h s
  rw [hrun] at hcalls hgrows hhidden
  have hasked : (hideIfNegative n position t).calls = s.calls ++ [⟨callback, .configure⟩] :=
    (hideIfNegative_calls n position t).trans hcalls
  have hbehind {k : Nat} {m : Int} : AnswersWith h (c :: rest) s (k + 1) m ↔
      AnswersWith h rest (hideIfNegative n position t) k m :=
    answersWith_cons_of_eq_some hconfigure (hgrows.trans (grows_hideIfNegative n position t)) hasked
  have hfirst {m : Int} : AnswersWith h (c :: rest) s 0 m ↔ m = n := by
    rw [answersWith_cons_zero hconfigure, hrun]
    constructor
    · rintro ⟨v, hok, hm⟩
      obtain rfl := Except.ok.inj hok
      exact Option.some.inj (hm.symm.trans hnumber)
    · rintro rfl
      exact ⟨answer, rfl, hnumber⟩
  refine ⟨Nat.succ_le_succ hrest.within, ?_, ?_, fun d hd => ?_, fun i => ?_⟩
  · obtain ⟨later, hmade, hlater⟩ := hrest.asked
    refine ⟨later, ?_, hlater⟩
    rw [hmade, hasked, List.take_succ_cons, configurations_cons_of_eq_some hconfigure]
    simp
  · rintro (_ | k) hk d hd hcallback
    · exact ⟨n, hfirst.2 rfl⟩
    · simp only [hbehind]
      exact hrest.answered k (by omega) d hd hcallback
  · simp only [hbehind]
    exact hrest.halted d hd
  · rw [hrest.hidden, mem_hidden_hideIfNegative, hhidden, or_assoc]
    refine or_congr_right ⟨?_, ?_⟩
    · rintro (⟨rfl, hnegative⟩ | ⟨k, m, rfl, hk, hanswers, hnegative⟩)
      · exact ⟨0, n, by omega, by omega, hfirst.2 rfl, hnegative⟩
      · exact ⟨k + 1, m, by omega, by omega, hbehind.2 hanswers, hnegative⟩
    · rintro ⟨_ | k, m, rfl, hk, hanswers, hnegative⟩
      · exact .inl ⟨by omega, hfirst.1 hanswers ▸ hnegative⟩
      · exact .inr ⟨k, m, by omega, by omega, hbehind.1 hanswers, hnegative⟩

/-- Commands are configured up to some place, and all of them if nothing fails. -/
theorem configureFrom_reaches (h : Host) (position : Nat) (commands : List Command) (s : Session) :
    ∃ reach, Reaches h position commands s ((configureFrom position commands).run h s).2 reach ∧
      (((configureFrom position commands).run h s).1 = .ok () ↔ reach = commands.length) := by
  induction commands generalizing position s with
  | nil =>
      refine ⟨0, ⟨Nat.le_refl _, ⟨[], ?_, List.forall_mem_nil _⟩, ?_, ?_, ?_⟩, ?_⟩
      · simp [configureFrom, configurations]
      · simp
      · simp
      · simp [configureFrom]
      · simp [configureFrom]
  | cons c rest ih =>
      rw [run_configureFrom_cons, List.length_cons]
      cases hconfigure : c.configure with
      | none =>
          obtain ⟨reach, hreaches, hok⟩ := ih (position + 1) s
          exact ⟨reach + 1, hreaches.cons_of_eq_none hconfigure, by simpa using hok⟩
      | some callback =>
          have hhalts := @reaches_zero h s c callback rest position hconfigure
          dsimp only
          cases hrun : (Action.call callback .configure).run h s with
          | mk result t =>
              rw [hrun] at hhalts
              cases result with
              | error failure => exact ⟨0, hhalts (fun v hok => by cases hok), by simp⟩
              | ok answer =>
                  dsimp only
                  cases hnumber : answer.number? with
                  | none =>
                      refine ⟨0, hhalts fun v hok => ?_, by simp⟩
                      rwa [← Except.ok.inj hok]
                  | some n =>
                      obtain ⟨reach, hreaches, hok⟩ :=
                        ih (position + 1) (hideIfNegative n position t)
                      exact ⟨reach + 1, hreaches.cons_of_eq_some hconfigure hrun hnumber,
                        by simpa using hok⟩

end Pass

/-- The commands are configured as far as that goes, if it was not begun before. -/
theorem configure_reaches (app : App) (h : Host) (s : Session) :
    s.configured = true ∧ app.configure.run h s = (.ok (), s) ∨
      s.configured = false ∧ (app.configure.run h s).2.configured = true ∧
        ∃ reach, Reaches h 0 app.commands s (app.configure.run h s).2 reach ∧
          ((app.configure.run h s).1 = .ok () ↔ reach = app.commands.length) := by
  cases hconfigured : s.configured with
  | true => exact .inl ⟨rfl, app.run_configure_of_configured h hconfigured⟩
  | false =>
      rw [app.run_configure_of_fresh h hconfigured]
      have hpass := configureFrom_configures h 0 app.commands { s with configured := true }
      obtain ⟨reach, hreaches, hok⟩ :=
        configureFrom_reaches h 0 app.commands { s with configured := true }
      exact .inr ⟨rfl, hpass.configured, reach, ⟨hreaches.within, hreaches.asked,
        hreaches.answered, hreaches.halted, hreaches.hidden⟩, hok⟩

theorem configured_run_configure (app : App) (h : Host) (s : Session) :
    (app.configure.run h s).2.configured = true := by
  rcases app.configure_reaches h s with ⟨hconfigured, hsame⟩ | ⟨-, hconfigured, -⟩
  · rwa [hsame]
  · exact hconfigured

/-! ## Many uses -/

theorem afterUses_append (app : App) (earlier later : List (Host × Use)) (s : Session) :
    app.afterUses (earlier ++ later) s = app.afterUses later (app.afterUses earlier s) :=
  List.foldl_append

/-- One of several uses was the first to configure the commands, and a session shows how far that
got: through the whole table exactly if it did not fail. -/
def HasReached (app : App) (files : FileStore) (uses : List (Host × Use)) (t : Session) : Prop :=
  ∃ earlier g next later reach, uses = earlier ++ (g, next) :: later ∧
    (app.afterUses earlier { files }).hidden = [] ∧
    Reaches g 0 app.commands (app.afterUses earlier { files }) t reach ∧
    ((app.configure.run g (app.afterUses earlier { files })).1 = .ok () ↔
      reach = app.commands.length)

theorem HasReached.append {app : App} {files : FileStore} {uses : List (Host × Use)} {t u : Session}
    (hreached : app.HasReached files uses t) (honward : t.Onward u) (more : List (Host × Use)) :
    app.HasReached files (uses ++ more) u := by
  obtain ⟨earlier, g, next, later, reach, rfl, hhidden, hreaches, hok⟩ := hreached
  exact ⟨earlier, g, next, later ++ more, reach, by simp, hhidden, hreaches.onward honward, hok⟩

/-- Before the commands are configured nothing is hidden, and afterwards the session shows how far
that got. -/
structure Remembers (app : App) (files : FileStore) (uses : List (Host × Use)) (s : Session) :
    Prop where
  fresh : s.configured = false → s.hidden = []
  reached : s.configured = true → app.HasReached files uses s

section Remembering

variable {app : App} {files : FileStore} {uses : List (Host × Use)}

/-- Configuring the commands makes the pass over them, or finds what became of it in an earlier
use. -/
theorem hasReached_configure (hremembers : app.Remembers files uses (app.afterUses uses { files }))
    (h : Host) (next : Use) :
    app.HasReached files (uses ++ [(h, next)])
      (app.configure.run h (app.afterUses uses { files })).2 := by
  rcases app.configure_reaches h (app.afterUses uses { files }) with
    ⟨hconfigured, hsame⟩ | ⟨hbefore, -, reach, hreaches, hok⟩
  · rw [hsame]
    exact (hremembers.reached hconfigured).append (Onward.refl _) _
  · exact ⟨uses, h, next, [], reach, rfl, hremembers.fresh hbefore, hreaches, hok⟩

theorem Remembers.use (hremembers : app.Remembers files uses (app.afterUses uses { files }))
    (h : Host) (next : Use) :
    app.Remembers files (uses ++ [(h, next)]) (app.use h (app.afterUses uses { files }) next) := by
  rcases app.use_onward h (app.afterUses uses { files }) next with honward | honward
  · refine ⟨fun hfresh => ?_, fun hconfigured => ?_⟩
    · exact honward.hidden.trans (hremembers.fresh (honward.configured ▸ hfresh))
    · exact (hremembers.reached (honward.configured ▸ hconfigured)).append honward _
  · refine ⟨fun hfresh => ?_, fun _ => ?_⟩
    · rw [honward.configured, configured_run_configure] at hfresh
      cases hfresh
    · simpa using (hasReached_configure hremembers h next).append honward []

theorem Remembers.afterUses (hremembers : app.Remembers files uses (app.afterUses uses { files }))
    (more : List (Host × Use)) :
    app.Remembers files (uses ++ more) (app.afterUses (uses ++ more) { files }) := by
  induction more generalizing uses with
  | nil => simpa using hremembers
  | cons next rest ih =>
      have hnext := hremembers.use next.1 next.2
      rw [List.append_cons]
      apply ih
      rw [afterUses_append]
      exact hnext

theorem remembers_afterUses (app : App) (files : FileStore) (uses : List (Host × Use)) :
    app.Remembers files uses (app.afterUses uses { files }) :=
  @Remembers.afterUses app files [] ⟨fun _ => rfl, fun hconfigured => by cases hconfigured⟩ uses

end Remembering

/-! ## What an invocation works on -/

/-- An invocation gets past the configuration: it selects a command, and the commands could be
configured or count as configured already. -/
def GetsPast (app : App) (argv : List Value) (h : Host) (s : Session) : Prop :=
  (app.selected? argv).isSome = true ∧ (app.configure.run h s).1 = .ok ()

theorem calls_run_dispatch_of_not_selected {app : App} {argv : List Value}
    (hnot : ∀ selection, ((app.resolve argv).run h s).1 ≠ .ok (.selected selection)) :
    ((app.dispatch argv).run h s).2.calls = ((app.resolve argv).run h s).2.calls := by
  obtain ⟨handled, hcalls, hran, -⟩ := @calls_run_dispatch_eq h s app argv
  obtain ⟨hsession, hprepared⟩ := run_prepare_of_not_selected hnot
  have hnothing : handled = [] := by
    apply Classical.byContradiction
    intro hne
    obtain ⟨selection, hok, -⟩ := hran hne
    exact hprepared selection hok
  rw [hcalls, hsession, hnothing, List.append_nil]

/-- Without a selected command, at most the page of the whole tool is served. -/
theorem served_of_selected?_eq_none {app : App} {argv : List Value}
    (hselected : app.selected? argv = none) {resolution : Resolution}
    (hok : ((app.resolve argv).run h s).1 = .ok resolution) : resolution = .served none := by
  rcases argv with _ | ⟨program, _ | ⟨selector, rest⟩⟩
  · cases hok
  · cases hok
  · dsimp only [selected?] at hselected
    simp only [resolve, hselected] at hok
    split at hok
    · split at hok
      · rw [run_bind] at hok
        split at hok
        · exact (Except.ok.inj hok).symm
        · cases hok
      · cases hok
    · cases hok

/-- Configuring asks nothing but configuration callbacks. -/
theorem configures_of_run_configure (app : App) (h : Host) (s : Session) :
    ∃ made, (app.configure.run h s).2.calls = s.calls ++ made ∧
      ∀ call ∈ made, call.configures = true := by
  rcases app.run_configure_cases h s with ⟨-, hsame⟩ | ⟨-, -, hpass⟩
  · exact ⟨[], by rw [hsame, List.append_nil], List.forall_mem_nil _⟩
  · obtain ⟨made, hmade, hcalls⟩ := hpass.calls
    refine ⟨made, hcalls, fun call hcall => ?_⟩
    simp [Call.configures, request_of_mem_configurations (hmade.subset hcall)]

/-- An invocation that does not get past the configuration serves no command and selects none, and
asks nothing but configuration callbacks. -/
theorem run_dispatch_of_not_getsPast {app : App} {argv : List Value}
    (hnot : ¬ app.GetsPast argv h s) :
    (∀ resolution, ((app.resolve argv).run h s).1 = .ok resolution → resolution = .served none) ∧
      ∃ made, ((app.dispatch argv).run h s).2.calls = s.calls ++ made ∧
        ∀ call ∈ made, call.configures = true := by
  cases hselected : app.selected? argv with
  | none =>
      obtain ⟨hkept, hnone⟩ := app.resolve_of_selected?_eq_none hselected keptByOutput_calls
      refine ⟨fun _ hok => served_of_selected?_eq_none hselected hok, [], ?_,
        List.forall_mem_nil _⟩
      rw [calls_run_dispatch_of_not_selected (hnone h s), hkept h s, List.append_nil]
  | some found =>
      obtain ⟨position, c⟩ := found
      obtain ⟨selector, hresolve⟩ := app.resolve_of_selected? hselected
      have hmade := app.configures_of_run_configure h s
      cases hconfigured : app.configure.run h s with
      | mk result t =>
          cases result with
          | ok _ => exact absurd ⟨by simp [hselected], by simp [hconfigured]⟩ hnot
          | error failure =>
              have hfailed : (app.resolve argv).run h s = (.error failure, t) := by
                rw [hresolve, resolveCommand_eq, run_bind, hconfigured]
              rw [hconfigured] at hmade
              rw [calls_run_dispatch_of_not_selected fun _ => by simp [hfailed], hfailed]
              exact ⟨fun _ hok => (by cases hok), hmade⟩

/-- What an invocation works on that gets past the configuration: one use, this one or an earlier
one, has made the pass over the table, as far as that got; it got through the whole table exactly if
it did not fail, as when this invocation makes the pass itself. The commands before the place that
was reached are configured, and no other one, so after a pass that failed the invocation may work on
commands whose callbacks were never asked. An invocation that does not get past the configuration
serves no command, and asks nothing but configuration callbacks. -/
theorem dispatch_reaches (app : App) (files : FileStore) (uses : List (Host × Use)) (h : Host)
    (argv : List Value) :
    let s := app.afterUses uses { files }
    let t := (app.configure.run h s).2
    (¬ app.GetsPast argv h s →
        (∀ resolution, ((app.resolve argv).run h s).1 = .ok resolution →
          resolution = .served none) ∧
        ∃ made, ((app.dispatch argv).run h s).2.calls = s.calls ++ made ∧
          ∀ call ∈ made, call.configures = true) ∧
      (app.GetsPast argv h s →
        t.Onward ((app.dispatch argv).run h s).2 ∧
        ∃ earlier g next later reach,
          uses ++ [(h, .dispatch argv)] = earlier ++ (g, next) :: later ∧
          (app.afterUses earlier { files }).hidden = [] ∧
          Reaches g 0 app.commands (app.afterUses earlier { files }) t reach ∧
          ((app.configure.run g (app.afterUses earlier { files })).1 = .ok () ↔
            reach = app.commands.length) ∧
          (later = [] → reach = app.commands.length)) := by
  intro s t
  refine ⟨run_dispatch_of_not_getsPast, fun hpast => ?_⟩
  obtain ⟨found, hselected⟩ := Option.isSome_iff_exists.1 hpast.1
  refine ⟨configured_onward_dispatch hselected h s, ?_⟩
  obtain ⟨earlier, g, next, later, reach, huses, hhidden, hreaches, hok⟩ :=
    hasReached_configure (app.remembers_afterUses files uses) h (.dispatch argv)
  refine ⟨earlier, g, next, later, reach, huses, hhidden, hreaches, hok, ?_⟩
  rintro rfl
  obtain ⟨rfl, hlast⟩ := List.append_inj' huses rfl
  obtain ⟨rfl, -⟩ := Prod.mk.inj (List.cons.inj hlast).1
  exact hok.1 hpast.2

end App

namespace Sample

/-- A host on which the callback that configures the first command fails, the one that configures
the second command withdraws it, and all others answer with zero. -/
def withdrawing : Host where
  answer := fun callback _ _ =>
    { outcome :=
        if callback.id = "first" then .error (.callbackFailed "boom")
        else if callback.id = "second" then .ok (.int (-1))
        else .ok (.int 0) }

/-- An invocation of the second command of the sample tool. -/
def moving : List Value := [.text "tool", .text "--move"]

/-- The second such invocation gets past the configuration, and works on what one pass has made of
the table. -/
theorem moving_reaches :
    configurable.GetsPast moving withdrawing
        (configurable.afterUses [(withdrawing, .dispatch moving)] {}) ∧
      ∃ earlier g reach, App.Reaches g 0 configurable.commands (configurable.afterUses earlier {})
        (configurable.configure.run withdrawing
          (configurable.afterUses [(withdrawing, .dispatch moving)] {})).2 reach := by
  have hpast : configurable.GetsPast moving withdrawing
      (configurable.afterUses [(withdrawing, .dispatch moving)] {}) := ⟨rfl, rfl⟩
  obtain ⟨-, earlier, g, -, -, reach, -, -, hreaches, -⟩ := (App.dispatch_reaches configurable {}
    [(withdrawing, .dispatch moving)] withdrawing moving).2 hpast
  exact ⟨hpast, earlier, g, reach, hreaches⟩

/-- The first invocation fails in the callback that configures the first command. The second one
runs the second command, which its own callback, never asked, would have withdrawn. -/
theorem moved_unconfigured :
    ¬ ∀ (app : App) (files : FileStore) (uses : List (Host × App.Use)) (h : Host)
        (argv : List Value),
      app.GetsPast argv h (app.afterUses uses { files }) →
        ∀ c ∈ app.commands, ∀ callback ∈ c.configure,
          ⟨callback, .configure⟩ ∈
            ((app.dispatch argv).run h (app.afterUses uses { files })).2.calls := by
  intro hall
  have hasked := hall configurable {} [(withdrawing, .dispatch moving)] withdrawing moving
    ⟨rfl, rfl⟩ { copy [] (some ⟨3, "second"⟩) with longName := "move" } (by simp [configurable])
    ⟨3, "second"⟩ rfl
  have hcalls : ((configurable.dispatch moving).run withdrawing
      (configurable.afterUses [(withdrawing, .dispatch moving)] {})).2.calls =
        [⟨⟨2, "first"⟩, .configure⟩, ⟨⟨0, "copy"⟩, .handler⟩] := rfl
  rw [hcalls] at hasked
  simp at hasked

end Sample

end CommandDispatch
