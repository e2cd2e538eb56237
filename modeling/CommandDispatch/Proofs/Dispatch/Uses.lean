import CommandDispatch.Proofs.Dispatch.ConfigurationPass
import CommandDispatch.Proofs.Spec.Veils

/-! # Using an application many times

An application is used by serving invocations and by configuring its commands, in any order and on
any hosts, also after uses that failed. The first use that gets to the configuration makes the one
pass over the table; no other use asks a configuration callback or hides a command.
-/

namespace CommandDispatch

open CommandDispatch.Action Session

namespace App

variable {h : Host} {s : Session}

/-! ## Uses -/

/-- One use of an application. -/
inductive Use where
  | dispatch (argv : List Value)
  | configure

/-- The session after one use, however it ended. -/
def use (app : App) (h : Host) (s : Session) : Use → Session
  | .dispatch argv => ((app.dispatch argv).run h s).2
  | .configure => (app.configure.run h s).2

/-- The session after uses one after the other, each on a host of its own. -/
def afterUses (app : App) (uses : List (Host × Use)) (s : Session) : Session :=
  uses.foldl (fun s next => app.use next.1 s next.2) s

/-- A use in which the commands were configured. -/
structure Begins (app : App) (h : Host) (s t : Session) : Prop where
  before : s.configured = false
  configured : t.configured = true
  calls : ∃ made, made <+: configurations app.commands ∧
    t.calls.filter Call.configures = s.calls.filter Call.configures ++ made
  keeps : s.hidden ⊆ t.hidden
  hides : ∀ position ∈ t.hidden,
    position ∈ s.hidden ∨ Withdraws h app.commands position s t

theorem filter_of_prefix_configurations {commands : List Command} {made : List Call}
    (hmade : made <+: configurations commands) : made.filter Call.configures = made := by
  rw [List.filter_eq_self]
  intro call hcall
  simp [Call.configures, request_of_mem_configurations (hmade.subset hcall)]

theorem onward_or_begins_of_configure {app : App} {u : Session}
    (honward : (app.configure.run h s).2.Onward u) : s.Onward u ∨ app.Begins h s u := by
  rcases app.run_configure_cases h s with ⟨-, hsame⟩ | ⟨hbefore, hconfigured, hpass⟩
  · rw [hsame] at honward
    exact .inl honward
  · refine .inr ⟨hbefore, honward.configured.trans hconfigured, ?_, ?_, fun position hposition => ?_⟩
    · obtain ⟨made, hmade, hcalls⟩ := hpass.calls
      refine ⟨made, hmade, ?_⟩
      rw [honward.filter_calls, hcalls, List.filter_append, filter_of_prefix_configurations hmade]
    · rw [honward.hidden]
      exact hpass.keeps
    · rw [honward.hidden] at hposition
      refine (hpass.hides position hposition).imp_right ?_
      rintro ⟨k, rfl, hwithdraws⟩
      rw [Nat.zero_add]
      exact hwithdraws.onward honward

theorem dispatch_onward {app : App} {argv : List Value} (hselected : app.selected? argv = none) :
    (app.dispatch argv).Leads Onward := fun h s =>
  onward_run_dispatch ((app.resolve_of_selected?_eq_none hselected keptByOutput_onward).1 h s)

/-- An invocation that selects a command goes on from where the commands are configured. -/
theorem configured_onward_dispatch {app : App} {argv : List Value} {found : Nat × Command}
    (hselected : app.selected? argv = some found) (h : Host) (s : Session) :
    (app.configure.run h s).2.Onward ((app.dispatch argv).run h s).2 := by
  apply onward_run_dispatch
  obtain ⟨selector, hresolve⟩ := app.resolve_of_selected? hselected
  rw [hresolve, resolveCommand_eq]
  refine run_bind_cases (P := fun ended => (app.configure.run h s).2.Onward ended.2) ?_ ?_
  · intro _ t hrun
    rw [hrun, run_bind, run_session]
    exact app.serve_onward _ _ _ h t
  · intro _ t hrun
    rw [hrun]
    exact Onward.refl t

/-- A use goes on from where it finds the session, or from where the commands are configured. -/
theorem use_onward (app : App) (h : Host) (s : Session) (next : Use) :
    s.Onward (app.use h s next) ∨ (app.configure.run h s).2.Onward (app.use h s next) := by
  cases next with
  | configure => exact .inr (Onward.refl _)
  | dispatch argv =>
      cases hselected : app.selected? argv with
      | none => exact .inl (dispatch_onward hselected h s)
      | some found => exact .inr (configured_onward_dispatch hselected h s)

/-- A use configures the commands, or asks no configuration callback and hides nothing. -/
theorem onward_or_begins (app : App) (h : Host) (s : Session) (next : Use) :
    s.Onward (app.use h s next) ∨ app.Begins h s (app.use h s next) :=
  (app.use_onward h s next).elim .inl onward_or_begins_of_configure

/-- The commands were configured once at most. -/
structure Once (app : App) (s : Session) : Prop where
  calls : s.calls.filter Call.configures <+: configurations app.commands
  fresh : s.configured = false → s.calls.filter Call.configures = []

theorem Once.use {app : App} (honce : app.Once s) (h : Host) (next : Use) :
    app.Once (app.use h s next) := by
  rcases app.onward_or_begins h s next with honward | hbegins
  · refine ⟨?_, fun hconfigured => ?_⟩
    · rw [honward.filter_calls]
      exact honce.calls
    · rw [honward.filter_calls]
      exact honce.fresh (honward.configured ▸ hconfigured)
  · obtain ⟨made, hmade, hcalls⟩ := hbegins.calls
    refine ⟨?_, fun hconfigured => ?_⟩
    · rwa [hcalls, honce.fresh hbegins.before, List.nil_append]
    · rw [hbegins.configured] at hconfigured
      cases hconfigured

theorem Once.afterUses {app : App} (honce : app.Once s) (uses : List (Host × Use)) :
    app.Once (app.afterUses uses s) := by
  induction uses generalizing s with
  | nil => exact honce
  | cons next rest ih => exact ih (honce.use next.1 next.2)

theorem shownIn_congr {t : Session} {position : Nat}
    (hhidden : position ∈ t.hidden ↔ position ∈ s.hidden) (c : Command) :
    shownIn t position c = shownIn s position c := by
  unfold shownIn
  simp only [List.contains_iff_mem, hhidden]

theorem shownIn_of_hidden_eq {t : Session} (hhidden : t.hidden = s.hidden) (position : Nat)
    (c : Command) : shownIn t position c = shownIn s position c :=
  shownIn_congr (by rw [hhidden]) c

/-- In one use a command is hidden at most, and only when its own callback has withdrawn it. -/
theorem shownIn_use (app : App) (h : Host) (s : Session) (next : Use) (position : Nat)
    (c : Command) :
    shownIn (app.use h s next) position c = shownIn s position c ∨
      shownIn (app.use h s next) position c = (shownIn s position c).hide ∧
        Withdraws h app.commands position s (app.use h s next) := by
  rcases app.onward_or_begins h s next with honward | hbegins
  · exact .inl (shownIn_of_hidden_eq honward.hidden position c)
  · by_cases hbefore : position ∈ s.hidden
    · simp [shownIn, hbefore, hbegins.keeps hbefore]
    · by_cases hafter : position ∈ (app.use h s next).hidden
      · have hwithdraws := (hbegins.hides position hafter).resolve_left hbefore
        exact .inr ⟨by simp [shownIn, hbefore, hafter], hwithdraws⟩
      · simp [shownIn, hbefore, hafter]

/-- Over any uses a command is hidden at most, and only when its own callback has withdrawn it in
one of them. -/
theorem shownIn_afterUses (app : App) (uses : List (Host × Use)) (s : Session) (position : Nat)
    (c : Command) :
    shownIn (app.afterUses uses s) position c = shownIn s position c ∨
      shownIn (app.afterUses uses s) position c = (shownIn s position c).hide ∧
        ∃ earlier h next later, uses = earlier ++ (h, next) :: later ∧
          Withdraws h app.commands position (app.afterUses earlier s)
            (app.use h (app.afterUses earlier s) next) := by
  induction uses generalizing s with
  | nil => exact .inl rfl
  | cons first rest ih =>
      have hfirst : app.afterUses (first :: rest) s =
          app.afterUses rest (app.use first.1 s first.2) := rfl
      rw [hfirst]
      rcases app.shownIn_use first.1 s first.2 position c with hsame | ⟨hhide, hwithdraws⟩
      · rw [← hsame]
        refine (ih _).imp_right ?_
        rintro ⟨hhide, earlier, h, next, later, rfl, hwithdraws⟩
        exact ⟨hhide, first :: earlier, h, next, later, rfl, hwithdraws⟩
      · refine .inr ⟨?_, [], first.1, first.2, rest, rfl, hwithdraws⟩
        rcases ih (app.use first.1 s first.2) with hsame | ⟨hhide', -⟩
        · rw [hsame, hhide]
        · rw [hhide', hhide, Command.hide_hide]

/-- The commands of an application are configured once, whatever it is used for. Over all uses the
configuration callbacks were asked in the order of the table, and no command was asked twice; an
invocation that selects no command asks none of them. The table is at first as it was declared, and a
command only ever gains its hidden bit, when its own callback has answered with a negative number,
and keeps all other bits and fields. -/
theorem configured_once (app : App) (files : FileStore) (uses : List (Host × Use)) :
    let s := app.afterUses uses { files }
    s.calls.filter Call.configures <+: configurations app.commands ∧
      (∀ h argv, app.selected? argv = none →
        (app.use h s (.dispatch argv)).calls.filter Call.configures =
          s.calls.filter Call.configures) ∧
      app.table { files } = app.commands ∧
      ∀ (more : List (Host × Use)) (position : Nat) (c : Command),
        c ∈ (app.table s)[position]? →
        ∃ later ∈ (app.table (app.afterUses more s))[position]?,
          later = c ∨
            later = { c with flags := later.flags } ∧
              (∀ i, later.flags.bits.testBit i = (c.flags.bits.testBit i || decide (i = 1))) ∧
              ∃ earlier h next rest, more = earlier ++ (h, next) :: rest ∧
                Withdraws h app.commands position (app.afterUses earlier s)
                  (app.use h (app.afterUses earlier s) next) := by
  intro s
  have hstart : app.Once { files } := ⟨List.nil_prefix, fun _ => rfl⟩
  refine ⟨(hstart.afterUses uses).calls, fun h argv hselected => ?_,
    app.table_of_hidden_eq_nil rfl, ?_⟩
  · exact (dispatch_onward hselected h s).filter_calls
  · intro more position c hc
    rw [table, List.getElem?_mapIdx, Option.mem_def, Option.map_eq_some_iff] at hc
    obtain ⟨declared, hdeclared, rfl⟩ := hc
    refine ⟨shownIn (app.afterUses more s) position declared, ?_, ?_⟩
    · rw [table, List.getElem?_mapIdx, hdeclared]
      rfl
    · refine (app.shownIn_afterUses more s position declared).imp_right ?_
      rintro ⟨hhide, hwithdrawn⟩
      rw [hhide]
      exact ⟨rfl, CommandFlags.testBit_bits_hide _, hwithdrawn⟩

end App

end CommandDispatch
