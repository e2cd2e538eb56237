import CommandDispatch.Proofs.Dispatch.LoggingFailures

/-! # The version command

Two rules spare the version command, and they ask different questions. Whether the answer of a
handler is decoded depends on the word that selects the command; whether the invocation gets its
line in the journal depends on the names of the command. So the version command never gets a line,
and its answer is decoded only if it is selected by a spelling of its own that asks for no version.
-/

namespace CommandDispatch

open CommandDispatch.Action

/-- A command with the names of the version switch, or with its long name alone, is selected by
nothing but requests for the version. -/
theorem isVersion_of_selectedBy {switch : Switch} {word : Value}
    (hname : switch.longName = Text.ofString "version")
    (hshort : switch.shortName = none ∨ switch.shortName = some (Text.ofString "V"))
    (hselects : switch.selectedBy word = true) : isVersion word = true := by
  obtain ⟨longName, shortName⟩ := switch
  dsimp only at hname hshort
  subst hname
  rcases hshort with rfl | rfl
  · unfold isVersion
    unfold Switch.selectedBy at hselects ⊢
    split at hselects
    next => cases hselects
    next name hword => exact hselects
    next => cases hselects
  · exact hselects

namespace App

variable {app : App} {c : Command} {h : Host} {t : Session}

/-- Past the report of its result, a version command is only noted. -/
theorem recorded_onlyNotes (hversion : c.isVersion = true) (argv : List Value) (v : Value)
    (cursor : LogCursor) : (app.recorded c argv v cursor).OnlyNotes := by
  unfold recorded
  rw [if_pos hversion]
  exact noteLogged_onlyNotes c cursor

/-- A version command ends as the report of its result does, if that is reported at all, with the
answer of its handler. -/
theorem run_version (hversion : c.isVersion = true) {cursor : LogCursor} {v : Value}
    {handled : Session} (hplaced : LogCursor.enter {} app.syslog t.files = .ok cursor)
    (hcall : (call c.handler .handler).run h t = (.ok v, handled)) (program selector : Value)
    (rest : List Value) :
    ∃ notes, (app.run c (program :: selector :: rest)).run h t =
      if isHelp selector || isVersion selector then (.ok v, { handled with notes })
      else (((app.reportResult v).run h handled).1.map fun _ => v,
        { ((app.reportResult v).run h handled).2 with notes }) := by
  have hcursor : app.placeCursor.run h t = (LogCursor.enter {} app.syslog t.files, t) := rfl
  have hrecorded : (app.recorded c (program :: selector :: rest) v cursor).OnlyNotes :=
    recorded_onlyNotes hversion _ v cursor
  rw [run_eq, run_bind, hcursor, hplaced]
  dsimp only
  rw [run_bind, answered, run_bind, hcall]
  dsimp only
  cases isHelp selector || isVersion selector with
  | true =>
      obtain ⟨notes, hnotes⟩ := hrecorded h handled
      exact ⟨notes, by simp [hnotes]⟩
  | false =>
      cases hreported : (app.reportResult v).run h handled with
      | mk result u =>
          cases result with
          | error failure => exact ⟨u.notes, by simp [hreported, Except.map]⟩
          | ok _ =>
              obtain ⟨notes, hnotes⟩ := hrecorded h u
              exact ⟨notes, by simp [hreported, hnotes, Except.map]⟩

/-- What is ready to run was selected. -/
theorem run_resolve_of_run_prepare {argv : List Value} {s : Session} {selection : Selection}
    (hprepared : ((app.prepare argv).run h s).1 = .ok (some selection)) :
    ((app.resolve argv).run h s).1 = .ok (.selected selection) := by
  rw [run_prepare] at hprepared
  cases hresolved : (app.resolve argv).run h s with
  | mk result u =>
      rw [hresolved] at hprepared
      cases result with
      | error _ => cases hprepared
      | ok resolution =>
          cases resolution with
          | served _ => cases hprepared
          | selected other =>
              dsimp only at hprepared
              split at hprepared
              · cases hextract : (other.extract argv).run h u with
                | mk extracted w =>
                    rw [hextract] at hprepared
                    cases extracted with
                    | error _ => cases hprepared
                    | ok _ =>
                        obtain rfl := Option.some.inj (Except.ok.inj hprepared)
                        rfl
              · obtain rfl := Option.some.inj (Except.ok.inj hprepared)
                rfl

/-- A command that is ready to run was selected by one of its spellings. -/
theorem selectedBy_of_run_prepare {argv : List Value} {s : Session} {selection : Selection}
    (hprepared : ((app.prepare argv).run h s).1 = .ok (some selection)) :
    ∃ program selector rest, argv = program :: selector :: rest ∧
      selection.command.toSwitch.selectedBy selector = true := by
  obtain ⟨position, c, hselected, -, hselect⟩ :=
    select_of_run_resolve (run_resolve_of_run_prepare hprepared)
  rcases argv with _ | ⟨program, _ | ⟨selector, rest⟩⟩
  · cases hselected
  · cases hselected
  · obtain ⟨_, _, -, -, hselects, -⟩ := exists_split_of_find? hselected
    refine ⟨program, selector, rest, rfl, ?_⟩
    rw [Command.command_of_select_eq_ok hselect]
    rcases shownIn_eq_or (app.configure.run h s).2 position c with hshown | hshown
    · rw [hshown]
      exact hselects
    · rw [hshown]
      exact hselects

/-- The version command never gets a line in the journal, whatever spelling selects it, and its
result is that of its handler. Selected by a request for the version or for help, as it always is
under the names of the version switch, it is not decoded either: past the handler nothing is printed
and nothing is written. Selected by a spelling of its own, its result is decoded like any other, and
no more than that is printed or written. -/
theorem dispatch_version_command (app : App) (h : Host) (s t : Session) (argv : List Value)
    (selection : Selection) (cursor : LogCursor) (v : Value)
    (hprepared : (app.prepare argv).run h s = (.ok (some selection), t))
    (hversion : selection.command.isVersion = true)
    (hplaced : LogCursor.enter {} app.syslog t.files = .ok cursor)
    (hreturns : (h.reply t.calls ⟨selection.command.handler, .handler⟩).Returns t.files v) :
    ∃ program selector rest handled, argv = program :: selector :: rest ∧
      selection.command.toSwitch.selectedBy selector = true ∧
      (call selection.command.handler .handler).run h t = (.ok v, handled) ∧
      handled.printed = t.printed ∧
      handled.calls = t.calls ++ [⟨selection.command.handler, .handler⟩] ∧
      ((h.reply t.calls ⟨selection.command.handler, .handler⟩).appended = none →
        handled.files = t.files) ∧
      (selection.command.longName = Text.ofString "version" →
        selection.command.shortName = none ∨
          selection.command.shortName = some (Text.ofString "V") →
        isVersion selector = true) ∧
      (isHelp selector = true ∨ isVersion selector = true →
        ∃ notes, (app.dispatch argv).run h s = (.ok v, { handled with notes })) ∧
      (isHelp selector = false → isVersion selector = false →
        ∃ notes, (app.dispatch argv).run h s =
          (((app.reportResult v).run h handled).1.map fun _ => v,
            { ((app.reportResult v).run h handled).2 with notes })) := by
  obtain ⟨program, selector, rest, rfl, hselects⟩ :=
    selectedBy_of_run_prepare (congrArg Prod.fst hprepared)
  have hok := run_call_eq_ok_iff.2 hreturns
  have hcall : (call selection.command.handler .handler).run h t =
      (.ok v, ((call selection.command.handler .handler).run h t).2) := Prod.ext hok rfl
  have hdispatch : (app.dispatch (program :: selector :: rest)).run h s =
      (app.run selection.command (program :: selector :: rest)).run h t := by
    rw [run_dispatch, hprepared]
  obtain ⟨notes, hrun⟩ := run_version hversion hplaced hcall program selector rest
  refine ⟨program, selector, rest, _, rfl, hselects, hcall, printed_run_call _ _,
    calls_run_call _ _, ?_, fun hname hshort => isVersion_of_selectedBy hname hshort hselects,
    fun hrequest => ⟨notes, ?_⟩, fun hhelp hother => ⟨notes, ?_⟩⟩
  · intro hnone
    have hanswer : h.answer selection.command.handler
        (t.requestsTo selection.command.handler) .handler =
          h.reply t.calls ⟨selection.command.handler, .handler⟩ := rfl
    simp only [call, hanswer, hnone]
  · rw [hdispatch, hrun, if_pos (by simpa using hrequest)]
  · rw [hdispatch, hrun, hhelp, hother]
    rfl

end App

namespace Sample

/-- A tool with a version command and no system log. -/
def versioned (longName : Text) (shortName : Option Text) (syslog : List Value) : App :=
  tool { plain longName with shortName } syslog

/-- The version command under the names of the version switch is neither decoded nor recorded. -/
theorem version_silent :
    ∃ notes, ((versioned "version" (some "V") []).dispatch [.text "tool", .text "-V"]).run
      (answering (.int 1)) {} =
        (.ok (.int 1), { configured := true, calls := [⟨⟨0, "copy"⟩, .handler⟩], notes }) := by
  obtain ⟨program, selector, rest, handled, hargv, hselects, hcall, -, -, -, hasked, hsilent, -⟩ :=
    App.dispatch_version_command (versioned "version" (some "V") []) (answering (.int 1)) {} _
      [.text "tool", .text "-V"] ⟨{ plain "version" with shortName := some "V" }, none, none, 2⟩ {}
      (.int 1) rfl rfl rfl ⟨rfl, fun _ _ hadded => by cases hadded⟩
  obtain ⟨notes, hdispatch⟩ := hsilent (.inr (hasked rfl (.inr rfl)))
  obtain rfl := (Prod.mk.inj hcall).2
  exact ⟨notes, hdispatch⟩

/-- A version command that another spelling selects is decoded: under a short name of its own, or
under the short name of the version switch and a long name of its own. And a system log that is no
path fails every command, the version command included. -/
theorem version_noticed :
    (((versioned "version" (some "v") []).dispatch [.text "tool", .text "-v"]).run
      (answering (.int 0)) {}).2.printed = [⟨.output, .ofText "status: 0x00 SUCCESS"⟩] ∧
    (((versioned "about" (some "V") []).dispatch [.text "tool", .text "--about"]).run
      (answering (.int 0)) {}).2.printed = [⟨.output, .ofText "status: 0x00 SUCCESS"⟩] ∧
    (((versioned "version" (some "V") [.text [0]]).dispatch [.text "tool", .text "--version"]).run
      (answering (.int 0)) {}).1 = .error .pathWithNul :=
  ⟨rfl, rfl, rfl⟩

end Sample

end CommandDispatch
