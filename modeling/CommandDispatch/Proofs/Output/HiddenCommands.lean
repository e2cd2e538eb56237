import CommandDispatch.Proofs.Extraction.Acceptance
import CommandDispatch.Proofs.Output.Console
import CommandDispatch.Proofs.Session.Blindness

/-! # Hidden commands on the top-level page

The listing of the top-level page is that of the visible commands. The pointer below it takes the
first command of the table as its example, hidden or not: it is the one line that depends on a hidden
command, and of that command it shows the name.
-/

namespace CommandDispatch

open CommandDispatch.Action

namespace Help

/-- The name that the pointer takes as its example. -/
def sampleName (table : List Command) : Text := (table.head?.map fun c => c.longName).getD []

/-- The line of the pointer. -/
def pointerLine (look : Look) (table : List Command) : Message :=
  .ofStyled (.uniform (pointer look table) (look.style "footer"))

/-- The commands of a table that are not hidden. -/
def visibleCommands (table : List Command) : List Command := table.filter fun c => !c.hidden

variable (look : Look) {table table' : List Command}

@[simp] theorem visibleCommands_visibleCommands (table : List Command) :
    visibleCommands (visibleCommands table) = visibleCommands table := by
  simp [visibleCommands]

theorem commandLines_congr (hvisible : visibleCommands table' = visibleCommands table) :
    commandLines look table' = commandLines look table :=
  congrArg (List.map (commandLine look)) hvisible

/-- Of two tables with the same visible commands the pages differ in the pointer only. -/
theorem exists_overview_eq (hvisible : visibleCommands table' = visibleCommands table)
    (usage : Message) (man : Value) :
    ∃ front last, overview look usage table man = front ++ pointerLine look table :: last ∧
      overview look usage table' man = front ++ pointerLine look table' :: last := by
  rw [overview, overview, commandLines_congr look hvisible]
  exact ⟨_, _, List.append_cons _ Message.blank _, List.append_cons _ Message.blank _⟩

/-- The pointer shows something, whatever its example is. -/
theorem exists_mem_shown_pointer (table : List Command) :
    ∃ c ∈ (pointer look table).shown, c ≠ CodePoint.newline := by
  refine ⟨CodePoint.ofChar 'S', ?_, by decide⟩
  have hhead : CodePoint.ofChar 'S' ∈ pointer look table := by simp [pointer, Text.concat, Text.ofString]
  exact List.mem_filter.2 ⟨hhead, by decide⟩

theorem shown_pointer_inj :
    (pointer look table').shown = (pointer look table).shown ↔
      (sampleName table').shown = (sampleName table).shown := by
  simp only [pointer, Text.concat, List.flatten_cons, Text.shown_append,
    List.append_cancel_left_eq, List.append_cancel_right_eq]
  rfl

end Help

namespace App

/-- The application with only those commands in its table that a session does not show hidden. -/
def withoutHidden (app : App) (s : Session) : App :=
  { app with commands := Help.visibleCommands (app.table s) }

/-- The top-level page for a table. -/
def showTable (app : App) (table : List Command) : Action Unit := do
  let look ← Action.ofExcept (Help.Look.of app (← Action.host))
  app.reporter.infoAll (Help.banner look app.title)
  let usage ← Action.ofExcept (Help.usageLine look app.info)
  app.reporter.infoAll (Help.overview look usage table app.man)

theorem run_showHelp (app : App) (h : Host) (s : Session) :
    app.showHelp.run h s = (app.showTable (app.table s)).run h s := by
  rw [showHelp, showTable, run_bind, run_bind]
  dsimp only [run_host]
  rw [run_bind, run_bind, run_ofExcept]
  cases Help.Look.of app h <;> rfl

theorem showTable_blind {change : Session → Session} (hunread : Session.Unread change) (app : App)
    (table : List Command) : Blind change (app.showTable table) := by
  refine host_blind.bind fun h => (ofExcept_blind _).bind fun look => ?_
  refine (app.reporter.infoAll_blind hunread _).bind fun _ => ?_
  exact (ofExcept_blind _).bind fun _ => app.reporter.infoAll_blind hunread _

/-- The line that is printed for the pointer. -/
def pointerLine (app : App) (look : Help.Look) (table : List Command) : Printed :=
  app.reporter.line (Help.pointerLine look table)

theorem flaw?_pointerLine (app : App) (look : Help.Look) (table : List Command) :
    (app.pointerLine look table).message.flaw? =
      (if app.colorful then look.style "footer" else .none).flaw? := by
  have hline : (app.pointerLine look table).message =
      (Help.pointerLine look table).colored app.colorful := rfl
  rw [hline, Help.pointerLine, Message.colored_uniform]
  exact Message.flaw?_uniform _ (Help.exists_mem_shown_pointer look table)

theorem pointerLine_inj (app : App) (look : Help.Look) {table table' : List Command} :
    app.pointerLine look table' = app.pointerLine look table ↔
      (Help.sampleName table').shown = (Help.sampleName table).shown := by
  rw [← Help.shown_pointer_inj look]
  constructor
  · intro hline
    have hplain := congrArg (fun p => p.message.plain) hline
    simp only [pointerLine, Reporter.line, Message.plain_colored] at hplain
    exact hplain
  · intro hshown
    have hmessage : Help.pointerLine look table' = Help.pointerLine look table := by
      rw [Help.pointerLine, Message.ofStyled, StyledText.plain_uniform, hshown]
      rfl
    rw [pointerLine, hmessage]
    rfl

/-- Pages for tables with the same visible commands are printed alike but for the pointer. -/
theorem run_showTable (app : App) {table table' : List Command}
    (hvisible : Help.visibleCommands table' = Help.visibleCommands table) (h : Host) (s : Session) :
    ((app.showTable table').run h s).1 = ((app.showTable table).run h s).1 ∧
      ((∃ look before after, Help.Look.of app h = .ok look ∧
          ((app.showTable table).run h s).2.printed =
            before ++ app.pointerLine look table :: after ∧
          ((app.showTable table').run h s).2.printed =
            before ++ app.pointerLine look table' :: after) ∨
        ((app.showTable table').run h s).2.printed = ((app.showTable table).run h s).2.printed ∧
          ((app.showTable table).run h s).1 ≠ .ok ()) := by
  simp only [showTable, run_bind, run_host, run_ofExcept, Reporter.run_infoAll]
  cases hlook : Help.Look.of app h with
  | error failure => exact ⟨rfl, .inr ⟨rfl, fun hok => by cases hok⟩⟩
  | ok look =>
      dsimp only
      cases app.reporter.outcome (Help.banner look app.title) with
      | error failure => exact ⟨rfl, .inr ⟨rfl, fun hok => by cases hok⟩⟩
      | ok _ =>
          dsimp only
          cases Help.usageLine look app.info with
          | error failure => exact ⟨rfl, .inr ⟨rfl, fun hok => by cases hok⟩⟩
          | ok usage =>
              obtain ⟨front, last, hpage, hpage'⟩ :=
                Help.exists_overview_eq look hvisible usage app.man
              have hflaw := (app.flaw?_pointerLine look table').trans
                (app.flaw?_pointerLine look table).symm
              obtain ⟨houtcome, hlines⟩ := app.reporter.lines_replace hflaw front last
              rw [← hpage, ← hpage'] at houtcome hlines
              dsimp only
              refine ⟨houtcome, hlines.imp ?_ ?_⟩
              · rintro ⟨before, after, hbefore, hbefore'⟩
                refine ⟨look, s.printed ++ app.reporter.lines (Help.banner look app.title) ++ before,
                  after, rfl, ?_, ?_⟩
                · simp [hbefore, pointerLine]
                · simp [hbefore', pointerLine]
              · rintro ⟨hsame, herror⟩
                exact ⟨by rw [hsame], herror⟩

/-- The top-level page without the hidden commands is the page with them, but for the pointer. The
printed lines are the same if the page breaks off before the pointer, and otherwise they differ in
its line at most, which shows the name of the first command of each table. So pages that are shown to
the end are the same exactly if these names are shown the same. -/
theorem showHelp_withoutHidden (app : App) (h : Host) (s : Session) :
    let shown := app.showHelp.run h s
    let kept := (app.withoutHidden s).showHelp.run h s.unhidden
    let visible := Help.visibleCommands (app.table s)
    kept.1 = shown.1 ∧
      (kept.2.printed = shown.2.printed ∨
        ∃ look before after, Help.Look.of app h = .ok look ∧
          shown.2.printed = before ++ app.pointerLine look (app.table s) :: after ∧
          kept.2.printed = before ++ app.pointerLine look visible :: after) ∧
      (shown.1 = .ok () → (kept.2.printed = shown.2.printed ↔
        (Help.sampleName visible).shown = (Help.sampleName (app.table s)).shown)) := by
  intro shown kept visible
  -- both pages are shown in the session in which nothing is hidden, each for its own table
  have hshown : shown = (app.showTable (app.table s)).run h s := app.run_showHelp h s
  have hblind := app.showTable_blind (Session.withHidden_unread s.hidden) (app.table s) h s.unhidden
  have hkept : kept = (app.showTable visible).run h s.unhidden := by
    have hrun := (app.withoutHidden s).run_showHelp h s.unhidden
    rwa [table_of_hidden_eq_nil _ rfl] at hrun
  rw [Session.withHidden_unhidden, ← hshown] at hblind
  have hvisible : Help.visibleCommands visible = Help.visibleCommands (app.table s) :=
    Help.visibleCommands_visibleCommands _
  obtain ⟨hresult, hprinted⟩ := app.run_showTable hvisible h s.unhidden
  have hprinted' : shown.2.printed =
      ((app.showTable (app.table s)).run h s.unhidden).2.printed := by rw [hblind]; rfl
  have hresult' : shown.1 = ((app.showTable (app.table s)).run h s.unhidden).1 := by rw [hblind]
  rw [← hkept, ← hprinted', ← hresult'] at hprinted
  refine ⟨by rw [hkept, hresult, hresult'], ?_, ?_⟩
  · exact hprinted.symm.imp And.left id
  · intro hok
    obtain ⟨look, before, after, -, hbefore, hbefore'⟩ :=
      hprinted.resolve_right fun herror => herror.2 hok
    rw [hbefore, hbefore', List.append_cancel_left_eq, List.cons.injEq, and_iff_left rfl]
    exact app.pointerLine_inj look

end App

namespace Sample

/-- A tool the first command of which is hidden. -/
def secretive : App :=
  { tool (copy [] none) [] with
    commands := [{ copy [] none with longName := "secret", flags := ⟨2⟩ }, copy [] none] }

/-- The page of a tool shows the name of its hidden command, so it is not the page of the tool
without that command. -/
theorem secret_shown :
    ¬ ∀ (app : App) (h : Host) (s : Session), (∃ c ∈ app.table s, c.hidden = false) →
      ((app.withoutHidden s).showHelp.run h s.unhidden).2.printed =
        (app.showHelp.run h s).2.printed := by
  intro hall
  have hsame := hall secretive (answering (.int 0)) {} (by decide)
  revert hsame
  decide +kernel

end Sample

end CommandDispatch
