import CommandDispatch.Proofs.Dispatch.Order
import CommandDispatch.Proofs.Session.Blindness
import CommandDispatch.Proofs.Spec.Veils

/-! # Hidden bits and invocations

An invocation that renders no help does not read a hidden bit. An application and its veil serve it
in the same way, and the veil does so whatever a session hides. So applications with the same veil
serve it alike.
-/

namespace CommandDispatch

open CommandDispatch.Action

def Selection.veil (s : Selection) : Selection where
  command := s.command.veil
  entry := s.entry.map NamespaceEntry.veil
  schema := s.schema.map (List.map OptionSpec.veil)
  offset := s.offset

def Resolution.veil : Resolution → Resolution
  | .served command => .served (command.map Command.veil)
  | .selected selection => .selected selection.veil

/-! ## Extraction -/

namespace Extraction

theorem find?_veil (schema : List OptionSpec) (word : Value) :
    find? (schema.map OptionSpec.veil) word = (find? schema word).map OptionSpec.veil :=
  List.find?_map

theorem occurrenceFault?_veil (words : List Value) (o : OptionSpec) :
    occurrenceFault? words o.veil = occurrenceFault? words o := by
  rw [occurrenceFault?, OptionSpec.required_veil]
  rfl

theorem audit_veil (schema : List OptionSpec) (words : List Value) :
    audit (schema.map OptionSpec.veil) words = audit schema words := by
  have hfault : occurrenceFault? words ∘ OptionSpec.veil = occurrenceFault? words :=
    funext (occurrenceFault?_veil words)
  rw [audit, List.findSome?_map, hfault, audit]

theorem refusesCount_veil (o : OptionSpec) (count : Nat) :
    refusesCount o.veil count = refusesCount o count := by
  rw [refusesCount, OptionSpec.required_veil, OptionSpec.optional_veil]
  rfl

def Delivery.veil (d : Delivery) : Delivery := { d with option := d.option.veil }

def Plan.veil (p : Plan) : Plan := { p with deliveries := p.deliveries.map Delivery.veil }

theorem planGroups_veil (schema : List OptionSpec) (groups : List Group) :
    planGroups (schema.map OptionSpec.veil) groups = (planGroups schema groups).veil := by
  induction groups with
  | nil => rfl
  | cons group rest ih =>
      simp only [planGroups, find?_veil]
      cases find? schema group.switch with
      | none => rfl
      | some o =>
          simp only [Option.map_some, OptionSpec.takesValues_veil, refusesCount_veil, ih]
          split
          · split <;> rfl
          · split <;> rfl

theorem plan_veil (schema : List OptionSpec) (words : List Value) :
    plan (schema.map OptionSpec.veil) words = (plan schema words).veil := by
  unfold plan
  split
  · exact planGroups_veil schema _
  · rfl

end Extraction

open Extraction

namespace Selection

theorem deliver_veil (s : Selection) (d : Delivery) : s.veil.deliver d.veil = s.deliver d := by
  unfold deliver
  rcases s with ⟨c, entry, schema, offset⟩
  rcases c with ⟨switch, descr, longDescr, flags, handler, configure, help, body⟩
  cases body <;> cases entry <;> rfl

theorem deliverAll_veil (s : Selection) (deliveries : List Delivery) :
    s.veil.deliverAll (deliveries.map Delivery.veil) = s.deliverAll deliveries := by
  induction deliveries with
  | nil => rfl
  | cons d rest ih =>
      simp only [List.map_cons, deliverAll, deliver_veil, ih]
      rfl

theorem extract_veil (s : Selection) (argv : List Value) : s.veil.extract argv = s.extract argv := by
  have hwords : s.veil.words argv = s.words argv := rfl
  have hschema : s.veil.schema = s.schema.map (List.map OptionSpec.veil) := rfl
  unfold extract
  rw [hschema, hwords]
  cases s.schema with
  | none => rfl
  | some schema =>
      simp only [Option.map_some, audit_veil, plan_veil, Plan.veil, deliverAll_veil]

end Selection

/-! ## Resolution -/

theorem Namespace.find?_veil (scope : Namespace) (name : Value) :
    scope.veil.find? name = Option.map NamespaceEntry.veil <$> scope.find? name := by
  cases name with
  | text t =>
      rw [find?, Namespace.veil, List.find?_map]
      rfl
  | collection c contents => cases contents <;> rfl
  | _ => rfl

theorem Command.select_veil (c : Command) (rest : List Value) :
    c.veil.select rest = Selection.veil <$> c.select rest := by
  have hbody : c.veil.body = c.body.veil := rfl
  rw [select, hbody, select]
  cases c.body with
  | plain => rfl
  | options schema parse => rfl
  | namespaced scope parse =>
      rcases rest with _ | ⟨flag, _ | ⟨name, rest⟩⟩
      · rfl
      · rfl
      · have hswitch : scope.veil.toSwitch = scope.toSwitch := rfl
        simp only [CommandBody.veil, hswitch, scope.find?_veil]
        split
        · cases scope.find? name with
          | error failure => rfl
          | ok found => cases found <;> rfl
        · rfl

namespace App

theorem veil_shownIn (s : Session) (position : Nat) (c : Command) :
    (shownIn s position c).veil = c.veil := by
  rcases shownIn_eq_or s position c with hshown | hshown <;> simp [hshown, c.veil_hide]

theorem shownIn_veil (s : Session) (position : Nat) (c : Command) :
    shownIn s position c.veil = c.veil := by
  rcases shownIn_eq_or s position c.veil with hshown | hshown <;> simp [hshown, c.hide_veil]

theorem find?_veil (commands : List Command) (word : Value) :
    find? (commands.map Command.veil) word =
      (find? commands word).map fun found => (found.1, found.2.veil) := by
  have hindexed : (commands.map Command.veil).zipIdx =
      commands.zipIdx.map fun entry => (entry.1.veil, entry.2) := List.zipIdx_map
  rw [find?, hindexed, List.find?_map, Option.map_map, find?, Option.map_map]
  rfl

theorem configureFrom_veil (position : Nat) (commands : List Command) :
    configureFrom position (commands.map Command.veil) = configureFrom position commands := by
  induction commands generalizing position with
  | nil => rfl
  | cons c rest ih =>
      simp only [List.map_cons, configureFrom, ih]
      rfl

theorem configure_veil (app : App) : app.veil.configure = app.configure := by
  have hcommands : app.veil.commands = app.commands.map Command.veil := rfl
  unfold configure
  rw [hcommands, configureFrom_veil]

theorem requirePrivilege_veil (app : App) (c : Command) :
    app.veil.requirePrivilege c.veil = app.requirePrivilege c := by
  unfold requirePrivilege
  rw [Command.superuserRequired_veil]
  rfl

/-- A veiled command is served like the command, unless help is to be shown. -/
theorem serve_veil (app : App) (c : Command) (selector : Value) {rest : List Value}
    (hhelp : rest.any isHelp = true → c.hidden = true) :
    app.veil.serve c.veil selector rest = Resolution.veil <$> app.serve c selector rest := by
  unfold serve
  cases hany : rest.any isHelp with
  | true =>
      simp only [if_true, c.hidden_veil, hhelp hany]
      rfl
  | false =>
      simp only [Bool.false_eq_true, if_false, requirePrivilege_veil, c.select_veil, map_bind]
      refine bind_congr fun _ => bind_congr fun _ => ?_
      cases c.select rest <;> rfl

/-! ## Invocations -/

/-- An invocation renders help: a selector that selects no command asks for the page of the tool, or
a later word asks for the page of the selected command, or for its own help callback, and that
command is not hidden once all commands are configured. -/
def RendersHelp (app : App) (argv : List Value) (h : Host) (s : Session) : Prop :=
  match app.selected? argv with
  | none => ∃ selector ∈ argv[1]?, isHelp selector = true
  | some (position, c) =>
      (argv.drop 2).any isHelp = true ∧ (app.configure.run h s).1 = .ok () ∧
        (shownIn (app.configure.run h s).2 position c).hidden = false

variable {app : App} {h : Host} {s : Session} {argv : List Value}

/-- Such an invocation ends with showing the page of the tool, or help for a command. -/
theorem exists_page_of_rendersHelp (hrenders : app.RendersHelp argv h s) :
    ∃ page command t, (page = app.showHelp ∨ ∃ c, page = app.showCommandHelp c) ∧
      (app.resolve argv).run h s = (page >>= fun _ => pure (.served command)).run h t := by
  unfold RendersHelp at hrenders
  split at hrenders
  next hselected =>
    obtain ⟨selector, hselector, hhelp⟩ := hrenders
    rcases argv with _ | ⟨program, _ | ⟨first, rest⟩⟩
    · cases hselector
    · cases hselector
    · obtain rfl : first = selector := Option.some.inj hselector
      have hfind : find? app.commands first = none := hselected
      have hoption : isOption first = true := Switch.isOption_of_selectedBy hhelp
      refine ⟨app.showHelp, none, s, .inl rfl, ?_⟩
      simp only [resolve, hfind, hoption, hhelp, if_true]
  next position c hselected =>
    obtain ⟨hany, hok, hvisible⟩ := hrenders
    obtain ⟨selector, hresolve⟩ := app.resolve_of_selected? hselected
    obtain ⟨t, hrun⟩ : ∃ t, app.configure.run h s = (.ok (), t) := ⟨_, Prod.ext hok rfl⟩
    rw [hrun] at hvisible
    refine ⟨app.showCommandHelp (shownIn t position c), some (shownIn t position c), t,
      .inr ⟨_, rfl⟩, ?_⟩
    rw [hresolve, resolveCommand_eq, run_bind, hrun]
    dsimp only at hvisible ⊢
    rw [run_bind, run_session]
    simp only [serve, hany, hvisible, Bool.false_eq_true, if_true, if_false]

theorem resolveCommand_veil {position : Nat} {c : Command} {selector : Value} {rest : List Value}
    (hhidden : rest.any isHelp = true → (app.configure.run h s).1 = .ok () →
      (shownIn (app.configure.run h s).2 position c).hidden = true) :
    (app.veil.resolveCommand position c.veil selector rest).run h s =
      (Resolution.veil <$> app.resolveCommand position c selector rest).run h s := by
  rw [resolveCommand_eq, resolveCommand_eq, configure_veil, map_bind, run_bind, run_bind]
  cases hrun : app.configure.run h s with
  | mk result t =>
      rw [hrun] at hhidden
      cases result with
      | error failure => rfl
      | ok _ =>
          dsimp only at hhidden ⊢
          rw [map_bind, run_bind, run_bind, run_session]
          dsimp only
          rw [shownIn_veil, ← veil_shownIn t position c,
            serve_veil app _ selector fun hany => hhidden hany rfl]

theorem resolve_veil (hrenders : ¬ app.RendersHelp argv h s) :
    (app.veil.resolve argv).run h s = (Resolution.veil <$> app.resolve argv).run h s := by
  rcases argv with _ | ⟨program, _ | ⟨selector, rest⟩⟩
  · rfl
  · rfl
  · have hveil : find? app.veil.commands selector = _ := find?_veil app.commands selector
    cases hfind : find? app.commands selector with
    | none =>
        rw [hfind, Option.map_none] at hveil
        have hhelp : ¬ isHelp selector = true := by
          simpa [RendersHelp, selected?, hfind] using hrenders
        simp only [resolve, hfind, hveil, hhelp]
        split <;> rfl
    | some found =>
        obtain ⟨position, c⟩ := found
        rw [hfind, Option.map_some] at hveil
        simp only [resolve, hfind, hveil, isOption_of_find?_eq_some hfind, if_true]
        apply resolveCommand_veil
        intro hany hok
        have hshown : ¬ (shownIn (app.configure.run h s).2 position c).hidden = false := by
          intro hshown
          apply hrenders
          simp only [RendersHelp, selected?, hfind]
          exact ⟨hany, hok, hshown⟩
        simpa using hshown

/-- Without help, the veil of an application makes ready what it makes ready itself. -/
theorem prepare_veil (hrenders : ¬ app.RendersHelp argv h s) :
    (app.veil.prepare argv).run h s = (Option.map Selection.veil <$> app.prepare argv).run h s := by
  rw [run_map, run_prepare, run_prepare, resolve_veil hrenders, run_map]
  cases (app.resolve argv).run h s with
  | mk result t =>
      cases result with
      | error failure => rfl
      | ok resolution =>
          cases resolution with
          | served command => rfl
          | selected selection =>
              have hschema : selection.veil.schema.isSome = selection.schema.isSome :=
                Option.isSome_map
              dsimp only [Resolution.veil]
              rw [hschema, selection.extract_veil]
              cases selection.schema.isSome with
              | false => rfl
              | true =>
                  simp only [if_true]
                  cases (selection.extract argv).run h t with
                  | mk result u => cases result <;> rfl

/-- Without help, an application and its veil serve an invocation in the same way. -/
theorem dispatch_veil (hrenders : ¬ app.RendersHelp argv h s) :
    (app.veil.dispatch argv).run h s = (app.dispatch argv).run h s := by
  rw [run_dispatch, run_dispatch, prepare_veil hrenders, run_map]
  -- neither running a command nor surfacing a fault looks at the table
  cases (app.prepare argv).run h s with
  | mk result t =>
      cases result with
      | ok prepared => cases prepared <;> rfl
      | error failure => cases failure <;> rfl

/-! ## Hidden commands of a session -/

variable {change : Session → Session}

/-- A veiled command is hidden, so that it is served in the same way whatever a session hides. -/
theorem serve_veil_blind (hunread : Session.Unread change) (app : App) (c : Command)
    (selector : Value) (rest : List Value) : Blind change (app.serve c.veil selector rest) := by
  unfold serve
  rw [c.hidden_veil]
  split
  · exact pure_blind _
  · refine (app.requirePrivilege_blind hunread _).bind fun _ => ?_
    refine (note_blind hunread _).bind fun _ => ?_
    exact (ofExcept_blind _).bind fun _ => pure_blind _

theorem resolve_veil_blind (hunread : Session.Unread change)
    (hhelp : app.selected? argv = none → ∀ selector ∈ argv[1]?, isHelp selector = false) :
    Blind change (app.veil.resolve argv) := by
  rcases argv with _ | ⟨program, _ | ⟨selector, rest⟩⟩
  · exact fail_blind _
  · exact fail_blind _
  · have hveil : find? app.veil.commands selector = _ := find?_veil app.commands selector
    simp only [resolve]
    split
    · cases hfind : find? app.commands selector with
      | none =>
          rw [hfind, Option.map_none] at hveil
          simp only [hveil, hhelp hfind selector rfl]
          exact fail_blind _
      | some found =>
          obtain ⟨position, c⟩ := found
          rw [hfind, Option.map_some] at hveil
          simp only [hveil]
          refine (app.veil.configure_blind hunread).bind fun _ => ?_
          simp only [shownIn_veil]
          exact Blind.session (fun _ => app.veil.serve_veil_blind hunread c selector rest)
            fun _ => rfl
    · exact fail_blind _

theorem dispatch_veil_blind (hunread : Session.Unread change)
    (hhelp : app.selected? argv = none → ∀ selector ∈ argv[1]?, isHelp selector = false) :
    Blind change (app.veil.dispatch argv) := by
  have hprepare : Blind change (app.veil.prepare argv) := by
    refine (resolve_veil_blind hunread hhelp).bind fun resolution => ?_
    cases resolution with
    | served command => exact pure_blind _
    | selected selection =>
        dsimp only
        split
        · exact (selection.extract_blind hunread argv).bind fun _ => pure_blind _
        · exact pure_blind _
  refine hprepare.catchFault.bind fun prepared => ?_
  rcases prepared with f | _ | selection
  · exact f.trigger_blind hunread app.veil {}
  · exact pure_blind _
  · exact app.veil.run_blind hunread selection.command argv

/-- Hiding is a matter of presentation. Two applications differ in the hidden bits of commands and
options only, and so do two sessions in the commands that they hide. If neither invocation renders
help, both end in the same way, with the same calls, the same messages and the same files. -/
theorem dispatch_of_veil_eq {app' : App} (hveil : app'.veil = app.veil) (h : Host) (s : Session)
    (hidden : List Nat) (argv : List Value) (hrenders : ¬ app.RendersHelp argv h s)
    (hrenders' : ¬ app'.RendersHelp argv h { s with hidden }) :
    let ended := (app.dispatch argv).run h s
    let ended' := (app'.dispatch argv).run h { s with hidden }
    ended'.1 = ended.1 ∧ ended'.2 = { ended.2 with hidden := ended'.2.hidden } := by
  intro ended ended'
  have hhelp : app.selected? argv = none → ∀ selector ∈ argv[1]?, isHelp selector = false := by
    intro hselected selector hselector
    simp only [RendersHelp, hselected] at hrenders
    simpa using fun hhelp => hrenders ⟨selector, hselector, hhelp⟩
  -- both are what the common veil does in the session that hides nothing
  have hblind (more : List Nat) :=
    dispatch_veil_blind (Session.withHidden_unread more) hhelp h s.unhidden
  have hended : ended = (app.veil.dispatch argv).run h (s.unhidden.withHidden s.hidden) :=
    (dispatch_veil hrenders).symm
  have hended' : ended' = (app.veil.dispatch argv).run h (s.unhidden.withHidden hidden) := by
    rw [← hveil]
    exact (dispatch_veil hrenders').symm
  rw [hended, hended', hblind, hblind]
  exact ⟨rfl, rfl⟩

end App

namespace Sample

/-- The sample invocation does the same for a command that is hidden, with an option that is
hidden. -/
theorem hidden_copying :
    let hiddenFile : OptionSpec := { file with flags := ⟨5⟩ }
    let ended := ((tool (copy [file, verbose] none) []).dispatch copying).run (answering (.int 0)) {}
    let ended' := ((tool (copy [hiddenFile, verbose] none).hide []).dispatch copying).run
      (answering (.int 0)) {}
    ended'.1 = ended.1 ∧ ended'.2 = { ended.2 with hidden := ended'.2.hidden } :=
  App.dispatch_of_veil_eq rfl (answering (.int 0)) {} [] copying (fun hrenders => by cases hrenders.1)
    fun hrenders => by cases hrenders.1

end Sample

end CommandDispatch
