import CommandDispatch.Proofs.Extraction.Stopping
import CommandDispatch.Proofs.Session.Silence
import CommandDispatch.Proofs.Spec.Declared

/-! # The order of the checks

An invocation is refused for the first requirement that it does not meet, in a fixed order, and
something is selected if it meets them all. A request for help comes between the requirements: it is
served before the privilege of the user is asked for, and a page of help never ends with a fault of
the engine. What is selected is fit for extraction: its place is within the words, and its schema is
that of the command or of the entry that the words name.
-/

namespace CommandDispatch

open Resolution

/-! ## Requirements in a row -/

/-- A result that requirements decide in their order: the fault of the first one that is not met, or
a selection if all are met. -/
inductive Decides : List (Prop × Fault) → Except Failure Resolution → Prop
  | unmet {p : Prop} {f : Fault} {rest : List (Prop × Fault)} (hunmet : ¬ p) :
      Decides ((p, f) :: rest) (.error (.fault f))
  | met {p : Prop} {f : Fault} {rest : List (Prop × Fault)} {result : Except Failure Resolution}
      (hmet : p) (hrest : Decides rest result) : Decides ((p, f) :: rest) result
  | done (selection : Selection) : Decides [] (.ok (.selected selection))

/-- The fault of the first requirement that is not met. -/
def FirstUnmet (requirements : List (Prop × Fault)) (f : Fault) : Prop :=
  ∃ before p after, requirements = before ++ (p, f) :: after ∧ (∀ r ∈ before, r.1) ∧ ¬ p

theorem firstUnmet_cons_iff {p : Prop} {f g : Fault} {rest : List (Prop × Fault)} :
    FirstUnmet ((p, f) :: rest) g ↔ ¬ p ∧ g = f ∨ p ∧ FirstUnmet rest g := by
  constructor
  · rintro ⟨before, q, after, hsplit, hbefore, hunmet⟩
    cases before with
    | nil =>
        obtain ⟨hfirst, -⟩ := List.cons.inj hsplit
        obtain ⟨rfl, rfl⟩ := Prod.mk.inj hfirst
        exact .inl ⟨hunmet, rfl⟩
    | cons first before =>
        obtain ⟨rfl, rfl⟩ := List.cons.inj hsplit
        obtain ⟨hmet, hbefore⟩ := List.forall_mem_cons.1 hbefore
        exact .inr ⟨hmet, before, q, after, rfl, hbefore, hunmet⟩
  · rintro (⟨hunmet, rfl⟩ | ⟨hmet, before, q, after, rfl, hbefore, hunmet⟩)
    · exact ⟨[], p, rest, rfl, List.forall_mem_nil _, hunmet⟩
    · exact ⟨(p, f) :: before, q, after, rfl, List.forall_mem_cons.2 ⟨hmet, hbefore⟩, hunmet⟩

namespace Decides

variable {requirements : List (Prop × Fault)} {result : Except Failure Resolution}

theorem fault_iff (hdecides : Decides requirements result) (f : Fault) :
    result = .error (.fault f) ↔ FirstUnmet requirements f := by
  induction hdecides with
  | unmet hunmet =>
      rw [firstUnmet_cons_iff, Except.error.injEq, Failure.fault.injEq]
      constructor
      · rintro rfl
        exact .inl ⟨hunmet, rfl⟩
      · rintro (⟨-, rfl⟩ | ⟨hmet, -⟩)
        · rfl
        · exact absurd hmet hunmet
  | met hmet hrest ih =>
      rw [ih, firstUnmet_cons_iff]
      exact ⟨fun hfirst => .inr ⟨hmet, hfirst⟩, fun hfirst =>
        hfirst.elim (fun hunmet => absurd hmet hunmet.1) And.right⟩
  | done selection =>
      refine ⟨fun hfault => ?_, fun ⟨before, p, after, hsplit, _⟩ => ?_⟩
      · cases hfault
      · cases before <;> cases hsplit

theorem selected_iff (hdecides : Decides requirements result) :
    (∃ selection, result = .ok (.selected selection)) ↔ ∀ r ∈ requirements, r.1 := by
  induction hdecides with
  | unmet hunmet =>
      refine ⟨fun ⟨_, hselected⟩ => ?_, fun hall => ?_⟩
      · cases hselected
      · exact absurd (List.forall_mem_cons.1 hall).1 hunmet
  | met hmet hrest ih =>
      rw [ih, List.forall_mem_cons]
      exact ⟨fun hall => ⟨hmet, hall⟩, And.right⟩
  | done selection => exact ⟨fun _ => List.forall_mem_nil _, fun _ => ⟨selection, rfl⟩⟩

end Decides

/-! ## The requirements of an invocation -/

/-- What a command with a namespace requires of the words: the switch of the namespace, and the name
of an entry. -/
def Command.entryRequirements (c : Command) (argv : List Value) : List (Prop × Fault) :=
  match c.body with
  | .namespaced scope _ => [
      (3 ≤ argv.length, missingFlag),
      (4 ≤ argv.length, missingName),
      (scope.toSwitch.selectedBy (argv.getD 2 .null) = true, unknownFlag (argv.getD 2 .null)),
      (∃ entry, scope.find? (argv.getD 3 .null) = .ok (some entry),
        unknownEntry (argv.getD 3 .null))]
  | _ => []

/-- What a command requires of its user and of the words. -/
def Command.requirements (c : Command) (granted : Prop) (argv : List Value) : List (Prop × Fault) :=
  (c.superuserRequired = true → granted, insufficientPrivilege) :: c.entryRequirements argv

/-- What is required of an invocation, in the order of the checks, with the fault of each. -/
def App.requirements (app : App) (granted : Prop) (argv : List Value) : List (Prop × Fault) :=
  (2 ≤ argv.length, missingCommand) ::
  (isOption (argv.getD 1 .null) = true,
    .about .unrecognized (unknownCommand (argv.getD 1 .null)) (argv.getD 1 .null)) ::
  (∃ c ∈ app.commands, c.toSwitch.selectedBy (argv.getD 1 .null) = true,
    .about .unrecognizedCommand (unknownCommand (argv.getD 1 .null)) (argv.getD 1 .null)) ::
  match app.selected? argv with
  | some (_, c) => c.requirements granted argv
  | none => []

/-- Whether an invocation asks for help: for that of the command that it selects, or, if it selects
none, for that of the whole tool. -/
def App.asksHelp (app : App) (argv : List Value) : Bool :=
  match app.selected? argv with
  | some _ => (argv.drop 2).any isHelp
  | none => isHelp (argv.getD 1 .null)

/-- What a command selects, as the words of an invocation tell. -/
inductive Command.Selects (c : Command) (argv : List Value) : Selection → Prop
  | plain (hbody : c.body = .plain) : c.Selects argv ⟨c, none, none, 2⟩
  | options {schema : List OptionSpec} {parse : Callback} (hbody : c.body = .options schema parse) :
      c.Selects argv ⟨c, none, some schema, 2⟩
  | entry {scope : Namespace} {parse : Callback} {name : Text} {entry : NamespaceEntry}
      {before after : List NamespaceEntry} (hbody : c.body = .namespaced scope parse)
      (hname : argv[3]? = some (.text name)) (hentries : scope.entries = before ++ entry :: after)
      (hentry : Switch.sameName name entry.name = true)
      (hfirst : ∀ other ∈ before, Switch.sameName name other.name = false) :
      c.Selects argv ⟨c, some entry, some entry.options, 4⟩

/-- A word finds the first entry of a namespace whose name it is. -/
theorem Namespace.exists_split_of_find? {scope : Namespace} {word : Value} {entry : NamespaceEntry}
    (hfind : scope.find? word = .ok (some entry)) :
    ∃ name before after, word = .text name ∧ scope.entries = before ++ entry :: after ∧
      Switch.sameName name entry.name = true ∧
      ∀ other ∈ before, Switch.sameName name other.name = false := by
  unfold find? at hfind
  split at hfind
  next name =>
    obtain ⟨hsame, before, after, hsplit, hbefore⟩ :=
      List.find?_eq_some_iff_append.1 (Except.ok.inj hfind)
    exact ⟨name, before, after, rfl, hsplit, hsame, fun other hother => by
      simpa using hbefore other hother⟩
  next => cases hfind
  next => cases hfind
  next => cases hfind
  next => cases hfind

namespace Command

variable {c : Command} {selection : Selection}

/-- A command that is selected is selected as the words tell, at a place within them. -/
theorem selects_of_select (program selector : Value) {rest : List Value}
    (hselect : c.select rest = .ok selection) :
    c.Selects (program :: selector :: rest) selection ∧
      selection.offset ≤ (program :: selector :: rest).length := by
  unfold select at hselect
  split at hselect
  next hbody =>
    obtain rfl := Except.ok.inj hselect
    exact ⟨.plain hbody, by simp only [List.length_cons]; omega⟩
  next hbody =>
    obtain rfl := Except.ok.inj hselect
    exact ⟨.options hbody, by simp only [List.length_cons]; omega⟩
  next scope parse hbody =>
    split at hselect
    next => cases hselect
    next => cases hselect
    next flag word behind =>
      split at hselect
      next =>
        obtain ⟨found, hfound, hselect⟩ := exists_ok_of_bind_eq_ok hselect
        cases found with
        | none => cases hselect
        | some entry =>
            obtain rfl := Except.ok.inj hselect
            obtain ⟨name, before, after, rfl, hentries, hentry, hfirst⟩ :=
              Namespace.exists_split_of_find? hfound
            exact ⟨.entry hbody rfl hentries hentry hfirst, by
              simp only [List.length_cons]; omega⟩
      next => cases hselect

/-- The words behind a selector decide what is selected. -/
theorem decides_select (c : Command) (program selector : Value) {rest : List Value}
    (hcomparable : ∀ scope parse, c.body = .namespaced scope parse → ∀ name, rest[1]? = some name →
      ∃ found, scope.find? name = .ok found) :
    Decides (c.entryRequirements (program :: selector :: rest))
      (Resolution.selected <$> c.select rest) := by
  unfold entryRequirements select
  cases hbody : c.body with
  | plain => exact .done _
  | options schema parse => exact .done _
  | namespaced scope parse =>
      rcases rest with _ | ⟨flag, _ | ⟨name, rest⟩⟩
      · exact .unmet (by simp)
      · exact .met (by simp) (.unmet (by simp))
      · refine .met (by simp) (.met (by simp) ?_)
        dsimp only
        by_cases hflag : scope.toSwitch.selectedBy flag = true
        · rw [if_pos hflag]
          refine .met hflag ?_
          obtain ⟨found, hfound⟩ := hcomparable scope parse hbody name rfl
          rw [hfound]
          cases found with
          | some entry => exact .met ⟨entry, hfound⟩ (.done _)
          | none =>
              refine .unmet ?_
              rintro ⟨entry, hentry⟩
              cases hfound.symm.trans hentry
        · rw [if_neg hflag]
          exact .unmet hflag

end Command

namespace App

variable {app : App} {h : Host} {s : Session} {P : Call → Value → Prop}

/-- A callback that answers tells whether the user is privileged. -/
theorem run_isPrivileged_of_answered
    (hanswered : s.Answered h P (app.isPrivileged.run h s).2) :
    ∃ granted, (app.isPrivileged.run h s).1 = .ok granted ∧
      (granted = true ↔ app.Grants h s.calls) := by
  unfold isPrivileged at hanswered ⊢
  unfold Grants
  cases hprobe : app.privileged with
  | process => exact ⟨h.superuser, rfl, Iff.rfl⟩
  | callback probe =>
      simp only [hprobe] at hanswered ⊢
      have hkept := Session.keptByOutput_grows
      obtain ⟨v, t, hcall, -⟩ := Action.run_call_of_answered hanswered
        (Action.grows_run_bind fun _ => Action.pure_leads hkept _)
      have houtcome := (Action.run_call_eq_ok_iff.1 (congrArg Prod.fst hcall)).outcome
      refine ⟨v.isTrue, by rw [Action.run_bind, hcall]; rfl, fun htrue => ⟨v, houtcome, htrue⟩, ?_⟩
      rintro ⟨w, hw, htrue⟩
      obtain rfl := Except.ok.inj (houtcome.symm.trans hw)
      exact htrue

/-- The privilege check passes whoever needs no privilege or has it, and refuses everyone else. -/
theorem run_requirePrivilege_of_answered {c : Command}
    (hanswered : s.Answered h P ((app.requirePrivilege c).run h s).2) :
    ((c.superuserRequired = true → app.Grants h s.calls) ∧
        ((app.requirePrivilege c).run h s).1 = .ok ()) ∨
      (¬ (c.superuserRequired = true → app.Grants h s.calls) ∧
        ((app.requirePrivilege c).run h s).1 = .error (.fault insufficientPrivilege)) := by
  unfold requirePrivilege at hanswered ⊢
  cases hrequired : c.superuserRequired with
  | false => exact .inl ⟨fun hnever => (by cases hnever), rfl⟩
  | true =>
      simp only [hrequired, if_true] at hanswered ⊢
      have hkept := Session.keptByOutput_grows
      obtain ⟨granted, hok, hiff⟩ := run_isPrivileged_of_answered (hanswered.before
        (Action.grows_run_bind fun granted => by
          cases granted
          · exact Action.fail_leads hkept _
          · exact Action.pure_leads hkept _))
      rw [Action.run_bind]
      cases hrun : app.isPrivileged.run h s with
      | mk result t =>
          rw [hrun] at hok
          obtain rfl : result = .ok granted := hok
          cases granted with
          | true => exact .inl ⟨fun _ => hiff.1 rfl, rfl⟩
          | false =>
              refine .inr ⟨fun hgranted => ?_, rfl⟩
              cases hiff.2 (hgranted trivial)

/-- Without a request for help, the privilege check and the words behind the selector decide. -/
theorem decides_serve {c : Command} (program selector : Value) {noted : Value} {rest : List Value}
    (hhelp : rest.any isHelp = false)
    (hanswered : s.Answered h P ((app.serve c noted rest).run h s).2)
    (hcomparable : ∀ scope parse, c.body = .namespaced scope parse → ∀ name, rest[1]? = some name →
      ∃ found, scope.find? name = .ok found) :
    Decides (c.requirements (app.Grants h s.calls) (program :: selector :: rest))
      ((app.serve c noted rest).run h s).1 := by
  have hkept := Session.keptByOutput_grows
  have hserve : app.serve c noted rest = (app.requirePrivilege c >>= fun _ =>
      Action.note (.resolved noted c.longName) >>= fun _ =>
        Action.ofExcept (c.select rest) >>= fun selection => pure (.selected selection)) := by
    unfold serve
    rw [if_neg (by simp [hhelp])]
  rw [hserve] at hanswered ⊢
  have hprivilege := run_requirePrivilege_of_answered (hanswered.before
    (Action.grows_run_bind fun _ => Action.Leads.bind hkept (Action.note_leads hkept _) fun _ =>
      Action.Leads.bind hkept (Action.ofExcept_leads hkept _) fun _ =>
        Action.pure_leads hkept _))
  rw [Action.run_bind]
  cases hrun : (app.requirePrivilege c).run h s with
  | mk result t =>
      rw [hrun] at hprivilege
      rcases hprivilege with ⟨hgranted, hok⟩ | ⟨hdenied, herror⟩
      · obtain rfl : result = .ok () := hok
        refine .met hgranted ?_
        have hselects := c.decides_select program selector hcomparable
        simp only [Action.run_bind, Action.run_note, Action.run_ofExcept]
        cases hselect : c.select rest with
        | error _ => rwa [hselect] at hselects
        | ok _ => rwa [hselect] at hselects
      · obtain rfl : result = .error (.fault insufficientPrivilege) := herror
        exact .unmet hdenied

theorem requirements_shownIn (t : Session) (position : Nat) (c : Command) (granted : Prop)
    (argv : List Value) :
    (shownIn t position c).requirements granted argv = c.requirements granted argv := by
  simp only [Command.requirements, Command.entryRequirements, superuserRequired_shownIn,
    body_shownIn]

/-- An invocation that selects no command and asks for no help is refused for its selector. -/
theorem decides_resolve_of_selected?_eq_none {argv : List Value} (granted : Prop)
    (hselected : app.selected? argv = none) (hhelp : isHelp (argv.getD 1 .null) = false) :
    Decides (app.requirements granted argv) ((app.resolve argv).run h s).1 := by
  unfold requirements
  rcases argv with _ | ⟨program, _ | ⟨selector, rest⟩⟩
  · exact .unmet (by simp)
  · exact .unmet (by simp)
  · refine .met (by simp) ?_
    have hfind : find? app.commands selector = none := hselected
    have hnohelp : isHelp selector = false := hhelp
    simp only [resolve, hfind, hnohelp]
    by_cases hoption : isOption selector = true
    · rw [if_pos hoption]
      refine .met hoption (.unmet ?_)
      rintro ⟨c, hc, hselects⟩
      cases hselects.symm.trans (find?_eq_none_iff.1 hfind c hc)
    · rw [if_neg hoption]
      exact .unmet hoption

/-- An invocation that selects a command and asks for no help is refused by the command, or for what
the command requires. -/
theorem decides_resolve_of_selected? {argv : List Value} {position : Nat} {c : Command}
    (hselected : app.selected? argv = some (position, c)) (hhelp : (argv.drop 2).any isHelp = false)
    (hanswered : s.Answered h ConfiguresByNumber ((app.resolve argv).run h s).2)
    (hcomparable : ∀ scope parse, c.body = .namespaced scope parse → ∀ name,
      argv[3]? = some name → ∃ found, scope.find? name = .ok found) :
    Decides (app.requirements
        (app.Grants h (s.calls ++ if s.configured then [] else configurations app.commands)) argv)
      ((app.resolve argv).run h s).1 := by
  obtain ⟨noted, t, hconfigure, hcalls, hresolve⟩ := run_resolve_of_selected? hselected hanswered
  have hgrows := app.configure_leads Session.keptBySteps_grows h s
  rw [hconfigure] at hgrows
  unfold requirements
  rcases argv with _ | ⟨program, _ | ⟨selector, rest⟩⟩
  · cases hselected
  · cases hselected
  · obtain ⟨earlier, later, hsplit, -, hselects, -⟩ := exists_split_of_find? hselected
    have hmem : c ∈ app.commands := hsplit ▸ List.mem_append_right _ List.mem_cons_self
    refine .met (by simp) (.met (Switch.isOption_of_selectedBy hselects)
      (.met ⟨c, hmem, hselects⟩ ?_))
    rw [hresolve] at hanswered ⊢
    have hserved := decides_serve program selector hhelp
      (hanswered.after hgrows) (by rwa [body_shownIn])
    rw [requirements_shownIn, hcalls] at hserved
    rw [hselected]
    exact hserved

/-- What is shown when help is asked for a command: nothing for a hidden one. -/
def helpPage (app : App) (c : Command) : Action Unit :=
  if c.hidden then pure () else app.showCommandHelp c

theorem serve_of_help (c : Command) (noted : Value) {rest : List Value}
    (hhelp : rest.any isHelp = true) :
    app.serve c noted rest = (app.helpPage c >>= fun _ => pure (.served (some c))) := by
  unfold serve helpPage
  rw [if_pos hhelp]
  cases c.hidden <;> rfl

/-- A page of help ends with no fault if the callbacks answer. -/
theorem faultless_helpPage {c : Command} (hanswered : s.Answered h P ((app.helpPage c).run h s).2) :
    Faultless ((app.helpPage c).run h s).1 := by
  unfold helpPage at hanswered ⊢
  split at hanswered
  next hhidden =>
    rw [if_pos hhidden]
    exact Action.pure_faultFree () h s
  next hhidden =>
    rw [if_neg hhidden]
    unfold showCommandHelp at hanswered ⊢
    cases hhelp : c.help with
    | none =>
        refine (Action.host_faultFree.bind fun other => ?_) h s
        exact (Action.ofExcept_faultFree (Help.faultless_look app other)).bind fun look =>
          app.reporter.infoAll_faultFree _
    | some callback =>
        simp only [hhelp] at hanswered ⊢
        obtain ⟨v, t, hcall, -⟩ := Action.run_call_of_answered hanswered
          (Action.grows_run_bind fun _ => Action.pure_leads Session.keptByOutput_grows _)
        rw [Action.run_discard, hcall]
        intro f hfault
        cases hfault

/-- A request for the help of the tool. -/
theorem resolve_of_help {argv : List Value} (hselected : app.selected? argv = none)
    (hhelp : isHelp (argv.getD 1 .null) = true) :
    app.resolve argv = (app.showHelp >>= fun _ => pure (.served none)) := by
  rcases argv with _ | ⟨program, _ | ⟨selector, rest⟩⟩
  · cases hhelp
  · cases hhelp
  · have hfind : find? app.commands selector = none := hselected
    have hselector : isHelp selector = true := hhelp
    simp only [resolve, hfind, hselector, Switch.isOption_of_selectedBy hselector, if_true]

/-- A request for the help of a command. -/
theorem run_resolve_of_help {argv : List Value} {position : Nat} {c : Command}
    (hselected : app.selected? argv = some (position, c)) (hhelp : (argv.drop 2).any isHelp = true)
    (hanswered : s.Answered h ConfiguresByNumber ((app.resolve argv).run h s).2) :
    ∃ t, app.configure.run h s = (.ok (), t) ∧
      (app.resolve argv).run h s = (app.helpPage (shownIn t position c) >>= fun _ =>
        pure (.served (some (shownIn t position c)))).run h t ∧
      Faultless ((app.resolve argv).run h s).1 := by
  obtain ⟨noted, t, hconfigure, -, hresolve⟩ := run_resolve_of_selected? hselected hanswered
  have hgrows := app.configure_leads Session.keptBySteps_grows h s
  rw [hconfigure] at hgrows
  rw [hresolve, serve_of_help _ _ hhelp] at hanswered ⊢
  have hpage := faultless_helpPage ((hanswered.after hgrows).before
    (Action.grows_run_bind fun _ => Action.pure_leads Session.keptByOutput_grows _))
  refine ⟨t, hconfigure, rfl, ?_⟩
  rw [Action.run_bind]
  cases hrun : (app.helpPage (shownIn t position c)).run h t with
  | mk result u =>
      rw [hrun] at hpage
      cases result with
      | ok _ => exact fun f hfault => by cases hfault
      | error failure =>
          rintro f ⟨⟩
          exact hpage f rfl

/-- What is selected belongs to the first command of the table that the selector names, and its
options have a callback. -/
theorem exists_selects_of_run_resolve {argv : List Value} {selection : Selection}
    (hresolved : ((app.resolve argv).run h s).1 = .ok (.selected selection)) :
    ∃ earlier c later selector t, app.commands = earlier ++ c :: later ∧
      argv[1]? = some selector ∧ c.toSwitch.selectedBy selector = true ∧
      (∀ b ∈ earlier, b.toSwitch.selectedBy selector = false) ∧
      (shownIn t earlier.length c).Selects argv selection ∧ selection.offset ≤ argv.length ∧
      (selection.schema.isSome = true → selection.Delivers) := by
  obtain ⟨position, c, hselected, -, hselect⟩ := select_of_run_resolve hresolved
  rcases argv with _ | ⟨program, _ | ⟨selector, rest⟩⟩
  · cases hselected
  · cases hselected
  · obtain ⟨earlier, later, hsplit, rfl, hselects, hearlier⟩ := exists_split_of_find? hselected
    obtain ⟨hshape, hoffset⟩ := Command.selects_of_select program selector hselect
    exact ⟨earlier, c, later, selector, _, hsplit, rfl, hselects, hearlier, hshape, hoffset,
      Command.delivers_of_select_eq_ok hselect⟩

/-- Resolution decides in a fixed order. A request for help is served, for the tool or, once the
table is configured, for the command that is selected, and ends with no fault. Without one, the
result is the fault of the first requirement that is not met, or a selection if all are met. What is
selected is the first command of the table that the selector names, at a place within the words: a
command without options has no schema, and any other has its own or that of the first entry that the
fourth word names. Extraction from there reports that it cannot deliver only if a callback does. -/
theorem resolve_by_priority (app : App) (argv : List Value) (h : Host) (s : Session)
    (hanswered : s.Answered h ConfiguresByNumber ((app.resolve argv).run h s).2)
    (hcomparable : ∀ position c scope parse, app.selected? argv = some (position, c) →
      c.body = .namespaced scope parse → ∀ name, argv[3]? = some name →
        ∃ found, scope.find? name = .ok found) :
    (app.selected? argv = none → isHelp (argv.getD 1 .null) = true →
      app.resolve argv = (app.showHelp >>= fun _ => pure (.served none)) ∧
        Faultless ((app.resolve argv).run h s).1) ∧
    (∀ position c, app.selected? argv = some (position, c) → (argv.drop 2).any isHelp = true →
      ∃ t, app.configure.run h s = (.ok (), t) ∧
        (app.resolve argv).run h s = (app.helpPage (shownIn t position c) >>= fun _ =>
          pure (.served (some (shownIn t position c)))).run h t ∧
        Faultless ((app.resolve argv).run h s).1) ∧
    (app.asksHelp argv = false →
      (∀ f, ((app.resolve argv).run h s).1 = .error (.fault f) ↔
        FirstUnmet (app.requirements (app.Grants h
          (s.calls ++ if s.configured then [] else configurations app.commands)) argv) f) ∧
      ((∃ selection, ((app.resolve argv).run h s).1 = .ok (.selected selection)) ↔
        ∀ r ∈ app.requirements (app.Grants h
          (s.calls ++ if s.configured then [] else configurations app.commands)) argv, r.1)) ∧
    (∀ selection, ((app.resolve argv).run h s).1 = .ok (.selected selection) →
      ∃ earlier c later selector t, app.commands = earlier ++ c :: later ∧
        argv[1]? = some selector ∧ c.toSwitch.selectedBy selector = true ∧
        (∀ b ∈ earlier, b.toSwitch.selectedBy selector = false) ∧
        (shownIn t earlier.length c).Selects argv selection ∧
        selection.offset ≤ argv.length ∧
        (selection.schema.isSome = true → ∀ words other session f,
          ((selection.extract words).run other session).1 = .error (.fault f) →
            f.kind = .of .internalError →
              ∃ made call, ((selection.extract words).run other session).2.calls =
                  session.calls ++ made ++ [call] ∧
                (other.reply (session.calls ++ made) call).outcome = .error (.fault f))) := by
  refine ⟨fun hselected hhelp => ?_, fun position c hselected hhelp =>
    run_resolve_of_help hselected hhelp hanswered, fun hnohelp => ?_, fun selection hresolved => ?_⟩
  · have hresolve := resolve_of_help hselected hhelp
    rw [hresolve]
    exact ⟨rfl, (app.showHelp_faultFree.bind fun _ => Action.pure_faultFree _) h s⟩
  · have hdecides : Decides (app.requirements (app.Grants h
        (s.calls ++ if s.configured then [] else configurations app.commands)) argv)
        ((app.resolve argv).run h s).1 := by
      unfold asksHelp at hnohelp
      cases hselected : app.selected? argv with
      | none =>
          rw [hselected] at hnohelp
          exact decides_resolve_of_selected?_eq_none _ hselected hnohelp
      | some found =>
          rw [hselected] at hnohelp
          exact decides_resolve_of_selected? hselected hnohelp hanswered fun scope parse =>
            hcomparable found.1 found.2 scope parse hselected
    exact ⟨hdecides.fault_iff, hdecides.selected_iff⟩
  · obtain ⟨earlier, c, later, selector, t, hsplit, hselector, hselects, hearlier, hshape, hoffset,
      hdelivers⟩ := exists_selects_of_run_resolve hresolved
    exact ⟨earlier, c, later, selector, t, hsplit, hselector, hselects, hearlier, hshape, hoffset,
      fun hschema words other session f => Selection.raised_of_run_extract (hdelivers hschema)⟩

end App

namespace Sample

/-- A command for privileged users, with a namespace of one entry, and perhaps with a callback that
configures it. -/
def erase (configure : Option Callback) : Command :=
  { copy [] configure with
    longName := "erase"
    flags := ⟨1⟩
    body := .namespaced ⟨⟨"target", none⟩, [⟨"disk", none, [verbose]⟩]⟩ ⟨1, "parse"⟩ }

/-- A host with an unprivileged user. -/
def unprivileged (v : Value) : Host := { answering v with superuser := false }

/-- Of the requirements that an invocation does not meet, the privilege comes first; and for a
privileged user who names an entry, all are met. -/
theorem erase_decided :
    FirstUnmet ((tool (erase none) []).requirements
      ((tool (erase none) []).Grants (unprivileged (.int 0)) [])
      [.text "tool", .text "--erase", .text "-x"]) insufficientPrivilege ∧
    ∀ r ∈ (tool (erase none) []).requirements
      ((tool (erase none) []).Grants (answering (.int 0)) [])
      [.text "tool", .text "--erase", .text "--target", .text "disk"], r.1 := by
  have hnumbers : ∀ call, App.ConfiguresByNumber call (.int 0) := fun _ _ => rfl
  obtain ⟨-, -, hrefused, -⟩ := App.resolve_by_priority (tool (erase none) [])
    [.text "tool", .text "--erase", .text "-x"] (unprivileged (.int 0)) {}
    (fun _ call _ _ => ⟨.int 0, ⟨rfl, fun _ _ hadded => by cases hadded⟩, hnumbers call⟩)
    (fun _ _ _ _ _ _ _ hname => by cases hname)
  obtain ⟨-, -, hselected, -⟩ := App.resolve_by_priority (tool (erase none) [])
    [.text "tool", .text "--erase", .text "--target", .text "disk"] (answering (.int 0)) {}
    (answered_answering (.int 0) _ _ hnumbers)
    (fun _ _ _ _ _ _ name hname => by
      obtain rfl := Option.some.inj hname
      exact ⟨_, rfl⟩)
  exact ⟨((hrefused rfl).1 insufficientPrivilege).1 rfl,
    (hselected rfl).2.1 ⟨⟨erase none, some ⟨"disk", none, [verbose]⟩, some [verbose], 4⟩, rfl⟩⟩

/-- No callback fails, and yet no requirement decides: a configuration callback answers with no
number before the privilege is asked for, or the word in the place of the name cannot be compared.
And a page of help fails if the console cannot read a style. -/
theorem no_requirement_decides :
    ((tool (erase (some ⟨2, "first"⟩)) []).resolve [.text "tool", .text "--erase"]).run
      (unprivileged .null) {} =
        (.error .resultNotInteger,
          { configured := true, calls := [⟨⟨2, "first"⟩, .configure⟩] }) ∧
    FirstUnmet ((tool (erase (some ⟨2, "first"⟩)) []).requirements
      ((tool (erase (some ⟨2, "first"⟩)) []).Grants (unprivileged .null)
        [⟨⟨2, "first"⟩, .configure⟩])
      [.text "tool", .text "--erase"]) insufficientPrivilege ∧
    (((tool (erase none) []).resolve
      [.text "tool", .text "--erase", .text "--target", .int 5]).run (answering (.int 0)) {}).1 =
        .error .entryNameNotText ∧
    ((({ tool (erase none) [] with title := .styled (.uniform "Tool" (.named "rgb(1,,2)")) } : App).resolve
      [.text "tool", .text "--help"]).run (answering (.int 0)) {}).1.isOk = false := by
  refine ⟨rfl, ?_, rfl, by decide +kernel⟩
  refine firstUnmet_cons_iff.2 (.inr ⟨by decide, firstUnmet_cons_iff.2 (.inr ⟨rfl, ?_⟩)⟩)
  refine firstUnmet_cons_iff.2 (.inr ⟨⟨erase _, List.mem_singleton_self _, rfl⟩, ?_⟩)
  refine firstUnmet_cons_iff.2 (.inl ⟨fun hgranted => ?_, rfl⟩)
  cases hgranted rfl

end Sample

end CommandDispatch
