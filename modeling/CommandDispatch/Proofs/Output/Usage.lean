import CommandDispatch.Proofs.Extraction.Rearranging
import CommandDispatch.Proofs.Extraction.Shadowing
import CommandDispatch.Proofs.Extraction.Walking
import CommandDispatch.Proofs.Output.Console
import Mathlib.Data.List.Nodup

/-! # Usage lines that can be followed

The usage line on the page of a command lists the options that are required. Written out in their
order, each with a value if its label is shown, they are words that extraction accepts: the page and
the parser read one schema in the same way.
-/

namespace CommandDispatch

open Extraction

/-! ## The line -/

namespace Help

theorem mem_listedOptions {schema : List OptionSpec} {o : OptionSpec} :
    o ∈ listedOptions schema ↔ o ∈ schema ∧ o.hidden = false ∧ o.required = true := by
  simp [listedOptions, visible, and_comm]

theorem listedOptions_sublist (schema : List OptionSpec) : (listedOptions schema).Sublist schema :=
  List.filter_sublist.trans List.filter_sublist

/-- The usage line of a command with options. -/
def usageMessage (look : Look) (c : Command) (schema : List OptionSpec) : Message :=
  .assemble (usageHead look ++ [bare (.concat [" --", c.longName] ++ usageOptions schema)])

/-- The sign that a usage line ends in, if it ends in one. -/
def furtherOptions (schema : List OptionSpec) : Text :=
  if (visible schema).all OptionSpec.required then [] else moreOptions

theorem plain_usage (look : Look) (tail : Text) :
    (Message.assemble (usageHead look ++ [bare tail])).plain =
      Text.shown (.concat ["Usage: ", look.program.display, tail]) :=
  Message.plain_assemble (by simp [usageHead, Value.plain_piece, bare])

theorem plain_usageMessage_eq (look : Look) (c : Command) (schema : List OptionSpec) :
    (usageMessage look c schema).plain =
      Text.shown (.concat ["Usage: ", look.program.display, " --", c.longName,
        (listedOptions schema).flatMap fun o => CodePoint.space :: optionForm o,
        furtherOptions schema]) := by
  rw [usageMessage, plain_usage, usageOptions, furtherOptions]
  split <;> simp [Text.concat]

/-- A usage line shows the program, the long name of the command, the options that it lists, in
their order, and perhaps a sign for further ones. -/
theorem plain_usageMessage (look : Look) (c : Command) (schema : List OptionSpec) :
    ∃ more, (more = [] ∨ more = moreOptions) ∧
      (usageMessage look c schema).plain =
        Text.shown (.concat ["Usage: ", look.program.display, " --", c.longName,
          (listedOptions schema).flatMap fun o => CodePoint.space :: optionForm o, more]) := by
  refine ⟨furtherOptions schema, ?_, plain_usageMessage_eq look c schema⟩
  exact (ite_eq_or_eq _ _ _)

end Help

/-- A command without a help callback of its own has its page shown. -/
theorem App.run_showCommandHelp {app : App} {c : Command} (hhelp : c.help = none) (h : Host)
    (s : Session) :
    (app.showCommandHelp c).run h s =
      match Help.Look.of app h with
      | .error failure => (.error failure, s)
      | .ok look => (app.reporter.outcome (Help.page look c),
          { s with printed := s.printed ++ app.reporter.lines (Help.page look c) }) := by
  simp only [showCommandHelp, hhelp, Action.run_bind, Action.run_host, Action.run_ofExcept]
  cases Help.Look.of app h with
  | error failure => rfl
  | ok look => exact app.reporter.run_infoAll _ h s

/-- The page of a command with options begins with its usage line, unless the command has a help
callback of its own. -/
theorem App.printed_run_showCommandHelp {app : App} {c : Command} {schema : List OptionSpec}
    {parse : Callback} {h : Host} {look : Help.Look} (hbody : c.body = .options schema parse)
    (hhelp : c.help = none) (hlook : Help.Look.of app h = .ok look) (s : Session) :
    ∃ later, ((app.showCommandHelp c).run h s).2.printed =
      s.printed ++ app.reporter.line (Help.usageMessage look c schema) :: later := by
  have hpage : ∃ below, Help.page look c = Help.usageMessage look c schema :: below := by
    unfold Help.page
    rw [hbody]
    exact ⟨_, rfl⟩
  obtain ⟨below, hpage⟩ := hpage
  simp only [run_showCommandHelp hhelp, hlook, hpage, Reporter.lines]
  exact ⟨_, rfl⟩

/-! ## The words -/

/-- An option as it is used: its long spelling, and a value if it takes any. -/
def OptionSpec.use (o : OptionSpec) (value : Value) : Group :=
  ⟨o.toSwitch.longSpelling, if o.takesValues then [value] else []⟩

namespace Extraction

/-- A schema in which the long names of options differ as far as names are compared. -/
def TellsApart (schema : List OptionSpec) : Prop :=
  (schema.map fun o => o.longName.take Switch.comparedLength).Nodup

instance (schema : List OptionSpec) : Decidable (TellsApart schema) :=
  inferInstanceAs (Decidable (List.Nodup _))

variable {schema listed : List OptionSpec} {o : OptionSpec} {value : OptionSpec → Value}

theorem TellsApart.eq_of_sameName (happart : TellsApart schema) {p : OptionSpec} (ho : o ∈ schema)
    (hp : p ∈ schema) (hsame : Switch.sameName p.longName o.longName = true) : p = o :=
  List.inj_on_of_nodup_map happart hp ho (of_decide_eq_true hsame)

/-- Each option is found by its long spelling. -/
theorem TellsApart.find?_longSpelling (happart : TellsApart schema)
    (hname : Declaration.isName o.longName = true) (ho : o ∈ schema) :
    find? schema o.toSwitch.longSpelling = some o := by
  have hself : o.toSwitch.selectedBy o.toSwitch.longSpelling = true :=
    (Switch.selectedBy_longSpelling hname _).trans (Switch.sameName_self _)
  cases hfind : find? schema o.toSwitch.longSpelling with
  | none => exact absurd hself (List.find?_eq_none.1 hfind o ho)
  | some p =>
      have hselects := List.find?_some hfind
      simp only [Switch.selectedBy_longSpelling hname] at hselects
      have hp := List.mem_of_find?_eq_some hfind
      rw [happart.eq_of_sameName hp ho hselects]

theorem mem_values_use {v w : Value} :
    v ∈ (o.use w).values ↔ o.takesValues = true ∧ v = w := by
  unfold OptionSpec.use
  split <;> simp [*]

theorem length_values_use (v : Value) (hmetavar : o.metavar ≠ none) :
    (o.use v).values.length = 1 := by
  simp [OptionSpec.use, (takesValues_iff o).2 hmetavar]

/-- An option can be used with one value that is no option. -/
theorem TellsApart.fits_use (happart : TellsApart schema)
    (hname : Declaration.isName o.longName = true) (ho : o ∈ schema) {v : Value}
    (hvalue : o.takesValues = true → isOption v = false) : (o.use v).Fits schema o where
  isOption := Switch.isOption_of_selectedBy
    ((Switch.selectedBy_longSpelling hname _).trans (Switch.sameName_self _))
  selects := happart.find?_longSpelling hname ho
  values w hw := by
    obtain ⟨htakes, rfl⟩ := mem_values_use.1 hw
    exact hvalue htakes
  flag hmetavar := by simp [OptionSpec.use, OptionSpec.takesValues, hmetavar]
  most hmetavar hlimit := by
    rw [length_values_use v hmetavar]
    exact Nat.one_le_iff_ne_zero.2 hlimit
  least hmetavar _ _ := Nat.le_of_eq (length_values_use v hmetavar).symm

/-- Of the words of used options, those select an option that spell its name. -/
theorem countP_uses (o : OptionSpec)
    (hvalue : ∀ p ∈ listed, p.takesValues = true → isOption (value p) = false) :
    (listed.flatMap fun p => (p.use (value p)).words).countP o.toSwitch.selectedBy =
      listed.countP fun p => o.toSwitch.selectedBy p.toSwitch.longSpelling := by
  induction listed with
  | nil => rfl
  | cons p rest ih =>
      obtain ⟨hfirst, hrest⟩ := List.forall_mem_cons.1 hvalue
      have hvalues : (p.use (value p)).values.countP o.toSwitch.selectedBy = 0 := by
        rw [List.countP_eq_zero]
        intro v hv hselects
        obtain ⟨htakes, rfl⟩ := mem_values_use.1 hv
        rw [Switch.isOption_of_selectedBy hselects] at hfirst
        cases hfirst htakes
      rw [List.flatMap_cons, List.countP_append, Group.words, List.countP_cons, hvalues, ih hrest,
        List.countP_cons, Nat.zero_add, Nat.add_comm]
      rfl

/-- Used once each, options are used once at most. -/
theorem TellsApart.countP_longSpelling_le_one (happart : TellsApart listed)
    (hname : ∀ p ∈ listed, Declaration.isName p.longName = true) (o : OptionSpec) :
    (listed.countP fun p => o.toSwitch.selectedBy p.toSwitch.longSpelling) ≤ 1 := by
  have hcount := List.nodup_iff_count_le_one.1 happart (o.longName.take Switch.comparedLength)
  rw [List.count, List.countP_map] at hcount
  refine Nat.le_trans (List.countP_mono_left fun p hp hselects => ?_) hcount
  rw [Switch.selectedBy_longSpelling (hname p hp), Switch.sameName, decide_eq_true_eq] at hselects
  simp [hselects]

/-- The options of a usage line, used once each with values that are no options, are a sentence
within the limits, if all required options are listed. -/
theorem reads_uses (happart : TellsApart schema)
    (hname : ∀ o ∈ schema, Declaration.isName o.longName = true)
    (hshown : ∀ o ∈ schema, o.required = true → o.hidden = false)
    (hvalue : ∀ o ∈ Help.listedOptions schema, o.takesValues = true → isOption (value o) = false) :
    let words := (Help.listedOptions schema).flatMap fun o => (o.use (value o)).words
    KeepsLimits schema words ∧
      Reads schema words ((Help.listedOptions schema).map fun o => o.use (value o)) := by
  intro words
  have hlisted := Help.listedOptions_sublist schema
  refine ⟨fun o ho => ⟨fun hrequired => ?_, fun hlimit => ?_⟩, ?_, fun g hg => ?_⟩
  · have hmem := Help.mem_listedOptions.2 ⟨ho, hshown o ho hrequired, hrequired⟩
    refine ⟨o.toSwitch.longSpelling, List.mem_flatMap.2 ⟨o, hmem, List.mem_cons_self⟩, ?_⟩
    exact (Switch.selectedBy_longSpelling (hname o ho) _).trans (Switch.sameName_self _)
  · have happartListed : TellsApart (Help.listedOptions schema) := happart.sublist (hlisted.map _)
    rw [countP_uses o hvalue]
    exact Nat.le_trans
      (happartListed.countP_longSpelling_le_one (fun p hp => hname p (hlisted.subset hp)) o)
      (Nat.one_le_iff_ne_zero.2 hlimit)
  · rw [List.flatMap_map]
  · obtain ⟨o, ho, rfl⟩ := List.mem_map.1 hg
    have hmem := hlisted.subset ho
    exact ⟨o, happart.fits_use (hname o hmem) hmem (hvalue o ho)⟩

end Extraction

/-- A usage line can be followed. The page of a command with options and without a help callback
begins with the line; the options on it, each by its long spelling and with a value if its label is
shown, are words that extraction accepts, answered with zero. The callback is asked once for each of
them, in the order of the line, with exactly that value or none. It takes that no required option is
hidden, and that the long names differ as far as names are compared. -/
theorem Help.usage_accepted (app : App) (c : Command) (schema : List OptionSpec) (parse : Callback)
    (value : OptionSpec → Value) (argv : List Value) (h : Host) (session : Session)
    (hbody : c.body = .options schema parse) (hhelp : c.help = none)
    (haccepted : AcceptedSchema schema) (happart : TellsApart schema)
    (hshown : ∀ o ∈ schema, o.required = true → o.hidden = false)
    (hvalue : ∀ o ∈ schema, o.required = true → o.takesValues = true → isOption (value o) = false)
    (hwords : argv.drop 2 = (listedOptions schema).flatMap fun o => (o.use (value o)).words)
    (hzero : session.Answered h (fun _ v => v.isZero = true)
      (((⟨c, none, some schema, 2⟩ : Selection).extract argv).run h session).2) :
    (∀ look, Look.of app h = .ok look →
      ∃ line more later, (more = [] ∨ more = moreOptions) ∧
        ((app.showCommandHelp c).run h session).2.printed = session.printed ++ line :: later ∧
        line.message.plain = Text.shown (.concat ["Usage: ", look.program.display, " --",
          c.longName, (listedOptions schema).flatMap fun o => CodePoint.space :: optionForm o,
          more])) ∧
    (((⟨c, none, some schema, 2⟩ : Selection).extract argv).run h session).1 = .ok () ∧
    (((⟨c, none, some schema, 2⟩ : Selection).extract argv).run h session).2.calls =
      session.calls ++ (listedOptions schema).map fun o =>
        ⟨parse, .option o.longName (if o.takesValues then [value o] else [])⟩ := by
  have hlisted (o : OptionSpec) (ho : o ∈ listedOptions schema) :
      o.takesValues = true → isOption (value o) = false := by
    obtain ⟨hmem, -, hrequired⟩ := mem_listedOptions.1 ho
    exact hvalue o hmem hrequired
  obtain ⟨hkeeps, hreads⟩ := reads_uses happart (fun o ho => haccepted.isName ho) hshown hlisted
  rw [← hwords] at hkeeps hreads
  have hdelivers : (⟨c, none, some schema, 2⟩ : Selection).Delivers := fun d => by
    simp [Selection.call?, hbody]
  have hok := Selection.run_extract_eq_ok_of_reads (s := ⟨c, none, some schema, 2⟩) rfl
    (.inl hdelivers) hkeeps hreads hzero
  refine ⟨fun look hlook => ?_, hok, ?_⟩
  · obtain ⟨later, hprinted⟩ := app.printed_run_showCommandHelp hbody hhelp hlook session
    obtain ⟨more, hmore, hplain⟩ := plain_usageMessage look c schema
    refine ⟨_, more, later, hmore, hprinted, ?_⟩
    rw [← hplain]
    exact Message.plain_colored _ _
  · obtain ⟨made, hcalls, hmade⟩ :=
      Selection.calls_run_extract_of_reads (s := ⟨c, none, some schema, 2⟩) rfl hok hreads
    rw [hcalls]
    congr 1
    apply List.map_injective_iff.2 fun _ _ => Option.some.inj
    rw [hmade, List.map_map, List.map_map]
    apply List.map_congr_left
    intro o ho
    obtain ⟨hmem, -⟩ := mem_listedOptions.1 ho
    have hfound := happart.find?_longSpelling (haccepted.isName hmem) hmem
    simp [Selection.groupCall?, Group.delivery?, OptionSpec.use, hfound, Selection.call?, hbody]

namespace Sample

/-- The sample command, used as its usage line shows, hands over its required option. -/
theorem copy_usage_accepted :
    (((⟨copy [file, verbose] none, none, some [file, verbose], 2⟩ : Selection).extract
        [.text "tool", .text "--copy", .text "--file", .text "a"]).run
        (answering (.int 0)) {}).1 = .ok () ∧
      (((⟨copy [file, verbose] none, none, some [file, verbose], 2⟩ : Selection).extract
        [.text "tool", .text "--copy", .text "--file", .text "a"]).run
        (answering (.int 0)) {}).2.calls = [⟨⟨1, "parse"⟩, .option "file" [.text "a"]⟩] :=
  (Help.usage_accepted (tool (copy [file, verbose] none) []) (copy [file, verbose] none)
    [file, verbose] ⟨1, "parse"⟩ (fun _ => .text "a")
    [.text "tool", .text "--copy", .text "--file", .text "a"] (answering (.int 0)) {} rfl rfl
    accepted_file_verbose (by decide) (by decide) (fun _ _ _ _ => rfl) rfl
    (answered_answering (.int 0) _ _ fun _ => rfl)).2

end Sample

end CommandDispatch
