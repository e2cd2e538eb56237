import CommandDispatch.Proofs.Dispatch.ExitStatus
import CommandDispatch.Proofs.Output.Pages
import CommandDispatch.Proofs.Output.Usage

/-! # Pages of commands

The page of a command shows its visible options, and nothing of the hidden ones: it is the page of
the command without them. In a listing each visible option has a line of its own, in the order of
the schema, and a namespace has a listing for each of its entries, in their order. The usage line of
a command with options ends in a sign if some visible option is not required, and only then: a name
and the label of a value end otherwise.
-/

namespace CommandDispatch

/-! ## Commands with other schemas -/

/-- An entry with its schema changed. -/
def NamespaceEntry.mapSchema (change : List OptionSpec → List OptionSpec) (e : NamespaceEntry) :
    NamespaceEntry :=
  { e with options := change e.options }

/-- A body with each of its schemas changed. -/
def CommandBody.mapSchemas (change : List OptionSpec → List OptionSpec) : CommandBody → CommandBody
  | .plain => .plain
  | .options schema parse => .options (change schema) parse
  | .namespaced scope parse =>
      .namespaced { scope with entries := scope.entries.map (.mapSchema change) } parse

/-- The command without its hidden options. -/
def Command.withoutHiddenOptions (c : Command) : Command :=
  { c with body := c.body.mapSchemas Help.visible }

namespace Help

/-! ## The parts of a page -/

/-- The title of the options of a command. -/
def optionsTitle (c : Command) : Text :=
  .concat ["Options that are valid with ", bracketed c.toSwitch, " are:"]

/-- The title of the options of an entry. -/
def entryTitle (c : Command) (scope : Namespace) (entry : NamespaceEntry) : Text :=
  .concat ["Options that are valid with ", bracketed c.toSwitch, " ",
    bracketed scope.toSwitch, " ", entry.name, " are:"]

/-- Options below a title. -/
def listing (look : Look) (title : Text) (schema : List OptionSpec) : List Message :=
  .ofText title :: optionLines look schema

def entryListing (look : Look) (c : Command) (scope : Namespace) (entry : NamespaceEntry) :
    List Message :=
  listing look (entryTitle c scope entry) entry.options

/-- The line of an entry. -/
def nameLine (look : Look) (entry : NamespaceEntry) : Message :=
  .assemble [
    bare margin,
    .uniform entry.name (look.style "entry-name"),
    bare " - ",
    labelPiece (look.style "description") entry.descr]

/-- The usage line of a command with a namespace. -/
def namespaceUsage (look : Look) (c : Command) (scope : Namespace) : Message :=
  .assemble (usageHead look ++
    [bare (.concat [" --", c.longName, " --", scope.longName, " <NAME>"])])

theorem commandPage_eq (look : Look) (c : Command) (schema : List OptionSpec) :
    commandPage look c schema = usageMessage look c schema :: .blank :: header c ++
      if visible schema = [] then [] else listing look (optionsTitle c) schema := by
  unfold commandPage
  split <;> simp_all [usageMessage, listing, optionsTitle]

theorem entryOptions_eq (look : Look) (c : Command) (scope : Namespace)
    (entries : List NamespaceEntry) :
    entryOptions look c scope entries =
      [Message.blank].intercalate (entries.map (entryListing look c scope)) := by
  induction entries with
  | nil => rfl
  | cons entry rest ih =>
      cases rest with
      | nil => simp [entryOptions, entryListing, listing, entryTitle]
      | cons next rest =>
          have hstep : entryOptions look c scope (entry :: next :: rest) =
              entryListing look c scope entry ++
                .blank :: entryOptions look c scope (next :: rest) := rfl
          rw [hstep, ih]
          simp

theorem namespacePage_eq (look : Look) (c : Command) (scope : Namespace) :
    namespacePage look c scope = namespaceUsage look c scope :: .blank :: header c ++
      .ofText "Valid values of NAME are:" :: scope.entries.map (nameLine look) ++
      .blank :: [Message.blank].intercalate (scope.entries.map (entryListing look c scope)) := by
  rw [namespacePage, entryOptions_eq]
  simp [namespaceUsage, nameLine]

/-! ## Without hidden options -/

@[simp] theorem visible_visible (schema : List OptionSpec) :
    visible (visible schema) = visible schema := by
  simp [visible]

theorem listing_visible (look : Look) (title : Text) (schema : List OptionSpec) :
    listing look title (visible schema) = listing look title schema := by
  simp [listing, optionLines]

theorem usageMessage_visible (look : Look) (c : Command) (schema : List OptionSpec) :
    usageMessage look c (visible schema) = usageMessage look c schema := by
  simp [usageMessage, usageOptions, listedOptions]

/-- The page of a command does not depend on its hidden options. -/
theorem page_withoutHiddenOptions (look : Look) (c : Command) :
    page look c.withoutHiddenOptions = page look c := by
  unfold page
  cases hbody : c.body with
  | plain =>
      simp only [Command.withoutHiddenOptions, hbody]
      rfl
  | options schema parse =>
      have hpage : commandPage look c (visible schema) = commandPage look c schema := by
        rw [commandPage_eq, commandPage_eq, usageMessage_visible, visible_visible, listing_visible]
      simp only [Command.withoutHiddenOptions, hbody]
      exact hpage
  | namespaced scope parse =>
      have hlistings : (scope.entries.map (.mapSchema visible)).map (entryListing look c scope) =
          scope.entries.map (entryListing look c scope) := by
        rw [List.map_map]
        exact List.map_congr_left fun entry _ => listing_visible look _ entry.options
      have hnames : (scope.entries.map (.mapSchema visible)).map (nameLine look) =
          scope.entries.map (nameLine look) := List.map_map
      simp only [Command.withoutHiddenOptions, hbody, CommandBody.mapSchemas, namespacePage_eq]
      rw [hnames, ← hlistings]
      rfl

/-! ## Listings -/

/-- The line of an option shows both its spellings, the label of its value and its description. -/
def Lists (o : OptionSpec) (line : Message) : Prop :=
  line.plain = Text.shown (.concat [margin, Text.padRight 4 (shortForm o.shortName),
    Text.padRight 38 (optionForm o), (o.descr.map Label.display).getD []])

instance (o : OptionSpec) (line : Message) : Decidable (Lists o line) :=
  inferInstanceAs (Decidable (_ = _))

/-- The line of an entry shows its name and its description. -/
def Names (entry : NamespaceEntry) (line : Message) : Prop :=
  line.plain = Text.shown (.concat [margin, entry.name, " - ",
    (entry.descr.map Label.display).getD []])

/-- A listing of a schema is a title, and behind it one line for each visible option. -/
def Listing (title : Text) (schema : List OptionSpec) (messages : List Message) : Prop :=
  ∃ lines, messages = .ofText title :: lines ∧ List.Forall₂ Lists (visible schema) lines

theorem plain_labelPiece (style : Style) (label : Option Label) :
    (labelPiece style label).plain = Text.shown ((label.map Label.display).getD []) := by
  cases label with
  | none => rfl
  | some l =>
      cases l with
      | plain t => rfl
      | styled t => exact t.source.shown_shown.symm

theorem lists_optionLine (look : Look) (o : OptionSpec) : Lists o (optionLine look o) :=
  Message.plain_assemble (by simp [plain_labelPiece, bare])

theorem names_nameLine (look : Look) (entry : NamespaceEntry) : Names entry (nameLine look entry) :=
  Message.plain_assemble (by simp [plain_labelPiece, bare])

theorem listing_listing (look : Look) (title : Text) (schema : List OptionSpec) :
    Listing title schema (listing look title schema) :=
  ⟨optionLines look schema, rfl,
    List.forall₂_map_right_iff.2 (List.forall₂_same.2 fun o _ => lists_optionLine look o)⟩

/-! ## The end of a usage line -/

/-- Behind a text that ends otherwise than in the sign for further options, nothing ends in it. -/
def EndsOtherwise (t : Text) : Prop := ∀ front, ¬ moreOptions <:+ front ++ t

theorem EndsOtherwise.append {t : Text} (ht : EndsOtherwise t) (front : Text) :
    EndsOtherwise (front ++ t) := fun before => by
  rw [← List.append_assoc]
  exact ht (before ++ front)

/-- A short end tells. -/
theorem endsOtherwise_of_end {tail : Text} (hlength : tail.length ≤ moreOptions.length)
    (htail : ¬ tail <:+ moreOptions) : EndsOtherwise tail := fun front hends =>
  htail (List.suffix_of_suffix_length_le (List.suffix_append front tail) hends hlength)

/-- A text without brackets ends otherwise. -/
theorem endsOtherwise_of_not_mem {t : Text} (hnil : t ≠ []) (hbracket : CodePoint.ofChar ']' ∉ t) :
    EndsOtherwise t := by
  obtain ⟨front, c, rfl⟩ := (List.eq_nil_or_concat' t).resolve_left hnil
  have hone : [c].length ≤ moreOptions.length := (by decide : 1 ≤ moreOptions.length)
  suffices hend : ¬ [c] <:+ moreOptions from (endsOtherwise_of_end hone hend).append front
  rintro ⟨before, hends⟩
  have hlast : some c = some (CodePoint.ofChar ']') := by
    rw [← List.getLast?_concat (l := before), hends]
    rfl
  rw [Option.some.inj hlast] at hbracket
  exact hbracket (List.mem_append_right _ List.mem_cons_self)

/-- A name has an ASCII letter, which is shown, and no bracket. -/
theorem endsOtherwise_of_isName {name : Text} (hname : Declaration.isName name = true) :
    EndsOtherwise name.shown := by
  have hbracket : ∀ c ∈ name, c ≠ CodePoint.ofChar ']' := by
    rintro c hc rfl
    cases name with
    | nil => cases hc
    | cons first rest =>
        simp only [Declaration.isName, Bool.and_eq_true, List.all_eq_true] at hname
        rcases List.mem_cons.1 hc with rfl | hc
        · exact absurd hname.1 (by decide)
        · exact absurd (hname.2 _ hc) (by decide +kernel)
  refine endsOtherwise_of_not_mem (fun hnil => ?_) fun hmem =>
    hbracket _ (List.mem_filter.1 hmem).1 rfl
  cases name with
  | nil => cases hname
  | cons first rest =>
      simp only [Declaration.isName, Bool.and_eq_true] at hname
      have hdropped : first.isDropped = true := by
        simpa using List.filter_eq_nil_iff.1 hnil first List.mem_cons_self
      simp only [CodePoint.isAsciiLetter, Bool.or_eq_true, Bool.and_eq_true,
        decide_eq_true_eq] at hname
      simp [CodePoint.isDropped] at hdropped
      omega

/-- Neither the name of an option nor the label of its value ends in the sign. -/
theorem endsOtherwise_optionForm {o : OptionSpec}
    (hname : Declaration.isName o.longName = true) : EndsOtherwise (optionForm o).shown := by
  unfold optionForm valueForm
  cases o.metavar with
  | none =>
      have hform : Text.shown (.concat ["--", o.longName, []]) =
          Text.shown "--" ++ o.longName.shown := by
        simp [Text.concat, Text.shown_append]
      exact hform ▸ (endsOtherwise_of_isName hname).append _
  | some metavar =>
      have hclosing {label closing : Text} (hend : EndsOtherwise closing.shown) (opening : Text) :
          EndsOtherwise (Text.shown (.concat ["--", o.longName, .concat [opening, label, closing]])) := by
        have hform : Text.shown (.concat ["--", o.longName, .concat [opening, label, closing]]) =
            Text.shown (.concat ["--", o.longName, opening, label]) ++ closing.shown := by
          simp [Text.concat, Text.shown_append]
        exact hform ▸ hend.append _
      dsimp only [Option.map_some, Option.getD_some]
      split
      · exact hclosing (endsOtherwise_of_end (by decide) (by decide)) _
      · exact hclosing (endsOtherwise_of_end (by decide) (by decide)) _

theorem endsOtherwise_listed {name : Text} {listed : List OptionSpec}
    (hname : Declaration.isName name = true)
    (hnames : ∀ o ∈ listed, Declaration.isName o.longName = true) :
    EndsOtherwise (Text.shown (name ++ listed.flatMap fun o => CodePoint.space :: optionForm o)) := by
  rcases List.eq_nil_or_concat' listed with rfl | ⟨init, last, rfl⟩
  · rw [List.flatMap_nil, List.append_nil]
    exact endsOtherwise_of_isName hname
  · have hlast := endsOtherwise_optionForm (hnames last (by simp))
    rw [List.flatMap_append, List.flatMap_singleton, List.append_cons, ← List.append_assoc,
      Text.shown_append]
    exact hlast.append _

/-! ## Pages -/

/-- The usage line of a command with options lists those visible ones that are required, and ends in
the sign if there is a visible one that is not. -/
structure Usage (program : Value) (c : Command) (schema : List OptionSpec) (line : Message) :
    Prop where
  plain : line.plain = Text.shown (.concat ["Usage: ", program.display, " --", c.longName,
    (listedOptions schema).flatMap fun o => CodePoint.space :: optionForm o,
    furtherOptions schema])
  further : moreOptions <:+ line.plain ↔ ∃ o ∈ schema, o.hidden = false ∧ o.required = false

/-- What the page of a command shows. A command with options has a listing if any of them is
visible; one with a namespace has a listing for each entry, with empty lines between them. -/
inductive Shows (program : Value) (c : Command) : List Message → Prop
  | plain {usage : Message} : c.body = .plain → Usage program c [] usage →
      Shows program c (usage :: .blank :: header c)
  | options {schema : List OptionSpec} {parse : Callback} {usage : Message}
      {below : List Message} : c.body = .options schema parse → Usage program c schema usage →
      (if visible schema = [] then below = [] else Listing (optionsTitle c) schema below) →
      Shows program c (usage :: .blank :: header c ++ below)
  | namespaced {scope : Namespace} {parse : Callback} {usage : Message} {names : List Message}
      {listings : List (List Message)} : c.body = .namespaced scope parse →
      usage.plain = Text.shown (.concat ["Usage: ", program.display, " --", c.longName, " --",
        scope.longName, " <NAME>"]) →
      List.Forall₂ Names scope.entries names →
      List.Forall₂ (fun entry => Listing (entryTitle c scope entry) entry.options) scope.entries
        listings →
      Shows program c (usage :: .blank :: header c ++ .ofText "Valid values of NAME are:" ::
        names ++ .blank :: [Message.blank].intercalate listings)

theorem usage_usageMessage (look : Look) {c : Command} {schema : List OptionSpec}
    (hname : Declaration.isName c.longName = true)
    (hnames : ∀ o ∈ schema, Declaration.isName o.longName = true) :
    Usage look.program c schema (usageMessage look c schema) where
  plain := plain_usageMessage_eq look c schema
  further := by
    have hlisted := endsOtherwise_listed hname fun o ho =>
      hnames o ((listedOptions_sublist schema).subset ho)
    have hall : (visible schema).all OptionSpec.required = true ↔
        ¬ ∃ o ∈ schema, o.hidden = false ∧ o.required = false := by
      simp only [visible, List.all_filter, List.all_eq_true, not_exists, not_and]
      refine forall₂_congr fun o _ => ?_
      cases o.hidden <;> simp
    have hsplit (more : Text) : Text.shown (.concat ["Usage: ", look.program.display, " --",
        c.longName, (listedOptions schema).flatMap fun o => CodePoint.space :: optionForm o, more]) =
        Text.shown (.concat ["Usage: ", look.program.display, " --"]) ++ Text.shown (c.longName ++
          (listedOptions schema).flatMap fun o => CodePoint.space :: optionForm o) ++ more.shown := by
      simp [Text.concat, Text.shown_append]
    rw [plain_usageMessage_eq, furtherOptions, hsplit]
    split
    next hrequired =>
      have hnil : Text.shown [] = [] := rfl
      rw [hnil, List.append_nil]
      exact iff_of_false (hlisted _) (hall.1 hrequired)
    next hfurther =>
      have hshown : moreOptions.shown = moreOptions := by decide
      rw [hshown]
      exact iff_of_true (List.suffix_append _ _) (not_not.1 (mt hall.2 hfurther))

theorem page_shows (look : Look) {c : Command} (haccepted : AcceptedCommand c) :
    Shows look.program c (page look c) := by
  unfold page
  cases hbody : c.body with
  | plain =>
      have hplain := Shows.plain hbody
        (usage_usageMessage look haccepted.isName (List.forall_mem_nil _))
      simpa only [commandPage_eq, visible, List.filter_nil, if_true, List.append_nil] using hplain
  | options schema parse =>
      have hnames : ∀ o ∈ schema, Declaration.isName o.longName = true := fun o ho => by
        obtain ⟨fields, hdeclare⟩ := haccepted.options schema parse hbody o ho
        exact OptionSpec.isName_of_declare hdeclare
      dsimp only
      rw [commandPage_eq]
      refine .options hbody (usage_usageMessage look haccepted.isName hnames) ?_
      split
      · rfl
      · exact listing_listing look _ schema
  | namespaced scope parse =>
      dsimp only
      rw [namespacePage_eq]
      refine .namespaced hbody ?_ ?_ ?_
      · rw [namespaceUsage, plain_usage]
        simp [Text.concat]
      · exact List.forall₂_map_right_iff.2 (List.forall₂_same.2 fun entry _ =>
          names_nameLine look entry)
      · exact List.forall₂_map_right_iff.2 (List.forall₂_same.2 fun entry _ =>
          listing_listing look _ entry.options)

end Help

/-- Messages that the console can use in colour are all printed. -/
theorem Reporter.outcome_eq_ok {r : Reporter} {messages : List Message}
    (hreadable : r.colorful = true → ∀ m ∈ messages, m.Readable) : r.outcome messages = .ok () := by
  induction messages with
  | nil => rfl
  | cons m rest ih =>
      have hm : (r.line m).message.flaw? = none :=
        (Message.colored_readable fun hcolorful =>
          hreadable hcolorful m List.mem_cons_self).flaw?_eq_none
      rw [outcome, hm]
      exact ih fun hcolorful other hother =>
        hreadable hcolorful other (List.mem_cons_of_mem _ hother)

namespace App

/-- The page of a command without a help callback of its own is the page of the command without its
hidden options, and shows the visible ones. If the styles of the host are a record, all messages of
the page are printed, or those up to the first one of which the console cannot use a style; without
colours, and with styles that the console can use, all of them are. -/
theorem showCommandHelp_shows_visible (app : App) (c : Command) (h : Host) (s : Session)
    (hhelp : c.help = none) (haccepted : AcceptedCommand c) :
    let shown := (app.showCommandHelp c).run h s
    (app.showCommandHelp c.withoutHiddenOptions).run h s = shown ∧
      ∀ fields, h.styles = .record fields →
        ∃ page, Help.Shows (app.program h) c page ∧
          shown = (app.reporter.outcome page,
            { s with printed := s.printed ++ app.reporter.lines page }) ∧
          app.reporter.lines page <+: page.map app.reporter.line ∧
          (shown.1 = .ok () → shown.2.printed = s.printed ++ page.map app.reporter.line) ∧
          ((app.colorful = true → (∀ field ∈ fields, field.2.asStyle.Readable) ∧
            (app.program h).Readable ∧ c.Readable) → shown.1 = .ok ()) := by
  intro shown
  have hshown : shown = _ := run_showCommandHelp hhelp h s
  refine ⟨?_, fun fields hfields => ?_⟩
  · have hhelp' : c.withoutHiddenOptions.help = none := hhelp
    simp only [hshown, run_showCommandHelp hhelp', Help.page_withoutHiddenOptions]
  · let look : Help.Look := ⟨app.program h, (Help.palette ++ Palette.ofFields fields).styleOf⟩
    have hlook : Help.Look.of app h = .ok look := by
      rw [Help.Look.of, Host.exists_palette_eq_ok hfields]
      rfl
    rw [hlook] at hshown
    refine ⟨Help.page look c, Help.page_shows look haccepted, hshown,
      app.reporter.lines_prefix _, fun hok => ?_, fun hreadable => ?_⟩
    · rw [hshown] at hok ⊢
      exact congrArg _ (Reporter.lines_eq_map hok)
    · rw [hshown]
      refine Reporter.outcome_eq_ok fun hcolorful => ?_
      obtain ⟨hstyles, hprogram, hc⟩ := hreadable hcolorful
      have hpalette := Palette.append_ofFields_readable Help.palette_readable hstyles
      exact Help.page_readable ⟨Palette.styleOf_readable hpalette, hprogram⟩ hc

end App

namespace Sample

/-- A hidden flag. -/
def covert : OptionSpec := { verbose with longName := "covert", shortName := none, flags := ⟨4⟩ }

theorem accepted_copy : AcceptedCommand (copy [file, covert] none) where
  command := ⟨.options, [("name", .text "copy"), ("handler", .callback ⟨0, "copy"⟩),
    ("options", .list [.spec (.option file), .spec (.option covert)]),
    ("options_parse", .callback ⟨1, "parse"⟩)], copy [file, covert] none, rfl, .inl rfl⟩
  options schema parse hbody o ho := by
    obtain ⟨rfl, -⟩ := CommandBody.options.inj hbody
    rcases List.mem_cons.1 ho with rfl | ho
    · exact ⟨[("long_name", .text "file"), ("short_name", .text "f"), ("metavar", .text "FILE"),
        ("flags", .int 1), ("max_occurrences", .int 1), ("max_values", .int 2)], rfl⟩
    · rw [List.mem_singleton.1 ho]
      exact ⟨[("long_name", .text "covert"), ("flags", .int 4)], rfl⟩

/-- A tool with a command that has a hidden flag. -/
def discreet : App := tool (copy [file, covert] none) []

/-- The page of the command is printed to its end, and so it is without the flag. -/
theorem copy_page_shown :
    let c := copy [file, covert] none
    c.withoutHiddenOptions = copy [file] none ∧
      (discreet.showCommandHelp c.withoutHiddenOptions).run (answering (.int 0)) {} =
        (discreet.showCommandHelp c).run (answering (.int 0)) {} ∧
      ∃ page, Help.Shows (.text "tool") c page ∧
        ((discreet.showCommandHelp c).run (answering (.int 0)) {}).2.printed =
          page.map discreet.reporter.line := by
  intro c
  obtain ⟨hsame, hpage⟩ := App.showCommandHelp_shows_visible discreet c (answering (.int 0)) {} rfl
    accepted_copy
  obtain ⟨page, hshows, -, -, hprinted, hok⟩ := hpage [] rfl
  have hended := hok fun _ => ⟨List.forall_mem_nil _, fun t hprogram => (by cases hprogram),
    copy_readable none (by decide)⟩
  exact ⟨rfl, hsame, page, hshows, (hprinted hended).trans (List.nil_append _)⟩

/-- A host with a style for the head of usage lines that the console cannot read. -/
def unreadableUsage : Host :=
  { answering (.int 0) with styles := .record [("usage-label", .text unreadableName)] }

/-- On such a host a page in colours breaks off at its usage line, and the visible option of the
command has no line. -/
theorem listing_lost :
    ¬ ∀ (app : App) (c : Command) (h : Host) (s : Session), c.help = none → AcceptedCommand c →
      ∀ schema parse, c.body = .options schema parse → ∀ o ∈ Help.visible schema,
        ∃ line ∈ ((app.showCommandHelp c).run h s).2.printed, Help.Lists o line.message := by
  intro hall
  have hlisted := hall discreet (copy [file, covert] none)
    unreadableUsage {} rfl accepted_copy [file, covert] ⟨1, "parse"⟩ rfl file (by decide)
  revert hlisted
  decide +kernel

end Sample

end CommandDispatch
