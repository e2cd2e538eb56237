import CommandDispatch.Proofs.Dispatch.Configuration
import CommandDispatch.Proofs.Output.Readable

/-! # Readable pages

Every line of a help page is readable when the look of the page and the descriptions on it are, and
so are the two lines of a rendered fault. A usage line can be made of any text and any styled text.
-/

namespace CommandDispatch

namespace Help

/-- The styles of a look and its program label are readable. -/
structure Look.Readable (look : Look) : Prop where
  style : ∀ key, (look.style key).Readable
  program : look.program.Readable

variable {look : Look}

theorem labelPiece_readable {style : Style} {l : Option Label} (hstyle : style.Readable)
    (hlabel : Label.Readable l) : (labelPiece style l).Readable := by
  cases l with
  | none => exact .uniform hstyle
  | some l =>
      cases l with
      | plain t => exact .uniform hstyle
      | styled t => exact hlabel t rfl

theorem usageHead_readable (hlook : look.Readable) :
    ∀ piece ∈ usageHead look, piece.Readable := by
  simp only [usageHead, List.forall_mem_cons]
  exact ⟨.uniform (hlook.style _), Value.piece_readable hlook.program (hlook.style _),
    List.forall_mem_nil _⟩

/-- A line that begins like every usage line. -/
theorem usage_readable (hlook : look.Readable) (tail : Text) :
    (Message.assemble (usageHead look ++ [bare tail])).Readable := by
  apply Message.assemble_readable
  simp only [List.forall_mem_append, List.forall_mem_cons]
  exact ⟨usageHead_readable hlook, .uniform Style.none_readable, List.forall_mem_nil _⟩

/-- A text or a styled text can end a usage line. -/
theorem exists_usageLine_eq_ok (look : Look) {tail : Value}
    (htail : (∃ t, tail = .text t) ∨ ∃ t, tail = .styled t) :
    ∃ line, usageLine look tail = .ok line ∧
      (look.Readable → tail.Readable → line.Readable) := by
  rcases htail with ⟨t, rfl⟩ | ⟨t, rfl⟩
  · refine ⟨_, rfl, fun hlook _ => ?_⟩
    have hnull : Value.null.asStyle.Readable := rfl
    exact Message.appendText_readable (usage_readable hlook " ") hnull t
  · refine ⟨_, rfl, fun hlook htail => ?_⟩
    exact Message.appendPiece_readable (usage_readable hlook " ") (htail t rfl)

theorem optionLine_readable (hlook : look.Readable) {o : OptionSpec}
    (hdescr : Label.Readable o.descr) : (optionLine look o).Readable := by
  apply Message.assemble_readable
  simp only [List.forall_mem_cons]
  exact ⟨.uniform Style.none_readable, .uniform (hlook.style _), .uniform (hlook.style _),
    labelPiece_readable (hlook.style _) hdescr, List.forall_mem_nil _⟩

theorem optionLines_readable (hlook : look.Readable) {options : List OptionSpec}
    (hdescr : ∀ o ∈ options, Label.Readable o.descr) :
    ∀ m ∈ optionLines look options, m.Readable := by
  intro m hm
  obtain ⟨o, ho, rfl⟩ := List.mem_map.1 hm
  exact optionLine_readable hlook (hdescr o (List.mem_filter.1 ho).1)

theorem commandLine_readable (hlook : look.Readable) {c : Command} (hc : c.Readable) :
    (commandLine look c).Readable := by
  apply Message.assemble_readable
  simp only [List.forall_mem_cons]
  exact ⟨.uniform Style.none_readable, .uniform (hlook.style _),
    labelPiece_readable (hlook.style _) hc.descr, List.forall_mem_nil _⟩

theorem commandLines_readable (hlook : look.Readable) {table : List Command}
    (htable : ∀ c ∈ table, c.Readable) : ∀ m ∈ commandLines look table, m.Readable := by
  intro m hm
  obtain ⟨c, hc, rfl⟩ := List.mem_map.1 hm
  exact commandLine_readable hlook (htable c (List.mem_filter.1 hc).1)

theorem banner_readable (hlook : look.Readable) {title : Value} (htitle : title.Readable) :
    ∀ m ∈ banner look title, m.Readable := by
  simp only [banner, List.forall_mem_cons]
  exact ⟨Message.ofStyled_readable (Value.piece_readable htitle (hlook.style _)),
    Message.blank_readable, List.forall_mem_nil _⟩

theorem overview_readable (hlook : look.Readable) {usage : Message} {table : List Command}
    (man : Value) (husage : usage.Readable) (htable : ∀ c ∈ table, c.Readable) :
    ∀ m ∈ overview look usage table man, m.Readable := by
  simp only [overview, List.forall_mem_append, List.forall_mem_cons]
  have hblank := Message.blank_readable
  exact ⟨⟨⟨husage, hblank, Message.ofText_readable _, hblank, Message.ofText_readable _,
    List.forall_mem_nil _⟩,
    commandLines_readable hlook htable⟩, hblank,
    Message.ofStyled_readable (.uniform (hlook.style _)),
    Message.ofStyled_readable (.uniform (hlook.style _)), List.forall_mem_nil _⟩

theorem header_readable (c : Command) : ∀ m ∈ header c, m.Readable := by
  simp only [header, List.forall_mem_cons]
  exact ⟨Message.ofText_readable _, Message.blank_readable, List.forall_mem_nil _⟩

theorem commandPage_readable (hlook : look.Readable) (c : Command) {options : List OptionSpec}
    (hdescr : ∀ o ∈ options, Label.Readable o.descr) :
    ∀ m ∈ commandPage look c options, m.Readable := by
  simp only [commandPage, List.forall_mem_append, List.forall_mem_cons]
  refine ⟨⟨⟨usage_readable hlook _, Message.blank_readable, List.forall_mem_nil _⟩,
    header_readable c⟩, ?_⟩
  split
  · exact List.forall_mem_nil _
  · simp only [List.forall_mem_cons]
    exact ⟨Message.ofText_readable _, optionLines_readable hlook hdescr⟩

theorem entryOptions_readable (hlook : look.Readable) (c : Command) (scope : Namespace)
    {entries : List NamespaceEntry}
    (hdescr : ∀ entry ∈ entries, ∀ o ∈ entry.options, Label.Readable o.descr) :
    ∀ m ∈ entryOptions look c scope entries, m.Readable := by
  induction entries with
  | nil => exact List.forall_mem_nil _
  | cons entry rest ih =>
      rw [List.forall_mem_cons] at hdescr
      simp only [entryOptions, List.forall_mem_append, List.forall_mem_cons]
      refine ⟨⟨Message.ofText_readable _, optionLines_readable hlook hdescr.1⟩, ?_⟩
      split
      · exact List.forall_mem_nil _
      · simp only [List.forall_mem_cons]
        exact ⟨Message.blank_readable, ih hdescr.2⟩

theorem namespacePage_readable (hlook : look.Readable) (c : Command) {scope : Namespace}
    (hdescr : ∀ entry ∈ scope.entries, Label.Readable entry.descr ∧
      ∀ o ∈ entry.options, Label.Readable o.descr) :
    ∀ m ∈ namespacePage look c scope, m.Readable := by
  simp only [namespacePage, List.forall_mem_append, List.forall_mem_cons]
  have hblank := Message.blank_readable
  refine ⟨⟨⟨⟨⟨⟨usage_readable hlook _, hblank, List.forall_mem_nil _⟩, header_readable c⟩,
    Message.ofText_readable _, List.forall_mem_nil _⟩, fun m hm => ?_⟩,
    hblank, List.forall_mem_nil _⟩,
    entryOptions_readable hlook c scope fun entry hentry => (hdescr entry hentry).2⟩
  obtain ⟨entry, hentry, rfl⟩ := List.mem_map.1 hm
  apply Message.assemble_readable
  simp only [List.forall_mem_cons]
  exact ⟨.uniform Style.none_readable, .uniform (hlook.style _), .uniform Style.none_readable,
    labelPiece_readable (hlook.style _) (hdescr entry hentry).1, List.forall_mem_nil _⟩

/-- Every line of the page of a command is readable. -/
theorem page_readable (hlook : look.Readable) {c : Command} (hc : c.Readable) :
    ∀ m ∈ page look c, m.Readable := by
  unfold page
  split
  next => exact commandPage_readable hlook c (List.forall_mem_nil _)
  next schema parse hbody => exact commandPage_readable hlook c (hc.options schema parse hbody)
  next scope parse hbody => exact namespacePage_readable hlook c (hc.entries scope parse hbody)

end Help

/-- Hiding a command leaves its descriptions. -/
theorem App.shownIn_readable {c : Command} (hc : c.Readable) (s : Session) (position : Nat) :
    (App.shownIn s position c).Readable := by
  rcases App.shownIn_eq_or s position c with hshown | hshown <;> rw [hshown]
  · exact hc
  · exact ⟨hc.descr, hc.options, hc.entries⟩

theorem App.table_readable {app : App} (hcommands : ∀ c ∈ app.commands, c.Readable) (s : Session) :
    ∀ c ∈ app.table s, c.Readable := by
  intro c hc
  obtain ⟨position, hposition, rfl⟩ := List.mem_mapIdx.1 hc
  exact App.shownIn_readable (hcommands _ (List.getElem_mem hposition)) s position

namespace Fault

variable {f : Fault} {program : Value} {style : Text → Style}

theorem errorLine_readable (hprogram : program.Readable) (hstyle : ∀ key, (style key).Readable) :
    (f.errorLine program style).Readable := by
  apply Message.assemble_readable
  simp only [List.forall_mem_cons]
  exact ⟨Value.piece_readable hprogram (hstyle _), .uniform Style.none_readable,
    .uniform (hstyle _), List.forall_mem_nil _⟩

theorem hintLine_readable {hint : Value} (hhint : hint.Readable)
    (hstyle : ∀ key, (style key).Readable) : (hintLine hint style).Readable :=
  Message.ofStyled_readable (Value.piece_readable hhint (hstyle _))

end Fault

end CommandDispatch
