import CommandDispatch.Dispatch

/-! # Readable messages

A message is printed when the console can use each of its styles. The styles of the engine's own
messages come from palettes and from the texts that were declared with styles of their own; when
those are readable, so is every line of a help page and of a rendered fault.
-/

namespace CommandDispatch

/-- The console can use a style. -/
def Style.Readable (style : Style) : Prop := style.flaw? = .none

theorem Style.none_readable : Style.none.Readable := rfl

/-- The console can use all styles of a styled text. -/
structure StyledText.Readable (t : StyledText) : Prop where
  style : t.style.Readable
  spans : ∀ span ∈ t.spans, span.style.Readable

theorem StyledText.Readable.uniform {source : Text} {style : Style} (hstyle : style.Readable) :
    (uniform source style).Readable :=
  ⟨hstyle, List.forall_mem_nil _⟩

/-- Wherever a readable text stands, its spans are readable. -/
theorem StyledText.Readable.of_mem_spansAt {t : StyledText} (hreadable : t.Readable)
    {position : Nat} {span : Span} (hspan : span ∈ t.spansAt position) : span.style.Readable := by
  have hown : span ∈ t.spans.map (Span.shift position) → span.style.Readable := by
    intro hmem
    obtain ⟨own, hspans, rfl⟩ := List.mem_map.1 hmem
    exact hreadable.spans own hspans
  unfold spansAt at hspan
  split at hspan
  next => exact hown hspan
  next =>
    rcases List.mem_cons.1 hspan with rfl | hspan
    · exact hreadable.style
    · exact hown hspan

/-- The console can use all styles of a message. -/
structure Message.Readable (m : Message) : Prop where
  style : m.style.Readable
  spans : ∀ span ∈ m.spans, span.style.Readable

namespace Message

/-- A readable message can be printed. -/
theorem Readable.flaw?_eq_none {m : Message} (hreadable : m.Readable) : m.flaw? = none := by
  unfold flaw?
  rw [List.findSome?_eq_none_iff]
  intro span hspan
  have hlayer := (List.mem_filter.1 hspan).1
  rw [layers] at hlayer
  rcases List.mem_cons.1 hlayer with rfl | hlayer
  · exact hreadable.style
  · exact hreadable.spans span hlayer

/-- Without colours every message is readable. -/
theorem colored_readable {m : Message} {colorful : Bool}
    (hreadable : colorful = true → m.Readable) : (m.colored colorful).Readable := by
  cases colorful with
  | true => exact hreadable rfl
  | false => exact ⟨Style.none_readable, List.forall_mem_nil _⟩

theorem ofStyled_readable {piece : StyledText} (hpiece : piece.Readable) :
    (ofStyled piece).Readable :=
  ⟨hpiece.style, hpiece.spans⟩

theorem ofText_readable (t : Text) : (ofText t).Readable :=
  ofStyled_readable (.uniform Style.none_readable)

theorem blank_readable : blank.Readable := ⟨Style.none_readable, List.forall_mem_nil _⟩

/-- The spans of pieces are readable if the pieces are. -/
theorem readable_of_mem_spansFrom {pieces : List StyledText}
    (hpieces : ∀ piece ∈ pieces, piece.Readable) {start : Nat} {span : Span}
    (hspan : span ∈ spansFrom start pieces) : span.style.Readable := by
  induction pieces generalizing start with
  | nil => cases hspan
  | cons piece rest ih =>
      obtain ⟨hfirst, hrest⟩ := List.forall_mem_cons.1 hpieces
      simp only [spansFrom] at hspan
      split at hspan
      next => exact ih hrest hspan
      next =>
        rcases List.mem_append.1 hspan with hspan | hspan
        · exact hfirst.of_mem_spansAt hspan
        · exact ih hrest hspan

theorem assemble_readable {pieces : List StyledText}
    (hpieces : ∀ piece ∈ pieces, piece.Readable) : (assemble pieces).Readable :=
  ⟨Style.none_readable, fun _ hspan => readable_of_mem_spansFrom hpieces hspan⟩

theorem appendText_readable {m : Message} {style : Style} (hreadable : m.Readable)
    (hstyle : style.Readable) (t : Text) : (m.appendText t style).Readable := by
  refine ⟨hreadable.style, fun span hspan => ?_⟩
  simp only [appendText] at hspan
  rcases List.mem_append.1 hspan with hspan | hspan
  · exact hreadable.spans span hspan
  · split at hspan
    · cases hspan
    · rw [List.mem_singleton.1 hspan]
      exact hstyle

theorem appendPiece_readable {m : Message} {piece : StyledText} (hreadable : m.Readable)
    (hpiece : piece.Readable) : (m.appendPiece piece).Readable := by
  refine ⟨hreadable.style, fun span hspan => ?_⟩
  simp only [appendPiece] at hspan
  rcases List.mem_append.1 hspan with hspan | hspan
  · exact hreadable.spans span hspan
  · refine readable_of_mem_spansFrom ?_ hspan
    exact List.forall_mem_cons.2 ⟨hpiece, List.forall_mem_nil _⟩

end Message

/-! ## What was declared -/

/-- A value that brings no styles of its own, or readable ones. -/
def Value.Readable (v : Value) : Prop := ∀ t, v = .styled t → t.Readable

/-- A label that is absent, or brings no styles of its own, or readable ones. -/
def Label.Readable (l : Option Label) : Prop := ∀ t, l = some (.styled t) → t.Readable

/-- The descriptions of a command and of its options are readable. -/
structure Command.Readable (c : Command) : Prop where
  descr : Label.Readable c.descr
  options : ∀ schema parse, c.body = .options schema parse →
    ∀ o ∈ schema, Label.Readable o.descr
  entries : ∀ scope parse, c.body = .namespaced scope parse →
    ∀ entry ∈ scope.entries, Label.Readable entry.descr ∧
      ∀ o ∈ entry.options, Label.Readable o.descr

theorem Value.piece_readable {v : Value} {style : Style} (hv : v.Readable)
    (hstyle : style.Readable) : (v.piece style).Readable := by
  cases v with
  | styled t => exact hv t rfl
  | _ => exact .uniform hstyle

/-! ## Palettes -/

namespace Palette

/-- All styles of a palette are readable. -/
def Readable (palette : Palette) : Prop := ∀ entry ∈ palette, entry.2.asStyle.Readable

theorem styleOf_readable {palette : Palette} (hreadable : palette.Readable) (key : Text) :
    (palette.styleOf key).Readable := by
  unfold styleOf style
  cases hfind : palette.reverse.find? fun entry => entry.1.sameKey (.text key) with
  | none => exact Style.none_readable
  | some entry =>
      exact hreadable entry (List.mem_reverse.1 (List.mem_of_find?_eq_some hfind))

end Palette

/-- A palette with the styles of a host behind its own. -/
theorem Host.exists_palette_eq_ok {h : Host} {defaults : Palette} {fields : List (Text × Value)}
    (hstyles : h.styles = .record fields) :
    h.palette defaults = .ok (defaults ++ Palette.ofFields fields) := by
  rw [Host.palette, hstyles]

theorem Palette.append_ofFields_readable {defaults : Palette} {fields : List (Text × Value)}
    (hdefaults : defaults.Readable) (hfields : ∀ field ∈ fields, field.2.asStyle.Readable) :
    (defaults ++ Palette.ofFields fields).Readable := by
  intro entry hentry
  rcases List.mem_append.1 hentry with hentry | hentry
  · exact hdefaults entry hentry
  · obtain ⟨field, hfield, rfl⟩ := List.mem_map.1 hentry
    exact hfields field hfield

/-! ## The engine's own styles -/

/-- Only what is written as the components of a colour can make a colour unreadable. -/
theorem Color.isSome_argument?_of_read_eq_unreadable {word : Text}
    (hread : read word = .unreadable) : (argument? "rgb" word).isSome = true := by
  unfold read at hread
  split at hread
  · cases hread
  · split at hread
    next number _ _ =>
      unfold ofNumber at hread
      split at hread
      · split at hread
        · split at hread <;> cases hread
        · cases hread
      · cases hread
    next hcomponents => simp [hcomponents]
    next => cases hread

/-- A name is readable if none of its words is written as the components of a colour. -/
theorem StyleName.exists_of_hasUnreadable {expected : Expected} {words : List Text}
    (hunreadable : hasUnreadable expected words = true) :
    ∃ word ∈ words, (Color.argument? "rgb" word.lower).isSome = true := by
  induction words generalizing expected with
  | nil => cases expected <;> cases hunreadable
  | cons word rest ih =>
      have hrest : ∀ {next}, hasUnreadable next rest = true →
          ∃ other ∈ word :: rest, (Color.argument? "rgb" other.lower).isSome = true := by
        intro next hnext
        obtain ⟨other, hother, harguments⟩ := ih hnext
        exact ⟨other, List.mem_cons_of_mem _ hother, harguments⟩
      have hcolor : ((Color.read word.lower).spoils (hasUnreadable .any rest)) = true →
          ∃ other ∈ word :: rest, (Color.argument? "rgb" other.lower).isSome = true := by
        intro hspoils
        cases hread : Color.read word.lower with
        | color => exact hrest (by rwa [hread] at hspoils)
        | noColor => rw [hread] at hspoils; cases hspoils
        | unreadable =>
            exact ⟨word, List.mem_cons_self, Color.isSome_argument?_of_read_eq_unreadable hread⟩
      -- each case goes on with the words behind this one, or reads this one as a colour
      cases expected with
      | any =>
          simp only [hasUnreadable] at hunreadable
          split at hunreadable
          · exact hrest hunreadable
          · split at hunreadable
            · exact hrest hunreadable
            · split at hunreadable
              · exact hrest hunreadable
              · split at hunreadable
                · exact hrest hunreadable
                · exact hcolor hunreadable
      | background => exact hcolor hunreadable
      | negated =>
          simp only [hasUnreadable, Bool.and_eq_true] at hunreadable
          exact hrest hunreadable.2
      | target => exact hrest hunreadable

theorem Style.named_readable {name : Text}
    (hwords : ∀ word ∈ name.words, Color.argument? "rgb" word.lower = .none) :
    (named name).Readable := by
  apply if_neg
  intro hunreadable
  obtain ⟨word, hword, harguments⟩ := StyleName.exists_of_hasUnreadable hunreadable
  rw [hwords word hword] at harguments
  cases harguments

theorem Palette.ofTexts_readable {entries : List (Text × Text)}
    (hwords : ∀ entry ∈ entries, ∀ word ∈ entry.2.words, Color.argument? "rgb" word.lower = none) :
    (ofTexts entries).Readable := by
  intro entry hentry
  obtain ⟨texts, htexts, rfl⟩ := List.mem_map.1 hentry
  exact Style.named_readable (hwords texts htexts)

theorem Fault.palette_readable : Fault.palette.Readable :=
  Palette.ofTexts_readable (by decide +kernel)

theorem Help.palette_readable : Help.palette.Readable :=
  Palette.ofTexts_readable (by decide +kernel)

end CommandDispatch
