import CommandDispatch.Reporter

/-! # Messages on the console

What is shown of texts, whatever their styles are, and what is printed of messages in a row: each of
them, or those up to the first one that the console cannot print.
-/

namespace CommandDispatch

namespace Text

theorem shown_append (s t : Text) : (s ++ t).shown = s.shown ++ t.shown := List.filter_append _ _

@[simp] theorem shown_shown (t : Text) : t.shown.shown = t.shown := by
  unfold shown
  rw [List.filter_filter]
  simp only [Bool.and_self]

end Text

@[simp] theorem StyledText.plain_uniform (source : Text) (style : Style) :
    (uniform source style).plain = source.shown := rfl

/-- A piece made of a value shows what the value displays. -/
theorem Value.plain_piece (v : Value) (style : Style) :
    (v.piece style).plain = v.display.shown := by
  cases v with
  | styled t => exact t.source.shown_shown.symm
  | _ => rfl

namespace Message

/-- A message put together from pieces shows what they show. -/
theorem plain_assemble {pieces : List StyledText} {texts : List Text}
    (hpieces : pieces.map StyledText.plain = texts.map Text.shown) :
    (assemble pieces).plain = (Text.concat texts).shown := by
  have hplain : (assemble pieces).plain = (pieces.map StyledText.plain).flatten := rfl
  rw [hplain, hpieces, Text.concat, Text.shown, List.filter_flatten]
  rfl

theorem plain_colored (m : Message) (colorful : Bool) : (m.colored colorful).plain = m.plain := by
  cases colorful <;> rfl

theorem colored_uniform (source : Text) (style : Style) (colorful : Bool) :
    (ofStyled (.uniform source style)).colored colorful =
      ofStyled (.uniform source (if colorful then style else .none)) := by
  cases colorful <;> rfl

/-- The console looks up the style of a text in one style if there is something on its lines. -/
theorem flaw?_uniform {source : Text} (style : Style)
    (hlines : ∃ c ∈ source.shown, c ≠ CodePoint.newline) :
    (ofStyled (.uniform source style)).flaw? = style.flaw? := by
  have hcovered : (ofStyled (.uniform source style)).looksUp
      ⟨0, source.shown.length, style⟩ = true := by
    simpa [looksUp, ofStyled] using .inl hlines
  have hlayers : (ofStyled (.uniform source style)).layers =
      [⟨0, source.shown.length, style⟩] := rfl
  rw [flaw?, hlayers, List.filter_cons_of_pos hcovered]
  simp

end Message

namespace Reporter

variable {r : Reporter} {h : Host} {s : Session} {m : Message}

/-- A message of a row as it is printed. -/
def line (r : Reporter) (m : Message) : Printed := ⟨.output, m.colored r.colorful⟩

/-- What is printed of messages in a row. -/
def lines (r : Reporter) : List Message → List Printed
  | [] => []
  | m :: rest =>
      r.line m :: match (r.line m).message.flaw? with
        | some _ => []
        | none => r.lines rest

/-- How printing messages in a row ends. -/
def outcome (r : Reporter) : List Message → Except Failure Unit
  | [] => .ok ()
  | m :: rest =>
      match (r.line m).message.flaw? with
      | some flaw => .error (.styleFlawed flaw)
      | none => r.outcome rest

theorem run_infoAll (r : Reporter) (messages : List Message) (h : Host) (s : Session) :
    (r.infoAll messages).run h s =
      (r.outcome messages, { s with printed := s.printed ++ r.lines messages }) := by
  induction messages generalizing s with
  | nil => simp [infoAll, outcome, lines]
  | cons m rest ih =>
      have hinfo : r.info m = Action.print .output (r.line m).message := rfl
      rw [infoAll, Action.run_bind, hinfo, Action.run_print, outcome, lines]
      cases (r.line m).message.flaw? with
      | some flaw => rfl
      | none =>
          dsimp only
          rw [ih, List.append_assoc]
          rfl

/-- What is printed of messages in a row are the first of them. -/
theorem lines_prefix (r : Reporter) (messages : List Message) :
    r.lines messages <+: messages.map r.line := by
  induction messages with
  | nil => exact List.prefix_rfl
  | cons m rest ih =>
      rw [lines, List.map_cons, List.prefix_cons_inj]
      split
      · exact List.nil_prefix
      · exact ih

/-- If the console can print all of them, all are printed. -/
theorem lines_eq_map {messages : List Message} (hok : r.outcome messages = .ok ()) :
    r.lines messages = messages.map r.line := by
  induction messages with
  | nil => rfl
  | cons m rest ih =>
      rw [outcome] at hok
      rw [lines, List.map_cons]
      split at hok
      next => cases hok
      next => exact congrArg _ (ih hok)

/-- Only one of the messages is replaced, by one that the console can print if it can print the
first one. Then printing ends alike, and either stops before that message or differs in its line
only. -/
theorem lines_replace (r : Reporter) {m m' : Message}
    (hflaw : (r.line m').message.flaw? = (r.line m).message.flaw?) (front last : List Message) :
    r.outcome (front ++ m' :: last) = r.outcome (front ++ m :: last) ∧
      ((∃ before after, r.lines (front ++ m :: last) = before ++ r.line m :: after ∧
          r.lines (front ++ m' :: last) = before ++ r.line m' :: after) ∨
        r.lines (front ++ m' :: last) = r.lines (front ++ m :: last) ∧
          r.outcome (front ++ m :: last) ≠ .ok ()) := by
  induction front with
  | nil =>
      simp only [List.nil_append, outcome, lines, hflaw]
      exact ⟨trivial, .inl ⟨[], _, rfl, rfl⟩⟩
  | cons first rest ih =>
      simp only [List.cons_append, outcome, lines]
      cases (r.line first).message.flaw? with
      | some flaw => exact ⟨rfl, .inr ⟨rfl, fun hok => by cases hok⟩⟩
      | none =>
          refine ⟨ih.1, ih.2.imp ?_ ?_⟩
          · rintro ⟨before, after, hlines, hlines'⟩
            exact ⟨r.line first :: before, after, by simp [hlines], by simp [hlines']⟩
          · rintro ⟨hsame, herror⟩
            exact ⟨by simp [hsame], herror⟩

end Reporter

end CommandDispatch
