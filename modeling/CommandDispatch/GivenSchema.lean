import CommandDispatch.Extraction
import CommandDispatch.Help

/-! # Schemas as hosts give them

A host may hand over any items in the place of a schema. They are used one after the other, and the
first that lacks what options have is a failure; what was done with the items before it stays done.
-/

namespace CommandDispatch

namespace GivenSchema

/-- A schema as the items that a host would give for it. -/
def ofOptions (schema : List OptionSpec) : List Value := schema.map fun o => .spec (.option o)

/-- The first option that a word selects. A namespace has spellings too, and is passed over when the
word has none of them. -/
def find? : (items : List Value) → (word : Value) → Except Failure (Option OptionSpec)
  | [], _ => .ok none
  | .spec (.option o) :: rest, word =>
      if o.toSwitch.selectedBy word then .ok (some o) else find? rest word
  | .spec (.scope n) :: rest, word =>
      if n.toSwitch.selectedBy word then .error .withoutAttribute else find? rest word
  | _ :: _, _ => .error .withoutAttribute

/-- Refuses words that lack an option or have it too often. -/
def audit : (items : List Value) → (words : List Value) → Except Failure Unit
  | [], _ => .ok ()
  | .spec (.option o) :: rest, words =>
      match Extraction.occurrenceFault? words o with
      | some f => .error (.fault f)
      | none => audit rest words
  | _ :: _, _ => .error .withoutAttribute

/-- Shows one line for each visible option. A hidden command is passed over like a hidden option. -/
def showAll (reporter : Reporter) (look : Help.Look) : (items : List Value) → Action Unit
  | [] => pure ()
  | .spec (.option o) :: rest => do
      unless o.hidden do
        reporter.info (Help.optionLine look o)
      showAll reporter look rest
  | .spec (.command c) :: rest =>
      if c.hidden then showAll reporter look rest else Action.fail .withoutAttribute
  | _ :: _ => Action.fail .withoutAttribute

/-- Among options, the search is that of a schema. -/
theorem find?_ofOptions (schema : List OptionSpec) (word : Value) :
    find? (ofOptions schema) word = .ok (Extraction.find? schema word) := by
  induction schema with
  | nil => rfl
  | cons o rest ih =>
    by_cases hselected : o.toSwitch.selectedBy word
    · simp [ofOptions, find?, Extraction.find?, hselected]
    · simpa [ofOptions, find?, Extraction.find?, hselected] using ih

/-- Among options, the audit is that of a schema. -/
theorem audit_ofOptions (schema : List OptionSpec) (words : List Value) :
    audit (ofOptions schema) words =
      match Extraction.audit schema words with
      | some f => .error (.fault f)
      | none => .ok () := by
  induction schema with
  | nil => rfl
  | cons o rest ih =>
    rcases hfault : Extraction.occurrenceFault? words o with _ | f
    · simpa [ofOptions, audit, Extraction.audit, hfault] using ih
    · simp [ofOptions, audit, Extraction.audit, hfault]

/-- Among options, what is shown are the lines of the visible ones. -/
theorem showAll_ofOptions (reporter : Reporter) (look : Help.Look) (schema : List OptionSpec) :
    showAll reporter look (ofOptions schema) =
      reporter.infoAll (Help.optionLines look schema) := by
  induction schema with
  | nil => rfl
  | cons o rest ih =>
    by_cases hhidden : o.hidden
    · simpa [ofOptions, showAll, Help.optionLines, Help.visible, hhidden] using ih
    · simpa [ofOptions, showAll, Help.optionLines, Help.visible, hhidden, Reporter.infoAll] using
        congrArg (reporter.info (Help.optionLine look o) >>= fun _ => ·) ih

end GivenSchema

namespace App

/-- Shows one line for each visible option among some items. -/
def showItems (app : App) (items : Value) : Action Unit := do
  let look ← Action.ofExcept (Help.Look.of app (← Action.host))
  GivenSchema.showAll app.reporter look (← Action.ofExcept items.readPieces)

end App

end CommandDispatch
