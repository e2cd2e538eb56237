import CommandDispatch.Spec.Literal

/-! # What specs are for

The description that all specs of a kind carry, as it can be read from any of them.
-/

namespace CommandDispatch

/-- The margin of a description. -/
def SpecKind.aboutMargin : Text := "\n    "

/-- The lines of the description of a kind. -/
def SpecKind.aboutLines : SpecKind → List Text
  | option => [
      "A named switch that may carry value tokens.\n",
      "Fields",
      "- long_name:  the --name key, unique within its schema.",
      "- short_name: single letter for the -x form, or None.",
      "- descr:      help text.",
      "- metavar:    value label; its presence means the option takes value(s).",
      "- flags:      OptionFlag bits.",
      "- max_count:  compatibility knob; when nonzero it bounds both how many times the",
      "              option may appear and how many values one occurrence may consume.",
      "- max_occurrences / max_values: the two limits max_count feeds. Each can be set",
      "              on its own; when omitted they both follow max_count."]
  | entry => [
      "A named sub-entry of a namespace with its own, independent option schema.\n",
      "The name is matched verbatim against a positional token (no dashes)."]
  | scope => ["The selector switch of a namespaced command and its (non-empty) entries."]
  | plainCommand =>
      ["A command without options: resolution ends at the selector and the handler runs."]
  | optionCommand => [
      "A command owning an option schema; each parsed option is handed to",
      "options_parse(option_name, values) -> int."]
  | namespaceCommand => [
      "A command selecting a namespace entry first; each parsed option is handed to",
      "namespace_opts_parse(entry_name, option_name, values) -> int."]

/-- The description of a kind: its lines behind a margin, and an empty line at its end. -/
def SpecKind.about (kind : SpecKind) : Text :=
  .concat ((kind.aboutLines.map (aboutMargin ++ ·)) ++ [aboutMargin])

end CommandDispatch
