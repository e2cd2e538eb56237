import CommandDispatch.Proofs.Dispatch.Selecting

/-! # What extraction accepts

Extraction follows a resolution. As long as the callback answers every call with zero, the words are
accepted exactly when they keep the limits of the schema and are a sentence of its grammar, and the
callback is asked once for each group of the sentence.
-/

namespace CommandDispatch

open Extraction

namespace Selection

/-- The call that a group leads to: the option that its switch selects, and its values. -/
def groupCall? (s : Selection) (schema : List OptionSpec) (g : Group) : Option Call :=
  (g.delivery? schema).bind s.call?

/-- Deliveries of groups make the calls of the groups. -/
theorem map_call?_of_map_delivery? {s : Selection} {schema : List OptionSpec}
    {deliveries : List Delivery} {groups : List Group}
    (hplanned : deliveries.map some = groups.map (Group.delivery? schema)) :
    deliveries.map s.call? = groups.map (s.groupCall? schema) :=
  calc deliveries.map s.call?
      = (deliveries.map some).map fun d => d.bind s.call? := by
        rw [List.map_map]
        rfl
    _ = groups.map (s.groupCall? schema) := by
        rw [hplanned, List.map_map]
        rfl

variable {h : Host} {session : Session}

/-- Answered with zero throughout, extraction accepts exactly the sentences within the limits. -/
theorem run_extract_eq_ok_iff_reads {s : Selection} {schema : List OptionSpec} {argv : List Value}
    (hdelivers : s.Delivers) (hschema : s.schema = some schema)
    (hzero : session.Answered h (fun _ v => v.isZero = true) ((s.extract argv).run h session).2) :
    ((s.extract argv).run h session).1 = .ok () ↔
      KeepsLimits schema (s.words argv) ∧ ∃ groups, Reads schema (s.words argv) groups := by
  rw [← plan_stop_eq_none_iff]
  constructor
  · intro hok
    obtain ⟨hkeeps, -, hstop⟩ := (run_extract_eq_ok_iff hschema).1 hok
    exact ⟨hkeeps, hstop⟩
  · rintro ⟨hkeeps, hstop⟩
    obtain ⟨hsession, hiff⟩ := @run_extract_of_keepsLimits h session s schema argv hschema hkeeps
    rw [hsession] at hzero
    exact hiff.2 ⟨(run_deliverAll_eq_ok_iff hdelivers _).2 hzero, hstop⟩

/-- Accepted words have made one call for each of their groups, in the same order. -/
theorem calls_run_extract_of_reads {s : Selection} {schema : List OptionSpec} {argv : List Value}
    {groups : List Group} (hschema : s.schema = some schema)
    (hok : ((s.extract argv).run h session).1 = .ok ())
    (hreads : Reads schema (s.words argv) groups) :
    ∃ made, ((s.extract argv).run h session).2.calls = session.calls ++ made ∧
      made.map some = groups.map (s.groupCall? schema) := by
  obtain ⟨hkeeps, hdelivered, -⟩ := (run_extract_eq_ok_iff hschema).1 hok
  obtain ⟨made, later, hplanned, hcalls, hall⟩ :=
    @calls_run_deliverAll h session s (plan schema (s.words argv)).deliveries
  refine ⟨made, ?_, ?_⟩
  · rw [(run_extract_of_keepsLimits hschema hkeeps).1, hcalls]
  · rw [hall hdelivered, List.append_nil] at hplanned
    exact hplanned.trans (map_call?_of_map_delivery? hreads.deliveries_eq)

end Selection

/-- Extraction accepts exactly its grammar: behind a selection that resolution has made, and with
every call answered with zero, it succeeds if and only if the words keep the limits of the schema
and are put together from groups that the schema admits. Those groups are then the only ones, and
the callback was asked once for each of them, in their order. -/
theorem App.extract_iff_reads (app : App) (given argv : List Value) (resolving h : Host)
    (before session : Session) (selection : Selection) (schema : List OptionSpec)
    (hresolved : ((app.resolve given).run resolving before).1 = .ok (.selected selection))
    (hschema : selection.schema = some schema)
    (hzero : session.Answered h (fun _ v => v.isZero = true)
      ((selection.extract argv).run h session).2) :
    (((selection.extract argv).run h session).1 = .ok () ↔
      KeepsLimits schema (selection.words argv) ∧
        ∃ groups, Reads schema (selection.words argv) groups) ∧
    ∀ groups, KeepsLimits schema (selection.words argv) →
      Reads schema (selection.words argv) groups →
        (∀ others, Reads schema (selection.words argv) others → others = groups) ∧
        ∃ made, ((selection.extract argv).run h session).2.calls = session.calls ++ made ∧
          made.map some = groups.map (selection.groupCall? schema) := by
  obtain ⟨c, hselect⟩ := App.exists_select_of_run_resolve hresolved
  have hdelivers := Command.delivers_of_select_eq_ok hselect (by rw [hschema]; rfl)
  have hiff := Selection.run_extract_eq_ok_iff_reads hdelivers hschema hzero
  refine ⟨hiff, fun groups hkeeps hreads => ⟨fun others hothers => hreads.unique hothers, ?_⟩⟩
  exact Selection.calls_run_extract_of_reads hschema (hiff.2 ⟨hkeeps, groups, hreads⟩) hreads

namespace Sample

/-- A required option with at most two values. -/
def file : OptionSpec where
  longName := "file"
  shortName := some "f"
  descr := none
  metavar := some (.plain "FILE")
  flags := ⟨1⟩
  maxCount := 0
  maxOccurrences := 1
  maxValues := 2

/-- A flag. -/
def verbose : OptionSpec where
  longName := "verbose"
  shortName := some "v"
  descr := none
  metavar := none
  flags := ⟨0⟩
  maxCount := 0
  maxOccurrences := 0
  maxValues := 0

/-- A command with options, and perhaps with a callback that configures it. -/
def copy (schema : List OptionSpec) (configure : Option Callback) : Command where
  longName := "copy"
  shortName := none
  descr := none
  longDescr := none
  flags := ⟨0⟩
  handler := ⟨0, "copy"⟩
  configure := configure
  help := none
  body := .options schema ⟨1, "parse"⟩

/-- A tool with one command and a list of system logs. -/
def tool (c : Command) (syslog : List Value) : App where
  name := "tool"
  commands := [c]
  title := .text "tool"
  info := .text "<command>"
  man := .null
  journal := ⟨.text "journal.log", "tool"⟩
  syslog := syslog
  status := { program := "tool" }
  privileged := .process
  shell := true
  colorful := true

/-- A host on which every callback answers with the same value. -/
def answering (v : Value) : Host := { answer := fun _ _ _ => { outcome := .ok v } }

theorem answered_answering {P : Call → Value → Prop} (v : Value) (s t : Session)
    (hv : ∀ call, P call v) : s.Answered (answering v) P t :=
  fun _ call _ _ => ⟨v, ⟨rfl, fun _ _ hadded => by cases hadded⟩, hv call⟩

/-- An invocation with two groups of options. -/
def copying : List Value :=
  [.text "tool", .text "--copy", .text "-f", .text "a", .text "b", .text "--verbose"]

/-- An invocation is accepted whose groups the schema admits, and it has no other groups. -/
theorem copying_accepted :
    (((⟨copy [file, verbose] none, none, some [file, verbose], 2⟩ : Selection).extract copying).run
        (answering (.int 0)) {}).1 = .ok () ∧
      ∀ others, Reads [file, verbose] (copying.drop 2) others →
        others = [⟨.text "-f", [.text "a", .text "b"]⟩, ⟨.text "--verbose", []⟩] := by
  have hkeeps : KeepsLimits [file, verbose] (copying.drop 2) :=
    (audit_eq_none_iff [file, verbose] (copying.drop 2)).1 rfl
  obtain ⟨groups, hreads⟩ :=
    (plan_stop_eq_none_iff [file, verbose] (copying.drop 2)).1 rfl
  have hgroups := (Prod.mk.inj hreads.split_eq).2
  obtain ⟨hiff, hrest⟩ := App.extract_iff_reads
    (tool (copy [file, verbose] none) []) copying copying (answering (.int 0)) (answering (.int 0))
    {} {} ⟨copy [file, verbose] none, none, some [file, verbose], 2⟩ [file, verbose] rfl rfl
    (answered_answering (.int 0) _ _ fun _ => rfl)
  refine ⟨hiff.2 ⟨hkeeps, groups, hreads⟩, fun others hothers => ?_⟩
  rw [(hrest groups hkeeps hreads).1 others hothers, ← hgroups]
  rfl

end Sample

end CommandDispatch
