import CommandDispatch.Proofs.Extraction.Shadowing
import CommandDispatch.Proofs.Extraction.Stopping
import Mathlib.Data.List.Nodup

/-! # What callbacks are handed

The audit counts words and extraction makes calls, but the calls follow the words: each is made for
a group, and the switch of a group is a word that the audit has counted for the option. So however
an extraction ends, and whatever the callback answers, no option is handed over more often than it
may occur, and none with other values than it may take.
-/

namespace CommandDispatch

open Extraction

/-- The name of the option that a request hands over, with its values. -/
def Request.handed? : Request → Option (Text × List Value)
  | .option name values => some (name, values)
  | .entryOption _ name values => some (name, values)
  | _ => none

/-- The name of the option that a request hands over. -/
def Request.option? (request : Request) : Option Text := request.handed?.map Prod.fst

/-- The values that an option may be handed in one call: none for a flag; for an option with a limit
at most that many, and at least one if the option is required or its value may be left out. None of
them is an option. -/
structure OptionSpec.Takes (o : OptionSpec) (values : List Value) : Prop where
  flag : o.metavar = none → values = []
  most : o.metavar ≠ none → o.maxValues ≠ 0 → values.length ≤ o.maxValues
  least : o.metavar ≠ none → o.maxValues ≠ 0 → o.required = true ∨ o.optional = true →
    1 ≤ values.length
  values : ∀ value ∈ values, isOption value = false

namespace Extraction

variable {schema : List OptionSpec}

theorem Group.Fits.takes {g : Group} {o : OptionSpec} (hfits : g.Fits schema o) :
    o.Takes g.values where
  flag := hfits.flag
  most := hfits.most
  least := hfits.least
  values := hfits.values

/-- The switches of groups are words of theirs, in the same order. -/
theorem switches_sublist (groups : List Group) :
    (groups.map Group.switch).Sublist (groups.flatMap Group.words) := by
  induction groups with
  | nil => exact List.Sublist.slnil
  | cons g rest ih =>
      rw [List.map_cons, List.flatMap_cons, Group.words, List.cons_append]
      apply List.Sublist.cons_cons
      exact ih.trans (List.sublist_append_right g.values _)

namespace Walks

variable {words rest : List Value} {groups : List Group}

/-- A walk can be ended behind any of its groups. -/
theorem exists_walks_of_append {earlier later : List Group}
    (hwalk : Walks schema words (earlier ++ later) rest) :
    ∃ left, Walks schema words earlier left := by
  induction earlier generalizing words with
  | nil => exact ⟨words, .stay words⟩
  | cons g earlier ih =>
      cases hwalk with
      | step hfits hrest =>
          obtain ⟨left, hleft⟩ := ih hrest
          exact ⟨left, .step hfits hleft⟩

/-- There are at least as many words of a kind as groups that are led by one. -/
theorem countP_switch_le (hwalk : Walks schema words groups rest) (p : Value → Bool) :
    groups.countP (fun g => p g.switch) ≤ words.countP p := by
  have hswitches : groups.countP (fun g => p g.switch) = (groups.map Group.switch).countP p := by
    rw [List.countP_map]
    rfl
  rw [hswitches, hwalk.words_eq, List.countP_append]
  exact Nat.le_add_right_of_le ((switches_sublist groups).countP_le)

end Walks

end Extraction

namespace Selection

variable {h : Host} {session : Session} {s : Selection} {schema : List OptionSpec}

/-- However an extraction ends, its calls are those of a walk along its words, and it has made one
only if the words keep the limits. -/
theorem exists_walks_run_extract (argv : List Value) (hschema : s.schema = some schema) :
    ∃ groups rest made, Walks schema (s.words argv) groups rest ∧
      ((s.extract argv).run h session).2.calls = session.calls ++ made ∧
      made.map some = groups.map (s.groupCall? schema) ∧
      (made ≠ [] → KeepsLimits schema (s.words argv)) := by
  cases haudit : audit schema (s.words argv) with
  | some f =>
      rw [run_extract_of_audit hschema haudit]
      exact ⟨[], s.words argv, [], .stay _, (List.append_nil _).symm, rfl,
        fun hsome => absurd rfl hsome⟩
  | none =>
      have hkeeps := (audit_eq_none_iff schema (s.words argv)).1 haudit
      obtain ⟨groups, rest, hwalk, hplanned, -⟩ := exists_walks_plan schema (s.words argv)
      obtain ⟨made, later, hmade, hcalls, -⟩ :=
        @calls_run_deliverAll h session s (plan schema (s.words argv)).deliveries
      rw [map_call?_of_map_delivery? hplanned] at hmade
      -- the calls that were made are those of the first groups
      obtain ⟨earlier, behind, rfl, hearlier, -⟩ := List.map_eq_append_iff.1 hmade.symm
      obtain ⟨left, hleft⟩ := hwalk.exists_walks_of_append
      refine ⟨earlier, left, made, hleft, ?_, hearlier.symm, fun _ => hkeeps⟩
      rw [(run_extract_of_keepsLimits hschema hkeeps).1, hcalls]

/-- The call of a group hands over the option that its switch selects, with its values. -/
theorem call?_of_groupCall? {g : Group} {o : OptionSpec} {call : Call} (hfits : g.Fits schema o)
    (hcall : s.groupCall? schema g = some call) : s.call? ⟨o, g.values⟩ = some call := by
  rwa [groupCall?, Group.delivery?, hfits.selects] at hcall

theorem handed?_of_call? {d : Delivery} {call : Call} (hcall : s.call? d = some call) :
    call.request.handed? = some (d.option.longName, d.values) := by
  unfold call? at hcall
  split at hcall
  next =>
    obtain rfl := Option.some.inj hcall
    rfl
  next =>
    obtain rfl := Option.some.inj hcall
    rfl
  next => cases hcall

/-- The group of a call that hands over an option is led by a word that selects the option. -/
theorem fits_of_groupCall? (hnodup : (schema.map fun o => o.longName).Nodup) {g : Group}
    {p o : OptionSpec} {call : Call} {values : List Value} (hfits : g.Fits schema p)
    (ho : o ∈ schema) (hcall : s.groupCall? schema g = some call)
    (hhanded : call.request.handed? = some (o.longName, values)) :
    g.Fits schema o ∧ g.values = values := by
  rw [handed?_of_call? (call?_of_groupCall? hfits hcall), Option.some.injEq,
    Prod.mk.injEq] at hhanded
  have hp : p ∈ schema := List.mem_of_find?_eq_some hfits.selects
  obtain rfl := List.inj_on_of_nodup_map hnodup hp ho hhanded.1
  exact ⟨hfits, hhanded.2⟩

/-- The calls that hand over an option are no more than the words that select it. -/
theorem countP_option_le {words rest : List Value} {groups : List Group} {made : List Call}
    (hnodup : (schema.map fun o => o.longName).Nodup) (hwalk : Walks schema words groups rest)
    (hmade : made.map some = groups.map (s.groupCall? schema)) {o : OptionSpec} (ho : o ∈ schema) :
    made.countP (fun call => call.request.option? = some o.longName) ≤
      words.countP o.toSwitch.selectedBy := by
  let hands (call? : Option Call) : Bool :=
    call?.any fun call => call.request.option? = some o.longName
  have hselects : ∀ g ∈ groups, hands (s.groupCall? schema g) = true →
      o.toSwitch.selectedBy g.switch = true := by
    intro g hg hhands
    obtain ⟨p, hfits⟩ := hwalk.fits g hg
    obtain ⟨call, hcall, hname⟩ := (Option.any_eq_true _ _).1 hhands
    rw [decide_eq_true_eq, Request.option?, Option.map_eq_some_iff] at hname
    obtain ⟨⟨name, values⟩, hhanded, rfl⟩ := hname
    obtain ⟨hfits, -⟩ := fits_of_groupCall? hnodup hfits ho hcall hhanded
    simpa using List.find?_some hfits.selects
  calc made.countP (fun call => call.request.option? = some o.longName)
      = (made.map some).countP hands := by
        rw [List.countP_map]
        rfl
    _ = groups.countP (fun g => hands (s.groupCall? schema g)) := by
        rw [hmade, List.countP_map]
        rfl
    _ ≤ groups.countP (fun g => o.toSwitch.selectedBy g.switch) := List.countP_mono_left hselects
    _ ≤ words.countP o.toSwitch.selectedBy := hwalk.countP_switch_le _

/-- However an extraction ends, and whatever the callback answers or does, its calls hand over
options of the schema: each at most as often as it may occur, and each time with values that it may
take. -/
theorem handed_within_limits (s : Selection) (schema : List OptionSpec) (argv : List Value)
    (h : Host) (session : Session) (hschema : s.schema = some schema)
    (haccepted : AcceptedSchema schema) :
    ∃ made, ((s.extract argv).run h session).2.calls = session.calls ++ made ∧
      (∀ call ∈ made, ∃ o ∈ schema, ∃ values, s.call? ⟨o, values⟩ = some call) ∧
      ∀ o ∈ schema,
        (o.maxOccurrences ≠ 0 →
          made.countP (fun call => call.request.option? = some o.longName) ≤ o.maxOccurrences) ∧
        ∀ call ∈ made, ∀ values, call.request.handed? = some (o.longName, values) →
          o.Takes values := by
  obtain ⟨groups, rest, made, hwalk, hcalls, hmade, hkeeps⟩ :=
    @exists_walks_run_extract h session s schema argv hschema
  have hgroup : ∀ call ∈ made, ∃ g ∈ groups, ∃ o, g.Fits schema o ∧
      s.groupCall? schema g = some call := by
    intro call hcall
    have hmem : some call ∈ groups.map (s.groupCall? schema) :=
      hmade ▸ List.mem_map_of_mem hcall
    obtain ⟨g, hg, hmade⟩ := List.mem_map.1 hmem
    obtain ⟨o, hfits⟩ := hwalk.fits g hg
    exact ⟨g, hg, o, hfits, hmade⟩
  refine ⟨made, hcalls, ?_, ?_⟩
  · intro call hcall
    obtain ⟨g, -, o, hfits, hof⟩ := hgroup call hcall
    exact ⟨o, List.mem_of_find?_eq_some hfits.selects, g.values, call?_of_groupCall? hfits hof⟩
  · intro o ho
    refine ⟨fun hlimit => ?_, fun call hcall values hhanded => ?_⟩
    · have hcount := countP_option_le haccepted.nodup hwalk hmade ho
      cases made with
      | nil => exact Nat.zero_le _
      | cons call later =>
          exact Nat.le_trans hcount ((hkeeps (List.cons_ne_nil _ _) o ho).2 hlimit)
    · obtain ⟨g, -, p, hfits, hof⟩ := hgroup call hcall
      obtain ⟨hfits, rfl⟩ := fits_of_groupCall? haccepted.nodup hfits ho hof hhanded
      exact hfits.takes

end Selection

namespace Sample

/-- The sample extraction that stops at a stray value has handed over its required option once, with
one value, and the flag in front of the stray value. -/
theorem straying_within_limits :
    ∃ made : List Call,
      (((⟨copy [file, verbose] none, none, some [file, verbose], 2⟩ : Selection).extract
        straying).run (answering (.int 0)) {}).2.calls = made ∧
      made.length = 2 ∧
      made.countP (fun call => call.request.option? = some file.longName) ≤ 1 ∧
      ∀ call ∈ made, ∀ values, call.request.handed? = some (file.longName, values) →
        values.length ≤ 2 := by
  obtain ⟨made, hcalls, -, hlimits⟩ := Selection.handed_within_limits
    ⟨copy [file, verbose] none, none, some [file, verbose], 2⟩ [file, verbose] straying
    (answering (.int 0)) {} rfl accepted_file_verbose
  obtain ⟨hoccurs, htakes⟩ := hlimits file List.mem_cons_self
  refine ⟨made, hcalls, ?_, hoccurs (by decide), fun call hcall values hhanded => ?_⟩
  · have hlength := congrArg List.length hcalls
    rw [List.nil_append] at hlength
    exact hlength.symm
  · exact (htakes call hcall values hhanded).most (by decide) (by decide)

end Sample

end CommandDispatch
