import CommandDispatch.Proofs.Extraction.Acceptance

/-! # Required options are delivered

The audit counts every word that selects an option; extraction gives each word to the first option
of the schema that it selects. Both see the same words, since none that selects an option is taken
as a value. So a required option is delivered, unless a word that selects it also selects an earlier
option: the two then share a spelling, which a schema may have.
-/

namespace CommandDispatch

open Extraction

namespace Switch

/-- Two switches have a spelling in common: a short name that both have, or long names that agree as
far as they are compared. -/
def SharesSpelling (s t : Switch) : Prop :=
  (s.shortName = t.shortName ∧ s.shortName ≠ none) ∨ sameName s.longName t.longName = true

theorem sharesSpelling_of_selectedBy {s t : Switch} {word : Value} (hs : s.selectedBy word = true)
    (ht : t.selectedBy word = true) : s.SharesSpelling t := by
  unfold selectedBy at hs ht
  split at hs
  next letter hword =>
    simp only [hword, decide_eq_true_eq] at ht
    rw [decide_eq_true_eq] at hs
    exact .inl ⟨hs.trans ht.symm, by simp [hs]⟩
  next name hword =>
    simp only [hword, sameName, decide_eq_true_eq] at hs ht
    exact .inr (by simp only [sameName, decide_eq_true_eq, ← hs, ht])
  next => cases hs

end Switch

namespace Extraction

/-- A word that selects an option is given to it or to an option before it. -/
theorem find?_append_cons_of_selectedBy {earlier : List OptionSpec} {o : OptionSpec} {word : Value}
    (hselects : o.toSwitch.selectedBy word = true) (later : List OptionSpec) :
    ∃ p ∈ earlier ++ [o], p.toSwitch.selectedBy word = true ∧
      find? (earlier ++ o :: later) word = some p := by
  unfold find?
  rw [List.find?_append]
  cases hfind : earlier.find? fun p => p.toSwitch.selectedBy word with
  | some p =>
      have hpselects := List.find?_some hfind
      exact ⟨p, List.mem_append_left _ (List.mem_of_find?_eq_some hfind), hpselects, rfl⟩
  | none =>
      refine ⟨o, List.mem_append_right _ List.mem_cons_self, hselects, ?_⟩
      rw [Option.none_or]
      exact List.find?_cons_of_pos hselects

/-- In a sentence, a word that selects a switch leads a group. -/
theorem Reads.exists_group {schema : List OptionSpec} {words : List Value} {groups : List Group}
    {switch : Switch} {word : Value} (hreads : Reads schema words groups) (hmem : word ∈ words)
    (hselects : switch.selectedBy word = true) : ∃ g ∈ groups, g.switch = word := by
  rw [hreads.words_eq, List.mem_flatMap] at hmem
  obtain ⟨g, hg, hmem⟩ := hmem
  refine ⟨g, hg, ?_⟩
  rcases List.mem_cons.1 hmem with hswitch | hvalue
  · exact hswitch.symm
  · obtain ⟨o, hfits⟩ := hreads.fits g hg
    have hoption := Switch.isOption_of_selectedBy hselects
    rw [hfits.values word hvalue] at hoption
    cases hoption

end Extraction

/-- Every required option is delivered when extraction succeeds: the callback was asked with its
long name, or with that of an option before it that shares a spelling with it. -/
theorem Selection.required_delivered (s : Selection) (schema : List OptionSpec)
    (argv : List Value) (h : Host) (session : Session) (hschema : s.schema = some schema)
    (hok : ((s.extract argv).run h session).1 = .ok ()) :
    ∃ made, ((s.extract argv).run h session).2.calls = session.calls ++ made ∧
      ∀ earlier o later, schema = earlier ++ o :: later → o.required = true →
        (∃ p ∈ earlier ++ [o], p.toSwitch.SharesSpelling o.toSwitch ∧
          ∃ values, ∃ call ∈ made, s.call? ⟨p, values⟩ = some call) ∧
        ((∀ p ∈ earlier, ¬ p.toSwitch.SharesSpelling o.toSwitch) →
          ∃ values, ∃ call ∈ made, s.call? ⟨o, values⟩ = some call) := by
  obtain ⟨hkeeps, -, hstop⟩ := (run_extract_eq_ok_iff hschema).1 hok
  obtain ⟨groups, hreads⟩ := (plan_stop_eq_none_iff schema (s.words argv)).1 hstop
  obtain ⟨made, hcalls, hmade⟩ := calls_run_extract_of_reads hschema hok hreads
  refine ⟨made, hcalls, fun earlier o later hsplit hrequired => ?_⟩
  -- the word that the audit counted for `o` leads a group, and that group was delivered
  obtain ⟨word, hword, hselects⟩ := (hkeeps o (by simp [hsplit])).1 hrequired
  obtain ⟨g, hg, rfl⟩ := hreads.exists_group hword hselects
  obtain ⟨p, hp, hpselects, hfind⟩ := find?_append_cons_of_selectedBy hselects later
  have hshares := Switch.sharesSpelling_of_selectedBy hpselects hselects
  obtain ⟨call, hcall, hgroup⟩ : ∃ call ∈ made, some call = s.groupCall? schema g := by
    rw [← List.mem_map, hmade]
    exact List.mem_map_of_mem hg
  have hdelivered : s.call? ⟨p, g.values⟩ = some call := by
    rw [hgroup, groupCall?, Group.delivery?, hsplit, hfind]
    rfl
  refine ⟨⟨p, hp, hshares, g.values, call, hcall, hdelivered⟩, fun halone => ?_⟩
  rcases List.mem_append.1 hp with hearlier | hlast
  · exact absurd hshares (halone p hearlier)
  · rw [List.mem_singleton.1 hlast] at hdelivered
    exact ⟨g.values, call, hcall, hdelivered⟩

namespace Sample

/-- The required option of the sample invocation is delivered. -/
theorem file_delivered :
    ∃ values, ⟨⟨1, "parse"⟩, .option "file" values⟩ ∈
      (((⟨copy [file, verbose] none, none, some [file, verbose], 2⟩ : Selection).extract
        copying).run (answering (.int 0)) {}).2.calls := by
  obtain ⟨made, hcalls, hdelivered⟩ := Selection.required_delivered
    ⟨copy [file, verbose] none, none, some [file, verbose], 2⟩ [file, verbose] copying
    (answering (.int 0)) {} rfl rfl
  obtain ⟨values, call, hcall, hof⟩ :=
    (hdelivered [] file [verbose] rfl rfl).2 (List.forall_mem_nil _)
  refine ⟨values, ?_⟩
  rw [hcalls, List.nil_append]
  rw [← Option.some.inj hof] at hcall
  exact hcall

/-- A flag that is not required, and one that is. Both have the same short name. -/
def lenient : OptionSpec := { verbose with longName := "lenient", shortName := some "x" }

@[inherit_doc lenient]
def strict : OptionSpec :=
  { verbose with longName := "strict", shortName := some "x", flags := ⟨1⟩ }

/-- A command may have options that share a spelling. Then the word that counts for a required one
is given to the other, and the callback never hears of the required one. -/
theorem strict_not_delivered :
    OptionSpec.declare [("long_name", .text "lenient"), ("short_name", .text "x")] = .ok lenient ∧
    OptionSpec.declare
      [("long_name", .text "strict"), ("short_name", .text "x"), ("flags", .int 1)] = .ok strict ∧
    Command.declare .options [
      ("name", .text "copy"),
      ("handler", .callback ⟨0, "copy"⟩),
      ("options", .list [.spec (.option lenient), .spec (.option strict)]),
      ("options_parse", .callback ⟨1, "parse"⟩)] = .ok (copy [lenient, strict] none) ∧
    strict.required = true ∧
    ((⟨copy [lenient, strict] none, none, some [lenient, strict], 2⟩ : Selection).extract
      [.text "tool", .text "--copy", .text "-x"]).run (answering (.int 0)) {} =
        (.ok (), {
          calls := [⟨⟨1, "parse"⟩, .option "lenient" []⟩]
          notes := [.receives "lenient" []] }) := by
  refine ⟨?_, ?_, ?_, ?_, ?_⟩ <;> rfl

end Sample

end CommandDispatch
