import CommandDispatch.Proofs.Extraction.Acceptance

/-! # Groups in another order

The limits of a schema count words, and the grammar looks at one group at a time, so neither sees in
which order the groups stand. Words that are accepted stay accepted when their groups are
rearranged, and the calls are rearranged with them.
-/

namespace CommandDispatch

open Extraction

namespace Extraction

variable {schema : List OptionSpec}

/-- Limits do not depend on the order of the words. -/
theorem KeepsLimits.perm {words others : List Value} (hkeeps : KeepsLimits schema words)
    (hperm : words.Perm others) : KeepsLimits schema others := by
  intro o ho
  obtain ⟨hpresent, hmost⟩ := hkeeps o ho
  constructor
  · intro hrequired
    obtain ⟨word, hword, hselects⟩ := hpresent hrequired
    exact ⟨word, hperm.mem_iff.1 hword, hselects⟩
  · intro hlimit
    rw [← hperm.countP_eq]
    exact hmost hlimit

/-- A schema admits each group for itself, wherever it stands. -/
theorem Reads.perm {words : List Value} {groups others : List Group}
    (hreads : Reads schema words groups) (hperm : groups.Perm others) :
    Reads schema (others.flatMap Group.words) others where
  words_eq := rfl
  fits g hg := hreads.fits g (hperm.mem_iff.2 hg)

end Extraction

namespace Selection

variable {h : Host} {session : Session} {s : Selection}

/-- Whether a selection has a callback for options does not depend on what is delivered. -/
theorem delivers_of_call? {d : Delivery} {call : Call} (hcall : s.call? d = some call) :
    s.Delivers := by
  intro other
  unfold call? at hcall ⊢
  split at hcall
  next => rfl
  next => rfl
  next => cases hcall

/-- Words with groups are accepted only from a selection that has a callback for options. -/
theorem delivers_or_eq_nil {schema : List OptionSpec} {argv : List Value} {groups : List Group}
    (hschema : s.schema = some schema) (hok : ((s.extract argv).run h session).1 = .ok ())
    (hreads : Reads schema (s.words argv) groups) : s.Delivers ∨ groups = [] := by
  obtain ⟨made, -, hmade⟩ := calls_run_extract_of_reads hschema hok hreads
  cases groups with
  | nil => exact .inr rfl
  | cons g later =>
      left
      obtain ⟨call, others, -, hcall, -⟩ := List.map_eq_cons_iff.1 hmade
      obtain ⟨d, -, hd⟩ := Option.bind_eq_some_iff.1 hcall.symm
      exact delivers_of_call? hd

/-- A sentence within the limits is accepted, answered with zero. -/
theorem run_extract_eq_ok_of_reads {schema : List OptionSpec} {argv : List Value}
    {groups : List Group} (hschema : s.schema = some schema) (hdelivers : s.Delivers ∨ groups = [])
    (hkeeps : KeepsLimits schema (s.words argv)) (hreads : Reads schema (s.words argv) groups)
    (hzero : session.Answered h (fun _ v => v.isZero = true) ((s.extract argv).run h session).2) :
    ((s.extract argv).run h session).1 = .ok () := by
  rcases hdelivers with hdelivers | rfl
  · exact (run_extract_eq_ok_iff_reads hdelivers hschema hzero).2 ⟨hkeeps, groups, hreads⟩
  · -- nothing is delivered
    have hstop := (plan_stop_eq_none_iff schema (s.words argv)).2 ⟨[], hreads⟩
    have hnone : (plan schema (s.words argv)).deliveries = [] :=
      List.map_eq_nil_iff.1 hreads.deliveries_eq
    apply (run_extract_eq_ok_iff hschema).2
    refine ⟨hkeeps, ?_, hstop⟩
    rw [hnone]
    rfl

/-- Words that are accepted stay accepted, answered with zero, when their groups are put together in
another order, and the calls are those of the groups in that order. -/
theorem extract_rearranged (s : Selection) (schema : List OptionSpec) (argv : List Value)
    (h : Host) (session : Session) (hschema : s.schema = some schema)
    (hok : ((s.extract argv).run h session).1 = .ok ()) :
    ∃ groups made, Reads schema (s.words argv) groups ∧
      ((s.extract argv).run h session).2.calls = session.calls ++ made ∧
      made.map some = groups.map (s.groupCall? schema) ∧
      ∀ others rearranged h' session', groups.Perm others →
        s.words rearranged = others.flatMap Group.words →
        session'.Answered h' (fun _ v => v.isZero = true)
          ((s.extract rearranged).run h' session').2 →
        ((s.extract rearranged).run h' session').1 = .ok () ∧
          ∃ made', ((s.extract rearranged).run h' session').2.calls = session'.calls ++ made' ∧
            made'.map some = others.map (s.groupCall? schema) := by
  obtain ⟨hkeeps, -, hstop⟩ := (run_extract_eq_ok_iff hschema).1 hok
  obtain ⟨groups, hreads⟩ := (plan_stop_eq_none_iff schema (s.words argv)).1 hstop
  obtain ⟨made, hcalls, hmade⟩ := calls_run_extract_of_reads hschema hok hreads
  refine ⟨groups, made, hreads, hcalls, hmade, ?_⟩
  intro others rearranged h' session' hperm hwords hzero
  have hothers : Reads schema (s.words rearranged) others := hwords ▸ hreads.perm hperm
  have hkept : KeepsLimits schema (s.words rearranged) := by
    apply hkeeps.perm
    rw [hreads.words_eq, hwords]
    exact hperm.flatMap_right _
  have hdelivers : s.Delivers ∨ others = [] := by
    apply (delivers_or_eq_nil hschema hok hreads).imp_right
    rintro rfl
    exact hperm.nil_eq.symm
  have haccepted := run_extract_eq_ok_of_reads hschema hdelivers hkept hothers hzero
  exact ⟨haccepted, calls_run_extract_of_reads hschema haccepted hothers⟩

end Selection

namespace Sample

/-- The sample invocation with its groups the other way round. -/
def copyingVerbosely : List Value :=
  [.text "tool", .text "--copy", .text "--verbose", .text "-f", .text "a", .text "b"]

/-- The sample invocation is accepted with its groups the other way round. -/
theorem copying_rearranged :
    (((⟨copy [file, verbose] none, none, some [file, verbose], 2⟩ : Selection).extract
      copyingVerbosely).run (answering (.int 0)) {}).1 = .ok () := by
  obtain ⟨groups, _, hreads, -, -, hothers⟩ := Selection.extract_rearranged
    ⟨copy [file, verbose] none, none, some [file, verbose], 2⟩ [file, verbose] copying
    (answering (.int 0)) {} rfl rfl
  have hgroups : groups = [⟨.text "-f", [.text "a", .text "b"]⟩, ⟨.text "--verbose", []⟩] :=
    (Prod.mk.inj hreads.split_eq).2.symm
  subst hgroups
  exact (hothers [⟨.text "--verbose", []⟩, ⟨.text "-f", [.text "a", .text "b"]⟩] copyingVerbosely
    (answering (.int 0)) {} (List.Perm.swap _ _ _) rfl
    (answered_answering (.int 0) _ _ fun _ => rfl)).1

end Sample

end CommandDispatch
