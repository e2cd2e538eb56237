import CommandDispatch.Proofs.Extraction.Acceptance
import CommandDispatch.Proofs.Extraction.Walking
import CommandDispatch.Proofs.Session.Building

/-! # Where extraction stops

Extraction fails in one of two ways. Before anything is delivered, the first option of the schema
that is missing or occurs too often is reported. Past that, the groups in front of one word have all
been delivered and answered with zero, and that word decides: it blocks the way, or it leads a group
that the callback, asked last, refuses.
-/

namespace CommandDispatch

open Extraction

/-- An option whose limits the words break, with the fault that reports it: it is required and
missing, or it occurs more often than it may. -/
inductive OptionSpec.Breaks (o : OptionSpec) (words : List Value) : Fault → Prop
  | missing (hrequired : o.required = true)
      (hnone : ∀ word ∈ words, o.toSwitch.selectedBy word = false) :
      o.Breaks words (.ofCode .missingRequiredOption
        (.concat ["Missing required option ", o.label, "."]))
  | repeated (hlimit : o.maxOccurrences ≠ 0)
      (hmore : o.maxOccurrences < words.countP o.toSwitch.selectedBy) :
      o.Breaks words (.ofCode .optionRepeated
        (.concat ["Option supplied too many times ", o.label, "."]))

theorem OptionSpec.Breaks.kind_ne {o : OptionSpec} {words : List Value} {f : Fault}
    (hbreaks : o.Breaks words f) : f.kind ≠ .of .internalError := by
  intro hkind
  cases hbreaks <;> cases hkind

namespace Extraction

theorem breaks_of_occurrenceFault? {words : List Value} {o : OptionSpec} {f : Fault}
    (hfault : occurrenceFault? words o = some f) : o.Breaks words f := by
  unfold occurrenceFault? at hfault
  split at hfault
  next hmissing =>
    obtain rfl := Option.some.inj hfault
    simp only [Bool.and_eq_true, decide_eq_true_eq, occurrences, List.countP_eq_zero] at hmissing
    exact .missing hmissing.1 fun word hword => Bool.eq_false_iff.2 (hmissing.2 word hword)
  next =>
    split at hfault
    next hrepeated =>
      obtain rfl := Option.some.inj hfault
      simp only [Bool.and_eq_true, decide_eq_true_eq] at hrepeated
      exact .repeated hrepeated.1 hrepeated.2
    next => cases hfault

/-- When the words break a limit, the audit reports the first option of the schema for which they
do. -/
theorem exists_breaks_of_not_keepsLimits {schema : List OptionSpec} {words : List Value}
    (hbroken : ¬ KeepsLimits schema words) :
    ∃ earlier o later f, schema = earlier ++ o :: later ∧ KeepsLimits earlier words ∧
      o.Breaks words f ∧ audit schema words = some f := by
  rw [← audit_eq_none_iff] at hbroken
  obtain ⟨f, haudit⟩ := Option.ne_none_iff_exists'.1 hbroken
  obtain ⟨earlier, o, later, hsplit, hfault, hearlier⟩ := List.findSome?_eq_some_iff.1 haudit
  have hkeeps : KeepsLimits earlier words :=
    (audit_eq_none_iff earlier words).1 (List.findSome?_eq_none_iff.2 hearlier)
  exact ⟨earlier, o, later, f, hsplit, hkeeps, breaks_of_occurrenceFault? hfault, haudit⟩

end Extraction

namespace Selection

variable {h : Host} {session : Session}

/-- Deliveries that fail have succeeded up to one of them, which fails. -/
theorem exists_stop_of_run_deliverAll {s : Selection} {deliveries : List Delivery}
    {failure : Failure} {t : Session}
    (hrun : (s.deliverAll deliveries).run h session = (.error failure, t)) :
    ∃ before d after u, deliveries = before ++ d :: after ∧
      (s.deliverAll before).run h session = (.ok (), u) ∧
      (s.deliverAll [d]).run h u = (.error failure, t) := by
  induction deliveries generalizing session with
  | nil => cases hrun
  | cons d rest ih =>
      have hhead := @run_deliverAll_cons h session s d
      cases hdeliver : (s.deliver d).run h (noted session d) with
      | mk result u =>
          simp only [hdeliver] at hhead
          cases result with
          | error _ =>
              rw [hhead] at hrun
              exact ⟨[], d, rest, session, rfl, rfl, (hhead []).trans hrun⟩
          | ok answer =>
              dsimp only at hhead
              by_cases hzero : answer.isZero = true
              · simp only [if_pos hzero] at hhead
                rw [hhead] at hrun
                obtain ⟨before, last, after, w, hsplit, hbefore, hlast⟩ := ih hrun
                refine ⟨d :: before, last, after, w, by rw [hsplit]; rfl, ?_, hlast⟩
                rw [hhead]
                exact hbefore
              · simp only [if_neg hzero] at hhead
                rw [hhead] at hrun
                exact ⟨[], d, rest, session, rfl, rfl, (hhead []).trans hrun⟩

/-- A delivery that fails has made its call, and either the call has failed or its answer was not
zero. -/
theorem run_deliverAll_singleton_cases {s : Selection} {d : Delivery} {c : Call}
    {failure : Failure} {t : Session} (hcall : s.call? d = some c)
    (hrun : (s.deliverAll [d]).run h session = (.error failure, t)) :
    t.calls = session.calls ++ [c] ∧
      ((Action.call c.callback c.request).run h (noted session d) = (.error failure, t) ∨
        ∃ v, (h.reply session.calls c).Returns session.files v ∧ v.isZero = false ∧
          failure = .fault refused) := by
  rw [run_deliverAll_cons, deliver_of_call? hcall] at hrun
  have hcalls := Action.calls_run_call (h := h) (s := noted session d) c.callback c.request
  cases hmade : (Action.call c.callback c.request).run h (noted session d) with
  | mk result u =>
      rw [hmade] at hcalls
      simp only [hmade] at hrun
      cases result with
      | error _ =>
          obtain ⟨hfailure, rfl⟩ := Prod.mk.inj hrun
          obtain rfl := Except.error.inj hfailure
          exact ⟨hcalls, .inl rfl⟩
      | ok v =>
          dsimp only at hrun
          by_cases hzero : v.isZero = true
          · rw [if_pos hzero] at hrun
            cases hrun
          · rw [if_neg hzero] at hrun
            obtain ⟨hfailure, rfl⟩ := Prod.mk.inj hrun
            have hreturns := (Reply.returns_iff_of_grows (grows_noted session d)).1
              (Action.run_call_eq_ok_iff.1 (congrArg Prod.fst hmade))
            exact ⟨hcalls, .inr ⟨v, hreturns, by simpa using hzero,
              (Except.error.inj hfailure).symm⟩⟩

/-- A delivery that fails although the callback returned a value was refused. -/
theorem refused_of_run_deliverAll_singleton {s : Selection} {d : Delivery} {c : Call}
    {failure : Failure} {t : Session} (hcall : s.call? d = some c)
    (hrun : (s.deliverAll [d]).run h session = (.error failure, t))
    (hanswered : session.Answered h (fun _ _ => True) t) :
    ∃ v, (h.reply session.calls c).Returns session.files v ∧ v.isZero = false ∧
      failure = .fault refused := by
  obtain ⟨-, hfailed | hrefused⟩ := run_deliverAll_singleton_cases hcall hrun
  · have hlast := hanswered.after (grows_noted session d)
    rw [← show ((Action.call c.callback c.request).run h (noted session d)).2 = t from
      congrArg Prod.snd hfailed] at hlast
    obtain ⟨v, hok, -⟩ := Action.answered_run_call_iff.1 hlast
    cases (congrArg Prod.fst hfailed).symm.trans hok
  · exact hrefused

/-- Deliveries in front of the one that stops them: all their calls were made, in their order, and
answered with zero. -/
theorem calls_run_deliverAll_of_ok {s : Selection} {deliveries : List Delivery} {u : Session}
    (hdelivers : s.Delivers) (hrun : (s.deliverAll deliveries).run h session = (.ok (), u)) :
    ∃ made, made.map some = deliveries.map s.call? ∧ u.calls = session.calls ++ made ∧
      session.Answered h (fun _ v => v.isZero = true) u := by
  have hok : ((s.deliverAll deliveries).run h session).1 = .ok () := congrArg Prod.fst hrun
  obtain ⟨made, later, hmade, hcalls, hdone⟩ := @calls_run_deliverAll h session s deliveries
  rw [hdone hok, List.append_nil] at hmade
  have hzeros := (run_deliverAll_eq_ok_iff hdelivers deliveries).1 hok
  rw [hrun] at hcalls hzeros
  exact ⟨made, hmade, hcalls, hzeros⟩

/-- An extraction that fails past the audit fails with a delivery, or, once all is delivered that was
planned, where the plan stops. -/
theorem run_extract_error_cases {s : Selection} {schema : List OptionSpec} {argv : List Value}
    {failure : Failure} {t : Session} (hschema : s.schema = some schema)
    (hkeeps : KeepsLimits schema (s.words argv))
    (hrun : (s.extract argv).run h session = (.error failure, t)) :
    (s.deliverAll (plan schema (s.words argv)).deliveries).run h session = (.error failure, t) ∨
      ∃ f, (s.deliverAll (plan schema (s.words argv)).deliveries).run h session = (.ok (), t) ∧
        (plan schema (s.words argv)).stop = some f ∧ failure = .fault f := by
  rw [run_extract_eq hschema hkeeps] at hrun
  cases hdelivered : (s.deliverAll (plan schema (s.words argv)).deliveries).run h session with
  | mk result u =>
      simp only [hdelivered] at hrun
      cases result with
      | error _ => exact .inl hrun
      | ok _ =>
          dsimp only at hrun
          cases hstop : (plan schema (s.words argv)).stop with
          | none => simp [hstop] at hrun
          | some f =>
              simp only [hstop, Prod.mk.injEq, Except.error.injEq] at hrun
              obtain ⟨rfl, rfl⟩ := hrun
              exact .inr ⟨f, rfl, rfl, rfl⟩

/-- Calls that were answered with zero, one by one. -/
theorem zeros_of_answered {made : List Call} {u : Session}
    (hcalls : u.calls = session.calls ++ made)
    (hzeros : session.Answered h (fun _ v => v.isZero = true) u) :
    ∀ before call after, made = before ++ call :: after →
      ∃ v, (h.reply (session.calls ++ before) call).Returns session.files v ∧ v.isZero = true := by
  intro before call after hsplit
  exact hzeros before call after (by rw [hcalls, hsplit, List.append_assoc])

/-- Everything planned was delivered, and then a word blocked the way. -/
theorem stops_at_block {s : Selection} {schema : List OptionSpec} {argv : List Value}
    {t : Session} {f : Fault} (hdelivers : s.Delivers)
    (hrun : (s.deliverAll (plan schema (s.words argv)).deliveries).run h session = (.ok (), t))
    (hstop : (plan schema (s.words argv)).stop = some f) :
    ∃ groups head behind made, Walks schema (s.words argv) groups (head :: behind) ∧
      made.map some = groups.map (s.groupCall? schema) ∧
      t.calls = session.calls ++ made ∧ session.Answered h (fun _ v => v.isZero = true) t ∧
      Blocks schema head behind f := by
  obtain ⟨groups, rest, hwalk, hplanned, hrest⟩ := exists_walks_plan schema (s.words argv)
  obtain ⟨head, behind, rfl, hblocks⟩ := hrest f hstop
  obtain ⟨made, hmade, hcalls, hzeros⟩ := calls_run_deliverAll_of_ok hdelivers hrun
  exact ⟨groups, head, behind, made, hwalk, hmade.trans (map_call?_of_map_delivery? hplanned),
    hcalls, hzeros, hblocks⟩

/-- A delivery was refused: what was planned before it was delivered, and the word that leads its
group is where the walk has come. -/
theorem stops_at_refusal {s : Selection} {schema : List OptionSpec} {argv : List Value}
    {t : Session} {failure : Failure} (hdelivers : s.Delivers)
    (hrun : (s.deliverAll (plan schema (s.words argv)).deliveries).run h session =
      (.error failure, t))
    (hanswered : session.Answered h (fun _ _ => True) t) :
    ∃ groups head behind made o call v u, Walks schema (s.words argv) groups (head :: behind) ∧
      made.map some = groups.map (s.groupCall? schema) ∧
      u.calls = session.calls ++ made ∧ session.Answered h (fun _ v => v.isZero = true) u ∧
      (Group.first o head behind).Fits schema o ∧
      s.groupCall? schema (Group.first o head behind) = some call ∧
      t.calls = session.calls ++ made ++ [call] ∧
      (h.reply (session.calls ++ made) call).Returns session.files v ∧ v.isZero = false ∧
      failure = .fault refused := by
  obtain ⟨groups, rest, hwalk, hplanned, -⟩ := exists_walks_plan schema (s.words argv)
  obtain ⟨before, d, after, u, hsplit, hbefore, hlast⟩ := exists_stop_of_run_deliverAll hrun
  -- the groups of the walk fall apart where the deliveries do
  rw [hsplit, List.map_append, List.map_cons] at hplanned
  obtain ⟨earlier, behindGroups, rfl, hearlier, hfrom⟩ := List.map_eq_append_iff.1 hplanned.symm
  obtain ⟨g, later, rfl, hg, -⟩ := List.map_eq_cons_iff.1 hfrom
  obtain ⟨o, behind, hwalk, hgroup, hfits⟩ := hwalk.before
  obtain ⟨call, hcall⟩ := Option.isSome_iff_exists.1 (hdelivers d)
  obtain ⟨made, hmade, hcalls, hzeros⟩ := calls_run_deliverAll_of_ok hdelivers hbefore
  have hgrowsBefore := s.deliverAll_leads Session.keptByCalls_grows before h session
  rw [hbefore] at hgrowsBefore
  obtain ⟨hmore, -⟩ := run_deliverAll_singleton_cases hcall hlast
  obtain ⟨v, hreturns, hnonzero, hrefused⟩ :=
    refused_of_run_deliverAll_singleton hcall hlast (hanswered.after hgrowsBefore)
  rw [hcalls] at hreturns hmore
  refine ⟨earlier, g.switch, behind, made, o, call, v, u, hwalk,
    hmade.trans (map_call?_of_map_delivery? hearlier.symm), hcalls, hzeros, ?_, ?_, hmore,
    (Reply.returns_iff_of_grows hgrowsBefore).1 hreturns, hnonzero, hrefused⟩
  · rw [← hgroup]
    exact hfits
  · rw [← hgroup, groupCall?, hg]
    exact hcall

/-- An extraction that fails leaves delivered what stands in front of the word at which it stops.
If the words break a limit, that is nothing, and the first option of the schema whose limits they
break is reported. Otherwise the groups in front of a word were handed to the callback, in their
order, and answered with zero; the word blocks the way, and nothing more is asked, or it leads a
group that the callback, asked last, answers with something other than zero. -/
theorem extract_stops {s : Selection} {schema : List OptionSpec} {argv : List Value}
    (hdelivers : s.Delivers) (hschema : s.schema = some schema)
    (hanswered : session.Answered h (fun _ _ => True) ((s.extract argv).run h session).2) :
    (¬ KeepsLimits schema (s.words argv) →
      ∃ earlier o later f, schema = earlier ++ o :: later ∧
        KeepsLimits earlier (s.words argv) ∧ o.Breaks (s.words argv) f ∧
        (s.extract argv).run h session = (.error (.fault f), session)) ∧
    (KeepsLimits schema (s.words argv) → ∀ failure,
      ((s.extract argv).run h session).1 = .error failure →
        ∃ groups head behind made f,
          s.words argv = groups.flatMap Group.words ++ head :: behind ∧
          (∀ g ∈ groups, ∃ o, g.Fits schema o) ∧
          Walks schema (s.words argv) groups (head :: behind) ∧
          made.map some = groups.map (s.groupCall? schema) ∧
          (∀ before call after, made = before ++ call :: after →
            ∃ v, (h.reply (session.calls ++ before) call).Returns session.files v ∧
              v.isZero = true) ∧
          failure = .fault f ∧
          (f = refused ↔ ∃ o, (Group.first o head behind).Fits schema o) ∧
          (Blocks schema head behind f ∧
              ((s.extract argv).run h session).2.calls = session.calls ++ made ∨
            ∃ o call v, (Group.first o head behind).Fits schema o ∧
              s.groupCall? schema (Group.first o head behind) = some call ∧
              ((s.extract argv).run h session).2.calls = session.calls ++ made ++ [call] ∧
              (h.reply (session.calls ++ made) call).Returns session.files v ∧
              v.isZero = false)) := by
  constructor
  · intro hbroken
    obtain ⟨earlier, o, later, f, hsplit, hkeeps, hbreaks, haudit⟩ :=
      exists_breaks_of_not_keepsLimits hbroken
    exact ⟨earlier, o, later, f, hsplit, hkeeps, hbreaks, run_extract_of_audit hschema haudit⟩
  · intro hkeeps failure hfailed
    have hrun : (s.extract argv).run h session =
        (.error failure, ((s.extract argv).run h session).2) := Prod.ext hfailed rfl
    rcases run_extract_error_cases hschema hkeeps hrun with hdelivered | ⟨f, hdelivered, hstop, rfl⟩
    · obtain ⟨groups, head, behind, made, o, call, v, u, hwalk, hmade, hcalls, hzeros, hfits, hcall,
        hmore, hreturns, hnonzero, rfl⟩ := stops_at_refusal hdelivers hdelivered hanswered
      exact ⟨groups, head, behind, made, refused, hwalk.words_eq, hwalk.fits, hwalk, hmade,
        zeros_of_answered hcalls hzeros, rfl, ⟨fun _ => ⟨o, hfits⟩, fun _ => rfl⟩,
        .inr ⟨o, call, v, hfits, hcall, hmore, hreturns, hnonzero⟩⟩
    · obtain ⟨groups, head, behind, made, hwalk, hmade, hcalls, hzeros, hblocks⟩ :=
        stops_at_block hdelivers hdelivered hstop
      refine ⟨groups, head, behind, made, f, hwalk.words_eq, hwalk.fits, hwalk, hmade,
        zeros_of_answered hcalls hzeros, rfl, ?_, .inl ⟨hblocks, hcalls⟩⟩
      exact ⟨fun hrefused => absurd hrefused hblocks.ne_refused,
        fun ⟨o, hfits⟩ => absurd hfits (hblocks.not_fits o)⟩

/-- A call that ends with a fault ends with that of its callback. -/
theorem outcome_of_run_call {callback : Callback} {request : Request} {f : Fault}
    (hfault : ((Action.call callback request).run h session).1 = .error (.fault f)) :
    (h.reply session.calls ⟨callback, request⟩).outcome = .error (.fault f) := by
  simp only [Action.call] at hfault
  split at hfault
  next =>
    split at hfault
    next => exact hfault
    next hfiles =>
      obtain rfl := Except.error.inj hfault
      exact absurd hfiles (FileStore.faultless_appendAt _ _ _ f)
  next => exact hfault

/-- Deliveries that end with a fault which is no refusal end with the fault of the last call. -/
theorem raised_of_run_deliverAll {s : Selection} {deliveries : List Delivery} {f : Fault}
    {t : Session} (hdelivers : s.Delivers)
    (hrun : (s.deliverAll deliveries).run h session = (.error (.fault f), t))
    (hkind : f.kind = .of .internalError) :
    ∃ made call, t.calls = session.calls ++ made ++ [call] ∧
      (h.reply (session.calls ++ made) call).outcome = .error (.fault f) := by
  obtain ⟨before, d, after, u, -, hbefore, hlast⟩ := exists_stop_of_run_deliverAll hrun
  obtain ⟨made, -, hcalls, -⟩ := calls_run_deliverAll_of_ok hdelivers hbefore
  obtain ⟨call, hcall⟩ := Option.isSome_iff_exists.1 (hdelivers d)
  obtain ⟨hmore, hfailed | ⟨_, -, -, hrefused⟩⟩ := run_deliverAll_singleton_cases hcall hlast
  · have hraised := outcome_of_run_call (congrArg Prod.fst hfailed)
    rw [show (noted u d).calls = u.calls from rfl, hcalls] at hraised
    rw [hcalls] at hmore
    exact ⟨made, call, hmore, hraised⟩
  · obtain rfl := Failure.fault.inj hrefused
    cases hkind

/-- Extraction reports that it cannot deliver only if the callback does so itself, asked last. -/
theorem raised_of_run_extract {s : Selection} {argv : List Value} {f : Fault}
    (hdelivers : s.Delivers) (hfault : ((s.extract argv).run h session).1 = .error (.fault f))
    (hkind : f.kind = .of .internalError) :
    ∃ made call, ((s.extract argv).run h session).2.calls = session.calls ++ made ++ [call] ∧
      (h.reply (session.calls ++ made) call).outcome = .error (.fault f) := by
  cases hschema : s.schema with
  | none =>
      simp only [extract, hschema, Action.run_fail] at hfault
      cases hfault
  | some schema =>
      by_cases hkeeps : KeepsLimits schema (s.words argv)
      · have hrun : (s.extract argv).run h session =
            (.error (.fault f), ((s.extract argv).run h session).2) := Prod.ext hfault rfl
        rcases run_extract_error_cases hschema hkeeps hrun with
          hdelivered | ⟨g, hdelivered, hstop, hsame⟩
        · exact raised_of_run_deliverAll hdelivers hdelivered hkind
        · obtain rfl := Failure.fault.inj hsame
          obtain ⟨_, _, _, _, -, -, -, -, hblocks⟩ := stops_at_block hdelivers hdelivered hstop
          exact absurd hkind hblocks.kind_ne
      · obtain ⟨_, _, _, g, -, -, hbreaks, haudit⟩ := exists_breaks_of_not_keepsLimits hkeeps
        rw [run_extract_of_audit hschema haudit] at hfault
        obtain rfl := Failure.fault.inj (Except.error.inj hfault)
        exact absurd hkind hbreaks.kind_ne

end Selection

namespace Sample

/-- An invocation with a value behind a flag. -/
def straying : List Value :=
  [.text "tool", .text "--copy", .text "-f", .text "a", .text "-v", .text "b", .text "-v"]

/-- The value behind the flag is where the sample extraction stops: what stands in front of it was
delivered, and the flag behind it is never heard of. -/
theorem straying_stops :
    ∃ (groups : List Group) (head : Value) (behind : List Value) (made : List Call),
      straying.drop 2 = groups.flatMap Group.words ++ head :: behind ∧
      Blocks [file, verbose] head behind (invalidFormat (.text "b")) ∧
      made.length = groups.length ∧
      ((⟨copy [file, verbose] none, none, some [file, verbose], 2⟩ : Selection).extract
        straying).run (answering (.int 0)) {} =
          (.error (.fault (invalidFormat (.text "b"))), {
            calls := made
            notes := [.receives "file" [.text "a"], .receives "verbose" []] }) := by
  have hkeeps : KeepsLimits [file, verbose] (straying.drop 2) :=
    (audit_eq_none_iff [file, verbose] (straying.drop 2)).1 rfl
  obtain ⟨-, hstops⟩ := @Selection.extract_stops (answering (.int 0)) {}
    ⟨copy [file, verbose] none, none, some [file, verbose], 2⟩ [file, verbose] straying
    (fun _ => rfl) rfl (answered_answering (.int 0) _ _ fun _ => trivial)
  obtain ⟨groups, head, behind, made, f, hwords, -, -, hmade, -, hfailure, -, hcase⟩ :=
    hstops hkeeps (.fault (invalidFormat (.text "b"))) rfl
  have hlength : made.length = groups.length := by simpa using congrArg List.length hmade
  rcases hcase with ⟨hblocks, hcalls⟩ | ⟨o, call, v, -, -, -, hreturns, hnonzero⟩
  · rw [← Failure.fault.inj hfailure] at hblocks
    refine ⟨groups, head, behind, made, hwords, hblocks, hlength, ?_⟩
    rw [show made = _ from hcalls.symm]
    rfl
  · -- the callback answers zero, so nothing is refused
    obtain rfl := Except.ok.inj hreturns.outcome
    cases hnonzero

end Sample

end CommandDispatch
