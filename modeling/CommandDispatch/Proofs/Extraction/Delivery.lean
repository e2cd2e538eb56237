import CommandDispatch.Proofs.Extraction.Grammar
import CommandDispatch.Proofs.Session.Growth

/-! # Delivering options

What the callback of a command is asked while options are extracted. Deliveries are made from left
to right and end with the first one that is not answered with zero, so that extraction succeeds
exactly when the words keep the limits of the schema, are a sentence, and every call was answered
with zero.
-/

namespace CommandDispatch

open Extraction

namespace Selection

/-- The call that hands an option and its values to the callback of the command; the name of the
entry stands in front if the command has a namespace. -/
def call? (s : Selection) (d : Delivery) : Option Call :=
  match s.command.body, s.entry with
  | .options _ parse, _ => some ⟨parse, .option d.option.longName d.values⟩
  | .namespaced _ parse, some entry =>
      some ⟨parse, .entryOption entry.name d.option.longName d.values⟩
  | _, _ => none

/-- A selection whose command has a callback for options. -/
def Delivers (s : Selection) : Prop := ∀ d, (s.call? d).isSome = true

theorem deliver_of_call? {s : Selection} {d : Delivery} {c : Call} (hcall : s.call? d = some c) :
    s.deliver d = Action.call c.callback c.request := by
  unfold call? at hcall
  unfold deliver
  cases hbody : s.command.body with
  | plain =>
      rw [hbody] at hcall
      cases hcall
  | options schema parse =>
      rw [hbody] at hcall
      cases hcall
      rfl
  | namespaced scope parse =>
      rw [hbody] at hcall
      cases hentry : s.entry with
      | none =>
          rw [hentry] at hcall
          cases hcall
      | some entry =>
          rw [hentry] at hcall
          cases hcall
          rfl

theorem deliver_of_call?_eq_none {s : Selection} {d : Delivery} (hcall : s.call? d = none) :
    s.deliver d = Action.fail (.fault undeliverable) := by
  unfold call? at hcall
  unfold deliver
  split at hcall <;> simp_all

variable {h : Host} {session : Session}

/-- The session in which a delivery is made: it is noted first. -/
def noted (session : Session) (d : Delivery) : Session :=
  { session with notes := session.notes ++ [.receives d.option.longName d.values] }

theorem grows_noted (session : Session) (d : Delivery) : session.Grows (noted session d) :=
  Session.keptByOutput_grows.note session _

theorem run_deliverAll_cons (s : Selection) (d : Delivery) (rest : List Delivery) :
    (s.deliverAll (d :: rest)).run h session =
      match (s.deliver d).run h (noted session d) with
      | (.ok answer, t) =>
          if answer.isZero then (s.deliverAll rest).run h t
          else (.error (.fault refused), t)
      | (.error failure, t) => (.error failure, t) := by
  rw [deliverAll, Action.run_bind, Action.run_note]
  dsimp only
  rw [Action.run_bind, noted]
  cases (s.deliver d).run h _ with
  | mk result t =>
      cases result with
      | ok answer => by_cases hzero : answer.isZero = true <;> simp [hzero]
      | error _ => rfl

/-- Deliveries succeed exactly when each call was answered with zero. -/
theorem run_deliverAll_eq_ok_iff {s : Selection} (hdelivers : s.Delivers)
    (deliveries : List Delivery) :
    ((s.deliverAll deliveries).run h session).1 = .ok () ↔
      session.Answered h (fun _ v => v.isZero = true)
        ((s.deliverAll deliveries).run h session).2 := by
  induction deliveries generalizing session with
  | nil => exact ⟨fun _ => Session.Answered.of_calls_eq rfl, fun _ => rfl⟩
  | cons d rest ih =>
      obtain ⟨c, hc⟩ := Option.isSome_iff_exists.1 (hdelivers d)
      have hcalled : (noted session d).Answered h (fun _ v => v.isZero = true)
          ((Action.call c.callback c.request).run h (noted session d)).2 ↔
            ∃ v, ((Action.call c.callback c.request).run h (noted session d)).1 = .ok v ∧
              v.isZero = true := Action.answered_run_call_iff
      have hgrows := Action.call_leads Session.keptByCalls_grows c.callback c.request h
        (noted session d)
      have hnoted : session.Answered h (fun _ v => v.isZero = true) (noted session d) :=
        Session.Answered.of_calls_eq rfl
      rw [run_deliverAll_cons, deliver_of_call? hc]
      cases hrun : (Action.call c.callback c.request).run h (noted session d) with
      | mk result t =>
          rw [hrun] at hcalled hgrows
          -- the note before the call is no call, so this call alone decides
          have hall : session.Answered h (fun _ v => v.isZero = true) t ↔
              ∃ v, result = .ok v ∧ v.isZero = true := by
            rw [← hcalled]
            exact ⟨fun hanswered => hanswered.after (grows_noted session d),
              fun hanswered => hnoted.append hanswered (grows_noted session d) hgrows⟩
          have hearlier := (grows_noted session d).trans hgrows
          cases result with
          | error failure =>
              dsimp only
              rw [hall]
              constructor
              · intro hok
                cases hok
              · rintro ⟨_, hv, -⟩
                cases hv
          | ok answer =>
              have hlater := s.deliverAll_leads Session.keptByCalls_grows rest h t
              dsimp only
              by_cases hzero : answer.isZero = true
              · rw [if_pos hzero, ih]
                exact ⟨fun hrest => (hall.2 ⟨answer, rfl, hzero⟩).append hrest hearlier hlater,
                  fun hwhole => hwhole.after hearlier⟩
              · rw [if_neg hzero, hall]
                constructor
                · intro hok
                  cases hok
                · rintro ⟨v, hv, hvzero⟩
                  cases hv
                  exact absurd hvzero hzero

/-- Deliveries call the callback for the first ones, and for all of them if they succeed. -/
theorem calls_run_deliverAll (s : Selection) (deliveries : List Delivery) :
    ∃ made later, made.map some ++ later = deliveries.map s.call? ∧
      ((s.deliverAll deliveries).run h session).2.calls = session.calls ++ made ∧
      (((s.deliverAll deliveries).run h session).1 = .ok () → later = []) := by
  induction deliveries generalizing session with
  | nil => exact ⟨[], [], rfl, (List.append_nil _).symm, fun _ => rfl⟩
  | cons d rest ih =>
      rw [run_deliverAll_cons]
      cases hc : s.call? d with
      | none =>
          rw [deliver_of_call?_eq_none hc, Action.run_fail]
          exact ⟨[], _, rfl, (List.append_nil _).symm, fun hok => by cases hok⟩
      | some c =>
          rw [deliver_of_call? hc]
          have hcalls := Action.calls_run_call (h := h) (s := noted session d) c.callback c.request
          cases hrun : (Action.call c.callback c.request).run h (noted session d) with
          | mk result t =>
              rw [hrun] at hcalls
              -- whatever stops the deliveries here, this call has been made
              have hstopped : ∀ failure : Failure, ∃ made later,
                  made.map some ++ later = (d :: rest).map s.call? ∧
                  t.calls = session.calls ++ made ∧
                  ((.error failure : Except Failure Unit) = .ok () → later = []) := fun _ =>
                ⟨[c], rest.map s.call?, by simp [hc], hcalls, fun hok => by cases hok⟩
              cases result with
              | error failure => exact hstopped failure
              | ok answer =>
                  dsimp only
                  split
                  · obtain ⟨made, later, hmade, hrest, hdone⟩ := @ih t
                    refine ⟨c :: made, later, ?_, ?_, hdone⟩
                    · simp [hc, ← hmade]
                    · rw [hrest, hcalls]
                      exact List.append_assoc session.calls [c] made
                  · exact hstopped _

/-- Words that break a limit are refused before anything is delivered. -/
theorem run_extract_of_audit {s : Selection} {schema : List OptionSpec} {argv : List Value}
    {f : Fault} (hschema : s.schema = some schema) (haudit : audit schema (s.words argv) = some f) :
    (s.extract argv).run h session = (.error (.fault f), session) := by
  simp only [extract, hschema, haudit, Action.run_fail]

/-- Words that keep all limits are delivered as planned, and then the plan decides. -/
theorem run_extract_eq {s : Selection} {schema : List OptionSpec} {argv : List Value}
    (hschema : s.schema = some schema) (hkeeps : KeepsLimits schema (s.words argv)) :
    (s.extract argv).run h session =
      match (s.deliverAll (plan schema (s.words argv)).deliveries).run h session with
      | (.ok _, t) =>
          (match (plan schema (s.words argv)).stop with
            | some f => .error (.fault f)
            | none => .ok (), t)
      | (.error failure, t) => (.error failure, t) := by
  simp only [extract, hschema, (audit_eq_none_iff schema (s.words argv)).2 hkeeps, Action.run_bind]
  cases (s.deliverAll (plan schema (s.words argv)).deliveries).run h session with
  | mk result t =>
      cases result with
      | error _ => rfl
      | ok _ => cases (plan schema (s.words argv)).stop <;> rfl

/-- Words that keep all limits are delivered as planned, and are accepted if the plan goes through
to their end. -/
theorem run_extract_of_keepsLimits {s : Selection} {schema : List OptionSpec} {argv : List Value}
    (hschema : s.schema = some schema) (hkeeps : KeepsLimits schema (s.words argv)) :
    ((s.extract argv).run h session).2 =
        ((s.deliverAll (plan schema (s.words argv)).deliveries).run h session).2 ∧
      (((s.extract argv).run h session).1 = .ok () ↔
        ((s.deliverAll (plan schema (s.words argv)).deliveries).run h session).1 = .ok () ∧
          (plan schema (s.words argv)).stop = none) := by
  rw [run_extract_eq hschema hkeeps]
  cases (s.deliverAll (plan schema (s.words argv)).deliveries).run h session with
  | mk result t =>
      cases result with
      | error _ =>
          refine ⟨rfl, fun hok => ?_, fun hboth => ?_⟩
          · cases hok
          · cases hboth.1
      | ok _ =>
          dsimp only
          cases (plan schema (s.words argv)).stop with
          | none => exact ⟨rfl, fun _ => ⟨rfl, rfl⟩, fun _ => rfl⟩
          | some _ =>
              refine ⟨rfl, fun hok => ?_, fun hboth => ?_⟩
              · cases hok
              · cases hboth.2

/-- Words are accepted exactly when they keep all limits, everything planned is delivered, and the
plan goes through to their end. -/
theorem run_extract_eq_ok_iff {s : Selection} {schema : List OptionSpec} {argv : List Value}
    (hschema : s.schema = some schema) :
    ((s.extract argv).run h session).1 = .ok () ↔
      KeepsLimits schema (s.words argv) ∧
        ((s.deliverAll (plan schema (s.words argv)).deliveries).run h session).1 = .ok () ∧
          (plan schema (s.words argv)).stop = none := by
  cases haudit : audit schema (s.words argv) with
  | some f =>
      rw [run_extract_of_audit hschema haudit, ← audit_eq_none_iff, haudit]
      refine ⟨fun hok => ?_, fun hall => ?_⟩
      · cases hok
      · cases hall.1
  | none =>
      have hkeeps := (audit_eq_none_iff schema (s.words argv)).1 haudit
      rw [(run_extract_of_keepsLimits hschema hkeeps).2]
      exact ⟨fun hrest => ⟨hkeeps, hrest⟩, And.right⟩

end Selection

end CommandDispatch
