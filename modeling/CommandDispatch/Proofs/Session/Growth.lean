import CommandDispatch.Proofs.Session.Leading

/-! # Growing records

Whatever an action does, the records of calls and of printed messages only get longer, and a path
that led to a file still leads to it. So what a host replied to a call is settled by the calls
before it, and a statement about every call between two sessions splits at any session between them.
-/

namespace CommandDispatch

/-- A later session: its records extend those of the earlier one, and paths lead where they led. -/
structure Session.Grows (s t : Session) : Prop where
  calls : s.calls <+: t.calls
  printed : s.printed <+: t.printed
  places : ∀ {path place}, t.files.find path = .ok (.ok place) ↔
    s.files.find path = .ok (.ok place)

/-- Adding to a file changes no way to a file that a host gives. -/
theorem FileStore.find_append_eq_ok_iff (store : FileStore) (place target : Place) (bytes : Bytes)
    (path : Value) :
    (store.append place bytes).find path = .ok (.ok target) ↔
      store.find path = .ok (.ok target) := by
  cases path with
  | text t =>
      simp only [find]
      split
      · split
        · exact Iff.rfl
        · rw [Except.ok.injEq, Except.ok.injEq]
          exact locate_append_eq_ok_iff store place target bytes _
      · exact Iff.rfl
  | _ => exact Iff.rfl

namespace FileStore

/-- The store with bytes added to the ends of files, one after the other. -/
def appendAll (store : FileStore) (added : List (Place × Bytes)) : FileStore :=
  added.foldl (fun store next => store.append next.1 next.2) store

@[simp] theorem appendAll_nil (store : FileStore) : store.appendAll [] = store := rfl

theorem appendAll_cons (store : FileStore) (next : Place × Bytes) (rest : List (Place × Bytes)) :
    store.appendAll (next :: rest) = (store.append next.1 next.2).appendAll rest := rfl

@[simp] theorem appendAll_appendAll (store : FileStore) (added more : List (Place × Bytes)) :
    (store.appendAll added).appendAll more = store.appendAll (added ++ more) :=
  List.foldl_append.symm

/-- Paths to files lead where they led, whatever was added. -/
theorem find_appendAll_eq_ok_iff (store : FileStore) (added : List (Place × Bytes)) (target : Place)
    (path : Value) :
    (store.appendAll added).find path = .ok (.ok target) ↔
      store.find path = .ok (.ok target) := by
  induction added generalizing store with
  | nil => exact Iff.rfl
  | cons next rest ih =>
      rw [appendAll_cons]
      exact (ih _).trans (store.find_append_eq_ok_iff next.1 target next.2 path)

/-- A file gets the bytes that were added to it, in their order. -/
theorem content?_appendAll (store : FileStore) (added : List (Place × Bytes)) (place : Place) :
    ((store.appendAll added).content? place).getD [] =
      (store.content? place).getD [] ++
        (added.filter fun next => next.1 = place).flatMap Prod.snd := by
  induction added generalizing store with
  | nil => exact (List.append_nil _).symm
  | cons next rest ih =>
      rw [appendAll_cons, ih]
      by_cases hplace : next.1 = place
      · simp [hplace]
      · simp [hplace, store.content?_append_of_ne (Ne.symm hplace)]

theorem content?_appendAll_of_forall_ne {place : Place} (store : FileStore)
    {added : List (Place × Bytes)} (hnone : ∀ next ∈ added, next.1 ≠ place) :
    (store.appendAll added).content? place = store.content? place := by
  induction added generalizing store with
  | nil => rfl
  | cons next rest ih =>
      obtain ⟨hnext, hrest⟩ := List.forall_mem_cons.1 hnone
      rw [appendAll_cons, ih _ hrest, store.content?_append_of_ne hnext.symm]

/-- A file that is the same in two stores stays the same if the same bytes are added. -/
theorem content?_appendAll_congr {store other : FileStore} {place : Place}
    (hsame : other.content? place = store.content? place) (added : List (Place × Bytes)) :
    (other.appendAll added).content? place = (store.appendAll added).content? place := by
  induction added generalizing store other with
  | nil => exact hsame
  | cons next rest ih =>
      rw [appendAll_cons, appendAll_cons]
      apply ih
      by_cases hplace : place = next.1
      · rw [hplace] at hsame ⊢
        rw [content?_append_self, content?_append_self, hsame]
      · rw [content?_append_of_ne hplace, content?_append_of_ne hplace, hsame]

end FileStore

namespace Session

theorem Grows.trans {s t u : Session} (hfirst : s.Grows t) (hsecond : t.Grows u) : s.Grows u where
  calls := hfirst.calls.trans hsecond.calls
  printed := hfirst.printed.trans hsecond.printed
  places := hsecond.places.trans hfirst.places

/-- All steps of the engine let the session grow. -/
theorem keptBySteps_grows : KeptBySteps Grows where
  refl _ := ⟨List.prefix_rfl, List.prefix_rfl, Iff.rfl⟩
  trans := Grows.trans
  print _ _ := ⟨List.prefix_rfl, List.prefix_append _ _, Iff.rfl⟩
  note _ _ := ⟨List.prefix_rfl, List.prefix_rfl, Iff.rfl⟩
  append s place bytes := ⟨List.prefix_rfl, List.prefix_rfl,
    s.files.find_append_eq_ok_iff place _ bytes _⟩
  call _ _ := ⟨List.prefix_append _ _, List.prefix_rfl, Iff.rfl⟩
  configured _ := ⟨List.prefix_rfl, List.prefix_rfl, Iff.rfl⟩
  hide _ _ := ⟨List.prefix_rfl, List.prefix_rfl, Iff.rfl⟩

theorem keptByCalls_grows : KeptByCalls Grows := keptBySteps_grows.toKeptByCalls

theorem keptByOutput_grows : KeptByOutput Grows := keptByCalls_grows.toKeptByOutput

end Session

/-- What a host replies to a call that follows earlier ones. -/
def Host.reply (h : Host) (earlier : List Call) (call : Call) : Reply :=
  h.answer call.callback
    ((earlier.filter fun other => other.callback = call.callback).map (·.request)) call.request

/-- A reply hands a value to the engine: the callback answers with it, and the file to which it adds
bytes, if any, can be opened. -/
structure Reply.Returns (reply : Reply) (files : FileStore) (v : Value) : Prop where
  outcome : reply.outcome = .ok v
  appended : ∀ path bytes, reply.appended = some (path, bytes) →
    ∃ place, files.find (.text path) = .ok (.ok place)

/-- The answer to a call is settled. -/
theorem Reply.Returns.unique {reply : Reply} {first second : FileStore} {v w : Value}
    (hfirst : reply.Returns first v) (hsecond : reply.Returns second w) : v = w :=
  Except.ok.inj (hfirst.outcome.symm.trans hsecond.outcome)

/-- A later session hears the same from a reply. -/
theorem Reply.returns_iff_of_grows {reply : Reply} {s t : Session} {v : Value}
    (hgrows : s.Grows t) : reply.Returns t.files v ↔ reply.Returns s.files v := by
  constructor
  · intro hreturns
    refine ⟨hreturns.outcome, fun path bytes hadded => ?_⟩
    obtain ⟨place, hplace⟩ := hreturns.appended path bytes hadded
    exact ⟨place, hgrows.places.1 hplace⟩
  · intro hreturns
    refine ⟨hreturns.outcome, fun path bytes hadded => ?_⟩
    obtain ⟨place, hplace⟩ := hreturns.appended path bytes hadded
    exact ⟨place, hgrows.places.2 hplace⟩

/-- Every call between two sessions returned a value, of which something holds. -/
def Session.Answered (h : Host) (P : Call → Value → Prop) (s t : Session) : Prop :=
  ∀ earlier call later, t.calls = s.calls ++ earlier ++ call :: later →
    ∃ v, (h.reply (s.calls ++ earlier) call).Returns s.files v ∧ P call v

namespace Session.Answered

variable {h : Host} {P Q : Call → Value → Prop} {s t u : Session}

theorem imp (himp : ∀ call v, P call v → Q call v) (hanswered : Answered h P s t) :
    Answered h Q s t := by
  intro earlier call later hcalls
  obtain ⟨v, hreturns, hv⟩ := hanswered earlier call later hcalls
  exact ⟨v, hreturns, himp call v hv⟩

/-- No call, no answer. -/
theorem of_calls_eq (hcalls : t.calls = s.calls) : Answered h P s t := by
  intro earlier call later hsplit
  rw [hcalls, List.append_assoc] at hsplit
  simp at hsplit

/-- What holds of all calls holds of those up to an earlier session. -/
theorem before (hanswered : Answered h P s u) (hgrows : t.Grows u) : Answered h P s t := by
  intro earlier call later hcalls
  obtain ⟨more, hmore⟩ := hgrows.calls
  refine hanswered earlier call (later ++ more) ?_
  rw [← hmore, hcalls]
  simp only [List.append_assoc, List.cons_append]

/-- What holds of all calls holds of those from a later session on. -/
theorem after (hanswered : Answered h P s u) (hgrows : s.Grows t) : Answered h P t u := by
  intro earlier call later hcalls
  obtain ⟨done, hdone⟩ := hgrows.calls
  obtain ⟨v, hreturns, hv⟩ := hanswered (done ++ earlier) call later (by
    rw [hcalls, ← hdone]
    simp only [List.append_assoc])
  rw [← List.append_assoc, hdone] at hreturns
  exact ⟨v, (Reply.returns_iff_of_grows hgrows).2 hreturns, hv⟩

/-- What holds of the calls up to a session and of those behind it holds of all. -/
theorem append (hfirst : Answered h P s t) (hsecond : Answered h P t u) (hst : s.Grows t)
    (htu : t.Grows u) : Answered h P s u := by
  intro earlier call later hcalls
  obtain ⟨made, hmade⟩ := hst.calls
  obtain ⟨more, hmore⟩ := htu.calls
  have hsplit : earlier ++ call :: later = made ++ more := by
    apply (List.append_right_inj s.calls).1
    rw [← List.append_assoc, ← List.append_assoc, hmade, hmore, hcalls]
  -- the call was made behind the session in the middle, or before it
  rcases List.append_eq_append_iff.1 hsplit with ⟨rest, hrest, hlater⟩ | ⟨rest, hrest, hlater⟩
  · cases rest with
    | nil =>
        rw [List.append_nil] at hrest
        subst hrest
        obtain ⟨v, hreturns, hv⟩ := hsecond [] call later (by
          rw [List.append_nil, hcalls, ← hmade])
        rw [List.append_nil, ← hmade] at hreturns
        exact ⟨v, (Reply.returns_iff_of_grows hst).1 hreturns, hv⟩
    | cons first rest =>
        obtain ⟨rfl, -⟩ := List.cons.inj hlater
        exact hfirst earlier call rest (by rw [← hmade, hrest, List.append_assoc])
  · subst hrest
    obtain ⟨v, hreturns, hv⟩ := hsecond rest call later (by
      rw [hcalls, ← hmade]
      simp only [List.append_assoc])
    rw [← hmade, List.append_assoc] at hreturns
    exact ⟨v, (Reply.returns_iff_of_grows hst).1 hreturns, hv⟩

end Session.Answered

namespace Action

variable {α β : Type} {h : Host} {s : Session}

@[simp] theorem calls_run_call (callback : Callback) (request : Request) :
    ((call callback request).run h s).2.calls = s.calls ++ [⟨callback, request⟩] := by
  simp only [call]
  split
  · split <;> rfl
  · rfl

@[simp] theorem printed_run_call (callback : Callback) (request : Request) :
    ((call callback request).run h s).2.printed = s.printed := by
  simp only [call]
  split
  · split <;> rfl
  · rfl

/-- A call ends with a value exactly when its reply hands that value over. -/
theorem run_call_eq_ok_iff {callback : Callback} {request : Request} {v : Value} :
    ((call callback request).run h s).1 = .ok v ↔
      (h.reply s.calls ⟨callback, request⟩).Returns s.files v := by
  constructor
  · intro hok
    simp only [call] at hok
    split at hok
    next path bytes hadded =>
      split at hok
      next files hfiles =>
        obtain ⟨place, hplace, -⟩ := FileStore.appendAt_eq_ok_iff.1 hfiles
        refine ⟨hok, fun other otherBytes hother => ?_⟩
        obtain ⟨rfl, rfl⟩ := Prod.mk.inj (Option.some.inj (hadded.symm.trans hother))
        exact ⟨place, hplace⟩
      next => cases hok
    next hnone => 
      refine ⟨hok, fun path bytes hadded => ?_⟩
      cases hnone.symm.trans hadded
  · intro hreturns
    simp only [call]
    split
    next path bytes hadded =>
      obtain ⟨place, hplace⟩ := hreturns.appended path bytes hadded
      rw [FileStore.appendAt_eq_ok_iff.2 ⟨place, hplace, rfl⟩]
      exact hreturns.outcome
    next => exact hreturns.outcome

/-- A call was answered exactly when it ended with an answer. -/
theorem answered_run_call_iff {P : Call → Value → Prop} {callback : Callback}
    {request : Request} :
    s.Answered h P ((call callback request).run h s).2 ↔
      ∃ v, ((call callback request).run h s).1 = .ok v ∧ P ⟨callback, request⟩ v := by
  constructor
  · intro hanswered
    obtain ⟨v, hreturns, hv⟩ := hanswered [] ⟨callback, request⟩ [] (by simp)
    rw [List.append_nil] at hreturns
    exact ⟨v, run_call_eq_ok_iff.2 hreturns, hv⟩
  · rintro ⟨v, hok, hv⟩ earlier call later hcalls
    rw [calls_run_call, List.append_assoc, List.append_cancel_left_eq] at hcalls
    obtain ⟨rfl, rfl, -⟩ : earlier = [] ∧ call = ⟨callback, request⟩ ∧ later = [] := by
      cases earlier <;> simp_all
    rw [List.append_nil]
    exact ⟨v, run_call_eq_ok_iff.1 hok, hv⟩

/-- A call that is answered with what follows it: it ended with an answer, and what follows is
answered too. -/
theorem run_call_of_answered {P : Call → Value → Prop} {callback : Callback} {request : Request}
    {u : Session} (hanswered : s.Answered h P u)
    (hlater : ((call callback request).run h s).2.Grows u) :
    ∃ v t, (call callback request).run h s = (.ok v, t) ∧ P ⟨callback, request⟩ v ∧
      t.calls = s.calls ++ [⟨callback, request⟩] ∧ s.Grows t ∧ t.Answered h P u := by
  have hgrows := call_leads Session.keptByCalls_grows callback request h s
  obtain ⟨v, hok, hv⟩ := answered_run_call_iff.1 (hanswered.before hlater)
  exact ⟨v, _, Prod.ext hok rfl, hv, calls_run_call callback request, hgrows,
    hanswered.after hgrows⟩

/-- What follows an action and makes no call leaves the record of calls as that action left it,
whether the action fails or not. -/
theorem calls_run_bind {action : Action α} {next : α → Action β} {calls : List Call}
    (haction : (action.run h s).2.calls = calls)
    (hnext : ∀ a, (next a).Leads fun t u => u.calls = t.calls) :
    ((action >>= next).run h s).2.calls = calls := by
  refine run_bind_cases (P := fun ended => ended.2.calls = calls) (fun a t hrun => ?_) ?_
  · rw [hrun] at haction
    exact (hnext a h t).trans haction
  · intro _ t hrun
    rw [hrun] at haction
    exact haction

/-- The first part of a sequence of actions ends before the whole does. -/
theorem grows_run_bind {action : Action α} {next : α → Action β}
    (hnext : ∀ a, (next a).Leads Session.Grows) :
    (action.run h s).2.Grows ((action >>= next).run h s).2 := by
  refine run_bind_cases (P := fun ended => (action.run h s).2.Grows ended.2) (fun a t hrun => ?_) ?_
  · rw [hrun]
    exact hnext a h t
  · intro _ t hrun
    rw [hrun]
    exact Session.keptByOutput_grows.refl t

end Action

end CommandDispatch
