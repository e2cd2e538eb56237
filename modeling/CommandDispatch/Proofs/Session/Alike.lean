import CommandDispatch.Proofs.Journal.Appending
import CommandDispatch.Proofs.Output.Reporting

/-! # Two runs side by side

Two runs end alike if they end with the same result, made the same calls and printed the same
messages, whatever became of the files; the second one may have printed some more. Output ends alike
in two runs if their journals do, which is so for journals that never fail and for journals that
always fail in the same way.
-/

namespace CommandDispatch

/-- The second session is like the first one, and some more was printed in it. What is in the files
and in the notes does not matter. -/
structure Session.Alike (extra : List Printed) (s t : Session) : Prop where
  configured : t.configured = s.configured
  hidden : t.hidden = s.hidden
  printed : t.printed = s.printed ++ extra
  calls : t.calls = s.calls

namespace Session.Alike

variable {extra : List Printed} {s t : Session}

theorem refl (s : Session) : s.Alike [] s := ⟨rfl, rfl, (List.append_nil _).symm, rfl⟩

theorem withNotes (halike : s.Alike extra t) (notes notes' : List Note) :
    ({ s with notes } : Session).Alike extra { t with notes := notes' } :=
  ⟨halike.configured, halike.hidden, halike.printed, halike.calls⟩

theorem withFiles (halike : s.Alike extra t) (files files' : FileStore) :
    ({ s with files } : Session).Alike extra { t with files := files' } :=
  ⟨halike.configured, halike.hidden, halike.printed, halike.calls⟩

/-- What is printed in both sessions leaves them alike. -/
theorem print (halike : s.Alike [] t) (p : Printed) :
    ({ s with printed := s.printed ++ [p] } : Session).Alike []
      { t with printed := t.printed ++ [p] } :=
  ⟨halike.configured, halike.hidden, by rw [halike.printed, List.append_nil, List.append_nil],
    halike.calls⟩

/-- What is printed in the second session only is more than in the first one. -/
theorem printMore (halike : s.Alike [] t) (p : Printed) :
    s.Alike [p] { t with printed := t.printed ++ [p] } :=
  ⟨halike.configured, halike.hidden, by rw [halike.printed, List.append_nil], halike.calls⟩

end Session.Alike

namespace Action

variable {α β : Type}

/-- The ends of two runs: the result is the same, and the sessions are alike. -/
structure EndAlike (extra : List Printed) (first second : Except Failure α × Session) : Prop where
  result : second.1 = first.1
  alike : first.2.Alike extra second.2

variable {h h' : Host} {extra : List Printed} {first second : Action α}

theorem EndAlike.bind {s t : Session} {next next' : α → Action β}
    (hends : EndAlike extra (first.run h s) (second.run h' t))
    (hnext : ∀ a u v, u.Alike extra v → EndAlike extra ((next a).run h u) ((next' a).run h' v)) :
    EndAlike extra ((first >>= next).run h s) ((second >>= next').run h' t) := by
  rw [run_bind, run_bind]
  cases hrun : first.run h s with
  | mk result u =>
      cases hrun' : second.run h' t with
      | mk result' v =>
          rw [hrun, hrun'] at hends
          obtain ⟨hresult, halike⟩ := hends
          obtain rfl : result' = result := hresult
          cases result' with
          | ok a => exact hnext a u v halike
          | error failure => exact ⟨rfl, halike⟩

/-- Two actions, each on a host of its own, that end alike in sessions that are alike. -/
def Agree (h h' : Host) (extra : List Printed) (first second : Action α) : Prop :=
  ∀ s t, s.Alike [] t → EndAlike extra (first.run h s) (second.run h' t)

theorem Agree.bind {next next' : α → Action β} (hfirst : Agree h h' [] first second)
    (hnext : ∀ a, Agree h h' [] (next a) (next' a)) :
    Agree h h' [] (first >>= next) (second >>= next') :=
  fun s t halike => (hfirst s t halike).bind hnext

/-- Each action sees its own host. -/
theorem Agree.host {next next' : Host → Action β} (hnext : Agree h h' extra (next h) (next' h')) :
    Agree h h' extra (host >>= next) (host >>= next') := hnext

/-- An action that never fails, and changes nothing but the notes. -/
def OnlyNotes (action : Action Unit) : Prop :=
  ∀ h s, ∃ notes, action.run h s = (.ok (), { s with notes })

theorem OnlyNotes.endAlike {first second : Action Unit} (hfirst : first.OnlyNotes)
    (hsecond : second.OnlyNotes) {s t : Session} (halike : s.Alike extra t) :
    EndAlike extra (first.run h s) (second.run h' t) := by
  obtain ⟨notes, hrun⟩ := hfirst h s
  obtain ⟨notes', hrun'⟩ := hsecond h' t
  rw [hrun, hrun']
  exact ⟨rfl, halike.withNotes notes notes'⟩

theorem pure_agree (a : α) : Agree h h' [] (pure a) (pure a) := fun _ _ halike => ⟨rfl, halike⟩

theorem fail_agree (failure : Failure) : Agree h h' [] (fail failure : Action α) (fail failure) :=
  fun _ _ halike => ⟨rfl, halike⟩

theorem ofExcept_agree (result : Except Failure α) :
    Agree h h' [] (ofExcept result) (ofExcept result) := by
  cases result with
  | ok a => exact pure_agree a
  | error failure => exact fail_agree failure

theorem print_agree (stream : Stream) (m : Message) :
    Agree h h' [] (print stream m) (print stream m) := by
  intro s t halike
  rw [run_print, run_print]
  exact ⟨rfl, halike.print _⟩

end Action

open CommandDispatch.Action

variable {h h' : Host}

/-! ## Journals -/

namespace Journal

/-- Two journals, each on a host of its own, neither of which ever fails, or both of which always
fail in the same way. -/
def Even (h h' : Host) (j j' : Journal) : Prop :=
  j.Kept h ∧ j'.Kept h' ∨
    ∃ failure, ∀ store : FileStore,
      store.find j.path = .error failure ∧ store.find j'.path = .error failure

/-- Writing to a journal that never fails changes files only. -/
theorem exists_run_write {j : Journal} (hkept : j.Kept h) (message : Text) (s : Session) :
    ∃ written files, (j.write message).run h s = (.ok written, { s with files }) := by
  obtain ⟨written, hok, -⟩ := write_neverFails hkept message s
  exact ⟨written, _, Prod.ext hok rfl⟩

theorem run_write_of_find_eq_error {j : Journal} {failure : Failure} {s : Session}
    (hfind : s.files.find j.path = .error failure) (message : Text) :
    (j.write message).run h s = (.error failure, s) := by
  have hattempt : j.attempt h.failures h.now message s.files = (.error failure, s.files) := by
    rw [attempt, hfind]
  rw [run_write, hattempt]

/-- Whether anything was written is not told. -/
theorem discard_write_endAlike {j j' : Journal} (heven : Even h h' j j') (message message' : Text)
    {extra : List Printed} {s t : Session} (halike : s.Alike extra t) :
    EndAlike extra ((discard (j.write message)).run h s)
      ((discard (j'.write message')).run h' t) := by
  rw [run_discard, run_discard]
  rcases heven with ⟨hkept, hkept'⟩ | ⟨failure, hfind⟩
  · obtain ⟨_, files, hrun⟩ := exists_run_write hkept message s
    obtain ⟨_, files', hrun'⟩ := exists_run_write hkept' message' t
    rw [hrun, hrun']
    exact ⟨rfl, halike.withFiles files files'⟩
  · rw [run_write_of_find_eq_error (hfind s.files).1, run_write_of_find_eq_error (hfind t.files).2]
    exact ⟨rfl, halike⟩

end Journal

/-! ## Reports -/

namespace Reporter

/-- Two reporters that are alike but for their journals. -/
structure Even (h h' : Host) (r r' : Reporter) : Prop where
  colorful : r'.colorful = r.colorful
  journals : ∃ j j', r.journal = some j ∧ r'.journal = some j' ∧ j.Even h h' j'

theorem report_agree {r r' : Reporter} (heven : r.Even h h' r') (severity : Severity) (m : Message)
    (record : Option Text) :
    Agree h h' [] (r.report severity m record) (r'.report severity m record) := by
  obtain ⟨j, j', hj, hj', hjournals⟩ := heven.journals
  unfold report
  rw [heven.colorful, hj, hj']
  dsimp only
  split
  · exact (print_agree .error _).bind fun _ _ _ => Journal.discard_write_endAlike hjournals _ _
  · exact print_agree .output _

end Reporter

theorem StatusConfig.report_agree {r r' : Reporter} (heven : r.Even h h' r') (config : StatusConfig)
    (result : Int) : Agree h h' [] (config.report r result) (config.report r' result) := by
  refine (ofExcept_agree _).bind fun found => ?_
  split
  · exact Reporter.report_agree heven _ _ none
  · exact pure_agree ()

end CommandDispatch
