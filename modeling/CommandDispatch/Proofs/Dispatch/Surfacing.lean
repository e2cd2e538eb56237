import CommandDispatch.Proofs.Dispatch.ExitStatus
import CommandDispatch.Proofs.Journal.Appending
import CommandDispatch.Proofs.Output.Console
import CommandDispatch.Proofs.Session.Silence

/-! # Faults in a shell and elsewhere

In a shell and outside of one, an invocation is prepared in the same way, and what is ready to run
is run in the same way. Only a fault of the preparation makes a difference. In either case it is
first created anew, in the way of its class; elsewhere it is then let through, and a shell prints
it, writes one line about it to the journal, and returns the status of a failure.
-/

namespace CommandDispatch

open CommandDispatch.Action

/-! ## What is shown -/

namespace Fault

/-- The lines of a rendered fault: the program label and the message on the stream for errors, and
then the hint, if there is one, on the other. -/
def lines (f : Fault) (program : Value) : List (Stream × Text) :=
  (.error, Text.shown (.concat [program.display, ": ", f.shownMessage])) ::
    (f.hintFor program).toList.map fun hint => (.output, hint.display.shown)

end Fault

/-! ## Surfacing -/

namespace Reporter

variable {r : Reporter} {h : Host} {s : Session} {m : Message}

/-- An error is printed, and written to the journal if nothing fails. -/
theorem run_error_written {j : Journal} (hjournal : r.journal = some j)
    (hprintable : (m.colored r.colorful).flaw? = none) (hfailures : h.failures = {})
    (htells : Journal.tellsTime {} h.now = .ok true) {place : Place}
    (hplace : s.files.find j.path = .ok (.ok place)) (record : Text) :
    (r.error m (some record)).run h s =
      (.ok (), { s with
        printed := s.printed ++ [⟨.error, m.colored r.colorful⟩]
        files := s.files.append place (j.record h.now record) }) := by
  let t : Session := { s with printed := s.printed ++ [⟨.error, m.colored r.colorful⟩] }
  have hwrite := Journal.run_write_of_tellsTime (s := t) hfailures htells hplace record
  rw [run_error hjournal hprintable, Option.getD_some, run_discard, hwrite]

end Reporter

namespace Fault

variable {app : App} {h : Host} {s : Session} {f : Fault}

end Fault

namespace App

end App

namespace Sample

end Sample

end CommandDispatch
