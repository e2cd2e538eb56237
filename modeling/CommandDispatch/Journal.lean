import CommandDispatch.Action
import CommandDispatch.Calendar

/-! # Journals

A journal is a file to which several processes add lines. Each line is written while its writer
holds a lock, as a time, the program and a message. A line that cannot be written is lost; only a
lock that cannot be released is a failure, and what is no path or no time at all.
-/

namespace CommandDispatch

/-- A journal: the path of its file, and the program label of its lines. -/
structure Journal where
  path : Value
  program : Text

namespace Journal

def literal (j : Journal) : Text := .concat ["journal(path=", j.path.literal, ")"]

/-- The line for a message at a time. -/
def line (j : Journal) (now : Int) (message : Text) : Text :=
  .concat [(CalendarTime.ofSeconds now).text, " ", j.program, ": ", message, "\n"]

/-- The bytes of a line. Surrogates are written out, so that they always are UTF-8. -/
def record (j : Journal) (now : Int) (message : Text) : Bytes := (j.line now message).utf8Escaped

/-- Whether the time can be written into a line now. A time that no clock shows, or whose year has
no number, is a failure; other times that cannot be written lose the line. -/
def tellsTime (failures : Failures) (now : Int) : Except Failure Bool :=
  if !CalendarTime.isClockReading now then .error .clockOverflow
  else
    let time := CalendarTime.ofSeconds now
    if !time.isKnown || failures.write || failures.time then .ok false
    else if CalendarTime.lastYear < time.year then .error .clockOverflow
    else .ok true

/-- The result of an attempt to write a message to the open file at a place, and the files
afterwards. Opening creates the file; the lock is released whether or not the line was written. -/
def writeAt (j : Journal) (place : Place) (failures : Failures) (now : Int) (message : Text)
    (store : FileStore) : Except Failure Bool × FileStore :=
  if failures.lock then (.ok false, store.append place [])
  else
    let written := tellsTime failures now
    let bytes := if written matches .ok true then j.record now message else []
    (if failures.unlock then .error .unlockDenied else written, store.append place bytes)

/-- Tries to write a message: whether it was written, or why that cannot be told, and the files
afterwards. -/
def attempt (j : Journal) (failures : Failures) (now : Int) (message : Text) (store : FileStore) :
    Except Failure Bool × FileStore :=
  match store.find j.path with
  | .ok (.ok place) =>
      if failures.opening then (.ok false, store) else j.writeAt place failures now message store
  | .ok (.error _) => (.ok false, store)
  | .error failure => (.error failure, store)

/-- Writes a message, and tells whether it reached the journal. -/
def write (j : Journal) (message : Text) : Action Bool := do
  let host ← Action.host
  let session ← Action.session
  let (result, files) := j.attempt host.failures host.now message session.files
  Action.update fun session => { session with files }
  Action.ofExcept result

end Journal

end CommandDispatch
