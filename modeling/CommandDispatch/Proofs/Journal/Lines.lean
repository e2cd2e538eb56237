import Mathlib.Algebra.Ring.Nat
import CommandDispatch.Proofs.Journal.Appending
import CommandDispatch.Proofs.Journal.CommandLines
import CommandDispatch.Proofs.Text.Numbers

/-! # The lines of a journal

What an invocation adds to a journal ends with a newline, and has one more for each newline of its
words and of the program label: nothing else that is written there has any, and nothing takes one
away. So an invocation is one line of its journal if its words have no newlines, and a word with
newlines is written as lines of its own.
-/

namespace CommandDispatch

namespace Text

/-- How many newlines a text has. -/
def newlines (t : Text) : Nat := t.count CodePoint.newline

@[simp] theorem newlines_append (s t : Text) : (s ++ t).newlines = s.newlines + t.newlines :=
  List.count_append

@[simp] theorem newlines_concat (pieces : List Text) :
    (concat pieces).newlines = (pieces.map newlines).sum :=
  List.count_flatten

theorem newlines_cons_of_ne {c : CodePoint} (hc : c ≠ CodePoint.newline) (t : Text) :
    newlines (c :: t) = t.newlines :=
  List.count_cons_of_ne hc

/-! ## Numbers and times -/

@[simp] theorem newlines_decimal (n : Nat) : (decimal n).newlines = 0 :=
  List.count_eq_zero.2 (not_mem_digits (by decide) (by decide) (by decide) n)

@[simp] theorem newlines_integer (n : Int) : (integer n).newlines = 0 :=
  List.count_eq_zero.2 (not_mem_integer (by decide) (by decide) n)

theorem newlines_replicate {c : CodePoint} (hc : c ≠ CodePoint.newline) (n : Nat) :
    newlines (List.replicate n c) = 0 :=
  List.count_eq_zero.2 fun hmem => hc (List.mem_replicate.1 hmem).2.symm

@[simp] theorem newlines_hexadecimal (width n : Nat) : (hexadecimal width n).newlines = 0 :=
  List.count_eq_zero.2 (not_mem_hexadecimal (by decide) width n)

@[simp] theorem newlines_twoDigits (n : Nat) : (twoDigits n).newlines = 0 :=
  List.count_eq_zero.2 ((isDigits_twoDigits n).not_mem (by decide))

@[simp] theorem newlines_padLeft (width : Nat) (t : Text) :
    (padLeft width t).newlines = t.newlines := by
  unfold padLeft
  rw [newlines_append, newlines_replicate (by decide), Nat.zero_add]

/-- A name of a list of names without newlines has none. -/
theorem newlines_getD {names : List Text} (hnames : ∀ name ∈ names, name.newlines = 0) (n : Nat) :
    (names[n]?.getD []).newlines = 0 := by
  cases hname : names[n]? with
  | none => rfl
  | some name => exact hnames name (List.mem_of_getElem? hname)

end Text

open Text

@[simp] theorem CalendarTime.newlines_text (t : CalendarTime) : t.text.newlines = 0 := by
  have hweekday := @newlines_getD weekdayNames (by decide) t.weekday
  have hmonth := @newlines_getD monthNames (by decide) (t.month - 1)
  have hspace : newlines (ofString " ") = 0 := by decide
  have hcolon : newlines (ofString ":") = 0 := by decide
  simp [text, hweekday, hmonth, hspace, hcolon]

theorem newlines_of_ofNumber {n : Int} {t : Text} (hnumber : ofNumber n = .ok t) :
    t.newlines = 0 := by
  obtain ⟨-, rfl⟩ := ofNumber_eq_ok_iff.1 hnumber
  exact newlines_integer n

theorem newlines_of_durationText {elapsed : Int} {t : Text}
    (hduration : durationText elapsed = .ok t) : t.newlines = 0 := by
  unfold durationText at hduration
  cases hseconds : ofNumber (elapsed / 1000) with
  | error failure =>
      rw [hseconds] at hduration
      cases hduration
  | ok seconds =>
      rw [hseconds] at hduration
      obtain rfl := Except.ok.inj hduration
      have hpoint : newlines (ofString ".") = 0 := by decide
      simp [newlines_of_ofNumber hseconds, hpoint]

/-! ## Words and messages -/

theorem Text.newlines_surrogatesEscaped (t : Text) :
    t.surrogatesEscaped.newlines = t.newlines := by
  induction t with
  | nil => rfl
  | cons c rest ih =>
      have hsplit : surrogatesEscaped (c :: rest) = c.surrogateEscaped ++ surrogatesEscaped rest :=
        List.flatMap_cons
      rw [hsplit, newlines_append, ih]
      unfold CodePoint.surrogateEscaped
      split
      next hsurrogate =>
        have hprefix : newlines (ofString "\\u") = 0 := by decide
        have hc : c ≠ CodePoint.newline := by
          rintro rfl
          cases hsurrogate
        rw [newlines_append, hprefix, newlines_hexadecimal, newlines_cons_of_ne hc]
        omega
      next => exact (newlines_append [c] rest).symm

/-- The bytes of a text, where it has some, have its newlines. -/
theorem Text.count_of_utf8?_eq_some {t : Text} {bytes : Bytes} (hbytes : t.utf8? = some bytes) :
    bytes.count CodePoint.newline.asciiByte = t.newlines := by
  have hascii : CodePoint.newline.val < 0x80 := by decide
  induction t generalizing bytes with
  | nil =>
      cases hbytes
      rfl
  | cons c rest ih =>
      simp only [utf8?, Option.bind_eq_bind, Option.bind_eq_some_iff] at hbytes
      obtain ⟨others, hothers, hbytes⟩ := hbytes
      split at hbytes
      next hbyte =>
        -- the byte of a surrogate is beyond ASCII
        simp only [CodePoint.isByteSurrogate, Bool.and_eq_true, decide_eq_true_eq] at hbyte
        have hc : c ≠ CodePoint.newline := by
          rintro rfl
          exact absurd hbyte.1 (by decide)
        have hne : UInt8.ofNat (c.val - 0xDC00) ≠ CodePoint.newline.asciiByte := by
          refine CodePoint.ne_asciiByte hascii ?_
          rw [UInt8.toNat_ofNat_of_lt' (show c.val - 0xDC00 < 256 by omega)]
          omega
        rw [← Option.some.inj hbytes, List.count_cons_of_ne hne, ih hothers,
          newlines_cons_of_ne hc]
      next =>
        split at hbytes
        · cases hbytes
        · rw [← Option.some.inj hbytes, List.count_append, ih hothers,
            CodePoint.count_utf8 hascii]
          exact (newlines_append [c] rest).symm

namespace CommandLine

theorem count_wordBytes (word : Text) :
    (wordBytes word).count CodePoint.newline.asciiByte = word.newlines := by
  unfold wordBytes
  cases hbytes : word.utf8? with
  | some bytes => exact count_of_utf8?_eq_some hbytes
  | none =>
      have hcount := @count_flatMap_utf8 CodePoint.newline (by decide) word.surrogatesEscaped
      exact hcount.trans word.newlines_surrogatesEscaped

theorem count_bytesOf (words : List Text) :
    (bytesOf words).count CodePoint.newline.asciiByte = (words.map newlines).sum := by
  induction words with
  | nil => rfl
  | cons word rest ih =>
      have hspace : List.count CodePoint.newline.asciiByte [0x20] = 0 := by decide
      rw [bytesOf_cons, List.count_append, List.count_append, count_wordBytes, hspace, ih]
      simp

/-- The text of a line has the newlines of its words. -/
theorem newlines_text {line : CommandLine} {words : List Text}
    (hwritten : line.written = bytesOf words) :
    line.text.newlines = (words.map newlines).sum := by
  have hcount : line.text.newlines = line.bytes.count CodePoint.newline.asciiByte :=
    count_ofUtf8 (by decide) line.bytes
  rw [hcount, ← count_bytesOf, ← hwritten]
  have hbytes : line.bytes = line.written.dropLast := List.dropLast_eq_take.symm
  rw [hbytes]
  -- what is dropped is a separator
  rcases List.eq_nil_or_concat words with rfl | ⟨before, word, rfl⟩
  · rw [hwritten]
    rfl
  · have hspace : List.count CodePoint.newline.asciiByte [0x20] = 0 := by decide
    have hlast : line.written = bytesOf before ++ wordBytes word ++ [0x20] := by
      rw [hwritten]
      simp [bytesOf]
    rw [hlast, List.dropLast_concat, List.count_append, List.count_append, List.count_append, hspace,
      Nat.add_zero]

end CommandLine

namespace Journal

theorem newlines_auditMessage {line message : Text} {result : Value} {elapsed : Int}
    (hmessage : auditMessage line result elapsed = .ok message) :
    message.newlines = line.newlines := by
  obtain ⟨duration, n, status, hduration, -, hnumber, rfl⟩ := auditMessage_eq_ok_iff.1 hmessage
  have hstatus : newlines (ofString ". Exit status is ") = 0 := by decide
  have hopen : newlines (ofString " (") = 0 := by decide
  have hverdict : newlines (if n = 0 then ofString "success" else ofString "failure") = 0 := by
    split <;> decide
  have hclose : newlines (ofString "). Command took ") = 0 := by decide
  have hend : newlines (ofString " s.") = 0 := by decide
  simp [newlines_of_durationText hduration, newlines_of_ofNumber hnumber, hstatus, hopen, hverdict,
    hclose, hend]

/-- A line of the journal ends with a newline; it has those of the program label and of the message
besides. -/
theorem newlines_line (j : Journal) (now : Int) (message : Text) :
    (j.line now message).newlines = j.program.newlines + message.newlines + 1 := by
  have hspace : newlines (ofString " ") = 0 := by decide
  have hcolon : newlines (ofString ": ") = 0 := by decide
  have hend : newlines (ofString "\n") = 1 := by decide
  simp [line, hspace, hcolon, hend]
  omega

/-- The record of a line is read back with its newlines, the last of them at its end. -/
theorem newlines_record (j : Journal) (now : Int) (message : Text) :
    (ofUtf8 (j.record now message)).newlines = j.program.newlines + message.newlines + 1 ∧
      (ofUtf8 (j.record now message)).getLast? = some CodePoint.newline := by
  have hread : ofUtf8 (j.record now message) = (j.line now message).surrogatesEscaped :=
    ofUtf8_utf8Escaped _
  rw [hread]
  refine ⟨(newlines_surrogatesEscaped _).trans (j.newlines_line now message), ?_⟩
  have hline : j.line now message =
      concat [(CalendarTime.ofSeconds now).text, " ", j.program, ": ", message] ++
        [CodePoint.newline] := by
    simp [line, concat]
    rfl
  rw [hline, surrogatesEscaped, List.flatMap_append]
  exact List.getLast?_append

/-- An invocation that reaches the journal has texts as words, and its message was written. -/
theorem exists_of_run_logCommand {j : Journal} {h : Host} {s t : Session} {argv : List Value}
    {result : Value} {elapsed : Int} {reporter : Option Reporter} {capacity : Int}
    (hlogged : (j.logCommand argv result elapsed reporter capacity).run h s = (.ok true, t)) :
    ∃ (words : List Text) (line : CommandLine) (message : Text), argv = words.map .text ∧
      line.written = CommandLine.bytesOf words ∧
      auditMessage line.text result elapsed = .ok message ∧
      (j.write message).run h s = (.ok true, t) := by
  simp only [logCommand, Action.run_bind, Action.run_host, Action.run_ofExcept] at hlogged
  cases hline : CommandLine.ofWords h.memory (!h.failures.memory) capacity argv with
  | error _ =>
      rw [hline] at hlogged
      cases hlogged
  | ok line? =>
      rw [hline] at hlogged
      cases line? with
      | some line =>
          obtain ⟨words, rfl, hwritten⟩ := CommandLine.exists_of_ofWords_eq_ok_some hline
          simp only [Action.run_bind, Action.run_ofExcept] at hlogged
          cases hmessage : auditMessage line.text result elapsed with
          | ok message =>
              rw [hmessage] at hlogged
              exact ⟨words, line, message, rfl, hwritten, hmessage, hlogged⟩
          | error _ =>
              rw [hmessage] at hlogged
              cases hlogged
      | none =>
          -- the reporter is told, and the invocation is not in the journal
          cases reporter with
          | none => cases hlogged
          | some r =>
              dsimp only at hlogged
              rw [Action.run_bind] at hlogged
              split at hlogged <;> cases hlogged

/-- The lines that an invocation adds to the journal. If it reaches the journal, what it adds ends
with a newline, and has one more for each newline of its words and of the program label. So, with a
program label on one line, it is one line exactly if no word has a newline. -/
theorem logCommand_adds_lines (j : Journal) (argv : List Value) (result : Value) (elapsed : Int)
    (reporter : Option Reporter) (capacity : Int) (h : Host) (s t : Session)
    (hlogged : (j.logCommand argv result elapsed reporter capacity).run h s = (.ok true, t)) :
    ∃ (words : List Text) (place : Place) (added : Bytes), argv = words.map .text ∧
      s.files.find j.path = .ok (.ok place) ∧
      t = { s with files := s.files.append place added } ∧
      (ofUtf8 added).getLast? = some CodePoint.newline ∧
      (ofUtf8 added).newlines = j.program.newlines + (words.map newlines).sum + 1 ∧
      (j.program.newlines = 0 →
        ((ofUtf8 added).newlines = 1 ↔ ∀ word ∈ words, word.newlines = 0)) := by
  obtain ⟨words, line, message, rfl, hwritten, hmessage, hrun⟩ := exists_of_run_logCommand hlogged
  obtain ⟨place, hplace, rfl⟩ := run_write_eq_ok_true hrun
  obtain ⟨hnewlines, hlast⟩ := j.newlines_record h.now message
  rw [newlines_auditMessage hmessage, CommandLine.newlines_text hwritten] at hnewlines
  refine ⟨words, place, _, rfl, hplace, rfl, hlast, hnewlines, fun hprogram => ?_⟩
  have hsum : (words.map newlines).sum = 0 ↔ ∀ word ∈ words, word.newlines = 0 := by
    rw [List.sum_eq_zero_iff_forall_eq_nat]
    exact List.forall_mem_map
  rw [hnewlines, ← hsum]
  omega

end Journal

namespace Sample

/-- The words of an invocation without options. -/
def bareWords : List Text := ["tool", "--copy"]

set_option maxRecDepth 8192 in
/-- Such an invocation is one line of the journal. -/
theorem bareWords_logged :
    ∃ place added, ((notebook.logCommand (bareWords.map .text) (.int 0) 0 none 100).run
        (answering .null) {}).2.files = ({} : FileStore).append place added ∧
      (ofUtf8 added).newlines = 1 := by
  obtain ⟨words, place, added, hwords, -, hfiles, -, -, hone⟩ :=
    notebook.logCommand_adds_lines (bareWords.map .text) (.int 0) 0 none 100 (answering .null) {} _
      rfl
  have hsame : bareWords = words := (List.map_inj_right fun _ _ htext => Value.text.inj htext).1 hwords
  refine ⟨place, added, congrArg Session.files hfiles, (hone (by decide)).2 ?_⟩
  rw [← hsame]
  decide

set_option maxRecDepth 8192 in
/-- A word with a newline ends the line of its invocation, and what follows it there is a line of
its own, in which nothing tells when and by which program it was written. -/
theorem line_split :
    notebook.program.newlines = 0 ∧
      ((notebook.logCommand [.text "tool", .text "a\nb"] (.int 0) 0 none 100).run
        (answering .null) {}).1 = .ok true ∧
      newlines (ofUtf8 ((((notebook.logCommand [.text "tool", .text "a\nb"] (.int 0) 0 none 100).run
        (answering .null) {}).2.files.content? [utf8Escaped "journal.log"]).getD [])) = 2 :=
  ⟨by decide, rfl, rfl⟩

end Sample

end CommandDispatch
