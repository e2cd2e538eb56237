import Mathlib.Data.List.TakeWhile
import CommandDispatch.Proofs.Session.Growth
import CommandDispatch.Proofs.Session.Paths

/-! # The tail of a log

A cursor is entered, left and read while the files grow, in any order. What it reads is what its log
got since the latest enter that opened one, whatever was tried, left or added in between. An enter
fails where it meets a candidate that is no path before one that opens, and nothing else ever fails.
-/

namespace CommandDispatch

/-! ## What an enter opens -/

/-- A log that was opened: the path that led to it, its place, and its size then. -/
structure Opening where
  path : Value
  place : Place
  size : Nat

/-- The cursor at the end of a log that was opened. -/
def Opening.cursor (opening : Opening) : LogCursor :=
  ⟨some opening.path, opening.size, some opening.place⟩

namespace FileStore

/-- The log that a path leads to, if it can be opened. -/
def opening? (files : FileStore) (path : Value) : Option Opening :=
  match files.openFile path with
  | .ok (some (place, content)) => some ⟨path, place, content.length⟩
  | _ => none

/-- What is opened is a file, as long as it is at that moment. -/
theorem content?_of_opening? {files : FileStore} {path : Value} {opening : Opening}
    (hopens : files.opening? path = some opening) :
    ∃ content, files.content? opening.place = some content ∧ content.length = opening.size := by
  unfold opening? at hopens
  split at hopens
  next place content hopened =>
    obtain rfl := Option.some.inj hopens
    unfold openFile at hopened
    cases hfind : files.find path with
    | error failure =>
        rw [hfind] at hopened
        cases hopened
    | ok outcome =>
        rw [hfind] at hopened
        cases outcome with
        | error obstacle => cases hopened
        | ok found =>
            obtain ⟨old, hold, hsame⟩ := Option.map_eq_some_iff.1 (Except.ok.inj hopened)
            obtain ⟨rfl, rfl⟩ := Prod.mk.inj hsame
            exact ⟨old, hold, rfl⟩
  next => cases hopens

end FileStore

namespace LogCursor

/-- The log that an enter opens: the first candidate that can be opened, unless one before it is no
path. -/
def opening? (paths : List Value) (files : FileStore) : Option Opening :=
  (paths.takeWhile Value.isPath).findSome? files.opening?

theorem opening?_cons_of_isPath {path : Value} (hpath : path.isPath = true) (rest : List Value)
    (files : FileStore) :
    opening? (path :: rest) files = (files.opening? path).or (opening? rest files) := by
  rw [opening?, List.takeWhile_cons_of_pos hpath, List.findSome?_cons]
  cases files.opening? path <;> rfl

/-- With nothing but paths, an enter opens the first candidate that can be opened. -/
theorem opening?_of_forall_isPath {paths : List Value} (hpaths : ∀ path ∈ paths, path.isPath = true)
    (files : FileStore) : opening? paths files = paths.findSome? files.opening? := by
  rw [opening?, List.takeWhile_eq_self_iff.2 hpaths]

/-- What an enter comes to: it opens a log, or it finds none and leaves the cursor as it is, or it
fails at a candidate that is no path. -/
inductive Enters (cursor : LogCursor) (paths : List Value) (files : FileStore) :
    Except Failure LogCursor → Prop
  | opened {opening : Opening} (opens : opening? paths files = some opening) :
      Enters cursor paths files (.ok opening.cursor)
  | unmoved (opens : opening? paths files = none) (arePaths : ∀ path ∈ paths, path.isPath = true) :
      Enters cursor paths files (.ok cursor)
  | failed (failure : Failure) (opens : opening? paths files = none)
      (noPath : ∃ path ∈ paths, path.isPath = false) : Enters cursor paths files (.error failure)

theorem enter_enters (cursor : LogCursor) (paths : List Value) (files : FileStore) :
    cursor.Enters paths files (cursor.enter paths files) := by
  induction paths with
  | nil => exact .unmoved rfl (List.forall_mem_nil _)
  | cons path rest ih =>
      rw [enter_cons]
      cases hpath : path.isPath with
      | false =>
          obtain ⟨failure, hfind⟩ := FileStore.exists_find_eq_error hpath
          rw [FileStore.openFile_eq_error (hfind files)]
          have hopens : opening? (path :: rest) files = none := by
            rw [opening?, List.takeWhile_cons_of_neg (by simp [hpath])]
            rfl
          exact .failed failure hopens ⟨path, List.mem_cons_self, hpath⟩
      | true =>
          have hcons := opening?_cons_of_isPath hpath rest files
          obtain ⟨opened, hopened⟩ := files.exists_openFile_eq_ok hpath
          rw [FileStore.opening?, hopened] at hcons
          rw [hopened]
          cases opened with
          | some file => exact .opened hcons
          | none =>
              -- a path behind which there is no file is passed over
              rw [Option.none_or] at hcons
              dsimp only
              generalize cursor.enter rest files = entered at ih
              cases ih with
              | opened hopens => exact .opened (hcons.trans hopens)
              | unmoved hopens hpaths =>
                  exact .unmoved (hcons.trans hopens) (List.forall_mem_cons.2 ⟨hpath, hpaths⟩)
              | failed failure hopens hnone =>
                  obtain ⟨other, hother, hno⟩ := hnone
                  exact .failed failure (hcons.trans hopens)
                    ⟨other, List.mem_cons_of_mem _ hother, hno⟩

end LogCursor

/-! ## Steps -/

/-- What can happen to a cursor and to the files: it is entered, left or read, or a file gets some
bytes from elsewhere. -/
inductive LogStep where
  | enter
  | exit
  | read
  | append (place : Place) (bytes : Bytes)
  deriving DecidableEq

/-- The bytes that files get by a step. -/
def LogStep.appended : LogStep → List (Place × Bytes)
  | .append place bytes => [(place, bytes)]
  | _ => []

/-- The bytes that files get by several steps. -/
def LogStep.allAppended (steps : List LogStep) : List (Place × Bytes) :=
  steps.flatMap LogStep.appended

/-- The bytes that one file gets by several steps. -/
def LogStep.appendedTo (place : Place) (steps : List LogStep) : Bytes :=
  ((allAppended steps).filter fun next => next.1 = place).flatMap Prod.snd

theorem LogStep.allAppended_append (steps more : List LogStep) :
    allAppended (steps ++ more) = allAppended steps ++ allAppended more :=
  List.flatMap_append

theorem LogStep.appendedTo_append (place : Place) (steps more : List LogStep) :
    appendedTo place (steps ++ more) = appendedTo place steps ++ appendedTo place more := by
  rw [appendedTo, allAppended_append, List.filter_append, List.flatMap_append]
  rfl

/-- A cursor among the files. -/
structure LogTail where
  cursor : LogCursor := {}
  files : FileStore

namespace LogTail

variable {paths : List Value}

/-- The bytes that a read hands over. -/
def read (s : LogTail) : Bytes := s.cursor.read s.files

/-- The bytes that a step hands over, which only a read does, or its failure, and what it leaves. -/
def step (paths : List Value) (s : LogTail) : LogStep → Except Failure Bytes × LogTail
  | .enter =>
      match s.cursor.enter paths s.files with
      | .ok cursor => (.ok [], { s with cursor })
      | .error failure => (.error failure, s)
  | .exit => (.ok [], { s with cursor := s.cursor.exit })
  | .read => (.ok s.read, s)
  | .append place bytes => (.ok [], { s with files := s.files.append place bytes })

/-- What is left after several steps, also if some of them failed. -/
def run (paths : List Value) (s : LogTail) (steps : List LogStep) : LogTail :=
  steps.foldl (fun s step => (s.step paths step).2) s

theorem run_cons (s : LogTail) (step : LogStep) (rest : List LogStep) :
    s.run paths (step :: rest) = (s.step paths step).2.run paths rest := rfl

theorem run_append (s : LogTail) (steps more : List LogStep) :
    s.run paths (steps ++ more) = (s.run paths steps).run paths more :=
  List.foldl_append

/-- A step changes files by what it adds only; the cursor never does. -/
theorem files_step (s : LogTail) (step : LogStep) :
    (s.step paths step).2.files = s.files.appendAll step.appended := by
  cases step with
  | enter =>
      rw [LogTail.step]
      split <;> rfl
  | exit | read | append => rfl

theorem files_run (s : LogTail) (steps : List LogStep) :
    (s.run paths steps).files = s.files.appendAll (LogStep.allAppended steps) := by
  induction steps generalizing s with
  | nil => rfl
  | cons step rest ih =>
      rw [run_cons, ih, files_step, FileStore.appendAll_appendAll]
      rfl

/-- A step that is no enter and no exit leaves the cursor as it is. -/
theorem cursor_step_of_ne (s : LogTail) {step : LogStep} (henter : step ≠ .enter)
    (hexit : step ≠ .exit) : (s.step paths step).2.cursor = s.cursor := by
  cases step with
  | enter => exact absurd rfl henter
  | exit => exact absurd rfl hexit
  | read | append => rfl

/-- An enter puts the cursor at the end of the log that it opens. If it opens none it leaves
everything as it is, and fails exactly if some candidate is no path. -/
theorem step_enter_cases (s : LogTail) (paths : List Value) :
    (∃ opening, LogCursor.opening? paths s.files = some opening ∧
      s.step paths .enter = (.ok [], { s with cursor := opening.cursor })) ∨
    (LogCursor.opening? paths s.files = none ∧ (∀ path ∈ paths, path.isPath = true) ∧
      s.step paths .enter = (.ok [], s)) ∨
    (LogCursor.opening? paths s.files = none ∧ (∃ path ∈ paths, path.isPath = false) ∧
      ∃ failure, s.step paths .enter = (.error failure, s)) := by
  have henters := s.cursor.enter_enters paths s.files
  rw [step]
  generalize s.cursor.enter paths s.files = entered at henters
  cases henters with
  | @opened opening hopens => exact .inl ⟨opening, hopens, rfl⟩
  | unmoved hopens hpaths => exact .inr (.inl ⟨hopens, hpaths, rfl⟩)
  | failed failure hopens hno => exact .inr (.inr ⟨hopens, hno, failure, rfl⟩)

theorem step_enter_of_opens (s : LogTail) {opening : Opening}
    (hopens : LogCursor.opening? paths s.files = some opening) :
    s.step paths .enter = (.ok [], { s with cursor := opening.cursor }) := by
  rcases s.step_enter_cases paths with
    ⟨other, hother, hstep⟩ | ⟨hnone, -⟩ | ⟨hnone, -⟩
  · obtain rfl := Option.some.inj (hopens.symm.trans hother)
    exact hstep
  · cases hopens.symm.trans hnone
  · cases hopens.symm.trans hnone

/-- An enter that opens nothing leaves everything as it is, whether it fails or not. -/
theorem step_enter_of_none (s : LogTail) (hopens : LogCursor.opening? paths s.files = none) :
    (s.step paths .enter).2 = s := by
  rcases s.step_enter_cases paths with
    ⟨_, hother, -⟩ | ⟨-, -, hstep⟩ | ⟨-, -, _, hstep⟩
  · cases hopens.symm.trans hother
  · rw [hstep]
  · rw [hstep]

theorem cursor_step_enter (s : LogTail) :
    (s.step paths .enter).2.cursor =
      match LogCursor.opening? paths s.files with
      | some opening => opening.cursor
      | none => s.cursor := by
  cases hopens : LogCursor.opening? paths s.files with
  | some opening => rw [s.step_enter_of_opens hopens]
  | none => rw [s.step_enter_of_none hopens]

/-- Only an enter fails, and only if it opens nothing and some candidate is no path. -/
theorem step_fails_iff (s : LogTail) (step : LogStep) :
    (∃ failure, (s.step paths step).1 = .error failure) ↔
      step = .enter ∧ LogCursor.opening? paths s.files = none ∧
        ∃ path ∈ paths, path.isPath = false := by
  cases step with
  | enter =>
      rcases s.step_enter_cases paths with
        ⟨_, hopens, hstep⟩ | ⟨hopens, hpaths, hstep⟩ | ⟨hopens, hno, failure, hstep⟩
      · simp [hopens, hstep]
      · simpa [hstep] using fun _ path hpath => hpaths path hpath
      · exact ⟨fun _ => ⟨rfl, hopens, hno⟩, fun _ => ⟨failure, by rw [hstep]⟩⟩
  | exit | read | append =>
      constructor
      · rintro ⟨_, hfails⟩
        cases hfails
      · rintro ⟨henter, -⟩
        cases henter

/-! ## The latest opening -/

/-- None of the enters among several steps opens a log. -/
def NoneOpens (paths : List Value) (files : FileStore) (steps : List LogStep) : Prop :=
  ∀ before behind, steps = before ++ .enter :: behind →
    LogCursor.opening? paths (files.appendAll (LogStep.allAppended before)) = none

/-- Between the steps before it and those behind it an enter opens a log, and it is the latest that
does. -/
structure LatestOpening (paths : List Value) (files : FileStore) (before : List LogStep)
    (opening : Opening) (behind : List LogStep) : Prop where
  opens : LogCursor.opening? paths (files.appendAll (LogStep.allAppended before)) = some opening
  last : NoneOpens paths (files.appendAll (LogStep.allAppended before)) behind

variable {files : FileStore} {steps : List LogStep}

theorem noneOpens_cons_iff {step : LogStep} :
    NoneOpens paths files (step :: steps) ↔
      (step = .enter → LogCursor.opening? paths files = none) ∧
        NoneOpens paths (files.appendAll step.appended) steps := by
  constructor
  · intro hnone
    refine ⟨fun henter => hnone [] steps (by rw [henter]; rfl), fun before behind hsteps => ?_⟩
    rw [FileStore.appendAll_appendAll]
    exact hnone (step :: before) behind (by rw [hsteps]; rfl)
  · rintro ⟨hfirst, hrest⟩ before behind hsteps
    cases before with
    | nil => exact hfirst (List.cons.inj hsteps).1
    | cons other before =>
        obtain ⟨rfl, hrest_eq⟩ := List.cons.inj hsteps
        have hopens := hrest before behind hrest_eq
        rw [FileStore.appendAll_appendAll] at hopens
        exact hopens

theorem noneOpens_of_not_mem (henter : LogStep.enter ∉ steps) : NoneOpens paths files steps := by
  rintro before behind rfl
  exact absurd (List.mem_append_right before List.mem_cons_self) henter

theorem NoneOpens.append {more : List LogStep} (hnone : NoneOpens paths files steps)
    (hmore : LogStep.enter ∉ more) : NoneOpens paths files (steps ++ more) := by
  induction steps generalizing files with
  | nil => exact noneOpens_of_not_mem hmore
  | cons step rest ih =>
      obtain ⟨hfirst, hrest⟩ := noneOpens_cons_iff.1 hnone
      exact noneOpens_cons_iff.2 ⟨hfirst, ih hrest⟩

/-- Either no enter opens a log, or there is a latest one that does. -/
theorem noneOpens_or_latestOpening (paths : List Value) (files : FileStore)
    (steps : List LogStep) :
    NoneOpens paths files steps ∨ ∃ before opening behind,
      steps = before ++ .enter :: behind ∧ LatestOpening paths files before opening behind := by
  induction steps generalizing files with
  | nil => exact .inl (noneOpens_of_not_mem List.not_mem_nil)
  | cons step rest ih =>
      -- an opening among the rest is later than one by the first step
      rcases ih (files.appendAll step.appended) with
        hnone | ⟨before, opening, behind, hrest, hopens, hlast⟩
      · cases hopens : LogCursor.opening? paths files with
        | none => exact .inl (noneOpens_cons_iff.2 ⟨fun _ => hopens, hnone⟩)
        | some opening =>
            by_cases henter : step = .enter
            · subst henter
              exact .inr ⟨[], opening, rest, rfl, hopens, hnone⟩
            · exact .inl (noneOpens_cons_iff.2 ⟨fun h => absurd h henter, hnone⟩)
      · rw [FileStore.appendAll_appendAll] at hopens hlast
        exact .inr ⟨step :: before, opening, behind, by rw [hrest]; rfl, hopens, hlast⟩

/-- Steps by which no log is opened leave the cursor as it is, but for closing its log. -/
theorem cursor_run_of_noneOpens (s : LogTail) (hnone : NoneOpens paths s.files steps) :
    (s.run paths steps).cursor = if LogStep.exit ∈ steps then s.cursor.exit else s.cursor := by
  induction steps generalizing s with
  | nil => rfl
  | cons step rest ih =>
      obtain ⟨hfirst, hrest⟩ := noneOpens_cons_iff.1 hnone
      rw [← files_step] at hrest
      rw [run_cons, ih _ hrest]
      by_cases hexit : step = .exit
      · subst hexit
        have hclosed : (s.step paths .exit).2.cursor = s.cursor.exit := rfl
        -- what is closed already stays closed if it is left once more
        rw [hclosed, if_pos List.mem_cons_self]
        exact ite_self _
      · have hkept : (s.step paths step).2.cursor = s.cursor := by
          by_cases henter : step = .enter
          · rw [henter, cursor_step_enter, hfirst henter]
          · exact s.cursor_step_of_ne henter hexit
        simp only [hkept, List.mem_cons, Ne.symm hexit, false_or]

namespace LatestOpening

variable {before behind : List LogStep} {opening : Opening}

/-- The latest opening stays the latest while nothing is entered. -/
theorem append (hlatest : LatestOpening paths files before opening behind) {more : List LogStep}
    (hmore : LogStep.enter ∉ more) : LatestOpening paths files before opening (behind ++ more) where
  opens := hlatest.opens
  last := hlatest.last.append hmore

/-- The cursor stands where the latest opening has put it, and holds the log unless it has been left
since. -/
theorem cursor_run (hlatest : LatestOpening paths files before opening behind)
    (cursor : LogCursor) :
    (run paths ⟨cursor, files⟩ (before ++ .enter :: behind)).cursor =
      if LogStep.exit ∈ behind then opening.cursor.exit else opening.cursor := by
  have hfiles : (run paths ⟨cursor, files⟩ before).files =
      files.appendAll (LogStep.allAppended before) := files_run _ _
  have hplaced : ((run paths ⟨cursor, files⟩ before).step paths .enter).2.cursor =
      opening.cursor := by
    rw [cursor_step_enter, hfiles, hlatest.opens]
  have hlast : NoneOpens paths ((run paths ⟨cursor, files⟩ before).step paths .enter).2.files
      behind := by
    rw [files_step, hfiles]
    exact hlatest.last
  rw [run_append, run_cons, cursor_run_of_noneOpens _ hlast, hplaced]

/-- The log holds what it held when it was opened, and behind that what it got since. -/
theorem content?_run (hlatest : LatestOpening paths files before opening behind)
    (cursor : LogCursor) :
    ∃ old, old.length = opening.size ∧
      ((run paths ⟨cursor, files⟩ (before ++ .enter :: behind)).files.content?
        opening.place).getD [] = old ++ LogStep.appendedTo opening.place behind := by
  obtain ⟨path, -, hopens⟩ := List.exists_of_findSome?_eq_some hlatest.opens
  obtain ⟨old, hold, hsize⟩ := FileStore.content?_of_opening? hopens
  refine ⟨old, hsize, ?_⟩
  have hadded : LogStep.allAppended (before ++ .enter :: behind) =
      LogStep.allAppended before ++ LogStep.allAppended behind :=
    LogStep.allAppended_append _ _
  rw [files_run, hadded, ← FileStore.appendAll_appendAll, FileStore.content?_appendAll, hold]
  rfl

/-- A cursor that holds its log reads what the log got since it was opened. -/
theorem read_run (hlatest : LatestOpening paths files before opening behind) (cursor : LogCursor)
    (hheld : LogStep.exit ∉ behind) :
    (run paths ⟨cursor, files⟩ (before ++ .enter :: behind)).read =
      LogStep.appendedTo opening.place behind := by
  obtain ⟨old, hsize, hcontent⟩ := hlatest.content?_run cursor
  have hcursor := hlatest.cursor_run cursor
  rw [if_neg hheld] at hcursor
  rw [LogTail.read, hcursor, LogCursor.read]
  dsimp only [Opening.cursor]
  rw [hcontent, ← hsize, List.drop_left]

end LatestOpening

/-- A cursor that was never placed holds no log. -/
theorem cursor_run_fresh (hnone : NoneOpens paths files steps) :
    (run paths { files } steps).cursor = {} := by
  rw [cursor_run_of_noneOpens { files } hnone]
  split <;> rfl

/-- While nothing is entered or left, a later read begins with an earlier one and goes on with what
the held log got in between. -/
theorem read_run_append {between : List LogStep} (henter : LogStep.enter ∉ between)
    (hexit : LogStep.exit ∉ between) :
    (run paths { files } (steps ++ between)).read =
      (run paths { files } steps).read ++
        (run paths { files } steps).cursor.held.elim []
          fun place => LogStep.appendedTo place between := by
  rcases noneOpens_or_latestOpening paths files steps with
    hnone | ⟨before, opening, behind, rfl, hlatest⟩
  · simp only [read, cursor_run_fresh hnone, cursor_run_fresh (hnone.append henter)]
    rfl
  · have hmore := hlatest.append henter
    rw [List.append_assoc, List.cons_append]
    by_cases hleft : LogStep.exit ∈ behind
    · simp only [read, hlatest.cursor_run, hmore.cursor_run, if_pos hleft,
        if_pos (List.mem_append_left between hleft)]
      rfl
    · have hheld : LogStep.exit ∉ behind ++ between := by simp [hleft, hexit]
      rw [hlatest.read_run _ hleft, hmore.read_run _ hheld, hlatest.cursor_run, if_neg hleft,
        LogStep.appendedTo_append]
      rfl

/-- A cursor reads what its log got since the latest enter that opened one, whatever is done to it
and to the files, in any order. The files hold what they held and what was added to them, as the
cursor changes none. While no enter has opened a log, the cursor is as new and reads nothing. Behind
one that has, it has the path of that log and its size then; until it is left it holds the log and
reads it from that size up to its present end, and then it reads nothing. An enter opens the first
candidate that can be opened at that moment, and otherwise leaves the cursor as it is. Leaving keeps
path and offset. No step fails but an enter that opens nothing, with a candidate that is no path. -/
theorem reads_what_was_appended (paths : List Value) (start : FileStore) (steps : List LogStep) :
    let s := run paths { files := start } steps
    s.files = start.appendAll (LogStep.allAppended steps) ∧
    (NoneOpens paths start steps ∨ ∃ before opening behind,
      steps = before ++ .enter :: behind ∧ LatestOpening paths start before opening behind) ∧
    (NoneOpens paths start steps → s.cursor = {} ∧ s.read = []) ∧
    (∀ before opening behind, steps = before ++ .enter :: behind →
      LatestOpening paths start before opening behind →
        s.cursor.path = some opening.path ∧ s.cursor.offset = opening.size ∧
        (LogStep.exit ∈ behind → s.cursor.held = none ∧ s.read = []) ∧
        (LogStep.exit ∉ behind → s.cursor.held = some opening.place ∧
          s.read = ((s.files.content? opening.place).getD []).drop opening.size ∧
          s.read = LogStep.appendedTo opening.place behind)) ∧
    (∀ between, LogStep.enter ∉ between → LogStep.exit ∉ between →
      (s.run paths between).read = s.read ++
        s.cursor.held.elim [] fun place => LogStep.appendedTo place between) ∧
    (∀ opening, LogCursor.opening? paths s.files = some opening →
      s.step paths .enter = (.ok [], { s with cursor := opening.cursor })) ∧
    (LogCursor.opening? paths s.files = none → (s.step paths .enter).2 = s) ∧
    s.step paths .exit = (.ok [], { s with cursor := { s.cursor with held := none } }) ∧
    (∀ step, (∃ failure, (s.step paths step).1 = .error failure) ↔
      step = .enter ∧ LogCursor.opening? paths s.files = none ∧
        ∃ path ∈ paths, path.isPath = false) ∧
    ((∀ path ∈ paths, path.isPath = true) →
      LogCursor.opening? paths s.files = paths.findSome? s.files.opening?) := by
  intro s
  refine ⟨files_run _ steps, noneOpens_or_latestOpening paths start steps, fun hnone => ?_, ?_,
    fun between henter hexit => ?_, fun opening hopens => s.step_enter_of_opens hopens,
    fun hopens => s.step_enter_of_none hopens, rfl, s.step_fails_iff,
    fun hpaths => LogCursor.opening?_of_forall_isPath hpaths s.files⟩
  · have hfresh : s.cursor = {} := cursor_run_fresh hnone
    exact ⟨hfresh, by rw [read, hfresh]; rfl⟩
  · rintro before opening behind rfl hlatest
    have hcursor := hlatest.cursor_run {}
    by_cases hleft : LogStep.exit ∈ behind
    · rw [if_pos hleft] at hcursor
      have hread : s.read = [] := by
        rw [read, hcursor]
        rfl
      exact ⟨congrArg LogCursor.path hcursor, congrArg LogCursor.offset hcursor,
        fun _ => ⟨congrArg LogCursor.held hcursor, hread⟩, fun hheld => absurd hleft hheld⟩
    · rw [if_neg hleft] at hcursor
      have hread : s.read = ((s.files.content? opening.place).getD []).drop opening.size := by
        rw [read, hcursor]
        rfl
      exact ⟨congrArg LogCursor.path hcursor, congrArg LogCursor.offset hcursor,
        fun hexit => absurd hexit hleft,
        fun hheld => ⟨congrArg LogCursor.held hcursor, hread, hlatest.read_run {} hheld⟩⟩
  · rw [← run_append]
    exact read_run_append henter hexit

end LogTail

namespace Sample

/-- Two candidates for a log. -/
def logPaths : List Value := [.text "messages", .text "syslog"]

/-- The second candidate is there, with a line of its own. -/
def logFiles : FileStore := ({} : FileStore).append [Text.utf8Escaped "syslog"] [0x61, 0x0A]

/-- The first candidate appears after the second one was opened. Then both get a byte. -/
def logSteps : List LogStep :=
  [.append [Text.utf8Escaped "messages"] [0x62], .append [Text.utf8Escaped "syslog"] [0x63]]

/-- The cursor reads what the second candidate got, and goes on with what it gets next. If it is
entered again, it stands at the end of the first candidate. -/
theorem syslog_tailed :
    let s := LogTail.run logPaths { files := logFiles } (.enter :: logSteps)
    s.read = [0x63] ∧
    (s.run logPaths [.append [Text.utf8Escaped "syslog"] [0x64]]).read = [0x63, 0x64] ∧
    s.step logPaths .enter = (.ok [], { s with
      cursor := ⟨some (.text "messages"), 1, some [Text.utf8Escaped "messages"]⟩ }) := by
  intro s
  obtain ⟨-, -, -, hlatest, hbetween, henter, -⟩ :=
    LogTail.reads_what_was_appended logPaths logFiles (.enter :: logSteps)
  have hopened : LogTail.LatestOpening logPaths logFiles []
      ⟨.text "syslog", [Text.utf8Escaped "syslog"], 2⟩ logSteps :=
    ⟨rfl, LogTail.noneOpens_of_not_mem (by decide)⟩
  obtain ⟨-, -, -, hheld⟩ := hlatest [] _ logSteps rfl hopened
  obtain ⟨hplace, -, hread⟩ := hheld (by decide)
  have hmore := hbetween [.append [Text.utf8Escaped "syslog"] [0x64]] (by decide) (by decide)
  rw [hread, hplace] at hmore
  exact ⟨hread, hmore, henter ⟨.text "messages", [Text.utf8Escaped "messages"], 1⟩ rfl⟩

/-- An enter that comes to a path with a NUL fails. -/
theorem entering_fails :
    ¬ ∀ paths start steps step, ∃ bytes,
      ((LogTail.run paths { files := start } steps).step paths step).1 = .ok bytes := by
  intro hnever
  obtain ⟨bytes, hok⟩ := hnever [.text [0]] {} [] .enter
  cases hok

end Sample

end CommandDispatch
