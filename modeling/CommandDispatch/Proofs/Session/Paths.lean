import CommandDispatch.Dispatch

/-! # Paths

What can be handed to the file system as a path: it leads to a file or meets an obstacle, whatever
the files are. With a list of paths a cursor is always placed, if only nowhere.
-/

namespace CommandDispatch

/-- A value with which the file system can be asked for a file: a text that can be written as bytes
without NUL, or a number that can stand for a stream. -/
def Value.isPath : Value → Bool
  | .text t =>
      match t.utf8? with
      | some bytes => !bytes.contains 0
      | none => false
  | v =>
      match v.number? with
      | some n => FileStore.isStreamNumber n && 0 ≤ n
      | none => false

/-- Where a path leads does not depend on the files being there. -/
theorem FileStore.exists_find_eq_ok_iff (store : FileStore) (v : Value) :
    (∃ outcome, store.find v = .ok outcome) ↔ v.isPath = true := by
  cases v with
  | text t =>
      simp only [find, Value.isPath]
      cases t.utf8? with
      | none => simp
      | some bytes => by_cases hnul : 0 ∈ bytes <;> simp [hnul]
  | int n =>
      simp only [find, Value.isPath, Value.number?]
      by_cases hstream : isStreamNumber n = true
      · by_cases hnegative : n < 0
        · simp [hstream, hnegative]
        · simp [hstream, hnegative, Int.not_lt.1 hnegative]
      · simp [hstream]
  | bool b => cases b <;> simp [find, Value.isPath, Value.number?, isStreamNumber]
  | null | styled | list | record | callback | collection | spec =>
      simp [find, Value.isPath, Value.number?]

/-- What is no path is refused in the same way, whatever files there are. -/
theorem FileStore.find_eq_error {store other : FileStore} {v : Value} {failure : Failure}
    (hfind : store.find v = .error failure) : other.find v = .error failure := by
  cases v with
  | text t =>
      unfold find at hfind ⊢
      dsimp only at hfind ⊢
      split at hfind
      · split at hfind
        next hnul => exact (if_pos hnul).trans hfind
        next => cases hfind
      · exact hfind
  | _ => exact hfind

/-- A value that is no path always meets one failure. -/
theorem FileStore.exists_find_eq_error {v : Value} (hv : v.isPath = false) :
    ∃ failure, ∀ store : FileStore, store.find v = .error failure := by
  cases hfind : ({} : FileStore).find v with
  | error failure => exact ⟨failure, fun _ => find_eq_error hfind⟩
  | ok outcome =>
      have hpath := (FileStore.exists_find_eq_ok_iff {} v).1 ⟨outcome, hfind⟩
      cases hv.symm.trans hpath

/-- A path without a file behind it opens no file, and is no failure. -/
theorem FileStore.exists_openFile_eq_ok (store : FileStore) {path : Value}
    (hpath : path.isPath = true) : ∃ opened, store.openFile path = .ok opened := by
  obtain ⟨outcome, hfind⟩ := (store.exists_find_eq_ok_iff path).2 hpath
  unfold openFile
  rw [hfind]
  cases outcome with
  | error _ => exact ⟨none, rfl⟩
  | ok place => exact ⟨(store.content? place).map (place, ·), rfl⟩

theorem FileStore.openFile_eq_error {store : FileStore} {path : Value} {failure : Failure}
    (hfind : store.find path = .error failure) : store.openFile path = .error failure := by
  unfold openFile
  rw [hfind]
  rfl

namespace LogCursor

/-- The next candidate is tried where the first one does not open. -/
theorem enter_cons (cursor : LogCursor) (path : Value) (rest : List Value) (store : FileStore) :
    cursor.enter (path :: rest) store =
      match store.openFile path with
      | .ok (some (place, content)) => .ok ⟨some path, content.length, some place⟩
      | .ok none => cursor.enter rest store
      | .error failure => .error failure := by
  rw [enter]
  cases store.openFile path with
  | error _ => rfl
  | ok opened =>
      cases opened with
      | none => rfl
      | some _ => rfl

/-- A cursor is placed whenever all candidates are paths. -/
theorem exists_enter_eq_ok (cursor : LogCursor) {paths : List Value}
    (hpaths : ∀ path ∈ paths, path.isPath = true) (store : FileStore) :
    ∃ placed, cursor.enter paths store = .ok placed := by
  induction paths generalizing cursor with
  | nil => exact ⟨cursor, rfl⟩
  | cons path rest ih =>
      have hrest := ih cursor fun other hother => hpaths other (List.mem_cons_of_mem _ hother)
      obtain ⟨opened, hopened⟩ := store.exists_openFile_eq_ok (hpaths path List.mem_cons_self)
      rw [enter_cons, hopened]
      cases opened with
      | none => exact hrest
      | some file => exact ⟨_, rfl⟩

/-- Where no cursor is placed, the first candidate that is no path was refused. -/
theorem enter_eq_error {cursor : LogCursor} {paths : List Value} {store : FileStore}
    {failure : Failure} (hfailed : cursor.enter paths store = .error failure) :
    ∃ path ∈ paths.find? fun path => !path.isPath,
      ∀ other : FileStore, other.find path = .error failure := by
  induction paths with
  | nil => cases hfailed
  | cons path rest ih =>
      rw [enter_cons] at hfailed
      cases hpath : path.isPath with
      | false =>
          obtain ⟨found, hfound⟩ := FileStore.exists_find_eq_error hpath
          rw [FileStore.openFile_eq_error (hfound store)] at hfailed
          obtain rfl : found = failure := Except.error.inj hfailed
          exact ⟨path, by simp [hpath], hfound⟩
      | true =>
          obtain ⟨opened, hopened⟩ := store.exists_openFile_eq_ok hpath
          rw [hopened] at hfailed
          cases opened with
          | some file => cases hfailed
          | none =>
              rw [List.find?_cons, hpath]
              exact ih hfailed

/-- If a cursor is refused among two sets of files or in neither, it is refused for one reason. -/
theorem enter_cases {paths : List Value} {store other : FileStore}
    (hsame : (enter {} paths other).isOk = (enter {} paths store).isOk) :
    (∃ failure, enter {} paths store = .error failure ∧ enter {} paths other = .error failure) ∨
      ∃ cursor cursor', enter {} paths store = .ok cursor ∧ enter {} paths other = .ok cursor' := by
  cases hfirst : enter {} paths store with
  | error failure =>
      cases hsecond : enter {} paths other with
      | error failure' =>
          obtain ⟨path, hpath, hfound⟩ := enter_eq_error hfirst
          obtain ⟨path', hpath', hfound'⟩ := enter_eq_error hsecond
          obtain rfl := Option.mem_unique hpath hpath'
          obtain rfl := Except.error.inj ((hfound store).symm.trans (hfound' store))
          exact .inl ⟨failure, rfl, rfl⟩
      | ok cursor' =>
          rw [hfirst, hsecond] at hsame
          cases hsame
  | ok cursor =>
      cases hsecond : enter {} paths other with
      | error failure' =>
          rw [hfirst, hsecond] at hsame
          cases hsame
      | ok cursor' => exact .inr ⟨cursor, cursor', rfl, rfl⟩

end LogCursor

end CommandDispatch
