import CommandDispatch.Execution
import CommandDispatch.Proofs.Text.Numbers

/-! # Words on a command line

The words of an invocation stand on its line in their order, each with a separator behind it,
whatever room the buffer had at first. Without memory to grow there is a line exactly if the buffer
has room for all words to begin with. Only texts stand on a line. There is a message about an
invocation if its result and the seconds that it took can be written.
-/

namespace CommandDispatch

namespace CommandLine

/-- The bytes that words take on a line: each has a separator behind it. -/
def bytesOf (words : List Text) : Bytes := words.flatMap fun word => wordBytes word ++ [0x20]

theorem bytesOf_cons (word : Text) (words : List Text) :
    bytesOf (word :: words) = wordBytes word ++ [0x20] ++ bytesOf words := List.flatMap_cons

theorem length_bytesOf_cons (word : Text) (words : List Text) :
    (bytesOf (word :: words)).length =
      (wordBytes word).length + 1 + (bytesOf words).length := by
  rw [bytesOf_cons, List.length_append, List.length_append, List.length_singleton]

theorem written_append (line : CommandLine) (word : Text) :
    (line.append word).written = line.written ++ (wordBytes word ++ [0x20]) := by
  unfold append
  dsimp only
  split <;> exact List.append_assoc _ _ _

theorem spare_append_of_fits {line : CommandLine} {word : Text}
    (hfits : line.fits (wordBytes word) = true) :
    (line.append word).spare = line.spare - ((wordBytes word).length + 1) := by
  unfold append
  dsimp only
  rw [if_pos hfits]
  rfl

/-- The words follow what is on the line. -/
theorem written_extend (line : CommandLine) (words : List Text) :
    (line.extend words).written = line.written ++ bytesOf words := by
  induction words generalizing line with
  | nil => exact (List.append_nil _).symm
  | cons word rest ih =>
      have hrest : (line.extend (word :: rest)).written = ((line.append word).extend rest).written :=
        rfl
      rw [hrest, ih, written_append, bytesOf_cons, List.append_assoc]

/-- A line is made of texts only, and they are written on it. -/
theorem extendWords_eq_ok_some {grows : Bool} {line longer : CommandLine} {argv : List Value}
    (hline : line.extendWords grows argv = .ok (some longer)) :
    ∃ words : List Text, argv = words.map .text ∧ longer = line.extend words := by
  induction argv generalizing line with
  | nil => exact ⟨[], rfl, (Option.some.inj (Except.ok.inj hline)).symm⟩
  | cons first rest ih =>
      cases first with
      | text word =>
          unfold extendWords tryAppend at hline
          split at hline
          next next happended =>
            split at happended
            · obtain ⟨-, rfl⟩ := Prod.mk.inj happended
              obtain ⟨words, rfl, rfl⟩ := ih hline
              exact ⟨word :: words, rfl, rfl⟩
            · cases happended
          next => cases hline
      | null | bool | int | styled | list | record | callback | collection | spec => cases hline

/-- With memory all words find room. -/
theorem extendWords_true (line : CommandLine) (words : List Text) :
    line.extendWords true (words.map .text) = .ok (some (line.extend words)) := by
  induction words generalizing line with
  | nil => rfl
  | cons word rest ih => exact ih (line.append word)

/-- Without memory to grow, the words find room if there is enough of it to begin with. -/
theorem extendWords_false (line : CommandLine) (words : List Text) :
    line.extendWords false (words.map .text) =
      .ok (if (bytesOf words).length ≤ line.spare then some (line.extend words) else none) := by
  induction words generalizing line with
  | nil => rfl
  | cons word rest ih =>
      simp only [List.map_cons, extendWords, tryAppend, Bool.false_or]
      cases hfits : line.fits (wordBytes word) with
      | true =>
          have hroom := of_decide_eq_true hfits
          simp only [if_true]
          rw [ih, spare_append_of_fits hfits, length_bytesOf_cons]
          -- what the others need has room exactly if all of it has room
          by_cases hall : (wordBytes word).length + 1 + (bytesOf rest).length ≤ line.spare
          · rw [if_pos hall, if_pos (by omega)]
            rfl
          · rw [if_neg hall, if_neg (by omega)]
      | false =>
          have hroom := of_decide_eq_false hfits
          have hnone : ¬ (bytesOf (word :: rest)).length ≤ line.spare := by
            rw [length_bytesOf_cons]
            omega
          rw [if_neg hnone]
          rfl

/-- There always is room for the usual capacity. -/
theorem create_defaultCapacity (memory : Memory) :
    create memory defaultCapacity = .ok (empty defaultCapacity) := by
  have hle := memory.capacity_le
  have hpositive : ¬ ((defaultCapacity : Nat) : Int) < 1 := by decide
  have hsmall : ¬ (((defaultCapacity : Nat) : Int) < -9223372036854775808 ∨
      9223372036854775807 < ((defaultCapacity : Nat) : Int) + 0) := by decide
  rw [create, if_neg hpositive, Memory.size, if_neg hsmall, if_neg (by omega)]
  rfl

theorem ofWords_defaultCapacity (memory : Memory) (grows : Bool) (argv : List Value) :
    ofWords memory grows defaultCapacity argv =
      (empty defaultCapacity).extendWords grows argv := by
  rw [ofWords, create_defaultCapacity]

/-- Words make a line if there is memory to grow, or if they take no more room than there is to
begin with. -/
theorem ofWords_eq (memory : Memory) (grows : Bool) (words : List Text) :
    ofWords memory grows defaultCapacity (words.map .text) =
      .ok (if grows = true ∨ (bytesOf words).length ≤ defaultCapacity then
        some ((empty defaultCapacity).extend words) else none) := by
  rw [ofWords_defaultCapacity]
  cases grows with
  | true => exact extendWords_true _ words
  | false =>
      rw [extendWords_false]
      simp only [Bool.false_eq_true, false_or]
      rfl

/-- As long as the buffer need not grow, memory makes no difference. -/
theorem extendWords_false_eq {line : CommandLine} {argv : List Value}
    (hroom : line.extendWords false argv ≠ .ok none) :
    line.extendWords false argv = line.extendWords true argv := by
  induction argv generalizing line with
  | nil => rfl
  | cons first rest ih =>
      cases first with
      | text word =>
          simp only [extendWords, tryAppend, Bool.false_or, Bool.true_or, if_true] at hroom ⊢
          cases hfits : line.fits (wordBytes word) with
          | true =>
              rw [hfits] at hroom
              exact ih hroom
          | false =>
              rw [hfits] at hroom
              exact absurd rfl hroom
      | null | bool | int | styled | list | record | callback | collection | spec => rfl

/-- Whether the words of an invocation take more room than there is to begin with. -/
def outgrows (argv : List Value) : Bool :=
  match (empty defaultCapacity).extendWords false argv with
  | .ok none => true
  | _ => false

theorem ofWords_eq_of_not_outgrows {argv : List Value} (hroom : outgrows argv = false)
    (memory : Memory) :
    ofWords memory false defaultCapacity argv = ofWords memory true defaultCapacity argv := by
  rw [ofWords_defaultCapacity, ofWords_defaultCapacity]
  refine extendWords_false_eq fun hnone => ?_
  rw [outgrows, hnone] at hroom
  cases hroom

theorem outgrows_eq (words : List Text) :
    outgrows (words.map .text) = decide (defaultCapacity < (bytesOf words).length) := by
  have hspare : (empty defaultCapacity).spare = defaultCapacity := rfl
  rw [outgrows, extendWords_false, hspare]
  by_cases hroom : (bytesOf words).length ≤ defaultCapacity
  · rw [if_pos hroom, decide_eq_false (Nat.not_lt.2 hroom)]
  · rw [if_neg hroom, decide_eq_true (Nat.lt_of_not_le hroom)]

/-- What is on a line is the words. -/
theorem exists_of_ofWords_eq_ok_some {memory : Memory} {grows : Bool} {capacity : Int}
    {argv : List Value} {line : CommandLine}
    (hline : ofWords memory grows capacity argv = .ok (some line)) :
    ∃ words : List Text, argv = words.map .text ∧ line.written = bytesOf words := by
  unfold ofWords create at hline
  split at hline
  next start hstart =>
    obtain ⟨words, rfl, rfl⟩ := extendWords_eq_ok_some hline
    refine ⟨words, rfl, ?_⟩
    -- a new line is empty
    have hempty : start.written = [] := by
      split at hstart
      · cases hstart
      · cases hsize : memory.size 0 capacity with
        | error _ =>
            rw [hsize] at hstart
            cases hstart
        | ok size =>
            rw [hsize] at hstart
            cases hstart
            rfl
    rw [written_extend, hempty, List.nil_append]
  next => cases hline
  next => cases hline

end CommandLine

/-! ## Messages about invocations -/

/-- A duration can be written if its seconds can. -/
theorem exists_durationText_iff {elapsed : Int} :
    (∃ t, durationText elapsed = .ok t) ↔ Text.isWritable (elapsed / 1000) = true := by
  unfold durationText
  cases hseconds : Text.ofNumber (elapsed / 1000) with
  | ok seconds => exact iff_of_true ⟨_, rfl⟩ (Text.ofNumber_eq_ok_iff.1 hseconds).1
  | error failure =>
      refine iff_of_false nofun fun hwritable => ?_
      rw [Text.ofNumber_of_isWritable hwritable] at hseconds
      cases hseconds

namespace Journal

theorem auditMessage_eq_ok_iff {line message : Text} {result : Value} {elapsed : Int} :
    auditMessage line result elapsed = .ok message ↔
      ∃ duration n status, durationText elapsed = .ok duration ∧ result.number? = some n ∧
        Text.ofNumber n = .ok status ∧
        message = .concat [line, ". Exit status is ", status, " (",
          if n = 0 then "success" else "failure", "). Command took ", duration, " s."] := by
  unfold auditMessage
  cases durationText elapsed with
  | error => exact iff_of_false nofun nofun
  | ok duration =>
      cases result.number? with
      | none => exact iff_of_false nofun nofun
      | some n =>
          dsimp only [bind, Except.bind]
          cases hstatus : Text.ofNumber n with
          | error => simp [hstatus]
          | ok status => simp [hstatus, pure, Except.pure, eq_comm]

/-- There is a message about an invocation if its result is a number, and if that and the seconds
that it took can be written. -/
theorem exists_auditMessage_iff {line : Text} {result : Value} {elapsed : Int} :
    (∃ message, auditMessage line result elapsed = .ok message) ↔
      Text.isWritable (elapsed / 1000) = true ∧
        ∃ n, result.number? = some n ∧ Text.isWritable n = true := by
  simp only [auditMessage_eq_ok_iff, ← exists_durationText_iff]
  constructor
  · rintro ⟨_, duration, n, status, hduration, hresult, hstatus, -⟩
    exact ⟨⟨duration, hduration⟩, n, hresult, (Text.ofNumber_eq_ok_iff.1 hstatus).1⟩
  · rintro ⟨⟨duration, hduration⟩, n, hresult, hwritable⟩
    exact ⟨_, duration, n, _, hduration, hresult, Text.ofNumber_of_isWritable hwritable, rfl⟩

/-- There is no message about an invocation the result of which has too many digits. -/
theorem auditMessage_of_le {result : Value} {n : Int} (hresult : result.number? = some n)
    (hlong : 10 ^ Text.longestNumeral ≤ n.natAbs) (line : Text) (elapsed : Int) :
    auditMessage line result elapsed = .error .numeralTooLong := by
  have hunwritten := Text.ofNumber_of_le hlong
  unfold auditMessage durationText
  cases hseconds : Text.ofNumber (elapsed / 1000) with
  | ok =>
      rw [hresult]
      dsimp only
      rw [hunwritten]
      rfl
  | error =>
      rw [Text.eq_numeralTooLong_of_ofNumber hseconds]
      rfl

end Journal

end CommandDispatch
