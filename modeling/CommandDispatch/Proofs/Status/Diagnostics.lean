import CommandDispatch.Proofs.Text.Numbers
import CommandDispatch.Status.Diagnostic

/-! # What a diagnostic tells

In the vocabulary of the storage protocol every result has a diagnostic, if the driver error can be
looked up and the number that tells the result can be written, and only success is no error. As long
as no driver error hides the result, the message tells it: a named code is written in base sixteen,
a hardware word and an unknown status in base ten. A program label can hold anything, but a message
that begins with one goes on to a second line, and the others have none.
-/

namespace CommandDispatch

namespace Diagnostic

/-- The message for a result with a name. -/
def namedMessage (result : Int) (name : Text) : Text :=
  .concat ["status: ", hexByte result, " ", name]

/-- The message for a result about which nothing is known. -/
def unknownMessage (result : Int) : Text :=
  .concat ["status: Unknown status: ", Text.integer result]

/-- What a message tells of a result, where the program has a label. -/
inductive Tells (program : Text) (result : Int) : Text → Prop where
  | named {name : Text} (hname : statusName? result = some name) :
      Tells program result (namedMessage result name)
  | hardware : Tells program result (hardwareMessage program result)
  | unknown : Tells program result (unknownMessage result)

theorem driverErrorName?_eq_none_iff (error : Int) :
    driverErrorName? error = none ↔ error ≠ 4 ∧ error ≠ 5 := by
  unfold driverErrorName?
  split
  next hfour => simp [hfour]
  next hfour =>
    split
    next hfive => simp [hfive]
    next hfive => simp [hfour, hfive]

/-- The diagnostic of a result about which nothing is known, if its number can be written. -/
theorem unknown_eq_ok_iff {result : Int} {d : Diagnostic} :
    (do
      let number ← Text.ofNumber result
      return ⟨.error, .concat ["status: Unknown status: ", number]⟩ :
        Except Failure Diagnostic) = .ok d ↔
      Text.isWritable result = true ∧ d = ⟨.error, unknownMessage result⟩ := by
  cases hnumber : Text.isWritable result with
  | true =>
      rw [Text.ofNumber_of_isWritable hnumber]
      exact ⟨fun hok => ⟨rfl, (Except.ok.inj hok).symm⟩, fun hd => congrArg Except.ok hd.2.symm⟩
  | false =>
      rw [Text.ofNumber, hnumber]
      constructor
      · intro hok
        cases hok
      · rintro ⟨hwritten, -⟩
        cases hwritten

/-- A result that is no error of the system is told, unless a driver error hides it. -/
theorem standard_tells {config : StatusConfig} {result : Int} {d : Diagnostic}
    (hresult : 0 ≤ result) (hshown : driverErrorName? config.driverError = none)
    (hd : standard config result = .ok d) : Tells config.program result d.message := by
  unfold standard at hd
  rw [if_neg (Int.not_lt.2 hresult), hshown] at hd
  split at hd
  next => cases hd
  next =>
    cases hname : statusName? result with
    | some name =>
        rw [hname] at hd
        obtain rfl := Except.ok.inj hd
        exact .named hname
    | none =>
        rw [hname] at hd
        dsimp only at hd
        split at hd
        next =>
          obtain rfl := Except.ok.inj hd
          exact .hardware
        next =>
          obtain ⟨-, rfl⟩ := unknown_eq_ok_iff.1 hd
          exact .unknown

/-! ## Telling messages apart -/

section Shapes

variable {program name name' : Text} {a b : Int}

/-- Only small results have names, and these are on one line. -/
theorem of_statusName?_eq_some (hname : statusName? a = some name) :
    a ≤ lastStatus ∧ CodePoint.newline ∉ name := by
  have hnames : ∀ entry ∈ statusNames, CodePoint.newline ∉ entry.2 := by decide
  unfold statusName? at hname
  split at hname
  next => cases hname
  next hrange =>
    obtain ⟨before, after, hentries, -⟩ := List.lookup_eq_some_iff.1 hname
    refine ⟨by omega, hnames (a, name) ?_⟩
    rw [hentries]
    exact List.mem_append_right _ List.mem_cons_self

/-- A code point that is no digit and not in front of one is not in a number of two digits. -/
theorem not_mem_hexByte {c : CodePoint} (hfront : c ∉ Text.ofString "0x")
    (hdigit : ∀ digit < 16, CodePoint.ofChar (Nat.digitChar digit) ≠ c) (a : Int) :
    c ∉ hexByte a := by
  simp only [hexByte, Text.concat, List.flatten_cons, List.flatten_nil, List.append_nil,
    List.mem_append, not_or]
  exact ⟨hfront, Text.not_mem_hexadecimal hdigit _ _⟩

theorem hexByte_inj (ha : 0 ≤ a) (hb : 0 ≤ b) (hsame : hexByte a = hexByte b) : a = b := by
  have hdigits : Text.hexadecimal 2 a.toNat = Text.hexadecimal 2 b.toNat := by
    simpa [hexByte, Text.concat] using hsame
  have hnat := Text.hexadecimal_injective 2 hdigits
  omega

/-- A hardware word is told on two lines. -/
theorem newline_mem_hardwareMessage (program : Text) (a : Int) :
    CodePoint.newline ∈ hardwareMessage program a := by
  have hbreak : CodePoint.newline ∈ Text.ofString "\nSC: " := by decide
  simp [hardwareMessage, Text.concat, hbreak]

theorem newline_not_mem_namedMessage (hname : CodePoint.newline ∉ name) (a : Int) :
    CodePoint.newline ∉ namedMessage a name := by
  have hhead : CodePoint.newline ∉ Text.ofString "status: " := by decide
  have hspace : CodePoint.newline ∉ Text.ofString " " := by decide
  have hcode := not_mem_hexByte (c := CodePoint.newline) (by decide) (by decide) a
  simp [namedMessage, Text.concat, hhead, hcode, hspace, hname]

theorem newline_not_mem_unknownMessage (a : Int) : CodePoint.newline ∉ unknownMessage a := by
  have hhead : CodePoint.newline ∉ Text.ofString "status: Unknown status: " := by decide
  have hnumber := Text.not_mem_integer (c := CodePoint.newline) (by decide) (by decide) a
  simp [unknownMessage, Text.concat, hhead, hnumber]

/-- The code of a named result ends before a space. -/
theorem namedMessage_inj (ha : 0 ≤ a) (hb : 0 ≤ b)
    (hsame : namedMessage a name = namedMessage b name') : a = b := by
  have hspace (x : Int) : CodePoint.space ∉ hexByte x := not_mem_hexByte (by decide) (by decide) x
  have hblank : Text.ofString " " = [CodePoint.space] := by decide
  simp only [namedMessage, Text.concat, List.flatten_cons, List.flatten_nil, List.append_nil,
    List.append_cancel_left_eq, hblank, List.singleton_append] at hsame
  exact hexByte_inj ha hb (Text.eq_of_append_cons_eq (hspace a) (hspace b) hsame)

/-- The number of a hardware word ends with its line. -/
theorem hardwareMessage_inj (hsame : hardwareMessage program a = hardwareMessage program b) :
    a = b := by
  have hnumber (x : Int) := Text.not_mem_integer (c := CodePoint.newline) (by decide) (by decide) x
  have hbreak : Text.ofString "\nSC: " = CodePoint.newline :: Text.ofString "SC: " := by decide
  simp only [hardwareMessage, Text.concat, List.flatten_cons, List.append_cancel_left_eq, hbreak,
    List.cons_append] at hsame
  exact Text.integer_injective (Text.eq_of_append_cons_eq (hnumber a) (hnumber b) hsame)

theorem unknownMessage_inj (hsame : unknownMessage a = unknownMessage b) : a = b := by
  simp only [unknownMessage, Text.concat, List.flatten_cons, List.flatten_nil, List.append_nil,
    List.append_cancel_left_eq] at hsame
  exact Text.integer_injective hsame

theorem namedMessage_ne_unknownMessage (a b : Int) (name : Text) :
    namedMessage a name ≠ unknownMessage b := by
  have hunknown : Text.ofString "status: Unknown status: " =
      Text.ofString "status: " ++ Text.ofString "Unknown status: " := by decide
  have hzero : Text.ofString "0x" = CodePoint.ofChar '0' :: Text.ofString "x" := by decide
  have hletter : Text.ofString "Unknown status: " =
      CodePoint.ofChar 'U' :: Text.ofString "nknown status: " := by decide
  intro hsame
  simp only [namedMessage, unknownMessage, hexByte, Text.concat, List.flatten_cons, hunknown,
    List.append_assoc, List.append_cancel_left_eq, hzero, hletter, List.cons_append] at hsame
  exact absurd (List.cons.inj hsame).1 (by decide)

end Shapes

/-- A message tells one result only. -/
theorem Tells.unique {program message : Text} {a b : Int} (ha : 0 ≤ a) (hb : 0 ≤ b)
    (htells : Tells program a message) (hother : Tells program b message) : a = b := by
  generalize hmessage : message = message' at hother
  cases htells with
  | named hname =>
      cases hother with
      | named _ => exact namedMessage_inj ha hb hmessage
      | hardware =>
          have hline := newline_mem_hardwareMessage program b
          rw [← hmessage] at hline
          exact absurd hline (newline_not_mem_namedMessage (of_statusName?_eq_some hname).2 a)
      | unknown => exact absurd hmessage (namedMessage_ne_unknownMessage a b _)
  | hardware =>
      have hline := newline_mem_hardwareMessage program a
      cases hother with
      | named hname =>
          rw [hmessage] at hline
          exact absurd hline (newline_not_mem_namedMessage (of_statusName?_eq_some hname).2 b)
      | hardware => exact hardwareMessage_inj hmessage
      | unknown =>
          rw [hmessage] at hline
          exact absurd hline (newline_not_mem_unknownMessage b)
  | unknown =>
      cases hother with
      | named _ => exact absurd hmessage.symm (namedMessage_ne_unknownMessage b a _)
      | hardware =>
          have hline := newline_mem_hardwareMessage program b
          rw [← hmessage] at hline
          exact absurd hline (newline_not_mem_unknownMessage a)
      | unknown => exact unknownMessage_inj hmessage

/-- Only success is no error, and only if no driver error hides it. -/
theorem severity_of_standard {config : StatusConfig} {result : Int} {d : Diagnostic}
    (hd : standard config result = .ok d) :
    d.severity =
      if result = 0 ∧ config.driverError ≠ 4 ∧ config.driverError ≠ 5 then .info else .error := by
  simp only [← driverErrorName?_eq_none_iff]
  unfold standard at hd
  split at hd
  next hnegative =>
    obtain rfl := Except.ok.inj hd
    rw [if_neg (by omega)]
  next =>
    split at hd
    next => cases hd
    next =>
      cases hhidden : driverErrorName? config.driverError with
      | some name =>
          rw [hhidden] at hd
          obtain rfl := Except.ok.inj hd
          simp
      | none =>
          rw [hhidden] at hd
          cases hname : statusName? result with
          | some name =>
              rw [hname] at hd
              obtain rfl := Except.ok.inj hd
              simp
          | none =>
              rw [hname] at hd
              -- zero has a name
              have hzero : result ≠ 0 := by
                rintro rfl
                cases hname
              simp only [hzero, false_and, if_false]
              dsimp only at hd
              split at hd
              next =>
                obtain rfl := Except.ok.inj hd
                rfl
              next =>
                obtain ⟨-, rfl⟩ := unknown_eq_ok_iff.1 hd
                rfl

end Diagnostic

namespace StatusConfig

/-- A result has a diagnostic in the vocabulary of the storage protocol: it is an error of the
system, or the driver error can be looked up, and hides the result or leaves one the number of which
can be written. -/
def Decodes (config : StatusConfig) (result : Int) : Prop :=
  result < 0 ∨ config.errorIsKey = true ∧
    (config.driverError = 4 ∨ config.driverError = 5 ∨
      result < (10 ^ Text.longestNumeral : Nat))

theorem exists_standard_iff {config : StatusConfig} {result : Int} :
    (∃ d, Diagnostic.standard config result = .ok d) ↔ config.Decodes result := by
  have hwords : 0xFFFF < 10 ^ Text.longestNumeral := Text.lt_pow_longestNumeral (by decide)
  have hwritable := Text.isWritable_iff result
  have hshown := Diagnostic.driverErrorName?_eq_none_iff config.driverError
  unfold Diagnostic.standard Decodes
  generalize 10 ^ Text.longestNumeral = limit at hwords hwritable ⊢
  split
  next hnegative => exact iff_of_true ⟨_, rfl⟩ (.inl hnegative)
  next hresult =>
    cases hkey : config.errorIsKey with
    | false => simp [hresult]
    | true =>
        simp only [Bool.not_true, Bool.false_eq_true, if_false, hresult, false_or, true_and]
        cases hhidden : Diagnostic.driverErrorName? config.driverError with
        | some name =>
            have hhides : ¬ (config.driverError ≠ 4 ∧ config.driverError ≠ 5) := by
              rw [← hshown, hhidden]
              nofun
            exact iff_of_true ⟨_, rfl⟩ (by omega)
        | none =>
            obtain ⟨hfour, hfive⟩ := hshown.1 hhidden
            simp only [hfour, hfive, false_or]
            cases hname : Diagnostic.statusName? result with
            | some name =>
                have hsmall := (Diagnostic.of_statusName?_eq_some hname).1
                rw [Diagnostic.lastStatus] at hsmall
                exact iff_of_true ⟨_, rfl⟩ (by omega)
            | none =>
                dsimp only
                split
                next hword => exact iff_of_true ⟨_, rfl⟩ (by omega)
                next =>
                  simp only [Diagnostic.unknown_eq_ok_iff, exists_and_left, exists_eq, and_true,
                    hwritable]
                  omega

/-- In either vocabulary a result is decoded that can be written, if the driver error can be looked
up. -/
theorem exists_decode_eq_ok {config : StatusConfig} (hkey : config.errorIsKey = true) {result : Int}
    (hwritable : Text.isWritable result = true) : ∃ found, config.decode result = .ok found := by
  unfold decode
  cases config.mode with
  | kmip => exact ⟨_, rfl⟩
  | standard =>
      rw [Text.isWritable_iff] at hwritable
      have hdecodes : config.Decodes result := .inr ⟨hkey, .inr (.inr (by omega))⟩
      obtain ⟨d, hd⟩ := exists_standard_iff.2 hdecodes
      exact ⟨some d, by rw [hd]; rfl⟩

theorem decode_standard {config : StatusConfig} (hstandard : config.mode = .standard)
    (result : Int) : config.decode result = some <$> Diagnostic.standard config result := by
  rw [decode, hstandard]

theorem standard_of_decode {config : StatusConfig} (hstandard : config.mode = .standard)
    {result : Int} {found : Option Diagnostic} (hdecode : config.decode result = .ok found) :
    ∃ d, found = some d ∧ Diagnostic.standard config result = .ok d := by
  rw [decode_standard hstandard] at hdecode
  cases hd : Diagnostic.standard config result with
  | error failure =>
      rw [hd] at hdecode
      cases hdecode
  | ok d =>
      rw [hd] at hdecode
      exact ⟨d, (Except.ok.inj hdecode).symm, rfl⟩

/-- A result with more digits than a numeral may have is not decoded. -/
theorem decode_of_le {config : StatusConfig} (hstandard : config.mode = .standard)
    (hkey : config.errorIsKey = true)
    (hshown : Diagnostic.driverErrorName? config.driverError = none) {n : Nat}
    (hlong : 10 ^ Text.longestNumeral ≤ n) : config.decode n = .error .numeralTooLong := by
  have hlast : 0xFFFF < n :=
    Nat.lt_of_lt_of_le (Text.lt_pow_longestNumeral (by decide)) hlong
  have hunwritten := Text.ofNumber_of_le (n := (n : Int)) hlong
  have hunnamed : Diagnostic.statusName? n = none := by
    rw [Diagnostic.statusName?, Diagnostic.lastStatus, if_pos (.inr (by omega))]
  have hnoWord : ¬ ((n : Int) ≤ 0xFFFF ∧ config.driverError ≠ 0) := fun hword => by omega
  rw [decode_standard hstandard, Diagnostic.standard, if_neg (by omega), hkey, hshown, hunnamed]
  dsimp only
  rw [if_neg hnoWord, hunwritten]
  rfl

/-- In the vocabulary of the storage protocol a result is decoded if it is negative, or if the
driver error can be looked up and either hides the result or leaves one with no more digits than a
numeral may have; otherwise decoding fails. There is a diagnostic for every result that is decoded,
and it is an error unless the result is zero and the driver error is neither of the two that hide
it. If it is neither of them, decoded results from zero on differ in their messages, whatever the
program label is and whether or not the driver reported a hardware word. -/
theorem decode_identifies (config : StatusConfig) (hstandard : config.mode = .standard) :
    (∀ result, (∃ found, config.decode result = .ok found) ↔ config.Decodes result) ∧
    (∀ result found, config.decode result = .ok found → ∃ d, found = some d ∧
      (d.severity = .info ↔ result = 0 ∧ config.driverError ≠ 4 ∧ config.driverError ≠ 5) ∧
      (d.severity ≠ .info → d.severity = .error)) ∧
    (config.driverError ≠ 4 → config.driverError ≠ 5 →
      ∀ (a b : Int) (d e : Diagnostic), 0 ≤ a → 0 ≤ b → a ≠ b →
        config.decode a = .ok (some d) → config.decode b = .ok (some e) →
          d.message ≠ e.message) := by
  refine ⟨fun result => ?_, fun result found hdecode => ?_,
    fun hfour hfive a b d e ha hb hne hd he hsame => ?_⟩
  · rw [← exists_standard_iff, decode_standard hstandard]
    constructor
    · rintro ⟨found, hfound⟩
      rw [← decode_standard hstandard] at hfound
      obtain ⟨d, -, hd⟩ := standard_of_decode hstandard hfound
      exact ⟨d, hd⟩
    · rintro ⟨d, hd⟩
      rw [hd]
      exact ⟨some d, rfl⟩
  · obtain ⟨d, rfl, hd⟩ := standard_of_decode hstandard hdecode
    refine ⟨d, rfl, ?_⟩
    rw [Diagnostic.severity_of_standard hd]
    split
    next hinfo => exact ⟨iff_of_true rfl hinfo, fun hne => absurd rfl hne⟩
    next herror => exact ⟨iff_of_false (by decide) herror, fun _ => rfl⟩
  · have hshown := (Diagnostic.driverErrorName?_eq_none_iff _).2 ⟨hfour, hfive⟩
    obtain ⟨_, hsome, hd⟩ := standard_of_decode hstandard hd
    obtain rfl := Option.some.inj hsome
    obtain ⟨_, hsome, he⟩ := standard_of_decode hstandard he
    obtain rfl := Option.some.inj hsome
    have htells := Diagnostic.standard_tells ha hshown hd
    rw [hsame] at htells
    exact hne (htells.unique ha hb (Diagnostic.standard_tells hb hshown he))

end StatusConfig

namespace Sample

/-- A driver has reported a hardware word to a program the label of which begins other messages. -/
def reporting : StatusConfig := { driverError := 1, program := "status" }

/-- One more than the greatest hardware word is told apart from that word, which is the error it is
said to be. -/
theorem words_told_apart :
    ∃ d e, reporting.decode 0xFFFF = .ok (some d) ∧ reporting.decode 0x10000 = .ok (some e) ∧
      d.message ≠ e.message ∧ d.severity = .error := by
  obtain ⟨hdecodes, hsevere, hapart⟩ := reporting.decode_identifies rfl
  have hlimit : 0x10000 < 10 ^ Text.longestNumeral := Text.lt_pow_longestNumeral (by decide)
  obtain ⟨found, hd⟩ := (hdecodes 0xFFFF).2 (.inr ⟨rfl, .inr (.inr (by omega))⟩)
  obtain ⟨other, he⟩ := (hdecodes 0x10000).2 (.inr ⟨rfl, .inr (.inr (by omega))⟩)
  obtain ⟨d, rfl, hinfo, herror⟩ := hsevere _ _ hd
  obtain ⟨e, rfl, -⟩ := hsevere _ _ he
  have hgrave : d.severity ≠ .info := fun hseverity => by
    have hzero := (hinfo.1 hseverity).1
    omega
  exact ⟨d, e, hd, he,
    hapart (by decide) (by decide) _ _ d e (by decide) (by decide) (by decide) hd he,
    herror hgrave⟩

/-- A result with one digit too many is not decoded, and neither is success where the driver error
cannot be looked up. -/
theorem results_undecoded :
    (({} : StatusConfig).decode ((10 ^ Text.longestNumeral : Nat) : Int) =
      .error .numeralTooLong) ∧
    ({ errorIsKey := false } : StatusConfig).decode 0 = .error .notKey :=
  ⟨StatusConfig.decode_of_le rfl rfl rfl (Nat.le_refl _), rfl⟩

end Sample

end CommandDispatch
