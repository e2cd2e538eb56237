import CommandDispatch.Proofs.Dispatch.Selecting
import CommandDispatch.Proofs.Extraction.Shadowing
import CommandDispatch.Proofs.Extraction.Walking
import CommandDispatch.Proofs.Spec.Redeclaring

/-! # The spellings of a switch

A constructed switch has a long name that begins with a letter, unless it is the second name of a
command, and perhaps a letter for a short name. Two dashes before the one and a dash before the
other are the texts that select it, and no others do, unless a long name goes on behind what is
compared. Both are options wherever they stand: no option takes them for values, and neither
extraction nor resolution finds fault with their form.
-/

namespace CommandDispatch

open Declaration Extraction

/-! ## Classes of texts -/

/-- A text of a class, with what it must look like. Anything else is malformed. -/
inductive Token.Spells : Text → Token → Prop
  | short {letter : CodePoint} (hletter : letter.isAsciiLetter = true) :
      Spells [CodePoint.dash, letter] (.short letter)
  | long {first : CodePoint} (hletter : first.isAsciiLetter = true) (rest : Text) :
      Spells (CodePoint.dash :: CodePoint.dash :: first :: rest) (.long (first :: rest))

theorem Token.Spells.ofText_eq {t : Text} {token : Token} (hspells : Spells t token) :
    ofText t = token := by
  have hdash : CodePoint.dash.isAsciiLetter = false := by decide
  cases hspells with
  | short hletter => simp [ofText, hletter]
  | long hletter rest => simp [ofText, hletter, hdash]

/-- A text is what its class says, unless it is malformed. -/
theorem Token.spells_of_ofText_eq {t : Text} {token : Token} (htoken : ofText t = token)
    (hoption : token ≠ .malformed) : Spells t token := by
  have hnot : Token.malformed ≠ token := hoption.symm
  unfold ofText at htoken
  split at htoken
  next first second rest =>
    split at htoken
    next => exact absurd htoken hnot
    next hfirst =>
      obtain rfl : first = CodePoint.dash := Classical.not_not.1 hfirst
      split at htoken
      next hletter =>
        split at htoken
        next hrest =>
          subst hrest htoken
          exact .short hletter
        next => exact absurd htoken hnot
      next =>
        split at htoken
        next => exact absurd htoken hnot
        next hsecond =>
          obtain rfl : second = CodePoint.dash := Classical.not_not.1 hsecond
          split at htoken
          next third tail =>
            split at htoken
            next hletter =>
              subst htoken
              exact .long hletter tail
            next => exact absurd htoken hnot
          next => exact absurd htoken hnot
  next => exact absurd htoken hnot

/-! ## Words that are options -/

namespace Extraction

variable {schema : List OptionSpec} {words : List Value}

/-- Counting values does not get past an option. -/
theorem countValues_append_cons_le {word : Value} (hword : isOption word = true)
    (before behind : List Value) : countValues (before ++ word :: behind) ≤ before.length := by
  induction before with
  | nil => simp [countValues_cons, hword]
  | cons first before ih =>
      rw [List.cons_append, countValues_cons, List.length_cons]
      split <;> omega

/-- No option is delivered as a value. -/
theorem isOption_of_mem_deliveries {d : Delivery} {value : Value}
    (hd : d ∈ (plan schema words).deliveries) (hvalue : value ∈ d.values) :
    isOption value = false := by
  obtain ⟨groups, _, hwalk, hdeliveries, -⟩ := exists_walks_plan schema words
  have hmem := List.mem_map_of_mem (f := some) hd
  rw [hdeliveries, List.mem_map] at hmem
  obtain ⟨g, hg, hdelivery⟩ := hmem
  obtain ⟨o, hfits⟩ := hwalk.fits g hg
  rw [Group.delivery?, hfits.selects] at hdelivery
  obtain rfl := Option.some.inj hdelivery
  exact hfits.values value hvalue

/-- Only words that are no options are refused for their format. -/
theorem isOption_of_stop_eq_invalidFormat {word : Value}
    (hstop : (plan schema words).stop = some (invalidFormat word)) : isOption word = false := by
  obtain ⟨_, _, -, -, hblocks⟩ := exists_walks_plan schema words
  obtain ⟨head, behind, -, hblock⟩ := hblocks _ hstop
  generalize hfault : invalidFormat word = f at hblock
  cases hblock with
  | stray hhead =>
      obtain rfl : word = head := Option.some.inj (congrArg Fault.token hfault)
      exact hhead
  | unknown => cases congrArg Fault.code hfault
  | miscounted => cases congrArg Fault.code hfault

end Extraction

/-- A word that is taken for an option wherever it stands: it ends the values of the option before
it, it is delivered as a value to none, and it is not the word that extraction refuses for its
format. -/
structure StandsAsOption (word : Value) : Prop where
  isOption : isOption word = true
  ends : ∀ before behind, countValues (before ++ word :: behind) ≤ before.length
  undelivered : ∀ schema words, ∀ d ∈ (plan schema words).deliveries, word ∉ d.values
  wellFormed : ∀ schema words, (plan schema words).stop ≠ some (invalidFormat word)

theorem StandsAsOption.of_isOption {word : Value} (hword : CommandDispatch.isOption word = true) :
    StandsAsOption word where
  isOption := hword
  ends := countValues_append_cons_le hword
  undelivered _ _ _ hd hmem := by cases hword.symm.trans (isOption_of_mem_deliveries hd hmem)
  wellFormed _ _ hstop := by cases hword.symm.trans (isOption_of_stop_eq_invalidFormat hstop)

/-! ## Constructed switches -/

/-- The switch of a spec; an entry has none, as it is selected by a bare name. -/
def Spec.switch? : Spec → Option Switch
  | .option o => some o.toSwitch
  | .entry _ => none
  | .scope n => some n.toSwitch
  | .command c => some c.toSwitch

namespace Switch

/-- The long name begins with an ASCII letter. -/
def BeginsWithLetter (switch : Switch) : Prop :=
  ∃ first rest, switch.longName = first :: rest ∧ first.isAsciiLetter = true

/-- The short name is an ASCII letter, if there is one. -/
def HasLetter (switch : Switch) : Prop :=
  ∀ name, switch.shortName = some name → ∃ letter, name = [letter] ∧ letter.isAsciiLetter = true

variable {switch : Switch}

theorem IsSettled.beginsWithLetter (hsettled : switch.IsSettled) : switch.BeginsWithLetter := by
  have hname := hsettled.longName.isName
  cases hlong : switch.longName with
  | nil =>
      rw [hlong] at hname
      cases hname
  | cons first rest =>
      rw [hlong] at hname
      exact ⟨first, rest, hlong, (Bool.and_eq_true_iff.1 hname).1⟩

theorem IsSettled.hasLetter (hsettled : switch.IsSettled) : switch.HasLetter := by
  intro name hshort
  have hname := hsettled.shortName name hshort
  match name with
  | [letter] => exact ⟨letter, rfl, hname⟩

/-- The names of a declared switch are settled. -/
theorem isSettled_of_declare {kind : SpecKind} {fields : Fields} {s : Spec}
    (hdeclare : Spec.declare kind fields = .ok s) (hswitch : s.switch? = some switch) :
    switch.IsSettled := by
  have hsettled := Spec.isSettled_of_declare hdeclare
  cases s with
  | option o =>
      obtain rfl := Option.some.inj hswitch
      exact OptionSpec.IsSettled.switch hsettled
  | entry e => cases hswitch
  | scope n =>
      obtain rfl := Option.some.inj hswitch
      exact Namespace.IsSettled.switch hsettled
  | command c =>
      obtain rfl := Option.some.inj hswitch
      exact Command.IsSettled.switch hsettled

/-- A second name changes nothing but the long name. -/
theorem exists_of_switch?_renamed {s : Spec} {secondName : Option Value}
    (hswitch : (s.renamed secondName).switch? = some switch) :
    ∃ first, s.switch? = some first ∧ first.shortName = switch.shortName ∧
      (secondName = none → first = switch) := by
  cases s with
  | command c =>
      refine ⟨c.toSwitch, rfl, ?_, ?_⟩
      · rcases secondName with _ | _ | _ <;> cases hswitch <;> rfl
      · rintro rfl
        exact Option.some.inj hswitch
  | option | entry | scope => exact ⟨switch, hswitch, rfl, fun _ => rfl⟩

section Constructed

variable {kind : SpecKind} {fields : Fields} {secondName : Option Value} {r : SpecRecord}

theorem hasLetter_of_construct
    (hconstruct : SpecRecord.construct kind fields secondName = .ok r)
    (hswitch : r.spec.switch? = some switch) : switch.HasLetter := by
  obtain ⟨-, s, hdeclare, rfl⟩ := SpecRecord.construct_eq_ok_iff.1 hconstruct
  have hrenamed : (s.renamed secondName).switch? = some switch := hswitch
  obtain ⟨first, hfirst, hshort, -⟩ := exists_of_switch?_renamed hrenamed
  have hletter := (isSettled_of_declare hdeclare hfirst).hasLetter
  rwa [HasLetter, hshort] at hletter

/-- Only a second name can begin with something else. -/
theorem beginsWithLetter_of_construct (hconstruct : SpecRecord.construct kind fields none = .ok r)
    (hswitch : r.spec.switch? = some switch) : switch.BeginsWithLetter := by
  obtain ⟨-, s, hdeclare, rfl⟩ := SpecRecord.construct_eq_ok_iff.1 hconstruct
  have hrenamed : (s.renamed none).switch? = some switch := hswitch
  obtain ⟨_, hfirst, -, hsame⟩ := exists_of_switch?_renamed hrenamed
  obtain rfl := hsame rfl
  exact (isSettled_of_declare hdeclare hfirst).beginsWithLetter

end Constructed

/-- The texts that select a switch: a dash before its short name, and two dashes before a name that
begins with a letter and agrees with its long name as far as names are compared. -/
theorem HasLetter.selectedBy_text_iff (hshort : switch.HasLetter) (t : Text) :
    switch.selectedBy (.text t) = true ↔
      (∃ name, switch.shortName = some name ∧ t = CodePoint.dash :: name) ∨
        ∃ first rest, first.isAsciiLetter = true ∧
          t = CodePoint.dash :: CodePoint.dash :: first :: rest ∧
          sameName (first :: rest) switch.longName = true := by
  constructor
  · intro hselects
    unfold selectedBy Token.ofWord at hselects
    split at hselects
    next letter hclass =>
      rw [decide_eq_true_eq] at hselects
      cases Token.spells_of_ofText_eq hclass nofun with
      | short => exact .inl ⟨_, hselects, rfl⟩
    next name hclass =>
      cases Token.spells_of_ofText_eq hclass nofun with
      | long hletter rest => exact .inr ⟨_, rest, hletter, rfl, hselects⟩
    next => cases hselects
  · rintro (⟨name, hname, rfl⟩ | ⟨first, rest, hletter, rfl, hsame⟩)
    · obtain ⟨letter, rfl, hletter⟩ := hshort name hname
      simp only [selectedBy, Token.ofWord, (Token.Spells.short hletter).ofText_eq, hname,
        decide_true]
    · simp only [selectedBy, Token.ofWord, (Token.Spells.long hletter rest).ofText_eq, hsame]

/-- What agrees with a long name that begins with a letter begins with that letter. -/
theorem BeginsWithLetter.of_sameName (hlong : switch.BeginsWithLetter) {name : Text}
    (hsame : sameName name switch.longName = true) :
    ∃ first rest, first.isAsciiLetter = true ∧ name = first :: rest := by
  obtain ⟨first, rest, hname, hletter⟩ := hlong
  rw [sameName, decide_eq_true_eq, hname, comparedLength, List.take_succ_cons] at hsame
  cases name with
  | nil => cases hsame
  | cons c tail =>
      obtain ⟨rfl, -⟩ := List.cons.inj hsame
      exact ⟨c, tail, hletter, rfl⟩

/-- If the long name begins with a letter, that it does need not be said of what agrees with it. -/
theorem BeginsWithLetter.selectedBy_text_iff (hlong : switch.BeginsWithLetter)
    (hshort : switch.HasLetter) (t : Text) :
    switch.selectedBy (.text t) = true ↔
      (∃ name, switch.shortName = some name ∧ t = CodePoint.dash :: name) ∨
        ∃ name, t = CodePoint.dash :: CodePoint.dash :: name ∧
          sameName name switch.longName = true := by
  rw [hshort.selectedBy_text_iff]
  refine or_congr_right ⟨?_, ?_⟩
  · rintro ⟨first, rest, -, rfl, hsame⟩
    exact ⟨first :: rest, rfl, hsame⟩
  · rintro ⟨name, rfl, hsame⟩
    obtain ⟨first, rest, hletter, rfl⟩ := hlong.of_sameName hsame
    exact ⟨first, rest, hletter, rfl, hsame⟩

theorem sameName_comm (s t : Text) : sameName s t = sameName t s := by
  simp only [sameName, eq_comm]

/-- The spelling of a switch by its short name, if it has one. -/
def shortSpelling? (switch : Switch) : Option Value :=
  switch.shortName.map fun name => .text (CodePoint.dash :: name)

/-- The texts that spell a switch. -/
def spellings (switch : Switch) : List Value :=
  switch.longSpelling :: switch.shortSpelling?.toList

theorem mem_spellings_iff {switch : Switch} {word : Value} :
    word ∈ switch.spellings ↔
      (∃ name, switch.shortName = some name ∧ word = .text (CodePoint.dash :: name)) ∨
        word = .text (CodePoint.dash :: CodePoint.dash :: switch.longName) := by
  rw [spellings, List.mem_cons, Option.mem_toList, or_comm, longSpelling, shortSpelling?,
    Option.map_eq_some_iff]
  simp only [eq_comm]

/-- A switch is selected by each of its spellings. -/
theorem BeginsWithLetter.selectedBy_of_mem_spellings (hlong : switch.BeginsWithLetter)
    (hshort : switch.HasLetter) {word : Value} (hword : word ∈ switch.spellings) :
    switch.selectedBy word = true := by
  rcases mem_spellings_iff.1 hword with ⟨name, hname, rfl⟩ | rfl
  · exact (hlong.selectedBy_text_iff hshort _).2 (.inl ⟨name, hname, rfl⟩)
  · exact (hlong.selectedBy_text_iff hshort _).2 (.inr ⟨_, rfl, sameName_self _⟩)

/-- A constructed switch is selected by a dash before its short name, and by two dashes before a
name that begins with a letter and agrees with its long name in the first 255 code points. A long
name begins with a letter itself unless it is the second name of a command. If it does, all names
that agree with it select the switch; if it is shorter than that, the switch is selected by nothing
but its spellings as they are, in full and in their own case. Each spelling then is an option
wherever it stands, and a command of the table is always resolved by it, to the first command that
has it. -/
theorem selectedBy_iff_spelling {kind : SpecKind} {fields : Fields} {secondName : Option Text}
    {r : SpecRecord}
    (hconstruct : SpecRecord.construct kind fields (secondName.map .text) = .ok r)
    (hswitch : r.spec.switch? = some switch) :
    (∀ t : Text, switch.selectedBy (.text t) = true ↔
      (∃ name, switch.shortName = some name ∧ t = CodePoint.dash :: name) ∨
        ∃ first rest, first.isAsciiLetter = true ∧
          t = CodePoint.dash :: CodePoint.dash :: first :: rest ∧
          (first :: rest).take 255 = switch.longName.take 255) ∧
    (secondName = none → switch.BeginsWithLetter) ∧
    (switch.BeginsWithLetter →
      (∀ t : Text, switch.selectedBy (.text t) = true ↔
        (∃ name, switch.shortName = some name ∧ t = CodePoint.dash :: name) ∨
          ∃ name, t = CodePoint.dash :: CodePoint.dash :: name ∧
            name.take 255 = switch.longName.take 255) ∧
      (switch.longName.length < 255 →
        ∀ t : Text, switch.selectedBy (.text t) = true ↔ .text t ∈ switch.spellings) ∧
      (∀ word ∈ switch.spellings, StandsAsOption word) ∧
      ∀ word ∈ switch.spellings, ∀ app : App, (∃ c ∈ app.commands, c.toSwitch = switch) →
        ∃ position first, App.find? app.commands word = some (position, first) ∧
          ∀ program rest, app.resolve (program :: word :: rest) =
            app.resolveCommand position first word rest) := by
  have hshort := hasLetter_of_construct hconstruct hswitch
  refine ⟨fun t => ?_, ?_, fun hlong => ⟨fun t => ?_, fun hlength t => ?_, fun word hword => ?_,
    fun word hword app happ => ?_⟩⟩
  · have hselects := hshort.selectedBy_text_iff t
    simp only [sameName, decide_eq_true_eq] at hselects
    exact hselects
  · rintro rfl
    exact beginsWithLetter_of_construct hconstruct hswitch
  · have hselects := hlong.selectedBy_text_iff hshort t
    simp only [sameName, decide_eq_true_eq] at hselects
    exact hselects
  · rw [hlong.selectedBy_text_iff hshort, mem_spellings_iff]
    refine or_congr (by simp only [Value.text.injEq]) ⟨?_, fun htext => ?_⟩
    · rintro ⟨name, rfl, hsame⟩
      rw [sameName_comm] at hsame
      rw [eq_of_sameName hsame hlength]
    · exact ⟨_, Value.text.inj htext, sameName_self _⟩
  · exact .of_isOption (isOption_of_selectedBy (hlong.selectedBy_of_mem_spellings hshort hword))
  · obtain ⟨c, hc, rfl⟩ := happ
    cases hfind : App.find? app.commands word with
    | none =>
        have hnone := App.find?_eq_none_iff.1 hfind c hc
        cases hnone.symm.trans (hlong.selectedBy_of_mem_spellings hshort hword)
    | some found =>
        obtain ⟨position, first⟩ := found
        exact ⟨position, first, rfl, fun program rest => app.resolve_of_find? hfind program rest⟩

end Switch

namespace Sample

/-- The fields of a declaration of the required option. -/
def fileFields : Fields :=
  [("long_name", .text "\tfile "), ("short_name", .text "f"), ("metavar", .text "FILE"),
    ("flags", .int 1), ("max_occurrences", .int 1), ("max_values", .int 2)]

/-- An option that was declared with blanks around its name is selected by the name without them,
and by none of the texts that resemble it. -/
theorem file_selected :
    SpecRecord.construct .option fileFields none = .ok (.ofSpec (.option file)) ∧
    file.toSwitch.selectedBy (.text "--file") = true ∧
    file.toSwitch.selectedBy (.text "-f") = true ∧
    file.toSwitch.selectedBy (.text "--fil") = false ∧
    file.toSwitch.selectedBy (.text "--File") = false ∧
    file.toSwitch.selectedBy (.text "--file=a") = false ∧
    countValues [.text "a", .text "-f", .text "b"] ≤ 1 := by
  have hconstruct : SpecRecord.construct .option fileFields (Option.map .text none) =
      .ok (.ofSpec (.option file)) := rfl
  obtain ⟨-, hbegins, hspells⟩ := Switch.selectedBy_iff_spelling hconstruct rfl
  obtain ⟨-, hshort, hstands, -⟩ := hspells (hbegins rfl)
  have hspelled (t : Text) :
      file.toSwitch.selectedBy (.text t) = true ↔ t = "-f" ∨ t = "--file" := by
    rw [hshort (by decide), Switch.mem_spellings_iff]
    simp only [Value.text.injEq]
    exact or_congr ⟨fun ⟨_, hname, ht⟩ => ht.trans (Option.some.inj hname ▸ rfl),
      fun ht => ⟨_, rfl, ht⟩⟩ Iff.rfl
  have hother (t : Text) (hne : ¬ (t = "-f" ∨ t = "--file")) :
      file.toSwitch.selectedBy (.text t) = false :=
    Bool.eq_false_iff.2 fun hselects => hne ((hspelled t).1 hselects)
  have hmem : Value.text "-f" ∈ file.toSwitch.spellings :=
    Switch.mem_spellings_iff.2 (.inl ⟨_, rfl, rfl⟩)
  exact ⟨hconstruct, (hspelled _).2 (.inr rfl), (hspelled _).2 (.inl rfl), hother _ (by decide),
    hother _ (by decide), hother _ (by decide), (hstands _ hmem).ends [.text "a"] [.text "b"]⟩

/-- A command with a second name that begins with a digit is not selected by its spelling, which is
no option. -/
theorem digit_unselected :
    ∃ r c, SpecRecord.construct .plainCommand (copyFields (.callback ⟨0, "copy"⟩))
        (some (.text "5x")) = .ok r ∧
      r.spec = .command c ∧ c.longSpelling = .text "--5x" ∧
      c.toSwitch.selectedBy c.longSpelling = false ∧ isOption c.longSpelling = false :=
  ⟨_, _, rfl, rfl, rfl, rfl, rfl⟩

end Sample

end CommandDispatch
