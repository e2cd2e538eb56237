import CommandDispatch.Extraction

/-! # The grammar of options

The words behind a command are a sentence when they are groups one after the other: an option of the
schema and the values it takes. Splitting at the options undoes putting groups together, so a
sentence has one reading, and planning succeeds exactly on sentences.
-/

namespace CommandDispatch.Extraction

/-- A group that a schema admits for one of its options. A flag takes no values; an option with a
limit takes at most that many, and at least one if it is required or its value may be left out. -/
structure Group.Fits (schema : List OptionSpec) (g : Group) (o : OptionSpec) : Prop where
  isOption : isOption g.switch = true
  selects : find? schema g.switch = some o
  values : ∀ value ∈ g.values, CommandDispatch.isOption value = false
  flag : o.metavar = none → g.values = []
  most : o.metavar ≠ none → o.maxValues ≠ 0 → g.values.length ≤ o.maxValues
  least : o.metavar ≠ none → o.maxValues ≠ 0 → o.required = true ∨ o.optional = true →
    1 ≤ g.values.length

/-- Groups that the words are put together from, each admitted by the schema. -/
structure Reads (schema : List OptionSpec) (words : List Value) (groups : List Group) : Prop where
  words_eq : words = groups.flatMap Group.words
  fits : ∀ g ∈ groups, ∃ o, g.Fits schema o

/-- Every required option occurs, and none with a limit occurs more often than that. -/
def KeepsLimits (schema : List OptionSpec) (words : List Value) : Prop :=
  ∀ o ∈ schema,
    (o.required = true → ∃ word ∈ words, o.toSwitch.selectedBy word = true) ∧
    (o.maxOccurrences ≠ 0 → words.countP o.toSwitch.selectedBy ≤ o.maxOccurrences)

/-- What a group delivers: the first option that its switch selects, and its values. -/
def Group.delivery? (schema : List OptionSpec) (g : Group) : Option Delivery :=
  (find? schema g.switch).map fun o => ⟨o, g.values⟩

theorem occurrenceFault?_eq_none_iff (words : List Value) (o : OptionSpec) :
    occurrenceFault? words o = none ↔
      (o.required = true → ∃ word ∈ words, o.toSwitch.selectedBy word = true) ∧
      (o.maxOccurrences ≠ 0 → words.countP o.toSwitch.selectedBy ≤ o.maxOccurrences) := by
  have hpresent : (∃ word ∈ words, o.toSwitch.selectedBy word = true) ↔
      occurrences o words ≠ 0 := by
    rw [← Nat.pos_iff_ne_zero, occurrences, List.countP_pos_iff]
  rw [hpresent]
  unfold occurrenceFault?
  split
  next hmissing =>
    simp only [Bool.and_eq_true, decide_eq_true_eq] at hmissing
    exact ⟨fun hnone => (by cases hnone), fun hkept => absurd hmissing.2 (hkept.1 hmissing.1)⟩
  next hmissing =>
    simp only [Bool.and_eq_true, decide_eq_true_eq, not_and] at hmissing
    split
    next hrepeated =>
      simp only [Bool.and_eq_true, decide_eq_true_eq] at hrepeated
      refine ⟨fun hnone => ?_, fun hkept => ?_⟩
      · cases hnone
      · exact absurd (hkept.2 hrepeated.1) (Nat.not_le.2 hrepeated.2)
    next hrepeated =>
      simp only [Bool.and_eq_true, decide_eq_true_eq, not_and, Nat.not_lt] at hrepeated
      exact ⟨fun _ => ⟨hmissing, hrepeated⟩, fun _ => rfl⟩

/-- The audit passes exactly the words that keep the limits of all options. -/
theorem audit_eq_none_iff (schema : List OptionSpec) (words : List Value) :
    audit schema words = none ↔ KeepsLimits schema words := by
  unfold audit KeepsLimits
  rw [List.findSome?_eq_none_iff]
  exact forall₂_congr fun o _ => occurrenceFault?_eq_none_iff words o

/-- Values before groups are split off as they are. -/
theorem split_append {values words : List Value}
    (hvalues : ∀ value ∈ values, isOption value = false) :
    split (values ++ words) = (values ++ (split words).1, (split words).2) := by
  induction values with
  | nil => rfl
  | cons value rest ih =>
      have hrest := ih fun other hother => hvalues other (List.mem_cons_of_mem _ hother)
      simp only [List.cons_append, split, hrest, hvalues value List.mem_cons_self]
      simp

/-- Splitting undoes putting groups together. -/
theorem split_flatMap_words {groups : List Group}
    (hled : ∀ g ∈ groups, isOption g.switch = true)
    (hvalues : ∀ g ∈ groups, ∀ value ∈ g.values, isOption value = false) :
    split (groups.flatMap Group.words) = ([], groups) := by
  induction groups with
  | nil => rfl
  | cons g rest ih =>
      have hrest := ih (fun other hother => hled other (List.mem_cons_of_mem _ hother))
        fun other hother => hvalues other (List.mem_cons_of_mem _ hother)
      simp only [List.flatMap_cons, Group.words, List.cons_append, split]
      rw [split_append (hvalues g List.mem_cons_self), hrest]
      simp [hled g List.mem_cons_self]

theorem Reads.split_eq {schema : List OptionSpec} {words : List Value} {groups : List Group}
    (hreads : Reads schema words groups) : split words = ([], groups) := by
  rw [hreads.words_eq]
  apply split_flatMap_words
  · intro g hg
    obtain ⟨o, hfits⟩ := hreads.fits g hg
    exact hfits.isOption
  · intro g hg
    obtain ⟨o, hfits⟩ := hreads.fits g hg
    exact hfits.values

/-- A sentence has one reading. -/
theorem Reads.unique {schema : List OptionSpec} {words : List Value}
    {groups others : List Group} (hreads : Reads schema words groups)
    (hothers : Reads schema words others) : others = groups :=
  (Prod.mk.inj (hothers.split_eq.symm.trans hreads.split_eq)).2

theorem refusesCount_eq_false_iff (o : OptionSpec) (count : Nat) :
    refusesCount o count = false ↔
      (o.maxValues ≠ 0 → count ≤ o.maxValues) ∧
      (o.maxValues ≠ 0 → o.required = true ∨ o.optional = true → 1 ≤ count) := by
  unfold refusesCount
  by_cases hlimit : o.maxValues = 0
  · simp [hlimit]
  · by_cases hneeded : o.required = true ∨ o.optional = true
    · have hflag : (o.required || o.optional) = true := by simpa using hneeded
      simp [hlimit, hneeded, hflag]
      omega
    · have hflag : (o.required || o.optional) = false := by simpa using hneeded
      simp [hlimit, hneeded, hflag]

/-- A group that the schema admits is delivered, and planning goes on behind it. -/
theorem planGroups_cons {schema : List OptionSpec} {g : Group} {o : OptionSpec}
    (hfits : g.Fits schema o) (rest : List Group) :
    planGroups schema (g :: rest) = (planGroups schema rest).cons ⟨o, g.values⟩ := by
  simp only [planGroups, hfits.selects]
  cases hmetavar : o.metavar with
  | none => simp [OptionSpec.takesValues, hmetavar, hfits.flag hmetavar]
  | some label =>
      have htakes : o.metavar ≠ none := by simp [hmetavar]
      have haccepted := (refusesCount_eq_false_iff o g.values.length).2
        ⟨hfits.most htakes, hfits.least htakes⟩
      simp [OptionSpec.takesValues, hmetavar, haccepted]

/-- A group behind which planning goes on is one that the schema admits. -/
theorem exists_fits_of_planGroups_cons {schema : List OptionSpec} {g : Group}
    {rest : List Group} (hled : isOption g.switch = true)
    (hvalues : ∀ value ∈ g.values, isOption value = false)
    (hstop : (planGroups schema (g :: rest)).stop = none) : ∃ o, g.Fits schema o := by
  simp only [planGroups] at hstop
  split at hstop
  next => cases hstop
  next o hselects =>
    refine ⟨o, ?_⟩
    cases hmetavar : o.metavar with
    | none =>
        simp only [OptionSpec.takesValues, hmetavar, Option.isSome_none, Bool.false_eq_true,
          if_false] at hstop
        split at hstop
        next hempty => exact ⟨hled, hselects, hvalues, fun _ => hempty,
          fun hsome => absurd hmetavar hsome, fun hsome => absurd hmetavar hsome⟩
        next => cases hstop
    | some label =>
        simp only [OptionSpec.takesValues, hmetavar, Option.isSome_some, if_true] at hstop
        split at hstop
        next => cases hstop
        next hcount =>
          obtain ⟨hmost, hleast⟩ :=
            (refusesCount_eq_false_iff o g.values.length).1 (by simpa using hcount)
          refine ⟨hled, hselects, hvalues, fun hnone => ?_, fun _ => hmost, fun _ => hleast⟩
          cases hmetavar.symm.trans hnone

/-- What is delivered for groups that the schema admits: each of them, in their order. -/
theorem planGroups_of_fits {schema : List OptionSpec} {groups : List Group}
    (hfits : ∀ g ∈ groups, ∃ o, g.Fits schema o) :
    (planGroups schema groups).stop = none ∧
      (planGroups schema groups).deliveries.map some = groups.map (Group.delivery? schema) := by
  induction groups with
  | nil => exact ⟨rfl, rfl⟩
  | cons g rest ih =>
      obtain ⟨o, ho⟩ := hfits g List.mem_cons_self
      obtain ⟨hstop, hdeliveries⟩ := ih fun other hother =>
        hfits other (List.mem_cons_of_mem _ hother)
      rw [planGroups_cons ho]
      refine ⟨hstop, ?_⟩
      simp only [Plan.cons, List.map_cons, hdeliveries, Group.delivery?, ho.selects,
        Option.map_some]

/-- Only groups that the schema admits are all delivered. -/
theorem fits_of_planGroups {schema : List OptionSpec} {groups : List Group}
    (hled : ∀ g ∈ groups, isOption g.switch = true ∧ ∀ value ∈ g.values, isOption value = false)
    (hstop : (planGroups schema groups).stop = none) : ∀ g ∈ groups, ∃ o, g.Fits schema o := by
  induction groups with
  | nil => exact List.forall_mem_nil _
  | cons g rest ih =>
      obtain ⟨hoption, hvalues⟩ := hled g List.mem_cons_self
      obtain ⟨o, ho⟩ := exists_fits_of_planGroups_cons hoption hvalues hstop
      rw [planGroups_cons ho] at hstop
      intro other hother
      rcases List.mem_cons.1 hother with rfl | hother
      · exact ⟨o, ho⟩
      · exact ih (fun member hmember => hled member (List.mem_cons_of_mem _ hmember)) hstop other
          hother

/-- Planning succeeds exactly on sentences. -/
theorem plan_stop_eq_none_iff (schema : List OptionSpec) (words : List Value) :
    (plan schema words).stop = none ↔ ∃ groups, Reads schema words groups := by
  constructor
  · intro hstop
    cases hsplit : split words with
    | mk strays groups =>
        have hwords := split_append_flatMap words
        have hled := fun g (hg : g ∈ (split words).2) => isOption_of_mem_split_snd hg
        rw [hsplit] at hwords hled
        simp only [plan, hsplit] at hstop
        -- a stray value in front of all options stops the plan
        cases strays with
        | nil => exact ⟨groups, hwords.symm, fits_of_planGroups hled hstop⟩
        | cons stray rest => cases hstop
  · rintro ⟨groups, hreads⟩
    simp only [plan, hreads.split_eq]
    exact (planGroups_of_fits hreads.fits).1

/-- What is planned for a sentence are its groups, one delivery each. -/
theorem Reads.deliveries_eq {schema : List OptionSpec} {words : List Value} {groups : List Group}
    (hreads : Reads schema words groups) :
    (plan schema words).deliveries.map some = groups.map (Group.delivery? schema) := by
  simp only [plan, hreads.split_eq]
  exact (planGroups_of_fits hreads.fits).2

end CommandDispatch.Extraction
