import CommandDispatch.Proofs.Extraction.Grammar

/-! # Walking from group to group

The words behind a command, read from left to right. An option of the schema and the values it takes
are one step; a word that cannot lead a step blocks the way, and says by which fault. Planning makes
a step for each delivery and ends in front of the word that blocks, or behind the last word.
-/

namespace CommandDispatch.Extraction

/-- How many of the words behind an option are its values: those up to the next option, or none if
it takes no values. -/
def reach (o : OptionSpec) (behind : List Value) : Nat :=
  if o.takesValues then countValues behind else 0

/-- The group of an option that stands in front of some words. -/
def Group.first (o : OptionSpec) (head : Value) (behind : List Value) : Group :=
  ⟨head, behind.take (reach o behind)⟩

/-- Groups that the schema admits one after the other, each with all the values that its option
takes where it stands, and the words behind them. -/
inductive Walks (schema : List OptionSpec) : List Value → List Group → List Value → Prop
  | stay (words : List Value) : Walks schema words [] words
  | step {head : Value} {behind rest : List Value} {groups : List Group} {o : OptionSpec}
      (hfits : (Group.first o head behind).Fits schema o)
      (hrest : Walks schema (behind.drop (reach o behind)) groups rest) :
      Walks schema (head :: behind) (Group.first o head behind :: groups) rest

/-- A word that cannot lead the next group, with the fault that says why: it is no option, or no
option of the schema, or the values behind it are too many or too few for its option. -/
inductive Blocks (schema : List OptionSpec) (head : Value) (behind : List Value) : Fault → Prop
  | stray (hhead : isOption head = false) : Blocks schema head behind (invalidFormat head)
  | unknown (hhead : isOption head = true) (hnone : find? schema head = none) :
      Blocks schema head behind (unrecognized head)
  | miscounted {o : OptionSpec} (hhead : isOption head = true)
      (hselects : find? schema head = some o) (htakes : o.metavar ≠ none) (hlimit : o.maxValues ≠ 0)
      (hcount : o.maxValues < countValues behind ∨
        countValues behind = 0 ∧ (o.required = true ∨ o.optional = true)) :
      Blocks schema head behind (invalidCount head)

theorem takesValues_iff (o : OptionSpec) : o.takesValues = true ↔ o.metavar ≠ none :=
  Option.isSome_iff_ne_none

/-- The group of an option with values takes those up to the next option. -/
theorem first_of_takesValues {o : OptionSpec} (htakes : o.takesValues = true) (head : Value)
    (behind : List Value) :
    Group.first o head behind = ⟨head, behind.take (countValues behind)⟩ := by
  rw [Group.first, reach, if_pos htakes]

/-- The group of a flag is its word alone. -/
theorem first_of_flag {o : OptionSpec} (hflag : o.metavar = none) (head : Value)
    (behind : List Value) : Group.first o head behind = ⟨head, []⟩ := by
  simp [Group.first, reach, OptionSpec.takesValues, hflag]

theorem countValues_cons (word : Value) (rest : List Value) :
    countValues (word :: rest) = if isOption word then 0 else countValues rest + 1 := by
  by_cases hoption : isOption word = true <;> simp [countValues, hoption]

theorem countValues_le (words : List Value) : countValues words ≤ words.length :=
  (List.takeWhile_sublist _).length_le

/-- What is split off in front of the groups are the values up to the first option. -/
theorem split_fst (words : List Value) : (split words).1 = words.take (countValues words) := by
  induction words with
  | nil => rfl
  | cons word rest ih =>
      rw [countValues_cons]
      by_cases hoption : isOption word = true <;> simp [split, hoption, ih]

/-- The words from the first option on have the same groups, and nothing in front of them. -/
theorem split_drop_countValues (words : List Value) :
    split (words.drop (countValues words)) = ([], (split words).2) := by
  induction words with
  | nil => rfl
  | cons word rest ih =>
      rw [countValues_cons]
      by_cases hoption : isOption word = true
      · simp [split, hoption]
      · rw [if_neg hoption, List.drop_succ_cons, ih]
        simp [split, hoption]

theorem refusesCount_eq_true_iff (o : OptionSpec) (count : Nat) :
    refusesCount o count = true ↔
      o.maxValues ≠ 0 ∧
        (o.maxValues < count ∨ count = 0 ∧ (o.required = true ∨ o.optional = true)) := by
  simp only [refusesCount, Bool.and_eq_true, Bool.or_eq_true, decide_eq_true_eq]
  rw [or_comm]

section Planning

variable {schema : List OptionSpec} {head : Value} {behind : List Value}

theorem plan_cons_of_isOption (hhead : isOption head = true) :
    plan schema (head :: behind) =
      planGroups schema (⟨head, behind.take (countValues behind)⟩ :: (split behind).2) := by
  simp [plan, split, hhead, split_fst]

/-- A word that blocks the way is where planning stops. -/
theorem Blocks.plan_eq {f : Fault} (hblocks : Blocks schema head behind f) :
    plan schema (head :: behind) = ⟨[], some f⟩ := by
  cases hblocks with
  | stray hhead => simp [plan, split, hhead]
  | unknown hhead hnone =>
      rw [plan_cons_of_isOption hhead]
      simp [planGroups, hnone]
  | miscounted hhead hselects htakes hlimit hcount =>
      have hrefuses := (refusesCount_eq_true_iff _ _).2 ⟨hlimit, hcount⟩
      rw [plan_cons_of_isOption hhead]
      simp only [planGroups, hselects, (takesValues_iff _).2 htakes, if_true,
        List.length_take_of_le (countValues_le behind), hrefuses]

/-- Planning goes on behind a group that the schema admits. -/
theorem plan_cons_of_fits {o : OptionSpec} (hfits : (Group.first o head behind).Fits schema o) :
    plan schema (head :: behind) =
      (plan schema (behind.drop (reach o behind))).cons
        ⟨o, (Group.first o head behind).values⟩ := by
  have hhead : isOption head = true := hfits.isOption
  rw [plan_cons_of_isOption hhead]
  by_cases htakes : o.takesValues = true
  · have hreach : reach o behind = countValues behind := if_pos htakes
    rw [← first_of_takesValues htakes, planGroups_cons hfits, hreach]
    simp only [plan, split_drop_countValues]
  · -- a flag takes nothing, so a value behind it is the head of what is left
    have hreach : reach o behind = 0 := if_neg htakes
    have hselects : find? schema head = some o := hfits.selects
    simp only [planGroups, hselects, if_neg htakes, Group.first, hreach, List.take_zero,
      List.drop_zero, ← split_fst]
    simp only [plan]
    cases split behind with
    | mk values groups =>
        cases values with
        | nil => rfl
        | cons stray rest => rfl

/-- A word that selects an option leads a group of it, unless the values behind it are too many or
too few. -/
theorem fits_or_miscounted {o : OptionSpec} (hhead : isOption head = true)
    (hselects : find? schema head = some o) :
    (Group.first o head behind).Fits schema o ∨ Blocks schema head behind (invalidCount head) := by
  cases hmetavar : o.metavar with
  | none =>
      rw [first_of_flag hmetavar]
      exact .inl ⟨hhead, hselects, List.forall_mem_nil _, fun _ => rfl,
        fun hsome => absurd hmetavar hsome, fun hsome => absurd hmetavar hsome⟩
  | some label =>
      have htakes : o.metavar ≠ none := by simp [hmetavar]
      have hlength := List.length_take_of_le (countValues_le behind)
      rw [first_of_takesValues ((takesValues_iff o).2 htakes)]
      cases hrefuses : refusesCount o (countValues behind) with
      | true =>
          obtain ⟨hlimit, hcount⟩ := (refusesCount_eq_true_iff o _).1 hrefuses
          exact .inr (.miscounted hhead hselects htakes hlimit hcount)
      | false =>
          obtain ⟨hmost, hleast⟩ := (refusesCount_eq_false_iff o _).1 hrefuses
          refine .inl ⟨hhead, hselects, ?_, fun hnone => absurd hnone htakes,
            fun _ => hlength.symm ▸ hmost, fun _ => hlength.symm ▸ hleast⟩
          rw [← split_fst]
          exact fun value hvalue => isOption_of_mem_split_fst hvalue

/-- A word either leads a group that the schema admits or blocks the way. -/
theorem fits_or_blocks (schema : List OptionSpec) (head : Value) (behind : List Value) :
    (∃ o, (Group.first o head behind).Fits schema o) ∨ ∃ f, Blocks schema head behind f := by
  cases hhead : isOption head with
  | false => exact .inr ⟨_, .stray hhead⟩
  | true =>
      cases hselects : find? schema head with
      | none => exact .inr ⟨_, .unknown hhead hselects⟩
      | some o =>
          exact (fits_or_miscounted hhead hselects).imp (fun hfits => ⟨o, hfits⟩)
            fun hblocks => ⟨_, hblocks⟩

/-- A word that leads a group does not block the way. -/
theorem Blocks.not_fits {f : Fault} (hblocks : Blocks schema head behind f) (o : OptionSpec) :
    ¬ (Group.first o head behind).Fits schema o := by
  intro hfits
  have hplan := plan_cons_of_fits hfits
  rw [hblocks.plan_eq, Plan.cons] at hplan
  cases congrArg Plan.deliveries hplan

/-- What blocks the way is never the fault of a callback. -/
theorem Blocks.ne_refused {f : Fault} (hblocks : Blocks schema head behind f) : f ≠ refused := by
  intro hrefused
  have hcode := congrArg Fault.code hrefused
  cases hblocks <;> cases hcode

theorem Blocks.kind_ne {f : Fault} (hblocks : Blocks schema head behind f) :
    f.kind ≠ .of .internalError := by
  intro hkind
  cases hblocks <;> cases hkind

end Planning

namespace Walks

variable {schema : List OptionSpec} {words rest : List Value} {groups : List Group}

/-- A walk passes all words in front of those it leaves. -/
theorem words_eq (hwalk : Walks schema words groups rest) :
    words = groups.flatMap Group.words ++ rest := by
  induction hwalk with
  | stay words => rfl
  | @step head behind rest groups o hfits hrest ih =>
      rw [List.flatMap_cons, List.append_assoc, ← ih, Group.words, Group.first, List.cons_append,
        List.take_append_drop]

theorem fits (hwalk : Walks schema words groups rest) : ∀ g ∈ groups, ∃ o, g.Fits schema o := by
  induction hwalk with
  | stay words => exact List.forall_mem_nil _
  | step hfits hrest ih => exact List.forall_mem_cons.2 ⟨⟨_, hfits⟩, ih⟩

/-- A walk can be ended in front of any of its groups, which then leads the words that are left. -/
theorem before {earlier later : List Group} {g : Group}
    (hwalk : Walks schema words (earlier ++ g :: later) rest) :
    ∃ o behind, Walks schema words earlier (g.switch :: behind) ∧
      g = Group.first o g.switch behind ∧ g.Fits schema o := by
  induction earlier generalizing words with
  | nil =>
      cases hwalk with
      | step hfits hrest => exact ⟨_, _, .stay _, rfl, hfits⟩
  | cons first earlier ih =>
      cases hwalk with
      | step hfits hrest =>
          obtain ⟨o, behind, hwalk, hgroup, hgroupFits⟩ := ih hrest
          exact ⟨o, behind, .step hfits hwalk, hgroup, hgroupFits⟩

end Walks

/-- Planning walks as far as it can: there is a delivery for each group of the walk, and what is
left is nothing, or begins with the word that blocks the way. -/
theorem exists_walks_plan (schema : List OptionSpec) (words : List Value) :
    ∃ groups rest, Walks schema words groups rest ∧
      (plan schema words).deliveries.map some = groups.map (Group.delivery? schema) ∧
      ∀ f, (plan schema words).stop = some f →
        ∃ head behind, rest = head :: behind ∧ Blocks schema head behind f := by
  induction hlength : words.length using Nat.strongRecOn generalizing words with
  | ind n ih =>
      cases words with
      | nil => exact ⟨[], [], .stay [], rfl, fun f hstop => by cases hstop⟩
      | cons head behind =>
          rcases fits_or_blocks schema head behind with ⟨o, hfits⟩ | ⟨f, hblocks⟩
          · have hshorter : (behind.drop (reach o behind)).length < n := by
              rw [← hlength, List.length_drop, List.length_cons]
              omega
            obtain ⟨groups, rest, hwalk, hdeliveries, hstop⟩ := ih _ hshorter _ rfl
            rw [plan_cons_of_fits hfits]
            refine ⟨_, rest, .step hfits hwalk, ?_, hstop⟩
            simp only [Plan.cons, List.map_cons, hdeliveries, Group.delivery?, hfits.selects,
              Option.map_some]
          · rw [hblocks.plan_eq]
            refine ⟨[], head :: behind, .stay _, rfl, fun g hstop => ?_⟩
            obtain rfl := Option.some.inj hstop
            exact ⟨head, behind, rfl, hblocks⟩

end CommandDispatch.Extraction
