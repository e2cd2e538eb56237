import CommandDispatch.App

/-! # Option extraction

The words behind a command are split into groups, each an option and the words up to the next
option. Before any value is taken, every option of the schema is checked for the number of its
occurrences. Then the groups are checked from left to right, and what each option receives is
delivered to the command's callback, up to the first group that breaks a rule or that the callback
refuses.
-/

namespace CommandDispatch

/-- What resolution selects: a command, the entry of its namespace if it has one, the schema of its
options if it takes any, and the place of the first option. A negative place counts from the end. -/
structure Selection where
  command : Command
  entry : Option NamespaceEntry
  schema : Option (List OptionSpec)
  offset : Int

namespace Selection

/-- The words of an invocation from a selection's place on. -/
def words (s : Selection) (argv : List Value) : List Value :=
  match s.offset with
  | .ofNat n => argv.drop n
  | .negSucc n => argv.drop (argv.length - (n + 1))

end Selection

namespace Extraction

/-- The first option of a schema that a word selects. -/
def find? (schema : List OptionSpec) (word : Value) : Option OptionSpec :=
  schema.find? fun o => o.toSwitch.selectedBy word

/-- How many words select an option. -/
def occurrences (o : OptionSpec) (words : List Value) : Nat :=
  words.countP o.toSwitch.selectedBy

/-- The fault of an option that is missing or occurs too often. -/
def occurrenceFault? (words : List Value) (o : OptionSpec) : Option Fault :=
  if o.required && occurrences o words = 0 then
    some (.ofCode .missingRequiredOption (.concat ["Missing required option ", o.label, "."]))
  else if o.maxOccurrences ≠ 0 && o.maxOccurrences < occurrences o words then
    some (.ofCode .optionRepeated (.concat ["Option supplied too many times ", o.label, "."]))
  else none

/-- The fault of the first option of a schema that is missing or occurs too often. -/
def audit (schema : List OptionSpec) (words : List Value) : Option Fault :=
  schema.findSome? (occurrenceFault? words)

/-- An option word and the words after it up to the next option. -/
structure Group where
  switch : Value
  values : List Value

def Group.words (g : Group) : List Value := g.switch :: g.values

/-- The words before the first option, and the groups. -/
def split : List Value → List Value × List Group
  | [] => ([], [])
  | word :: rest =>
      let (values, groups) := split rest
      if isOption word then ([], ⟨word, values⟩ :: groups) else (word :: values, groups)

/-- Splitting keeps every word, in the same order. -/
theorem split_append_flatMap (words : List Value) :
    (split words).1 ++ (split words).2.flatMap Group.words = words := by
  induction words with
  | nil => rfl
  | cons word rest ih => by_cases hoption : isOption word <;> simp [split, hoption, Group.words, ih]

/-- The words before the first group are no options. -/
theorem isOption_of_mem_split_fst {words : List Value} {word : Value}
    (hmem : word ∈ (split words).1) : isOption word = false := by
  induction words with
  | nil => simp [split] at hmem
  | cons first rest ih =>
    by_cases hoption : isOption first
    · simp [split, hoption] at hmem
    · rcases (by simpa [split, hoption] using hmem) with rfl | hrest
      · simpa using hoption
      · exact ih hrest

/-- A group is led by an option, and none of its values is one. -/
theorem isOption_of_mem_split_snd {words : List Value} {group : Group}
    (hmem : group ∈ (split words).2) :
    isOption group.switch = true ∧ ∀ value ∈ group.values, isOption value = false := by
  induction words with
  | nil => simp [split] at hmem
  | cons first rest ih =>
    by_cases hoption : isOption first
    · rcases (by simpa [split, hoption] using hmem) with rfl | hrest
      · exact ⟨hoption, fun _ hvalue => isOption_of_mem_split_fst hvalue⟩
      · exact ih hrest
    · exact ih (by simpa [split, hoption] using hmem)

structure Delivery where
  option : OptionSpec
  values : List Value

/-- The numbers of values that an option with a limit does not take. -/
def refusesCount (o : OptionSpec) (count : Nat) : Bool :=
  o.maxValues ≠ 0 && ((count = 0 && (o.required || o.optional)) || o.maxValues < count)

/-- The fault of a word that stands where an option must stand. -/
def invalidFormat (word : Value) : Fault :=
  .about .invalidTokenFormat (.concat ["Invalid format ", word.display, "."]) word

/-- The fault of an option that is not in the schema. -/
def unrecognized (word : Value) : Fault :=
  .about .unrecognizedOption (.concat ["Unrecognized option ", word.display, "."]) word

/-- The fault of an option with too few or too many values. -/
def invalidCount (word : Value) : Fault :=
  .about .invalidArgumentCount
    (.concat ["Invalid number of arguments for ", word.display, "."]) word

/-- What is delivered, and the fault that ends it, if any. -/
structure Plan where
  deliveries : List Delivery
  stop : Option Fault

def Plan.cons (d : Delivery) (p : Plan) : Plan := ⟨d :: p.deliveries, p.stop⟩

/-- The plan for groups: each is delivered until one breaks a rule. The first word behind an option
without values is where the next option must stand. -/
def planGroups (schema : List OptionSpec) : List Group → Plan
  | [] => ⟨[], none⟩
  | group :: rest =>
      match find? schema group.switch with
      | none => ⟨[], some (unrecognized group.switch)⟩
      | some o =>
          if o.takesValues then
            if refusesCount o group.values.length then ⟨[], some (invalidCount group.switch)⟩
            else (planGroups schema rest).cons ⟨o, group.values⟩
          else match group.values with
            | [] => (planGroups schema rest).cons ⟨o, []⟩
            | stray :: _ => ⟨[⟨o, []⟩], some (invalidFormat stray)⟩

/-- The plan for words, which must begin with an option. -/
def plan (schema : List OptionSpec) (words : List Value) : Plan :=
  match split words with
  | ([], groups) => planGroups schema groups
  | (stray :: _, _) => ⟨[], some (invalidFormat stray)⟩

/-- The fault of a callback that refuses what it received. -/
def refused : Fault := .ofCode .optionHandlerFailed "Error during options handling."

/-- The fault of a selection whose command has no callback for options. -/
def undeliverable : Fault := { Fault.ofCode .internalError "Internal error." with hint := .nothing }

end Extraction

open Extraction

namespace Selection

/-- Delivers what an option receives to the callback of the command. -/
def deliver (s : Selection) (d : Delivery) : Action Value :=
  match s.command.body, s.entry with
  | .options _ parse, _ => Action.call parse (.option d.option.longName d.values)
  | .namespaced _ parse, some entry =>
      Action.call parse (.entryOption entry.name d.option.longName d.values)
  | _, _ => Action.fail (.fault undeliverable)

/-- Delivers one thing after the other, as long as the callback answers zero. -/
def deliverAll (s : Selection) : List Delivery → Action Unit
  | [] => pure ()
  | d :: rest => do
      Action.note (.receives d.option.longName d.values)
      let answer ← s.deliver d
      if answer.isZero then deliverAll s rest else Action.fail (.fault refused)

/-- Extracts the options of an invocation: checks the occurrences of all options, and then delivers
group by group. -/
def extract (s : Selection) (argv : List Value) : Action Unit := do
  match s.schema with
  | none => Action.fail .withoutSchema
  | some schema =>
      let words := s.words argv
      match audit schema words with
      | some f => Action.fail (.fault f)
      | none =>
          let plan := plan schema words
          s.deliverAll plan.deliveries
          match plan.stop with
          | some f => Action.fail (.fault f)
          | none => pure ()

end Selection

end CommandDispatch
