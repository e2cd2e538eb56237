import CommandDispatch.Proofs.Extraction.Presence
import CommandDispatch.Proofs.Spec.Declared

/-! # Searching by name

An option is searched for by two dashes and its long name, an entry by its name, and the first one
with the name is found. Declaring tells names apart as a whole; a search compares them up to a fixed
length. So an option or an entry is found by its own name unless an earlier one has a name that
agrees that far, which takes names of at least that length.
-/

namespace CommandDispatch

open Extraction

namespace Switch

/-- The spelling of a switch by its long name. -/
def longSpelling (switch : Switch) : Value :=
  .text (CodePoint.dash :: CodePoint.dash :: switch.longName)

theorem sameName_self (name : Text) : sameName name name = true := by simp [sameName]

/-- A name that is shorter than what is compared agrees only with itself. -/
theorem eq_of_sameName {s t : Text} (hsame : sameName s t = true)
    (hshort : s.length < comparedLength) : s = t := by
  simp only [sameName, decide_eq_true_eq] at hsame
  rw [List.take_of_length_le (Nat.le_of_lt hshort)] at hsame
  have hlength := congrArg List.length hsame
  rw [List.length_take] at hlength
  rw [hsame, List.take_of_length_le (by omega)]

theorem ofText_of_isName {name : Text} (hname : Declaration.isName name = true) :
    Token.ofText (CodePoint.dash :: CodePoint.dash :: name) = .long name := by
  cases name with
  | nil => cases hname
  | cons first rest =>
      have hletter := (Bool.and_eq_true_iff.1 hname).1
      have hdash : CodePoint.dash.isAsciiLetter = false := by decide
      simp [Token.ofText, hletter, hdash]

/-- The spelling by a long name selects exactly the switches whose long names agree with it. -/
theorem selectedBy_longSpelling {switch : Switch}
    (hname : Declaration.isName switch.longName = true) (other : Switch) :
    other.selectedBy switch.longSpelling = sameName switch.longName other.longName := by
  simp only [selectedBy, longSpelling, Token.ofWord, ofText_of_isName hname]

end Switch

open Switch

/-- What a search for the name of an item finds, which stands behind `earlier` ones: the first item
whose name agrees as far as names are compared. That is the item itself exactly if no earlier one
agrees, and always if its name is shorter than what is compared. -/
structure FoundByName {α : Type} (name : α → Text) (earlier : List α) (item : α)
    (found : Option α) : Prop where
  first : ∃ b ∈ earlier ++ [item], found = some b ∧ sameName (name item) (name b) = true
  own_iff : found = some item ↔ ∀ b ∈ earlier, sameName (name item) (name b) = false
  short : (name item).length < comparedLength → found = some item

/-- Searching items with different names. -/
theorem foundByName_find? {α : Type} {name : α → Text} {earlier later : List α} {item : α}
    (hnodup : ((earlier ++ item :: later).map name).Nodup) :
    FoundByName name earlier item
      ((earlier ++ item :: later).find? fun b => sameName (name item) (name b)) := by
  have hself := sameName_self (name item)
  have hnew : ∀ b ∈ earlier, name item ≠ name b := by
    rw [List.map_append, List.map_cons, List.nodup_append] at hnodup
    exact fun b hb hsame => hnodup.2.2 _ (List.mem_map_of_mem hb) _ List.mem_cons_self hsame.symm
  have hsearch : ((earlier ++ item :: later).find? fun b => sameName (name item) (name b)) =
      (earlier.find? fun b => sameName (name item) (name b)).or (some item) := by
    simp only [List.find?_append, List.find?_cons, hself]
  rw [hsearch]
  cases hfind : earlier.find? fun b => sameName (name item) (name b) with
  | none =>
      rw [List.find?_eq_none] at hfind
      rw [Option.none_or]
      exact ⟨⟨item, List.mem_append_right _ List.mem_cons_self, rfl, hself⟩,
        ⟨fun _ b hb => Bool.eq_false_iff.2 (hfind b hb), fun _ => rfl⟩, fun _ => rfl⟩
  | some b =>
      -- another item is found, for it has another name
      have hmem := List.mem_of_find?_eq_some hfind
      have hsame : sameName (name item) (name b) = true := by simpa using List.find?_some hfind
      rw [Option.some_or]
      refine ⟨⟨b, List.mem_append_left _ hmem, rfl, hsame⟩, ⟨fun hitem => ?_, fun hnone => ?_⟩,
        fun hshort => absurd (eq_of_sameName hsame hshort) (hnew b hmem)⟩
      · exact absurd (congrArg name (Option.some.inj hitem).symm) (hnew b hmem)
      · cases hsame.symm.trans (hnone b hmem)

/-- The options of a schema that a command or an entry is declared with, searched for by their long
names, and the entries of a declared namespace, searched for by their names. -/
theorem found_by_own_name (schema : List OptionSpec) (fields : Fields) (scope : Namespace) :
    (AcceptedSchema schema → ∀ earlier o later, schema = earlier ++ o :: later →
      FoundByName (fun b => b.longName) earlier o (find? schema o.toSwitch.longSpelling)) ∧
    (Namespace.declare fields = .ok scope → ∀ earlier e later,
      scope.entries = earlier ++ e :: later →
        ∃ found, scope.find? (.text e.name) = .ok found ∧
          FoundByName (fun b => b.name) earlier e found) := by
  constructor
  · rintro haccepted earlier o later rfl
    have hname : Declaration.isName o.longName = true := haccepted.isName (by simp)
    unfold find?
    simp only [selectedBy_longSpelling hname]
    exact foundByName_find? haccepted.nodup
  · intro hdeclare earlier e later hentries
    have hnodup := Namespace.nodup_of_declare hdeclare
    rw [hentries] at hnodup
    refine ⟨_, rfl, ?_⟩
    rw [hentries]
    exact foundByName_find? hnodup

namespace Sample

theorem accepted_file_verbose : AcceptedSchema [file, verbose] where
  options o ho := by
    rcases List.mem_cons.1 ho with rfl | ho
    · exact ⟨[("long_name", .text "file"), ("short_name", .text "f"), ("metavar", .text "FILE"),
        ("flags", .int 1), ("max_occurrences", .int 1), ("max_values", .int 2)], rfl⟩
    · rw [List.mem_singleton.1 ho]
      exact ⟨[("long_name", .text "verbose"), ("short_name", .text "v")], rfl⟩
  owner := .inl ⟨[("name", .text "copy"), ("handler", .callback ⟨0, "copy"⟩),
    ("options", .list [.spec (.option file), .spec (.option verbose)]),
    ("options_parse", .callback ⟨1, "parse"⟩)], copy [file, verbose] none, ⟨1, "parse"⟩, rfl, rfl⟩

/-- An entry without options. -/
def entry (name : Text) : NamespaceEntry := ⟨name, none, []⟩

/-- A namespace with two entries. -/
def scope (first second : Text) : Namespace where
  longName := "target"
  shortName := none
  entries := [entry first, entry second]

/-- The fields of such a namespace. -/
def scopeFields (first second : Text) : Fields :=
  [("long_name", .text "target"),
    ("entries", .list [.spec (.entry (entry first)), .spec (.entry (entry second))])]

/-- Options and entries with short names are found, those that come second too. -/
theorem second_found :
    find? [file, verbose] (.text "--verbose") = some verbose ∧
    (scope "disk" "tape").find? (.text "tape") = .ok (some (entry "tape")) := by
  obtain ⟨hoptions, hentries⟩ :=
    found_by_own_name [file, verbose] (scopeFields "disk" "tape") (scope "disk" "tape")
  have hverbose := (hoptions accepted_file_verbose [file] verbose [] rfl).short (by decide)
  obtain ⟨found, hfind, hfound⟩ := hentries rfl [entry "disk"] (entry "tape") [] rfl
  rw [hfound.short (by decide)] at hfind
  exact ⟨hverbose, hfind⟩

/-- A name that is compared up to its last letter. -/
def tooLong (last : Char) : Text :=
  List.replicate comparedLength (CodePoint.ofChar 'a') ++ [CodePoint.ofChar last]

/-- A flag with such a name. -/
def flag (last : Char) : OptionSpec := { verbose with longName := tooLong last, shortName := none }

set_option maxRecDepth 8192 in
/-- Names that differ only behind what is compared are accepted together, and the second one is
searched for in vain. -/
theorem second_shadowed :
    OptionSpec.declare [("long_name", .text (tooLong 'b'))] = .ok (flag 'b') ∧
    OptionSpec.declare [("long_name", .text (tooLong 'c'))] = .ok (flag 'c') ∧
    Command.declare .options [
      ("name", .text "copy"),
      ("handler", .callback ⟨0, "copy"⟩),
      ("options", .list [.spec (.option (flag 'b')), .spec (.option (flag 'c'))]),
      ("options_parse", .callback ⟨1, "parse"⟩)] = .ok (copy [flag 'b', flag 'c'] none) ∧
    find? [flag 'b', flag 'c'] (flag 'c').toSwitch.longSpelling = some (flag 'b') ∧
    Namespace.declare (scopeFields (tooLong 'b') (tooLong 'c')) =
      .ok (scope (tooLong 'b') (tooLong 'c')) ∧
    (scope (tooLong 'b') (tooLong 'c')).find? (.text (tooLong 'c')) =
      .ok (some (entry (tooLong 'b'))) :=
  ⟨rfl, rfl, rfl, rfl, rfl, rfl⟩

end Sample

end CommandDispatch
