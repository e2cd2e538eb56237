import CommandDispatch.Proofs.Spec.Constructing
import CommandDispatch.Proofs.Text.Stripping

/-! # Declaring again what was declared

Declaring brings a spec into a settled form, and a spec in that form is declared from its own fields
as it is. So the settled specs are those that can be declared, and what one declaration has brought
into form a second one leaves alone. The record of a declared spec can be constructed again from
what it gives for its fields, unless it was given a second name that is not settled, or holds a
callback that is a collection: neither is brought into form.
-/

namespace CommandDispatch

open Declaration

/-! ## Settled parts -/

/-- A name in its settled form: an ASCII letter first, and no blank at either end. -/
structure IsSettledName (name : Text) : Prop where
  trimmed : name.IsTrimmed
  isName : isName name = true

/-- Both names of a switch in their settled form. -/
structure Switch.IsSettled (switch : Switch) : Prop where
  longName : IsSettledName switch.longName
  shortName : ∀ name ∈ switch.shortName, isShortName name = true

/-- A label in its settled form: a plain one has some text, with no blank at either end. -/
inductive Label.IsSettled : Label → Prop
  | plain {t : Text} (trimmed : t.IsTrimmed) (nonempty : t ≠ []) : IsSettled (.plain t)
  | styled (t : StyledText) : IsSettled (.styled t)

namespace Declaration

variable {owner : SpecKind} {field : Text} {v : Value}

theorem settled_of_readName {name : Text} (hread : readName owner field v = .ok name) :
    IsSettledName name := by
  obtain ⟨t, -, rfl, hname⟩ := readName_eq_ok_iff.1 hread
  exact ⟨t.isTrimmed_strip, hname⟩

/-- A settled name is read as it is. -/
theorem readName_settled {name : Text} (hname : IsSettledName name) :
    readName owner field (.text name) = .ok name :=
  readName_eq_ok_iff.2 ⟨name, rfl, Text.strip_of_isTrimmed hname.trimmed, hname.isName⟩

theorem readShortName_settled {short : Option Text}
    (hshort : ∀ name ∈ short, isShortName name = true) :
    readShortName owner (.ofText? short) = .ok short :=
  readShortName_eq_ok_iff.2 ⟨rfl, hshort⟩

theorem settled_of_readLabel {label : Option Label} (hread : readLabel owner field v = .ok label) :
    ∀ l ∈ label, l.IsSettled := by
  unfold readLabel at hread
  split at hread
  next =>
    obtain rfl := Except.ok.inj hread
    nofun
  next t =>
    split at hread
    next => cases hread
    next hne =>
      obtain rfl := Except.ok.inj hread
      rintro l ⟨⟩
      exact .plain t.isTrimmed_strip hne
  next t =>
    obtain rfl := Except.ok.inj hread
    rintro l ⟨⟩
    exact .styled t
  next => cases hread

/-- A settled label is read as it is. -/
theorem readLabel_settled {label : Option Label} (hlabel : ∀ l ∈ label, l.IsSettled) :
    readLabel owner field (.ofLabel? label) = .ok label := by
  cases label with
  | none => rfl
  | some l =>
      cases hlabel l rfl with
      | plain htrimmed hne =>
          simp only [readLabel, Value.ofLabel?, Label.toValue, Text.strip_of_isTrimmed htrimmed,
            hne, if_false]
      | styled => rfl

theorem readCallback?_ofCallback? (c : Option Callback) :
    readCallback? owner field (.ofCallback? c) = .ok c := by
  cases c <;> rfl

/-- A reader that takes an item whose name it has not met takes items with different names. -/
theorem read_of_nodup {α : Type} (name : α → Text) (toValue : α → Value)
    (read : List Text → List Value → Except DeclarationError (List α))
    (hnil : ∀ seen, read seen [] = .ok [])
    (hcons : ∀ seen a rest others, name a ∉ seen → read (name a :: seen) rest = .ok others →
      read seen (toValue a :: rest) = .ok (a :: others))
    {items : List α} (hnodup : (items.map name).Nodup) {seen : List Text}
    (hunseen : ∀ a ∈ items, name a ∉ seen) : read seen (items.map toValue) = .ok items := by
  induction items generalizing seen with
  | nil => exact hnil seen
  | cons a others ih =>
      obtain ⟨hfirst, hrest⟩ := List.nodup_cons.1 hnodup
      refine hcons seen a _ others (hunseen a List.mem_cons_self) (ih hrest fun b hb hseen => ?_)
      rcases List.mem_cons.1 hseen with hsame | hseen
      · exact hfirst (hsame ▸ List.mem_map_of_mem hb)
      · exact hunseen b (List.mem_cons_of_mem _ hb) hseen

/-- Options with different long names are read as they are. -/
theorem readOptions_of_nodup {schema : List OptionSpec}
    (hnodup : (schema.map fun o => o.longName).Nodup) :
    readOptions owner (.list (schema.map fun o => .spec (.option o))) = .ok schema := by
  refine read_of_nodup (fun o => o.longName) _ (readOptionItems owner) (fun _ => rfl)
    (fun seen o rest others hnew hrest => ?_) hnodup fun o _ => List.not_mem_nil
  simp [readOptionItems, hnew, hrest, bind, Except.bind, pure, Except.pure]

theorem ne_nil_of_readEntries {entries : List NamespaceEntry}
    (hread : readEntries v = .ok entries) : entries ≠ [] := by
  unfold readEntries at hread
  split at hread
  next => cases hread
  next items hnonempty hitems =>
    cases items with
    | nil => exact absurd rfl hnonempty
    | cons item rest =>
        obtain ⟨e, others, -, -, rfl⟩ := exists_of_readEntryItems hread
        exact List.cons_ne_nil e others
  next => cases hread

/-- Entries with different names are read as they are, if there are any. -/
theorem readEntries_of_nodup {entries : List NamespaceEntry} (hne : entries ≠ [])
    (hnodup : (entries.map fun e => e.name).Nodup) :
    readEntries (.list (entries.map fun e => .spec (.entry e))) = .ok entries := by
  have hread : readEntryItems [] (entries.map fun e => .spec (.entry e)) = .ok entries := by
    refine read_of_nodup (fun e => e.name) _ readEntryItems (fun _ => rfl)
      (fun seen e rest others hnew hrest => ?_) hnodup fun e _ => List.not_mem_nil
    simp [readEntryItems, hnew, hrest, bind, Except.bind, pure, Except.pure]
  cases entries with
  | nil => exact absurd rfl hne
  | cons e others => exact hread

end Declaration

/-! ## Settled specs -/

/-- An option in its settled form. Its counts are natural numbers as they are. -/
structure OptionSpec.IsSettled (o : OptionSpec) : Prop where
  switch : o.toSwitch.IsSettled
  descr : ∀ l ∈ o.descr, l.IsSettled
  metavar : ∀ l ∈ o.metavar, l.IsSettled

/-- An entry in its settled form; its options differ in their long names. -/
structure NamespaceEntry.IsSettled (e : NamespaceEntry) : Prop where
  name : IsSettledName e.name
  descr : ∀ l ∈ e.descr, l.IsSettled
  options : (e.options.map fun o => o.longName).Nodup

/-- A namespace in its settled form; it has entries, and these differ in their names. -/
structure Namespace.IsSettled (n : Namespace) : Prop where
  switch : n.toSwitch.IsSettled
  nonempty : n.entries ≠ []
  entries : (n.entries.map fun e => e.name).Nodup

/-- The part of a command in its settled form that only one kind has. -/
inductive CommandBody.IsSettled : CommandBody → Prop
  | plain : IsSettled .plain
  | options {schema : List OptionSpec} (parse : Callback)
      (nodup : (schema.map fun o => o.longName).Nodup) : IsSettled (.options schema parse)
  | namespaced (scope : Namespace) (parse : Callback) : IsSettled (.namespaced scope parse)

/-- A command in its settled form. -/
structure Command.IsSettled (c : Command) : Prop where
  switch : c.toSwitch.IsSettled
  descr : ∀ l ∈ c.descr, l.IsSettled
  longDescr : ∀ l ∈ c.longDescr, l.IsSettled
  body : c.body.IsSettled

/-- A spec in its settled form. The specs that it was declared with are settled by themselves. -/
def Spec.IsSettled : Spec → Prop
  | .option o => o.IsSettled
  | .entry e => e.IsSettled
  | .scope n => n.IsSettled
  | .command c => c.IsSettled

/-- What is declared is settled. -/
theorem Spec.isSettled_of_declare {kind : SpecKind} {fields : Fields} {s : Spec}
    (hdeclare : declare kind fields = .ok s) : s.IsSettled := by
  cases declare_eq_ok_iff.1 hdeclare with
  | option hdeclared =>
      have hread := OptionSpec.declare_eq_ok_iff.1 hdeclared
      exact ⟨⟨settled_of_readName hread.longName, (readShortName_eq_ok_iff.1 hread.shortName).2⟩,
        settled_of_readLabel hread.descr, settled_of_readLabel hread.metavar⟩
  | entry hdeclared =>
      have hread := NamespaceEntry.declare_eq_ok_iff.1 hdeclared
      exact ⟨settled_of_readName hread.name, settled_of_readLabel hread.descr,
        nodup_of_readOptions hread.options⟩
  | scope hdeclared =>
      have hread := Namespace.declare_eq_ok_iff.1 hdeclared
      exact ⟨⟨settled_of_readName hread.longName, (readShortName_eq_ok_iff.1 hread.shortName).2⟩,
        ne_nil_of_readEntries hread.entries, nodup_of_readEntries hread.entries⟩
  | @command kind c hdeclared =>
      have hread := Command.declare_eq_ok_iff.1 hdeclared
      have hbody : c.body.IsSettled := by
        obtain ⟨-, hbody⟩ := CommandBody.declare_eq_ok_iff.1 hread.body
        generalize c.body = body at hbody ⊢
        cases hbody with
        | plain => exact .plain
        | options _ _ hschema _ => exact .options _ (nodup_of_readOptions hschema)
        | namespaced => exact .namespaced _ _
      exact ⟨⟨settled_of_readName hread.longName, (readShortName_eq_ok_iff.1 hread.shortName).2⟩,
        settled_of_readLabel hread.descr, settled_of_readLabel hread.longDescr, hbody⟩

/-! ## Declaring settled specs -/

theorem OptionSpec.declare_fields {o : OptionSpec} (hsettled : o.IsSettled) :
    declare o.fields = .ok o :=
  declare_eq_ok_iff.2 {
    known := rfl
    longName := readName_settled hsettled.switch.longName
    shortName := readShortName_settled hsettled.switch.shortName
    descr := readLabel_settled hsettled.descr
    metavar := readLabel_settled hsettled.metavar
    maxCount := rfl
    maxOccurrences := rfl
    maxValues := rfl
    flags := ⟨o.flags.bits, rfl, rfl⟩ }

theorem NamespaceEntry.declare_fields {e : NamespaceEntry} (hsettled : e.IsSettled) :
    declare e.fields = .ok e :=
  declare_eq_ok_iff.2 {
    known := rfl
    name := readName_settled hsettled.name
    descr := readLabel_settled hsettled.descr
    options := readOptions_of_nodup hsettled.options }

theorem Namespace.declare_fields {n : Namespace} (hsettled : n.IsSettled) :
    declare n.fields = .ok n :=
  declare_eq_ok_iff.2 {
    known := rfl
    longName := readName_settled hsettled.switch.longName
    shortName := readShortName_settled hsettled.switch.shortName
    entries := readEntries_of_nodup hsettled.nonempty hsettled.entries }

/-- The body of a settled command is declared from the fields of the command. -/
theorem CommandBody.declare_fields {c : Command} (hsettled : c.body.IsSettled) :
    declare c.fields c.body.kind = .ok c.body := by
  obtain ⟨switch, descr, longDescr, flags, handler, configure, help, body⟩ := c
  refine declare_eq_ok_iff.2 ⟨rfl, ?_⟩
  cases hsettled with
  | plain => exact .plain
  | options parse hnodup => exact .options rfl rfl (readOptions_of_nodup hnodup) rfl
  | namespaced scope parse => exact .namespaced rfl rfl rfl

theorem Command.declare_fields {c : Command} (hsettled : c.IsSettled) :
    declare c.body.kind c.fields = .ok c :=
  declare_eq_ok_iff.2 {
    body := CommandBody.declare_fields hsettled.body
    longName := readName_settled hsettled.switch.longName
    shortName := readShortName_settled hsettled.switch.shortName
    descr := readLabel_settled hsettled.descr
    longDescr := readLabel_settled hsettled.longDescr
    flags := ⟨c.flags.bits, rfl, rfl⟩
    handler := rfl
    configure := readCallback?_ofCallback? c.configure
    help := readCallback?_ofCallback? c.help
    known := by
      rw [names_fields]
      exact fun _ hname => hname }

/-- A settled spec is declared from its own fields as it is. -/
theorem Spec.declare_fields {s : Spec} (hsettled : s.IsSettled) :
    declare s.kind s.fields = .ok s := by
  refine declare_eq_ok_iff.2 ?_
  cases s with
  | option o => exact .option (OptionSpec.declare_fields hsettled)
  | entry e => exact .entry (NamespaceEntry.declare_fields hsettled)
  | scope n => exact .scope (Namespace.declare_fields hsettled)
  | command c =>
      rw [kind, c.kind_eq]
      exact .command (Command.declare_fields hsettled)

theorem Spec.kind_of_declare {kind : SpecKind} {fields : Fields} {s : Spec}
    (hdeclare : declare kind fields = .ok s) : s.kind = kind := by
  cases declare_eq_ok_iff.1 hdeclare with
  | option | entry | scope => rfl
  | @command kind c hdeclared =>
      obtain ⟨hkind, -⟩ := CommandBody.declare_eq_ok_iff.1 (Command.declare_body hdeclared)
      rw [Spec.kind, c.kind_eq, hkind]

/-- The settled specs are those that can be declared. -/
theorem Spec.isSettled_iff_exists_declare {s : Spec} :
    s.IsSettled ↔ ∃ fields, declare s.kind fields = .ok s :=
  ⟨fun hsettled => ⟨s.fields, declare_fields hsettled⟩,
    fun ⟨_, hdeclare⟩ => isSettled_of_declare hdeclare⟩

/-- The names of the fields that are counts. -/
def OptionSpec.countNames : List Text := ["max_count", "max_occurrences", "max_values"]

theorem OptionSpec.exists_count_of_mem (o : OptionSpec) {name : Text} (hname : name ∈ countNames) :
    ∃ n : Nat, (name, Value.int n) ∈ o.fields := by
  simp only [countNames, List.mem_cons, List.not_mem_nil, or_false] at hname
  rcases hname with rfl | rfl | rfl
  · exact ⟨o.maxCount, by simp [fields]⟩
  · exact ⟨o.maxOccurrences, by simp [fields]⟩
  · exact ⟨o.maxValues, by simp [fields]⟩

/-! ## Constructing records again -/

theorem Command.IsSettled.renamed {c : Command} (hsettled : c.IsSettled) {name : Text}
    (hname : IsSettledName name) : { c with longName := name }.IsSettled where
  switch := ⟨hname, hsettled.switch.shortName⟩
  descr := hsettled.descr
  longDescr := hsettled.longDescr
  body := hsettled.body

/-- A second name that is settled leaves a spec settled. -/
theorem Spec.IsSettled.renamed {s : Spec} (hsettled : s.IsSettled) {secondName : Option Value}
    (hname : ∀ name ∈ secondName, ∃ t, name = .text t ∧ IsSettledName t) :
    (s.renamed secondName).IsSettled := by
  cases secondName with
  | none => rwa [Spec.renamed_none]
  | some name =>
      obtain ⟨t, rfl, ht⟩ := hname name rfl
      cases s with
      | command c => exact Command.IsSettled.renamed hsettled ht
      | option | entry | scope => exact hsettled

theorem Value.not_isCollection_callback (c : Callback) : ¬ (callback c).IsCollection := by
  rintro ⟨_, contents, hsame⟩
  cases hsame

/-- Only what can be called is a collection of this sort. -/
theorem Value.not_isCollection_of_callback? {v : Value} (hnone : v.callback? = none) :
    ¬ v.IsCollection := by
  rintro ⟨c, contents, rfl⟩
  cases hnone

/-- No field of a spec is a collection. -/
theorem Spec.not_isCollection_of_mem_fields (s : Spec) :
    ∀ field ∈ s.fields, ¬ field.2.IsCollection := by
  have hother {v : Value} (hnone : v.callback? = none) : ¬ v.IsCollection :=
    Value.not_isCollection_of_callback? hnone
  have htext (t : Option Text) := hother (Value.callback?_ofText? t)
  have hlabel (l : Option Label) := hother (Value.callback?_ofLabel? l)
  have hcallback (found : Option Callback) : ¬ (Value.ofCallback? found).IsCollection := by
    cases found with
    | none => exact hother rfl
    | some c => exact Value.not_isCollection_callback c
  cases s with
  | option o =>
      simp only [fields, OptionSpec.fields, List.forall_mem_cons]
      exact ⟨hother rfl, htext _, hlabel _, hlabel _, hother rfl, hother rfl, hother rfl,
        hother rfl, List.forall_mem_nil _⟩
  | entry e =>
      simp only [fields, NamespaceEntry.fields, List.forall_mem_cons]
      exact ⟨hother rfl, hlabel _, hother rfl, List.forall_mem_nil _⟩
  | scope n =>
      simp only [fields, Namespace.fields, List.forall_mem_cons]
      exact ⟨hother rfl, htext _, hother rfl, List.forall_mem_nil _⟩
  | command c =>
      have hbody : ∀ field ∈ c.body.fields, ¬ field.2.IsCollection := by
        cases c.body with
        | plain => exact List.forall_mem_nil _
        | options | namespaced =>
            simp only [CommandBody.fields, List.forall_mem_cons]
            exact ⟨hother rfl, Value.not_isCollection_callback _, List.forall_mem_nil _⟩
      simp only [fields, Command.fields, List.forall_mem_append, List.forall_mem_cons]
      exact ⟨⟨hother rfl, htext _, hlabel _, hlabel _, hother rfl,
        Value.not_isCollection_callback _, hcallback _, hcallback _, List.forall_mem_nil _⟩, hbody⟩

/-- What is read back is no collection: of one that is stored, its contents are. -/
theorem Holding.not_isCollection_toValue (held : Holding) :
    ¬ held.frozen.toValue.IsCollection := by
  rintro ⟨c, contents, hsame⟩
  cases held with
  | optionFlags | commandFlags => cases hsame
  | value v =>
      cases v with
      | collection _ held => cases held <;> cases hsame
      | _ => cases hsame

theorem Fields.get_of_forall {fields : Fields} {p : Value → Prop} (hnull : p .null)
    (hall : ∀ field ∈ fields, p field.2) (name : Text) : p (fields.get name) := by
  cases hfound : fields.get? name with
  | none =>
      rw [get, getD, setting, hfound]
      exact hnull
  | some v =>
      obtain ⟨before, after, rfl, -⟩ := List.lookup_eq_some_iff.1 hfound
      rw [get, getD, setting, hfound]
      exact hall (name, v) (List.mem_append_right _ List.mem_cons_self)

namespace SpecRecord

variable {kind : SpecKind} {fields : Fields} {secondName : Option Value} {s : Spec} {r : SpecRecord}

/-- A field of a record is held as a collection. -/
def HoldsCollection (r : SpecRecord) : Prop :=
  ∃ entry ∈ r.holdings, ∃ v, entry.2 = .value v ∧ v.IsCollection

/-- A callback is held as it is stored. -/
theorem holdingOf_of_callback_mem {name : Text} {c : Callback}
    (hfield : (name, .callback c) ∈ s.fields) (v : Value) :
    holdingOf (s.renamed secondName) (name, v) = .value v := by
  have hflags (bits : Int) (hbits : (Text.ofString "flags", .int bits) ∈ s.fields) :
      name ≠ Text.ofString "flags" := by
    rintro rfl
    have hsame := (Spec.lookup_fields hfield).symm.trans (Spec.lookup_fields hbits)
    cases Option.some.inj hsame
  unfold holdingOf
  cases s with
  | option o => exact if_neg (hflags o.flags.bits (by simp [Spec.fields, OptionSpec.fields]))
  | command command =>
      exact if_neg (hflags command.flags.bits (by simp [Spec.fields, Command.fields]))
  | entry | scope => exact ite_self _

/-- A collection is stored for a callback that is held as one, and for nothing else but perhaps a
name. -/
theorem not_isCollection_of_mem_storedFields
    (hname : ∀ name ∈ secondName, ¬ name.IsCollection)
    (hgiven : ∀ name c, name ≠ Text.ofString "name" → (name, .callback c) ∈ s.fields →
      ¬ (fields.get name).IsCollection) :
    ∀ field ∈ storedFields s fields secondName, ¬ field.2.IsCollection := by
  intro field hfield
  obtain ⟨⟨name, v⟩, hmem, rfl⟩ := List.mem_map.1 hfield
  have hv := s.not_isCollection_of_mem_fields _ hmem
  dsimp only
  split
  next =>
    cases secondName with
    | none => exact hv
    | some second => exact hname second rfl
  next hother =>
    split
    next c => exact hgiven name c hother hmem
    next => exact hv

/-- What is stored are no collections if what was given are none. -/
theorem not_isCollection_of_forall (hgiven : ∀ field ∈ fields, ¬ field.2.IsCollection) :
    ∀ field ∈ storedFields s fields none, ¬ field.2.IsCollection :=
  not_isCollection_of_mem_storedFields nofun fun name _ _ _ =>
    Fields.get_of_forall (p := fun v => ¬ v.IsCollection) nofun hgiven name

/-- What is held as a value is what is stored. -/
theorem eq_of_holdingOf_eq_value {field : Text × Value} {v : Value}
    (hheld : holdingOf s field = .value v) : field.2 = v := by
  unfold holdingOf at hheld
  split at hheld
  next =>
    cases s with
    | option | command => cases hheld
    | entry | scope => exact Holding.value.inj hheld
  next => exact Holding.value.inj hheld

/-- A record holds no collection if none is stored. -/
theorem not_holdsCollection_ofFields {stored : Fields}
    (hstored : ∀ field ∈ stored, ¬ field.2.IsCollection) :
    ¬ (ofFields s stored).HoldsCollection := by
  rintro ⟨entry, hentry, v, hv, hcollection⟩
  obtain ⟨field, hfield, rfl⟩ := List.mem_map.1 hentry
  have hv : holdingOf s field = .value v := hv
  obtain rfl := eq_of_holdingOf_eq_value hv
  exact hstored field hfield hcollection

theorem name_mem_storedFields {c : Command} :
    (Text.ofString "name", secondName.getD (.text c.longName)) ∈
      storedFields (.command c) fields secondName :=
  List.mem_map.2 ⟨(Text.ofString "name", .text c.longName), List.mem_cons_self, rfl⟩

/-- What is constructed without a second name holds its own name, which is settled. -/
theorem exists_name_of_construct (hconstruct : construct kind fields none = .ok r)
    (hkind : kind.isCommand = true) :
    ∃ t, r.field "name" = .ok (.value (.text t)) ∧ IsSettledName t := by
  obtain ⟨-, s, hdeclare, rfl⟩ := construct_eq_ok_iff.1 hconstruct
  rw [← Spec.kind_of_declare hdeclare] at hkind
  obtain ⟨c, rfl⟩ := Spec.isCommand_kind_iff.1 hkind
  refine ⟨c.longName, ?_, (Spec.isSettled_of_declare hdeclare).switch.longName⟩
  exact field_ofFields (names_storedFields _ _ _) name_mem_storedFields

/-- A second name is settled if the record is constructed without one too. -/
theorem settled_of_construct_again (hdeclare : Spec.declare kind fields = .ok s)
    (hcommand : secondName.isSome = true → kind.isCommand = true) {back : Fields}
    (hagain : construct kind back none =
      .ok (ofFields (s.renamed secondName) (storedFields s fields secondName))) :
    ∀ name ∈ secondName, ∃ t, name = .text t ∧ IsSettledName t := by
  intro name hname
  obtain rfl : secondName = some name := hname
  have hkind := hcommand rfl
  obtain ⟨t, ht, hsettled⟩ := exists_name_of_construct hagain hkind
  rw [← Spec.kind_of_declare hdeclare] at hkind
  obtain ⟨c, rfl⟩ := Spec.isCommand_kind_iff.1 hkind
  have hstored : (Text.ofString "name", name) ∈ storedFields (.command c) fields (some name) :=
    name_mem_storedFields
  have hheld := ht.symm.trans (field_ofFields (names_storedFields _ _ _) hstored)
  exact ⟨t, eq_of_holdingOf_eq_value (Except.ok.inj hheld).symm, hsettled⟩

/-- What is constructed from fields without collections holds none. -/
theorem not_holdsCollection_of_construct (hplain : ∀ field ∈ fields, ¬ field.2.IsCollection)
    (hconstruct : construct kind fields none = .ok r) : ¬ r.HoldsCollection := by
  obtain ⟨-, s, -, hrecord⟩ := construct_eq_ok_iff.1 hconstruct
  rw [← hrecord]
  exact not_holdsCollection_ofFields (not_isCollection_of_forall hplain)

/-- A record without collections holds the fields of its spec, if its second name is a text. -/
theorem ofFields_eq_ofSpec (hdeclare : Spec.declare kind fields = .ok s)
    (hcommand : secondName.isSome = true → kind.isCommand = true)
    (htext : ∀ name ∈ secondName, ∃ t, name = .text t)
    (hplain : ¬ (ofFields (s.renamed secondName)
      (storedFields s fields secondName)).HoldsCollection) :
    ofFields (s.renamed secondName) (storedFields s fields secondName) =
      ofSpec (s.renamed secondName) := by
  rw [← Spec.kind_of_declare hdeclare] at hcommand
  refine congrArg (ofFields _) (storedFields_eq_fields hdeclare hcommand htext
    (not_isCollection_of_mem_storedFields (fun name hmem => ?_) fun name c hother hmem => ?_))
  · obtain ⟨t, rfl⟩ := htext name hmem
    exact Value.not_isCollection_of_callback? rfl
  · intro hcollection
    refine hplain ⟨(SpecAttribute.storageName name, _), List.mem_map.2 ⟨(name, fields.get name),
      List.mem_map.2 ⟨_, hmem, if_neg hother⟩, rfl⟩, _, holdingOf_of_callback_mem hmem _,
      hcollection⟩

/-- A settled spec is constructed from its own fields. -/
theorem construct_fields (hsettled : s.IsSettled) :
    construct s.kind s.fields none = .ok (ofSpec s) := by
  have hdeclare := Spec.declare_fields hsettled
  have hstored : storedFields s s.fields none = (s.renamed none).fields :=
    storedFields_eq_fields hdeclare nofun nofun
      (not_isCollection_of_forall (Spec.not_isCollection_of_mem_fields _))
  refine construct_eq_ok_iff.2 ⟨nofun, s, hdeclare, ?_⟩
  rw [hstored, Spec.renamed_none]
  rfl

/-- The counts of an option read back as numbers that are not negative. -/
theorem exists_count_of_readBack {o : OptionSpec}
    (hnames : fields.map Prod.fst = (Spec.option o).kind.fieldNames)
    (hcounts : ∀ name ∈ OptionSpec.countNames, ∀ n : Nat, (name, .int n) ∈ o.fields →
      (name, .int n) ∈ fields)
    {back : Fields} (hback : (ofFields (.option o) fields).readBack = .ok back) :
    ∀ name ∈ OptionSpec.countNames, ∃ n : Nat, (name, .int n) ∈ back := by
  rw [readBack_ofFields hnames] at hback
  obtain rfl := Except.ok.inj hback
  intro name hname
  have hflags : ∀ name ∈ OptionSpec.countNames, name ≠ Text.ofString "flags" := by decide
  obtain ⟨n, hcount⟩ := o.exists_count_of_mem hname
  exact ⟨n, List.mem_map.2 ⟨(name, .int n), hcounts name hname n hcount,
    congrArg _ (toValue_holdingOf (hflags name hname) rfl)⟩⟩

/-- Declaring settles a spec. What its record gives for its fields, each by its name, is accepted
for the same kind and gives the same record, and so one with the same fields, the same flags and the
same literal, exactly if the second name that the command was given, if any, is settled too, and if
no callback is a collection as well: a second name is not checked, and a collection reads back as
what it holds. The names of a spec without a second name start with an ASCII letter and have no
blank at their ends, its plain labels have text and no blank at their ends, its counts are not
negative, its options differ in their long names, and its entries, of which a namespace has some, in
their names. -/
theorem construct_readBack (hconstruct : construct kind fields secondName = .ok r) :
    r.spec.kind = kind ∧ (secondName = none → r.spec.IsSettled) ∧
    ∃ back, r.readBack = .ok back ∧
      (construct kind back none = .ok r ↔
        (∀ name ∈ secondName, ∃ t, name = .text t ∧ IsSettledName t) ∧ ¬ r.HoldsCollection) ∧
      ∀ o, r.spec = .option o → ∀ name ∈ OptionSpec.countNames,
        ∃ n : Nat, (name, .int n) ∈ back := by
  obtain ⟨hcommand, s, hdeclare, rfl⟩ := construct_eq_ok_iff.1 hconstruct
  have hkind := Spec.kind_of_declare hdeclare
  have hsettled := Spec.isSettled_of_declare hdeclare
  have hnames := names_storedFields s fields secondName
  have hback := readBack_ofFields hnames
  refine ⟨(s.kind_renamed secondName).trans hkind, ?_, _, hback,
    ⟨fun hagain => ⟨settled_of_construct_again hdeclare hcommand hagain, ?_⟩,
      fun ⟨hname, hplain⟩ => ?_⟩, ?_⟩
  · rintro rfl
    exact (s.renamed_none).symm ▸ hsettled
  · refine not_holdsCollection_of_construct (fun given hgiven => ?_) hagain
    obtain ⟨stored, -, rfl⟩ := List.mem_map.1 hgiven
    exact Holding.not_isCollection_toValue _
  · have hrecord := ofFields_eq_ofSpec hdeclare hcommand
      (fun name hmem => (hname name hmem).imp fun _ ht => ht.1) hplain
    have hfields := hback.symm.trans ((congrArg readBack hrecord).trans (readBack_ofSpec _))
    rw [Except.ok.inj hfields, hrecord, ← hkind, ← s.kind_renamed secondName]
    exact construct_fields (hsettled.renamed hname)
  · intro o ho
    obtain rfl : s = .option o := by
      cases s with
      | command c => rcases secondName with _ | _ | _ <;> cases ho
      | option | entry | scope => exact ho
    have hother : ∀ name ∈ OptionSpec.countNames, name ≠ Text.ofString "name" := by decide
    exact exists_count_of_readBack hnames
      (fun name hname n hcount => List.mem_map.2 ⟨_, hcount, if_neg (hother name hname)⟩) hback

end SpecRecord

namespace Sample

open SpecRecord

/-- The fields of a declaration with blanks around a name and a label, a limit that follows the
common one, and a negative flag word. -/
def paddedFields : Fields :=
  [("long_name", .text "	limit "), ("short_name", .text "l"), ("descr", .text " at most\n"),
    ("metavar", .styled (.uniform " N " .none)), ("max_count", .int 3), ("max_values", .int 0),
    ("flags", .int (-20))]

/-- The option that is declared with them. -/
def limit : OptionSpec where
  longName := "limit"
  shortName := some "l"
  descr := some (.plain "at most")
  metavar := some (.styled (.uniform " N " .none))
  flags := ⟨12⟩
  maxCount := 3
  maxOccurrences := 3
  maxValues := 0

/-- The option reads back as other fields than it was declared with, from which it is constructed as
it is. -/
theorem limit_readBack :
    construct .option paddedFields none = .ok (ofSpec (.option limit)) ∧
    limit.fields ≠ paddedFields ∧
    (ofSpec (.option limit)).readBack = .ok limit.fields ∧
    construct .option limit.fields none = .ok (ofSpec (.option limit)) := by
  have hconstruct : construct .option paddedFields none = .ok (ofSpec (.option limit)) := rfl
  obtain ⟨-, -, back, hback, hagain, -⟩ := construct_readBack hconstruct
  obtain rfl : back = limit.fields := Except.ok.inj (hback.symm.trans (readBack_ofSpec _))
  have hplain : ¬ (ofSpec (.option limit)).HoldsCollection :=
    not_holdsCollection_ofFields (Spec.not_isCollection_of_mem_fields _)
  exact ⟨hconstruct, nofun, hback, hagain.2 ⟨nofun, hplain⟩⟩

/-- The fields of a command with a handler. -/
def copyFields (handler : Value) : Fields := [("name", .text "copy"), ("handler", handler)]

/-- A command with a second name that does not start with a letter is accepted, and so is one with a
handler that is a list as well. Neither is accepted again as it reads back. -/
theorem copies_refused :
    (∃ r back,
      construct .plainCommand (copyFields (.callback ⟨0, "copy"⟩)) (some (.text "5x")) = .ok r ∧
      r.readBack = .ok back ∧
      construct .plainCommand back none = .error (.nameMalformed .plainCommand "name" "5x")) ∧
    ∃ r back,
      construct .plainCommand (copyFields (.collection ⟨0, "copy"⟩ (.sequence []))) none = .ok r ∧
      r.readBack = .ok back ∧
      construct .plainCommand back none = .error (.notCallable .plainCommand "handler") :=
  ⟨⟨_, _, rfl, rfl, rfl⟩, ⟨_, _, rfl, rfl, rfl⟩⟩

end Sample

end CommandDispatch
