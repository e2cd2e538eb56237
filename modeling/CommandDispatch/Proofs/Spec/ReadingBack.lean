import CommandDispatch.Spec.Record

/-! # Reading a record back

A record that nothing was done to gives for each field what is stored for it, in a form that cannot
be changed, by the names that belong to its kind. If what is stored are the fields of its spec, they
read back as they are.
-/

namespace CommandDispatch

/-! ## Names of fields -/

/-- The names of the fields that specs of a kind have. -/
def SpecKind.fieldNames : SpecKind → List Text
  | option => OptionSpec.fieldNames
  | entry => NamespaceEntry.fieldNames
  | scope => Namespace.fieldNames
  | plainCommand => Command.sharedFieldNames ++ CommandKind.plain.ownFieldNames
  | optionCommand => Command.sharedFieldNames ++ CommandKind.options.ownFieldNames
  | namespaceCommand => Command.sharedFieldNames ++ CommandKind.namespaced.ownFieldNames

/-- The names of a kind differ, and none looks like a place in storage. -/
theorem SpecKind.fieldNames_distinct (kind : SpecKind) :
    kind.fieldNames.Nodup ∧
      ∀ name ∈ kind.fieldNames, SpecAttribute.isStorageName name = false := by
  cases kind <;> decide

theorem Command.kind_eq (c : Command) : c.kind = c.body.kind.specKind := by
  rw [kind]
  cases c.body <;> rfl

theorem Command.names_fields (c : Command) :
    c.fields.map Prod.fst = sharedFieldNames ++ c.body.kind.ownFieldNames := by
  have hbody : c.body.fields.map Prod.fst = c.body.kind.ownFieldNames := by
    cases c.body <;> rfl
  rw [fields, List.map_append, hbody]
  rfl

/-- A spec has the fields of its kind. -/
theorem Spec.names_fields (s : Spec) : s.fields.map Prod.fst = s.kind.fieldNames := by
  cases s with
  | option | entry | scope => rfl
  | command c =>
      rw [fields, c.names_fields, kind, c.kind_eq]
      cases c.body <;> rfl

/-- A field is found by its name, which no other field has. -/
theorem SpecKind.lookup_of_names {kind : SpecKind} {fields : Fields} {name : Text} {v : Value}
    (hnames : fields.map Prod.fst = kind.fieldNames) (hfield : (name, v) ∈ fields) :
    fields.lookup name = some v := by
  obtain ⟨before, after, hsplit⟩ := List.append_of_mem hfield
  rw [List.lookup_eq_some_iff]
  refine ⟨before, after, hsplit, fun other hother => ?_⟩
  have hnodup := kind.fieldNames_distinct.1
  rw [← hnames, hsplit, List.map_append, List.map_cons, List.nodup_append] at hnodup
  simpa using (hnodup.2.2 _ (List.mem_map_of_mem hother) _ List.mem_cons_self).symm

theorem Spec.lookup_fields {s : Spec} {name : Text} {v : Value} (hfield : (name, v) ∈ s.fields) :
    s.fields.lookup name = some v :=
  SpecKind.lookup_of_names s.names_fields hfield

theorem Spec.mem_fieldNames {name : Text} {v : Value} (s : Spec) (hfield : (name, v) ∈ s.fields) :
    name ∈ s.kind.fieldNames := by
  rw [← s.names_fields]
  exact List.mem_map_of_mem hfield

theorem SpecAttribute.ofName_field {s : Spec} {name : Text} (hname : name ∈ s.kind.fieldNames) :
    ofName s name = field := by
  have hmem : name ∈ s.fields.map Prod.fst := by rwa [s.names_fields]
  obtain ⟨⟨_, v⟩, hfield, rfl⟩ := List.mem_map.1 hmem
  rw [ofName, s.kind.fieldNames_distinct.2 _ hname, Spec.lookup_fields hfield]
  rfl

/-! ## What is held reads back -/

/-- A value that a field gives back as it was stored. -/
def Value.ReadsBack (v : Value) : Prop := (FrozenField.ofStored v).toValue = v

theorem readsBack_ofText? (t : Option Text) : (Value.ofText? t).ReadsBack := by
  cases t <;> rfl

theorem readsBack_ofLabel? (l : Option Label) : (Value.ofLabel? l).ReadsBack := by
  cases l with
  | none => rfl
  | some l => cases l <;> rfl

theorem readsBack_ofCallback? (c : Option Callback) : (Value.ofCallback? c).ReadsBack := by
  cases c <;> rfl

namespace SpecRecord

/-- A field reads back if it is held as its value. -/
theorem toValue_holdingOf {s : Spec} {name : Text} {v : Value}
    (hname : name ≠ Text.ofString "flags") (hv : v.ReadsBack) :
    (holdingOf s (name, v)).frozen.toValue = v := by
  have hholding : holdingOf s (name, v) = .value v := by
    unfold holdingOf
    exact if_neg hname
  rw [hholding]
  exact hv

/-- All fields of a spec read back, the flags as their number. -/
theorem toValue_holdingOf_of_mem {s : Spec} {name : Text} {v : Value}
    (hfield : (name, v) ∈ s.fields) : (holdingOf s (name, v)).frozen.toValue = v := by
  have hall : ∀ field ∈ s.fields, (holdingOf s field).frozen.toValue = field.2 := by
    cases s with
    | option o =>
        simp only [Spec.fields, OptionSpec.fields, List.forall_mem_cons]
        exact ⟨toValue_holdingOf (by decide) rfl,
          toValue_holdingOf (by decide) (readsBack_ofText? _),
          toValue_holdingOf (by decide) (readsBack_ofLabel? _),
          toValue_holdingOf (by decide) (readsBack_ofLabel? _), rfl,
          toValue_holdingOf (by decide) rfl, toValue_holdingOf (by decide) rfl,
          toValue_holdingOf (by decide) rfl, List.forall_mem_nil _⟩
    | entry e =>
        simp only [Spec.fields, NamespaceEntry.fields, List.forall_mem_cons]
        exact ⟨toValue_holdingOf (by decide) rfl,
          toValue_holdingOf (by decide) (readsBack_ofLabel? _),
          toValue_holdingOf (by decide) rfl, List.forall_mem_nil _⟩
    | scope n =>
        simp only [Spec.fields, Namespace.fields, List.forall_mem_cons]
        exact ⟨toValue_holdingOf (by decide) rfl,
          toValue_holdingOf (by decide) (readsBack_ofText? _),
          toValue_holdingOf (by decide) rfl, List.forall_mem_nil _⟩
    | command c =>
        have hbody : ∀ field ∈ c.body.fields,
            (holdingOf (.command c) field).frozen.toValue = field.2 := by
          cases c.body with
          | plain => exact List.forall_mem_nil _
          | options | namespaced =>
              simp only [CommandBody.fields, List.forall_mem_cons]
              exact ⟨toValue_holdingOf (by decide) rfl, toValue_holdingOf (by decide) rfl,
                List.forall_mem_nil _⟩
        simp only [Spec.fields, Command.fields, List.forall_mem_append, List.forall_mem_cons]
        exact ⟨⟨toValue_holdingOf (by decide) rfl,
          toValue_holdingOf (by decide) (readsBack_ofText? _),
          toValue_holdingOf (by decide) (readsBack_ofLabel? _),
          toValue_holdingOf (by decide) (readsBack_ofLabel? _), rfl,
          toValue_holdingOf (by decide) rfl,
          toValue_holdingOf (by decide) (readsBack_ofCallback? _),
          toValue_holdingOf (by decide) (readsBack_ofCallback? _), List.forall_mem_nil _⟩, hbody⟩
  exact hall (name, v) hfield

/-! ## Records with their fields -/

section Stored

variable {s : Spec} {stored : Fields} (hnames : stored.map Prod.fst = s.kind.fieldNames)
  {name : Text} {v : Value}

include hnames

/-- The storage of a new record holds each field. -/
theorem field_ofFields (hfield : (name, v) ∈ stored) :
    (ofFields s stored).field name = .ok (holdingOf s (name, v)) := by
  have hlookup : ∀ fields : Fields, fields.lookup name = some v →
      (fields.map fun field => (SpecAttribute.storageName field.1, holdingOf s field)).lookup
        (SpecAttribute.storageName name) = some (holdingOf s (name, v)) := by
    intro fields
    induction fields with
    | nil => nofun
    | cons field rest ih =>
        obtain ⟨other, w⟩ := field
        by_cases hsame : name = other
        · subst hsame
          intro hfound
          obtain rfl : w = v := by simpa using hfound
          simp
        · have hplace : SpecAttribute.storageName name ≠ SpecAttribute.storageName other :=
            fun heq => hsame (List.cons.inj heq).2
          simpa [List.lookup_cons, beq_eq_false_iff_ne.2 hsame, beq_eq_false_iff_ne.2 hplace]
            using ih
  rw [field, held?, ofFields, hlookup _ (SpecKind.lookup_of_names hnames hfield)]

omit hnames in
/-- A field is read from storage. -/
theorem get_of_mem_fieldNames (r : SpecRecord) (hname : name ∈ r.spec.kind.fieldNames) :
    r.get name = do return (← r.field name).frozen.toValue := by
  rw [get, SpecAttribute.ofName_field hname]

/-- A field of a new record reads as what is held for it, frozen. -/
theorem get_ofFields (hfield : (name, v) ∈ stored) :
    (ofFields s stored).get name = .ok (holdingOf s (name, v)).frozen.toValue := by
  have hname : name ∈ s.kind.fieldNames := hnames ▸ List.mem_map_of_mem hfield
  rw [get_of_mem_fieldNames (ofFields s stored) hname, field_ofFields hnames hfield]
  rfl

end Stored

/-- All fields of a record, read one after the other. -/
def readBack (r : SpecRecord) : Except AttributeError Fields :=
  r.spec.kind.fieldNames.mapM fun name => do return (name, ← r.get name)

/-- Reading a new record back yields what is stored, frozen. -/
theorem readBack_ofFields {s : Spec} {stored : Fields}
    (hnames : stored.map Prod.fst = s.kind.fieldNames) :
    (ofFields s stored).readBack =
      .ok (stored.map fun field => (field.1, (holdingOf s field).frozen.toValue)) := by
  have hread : ∀ fields : Fields,
      (∀ field ∈ fields, (ofFields s stored).get field.1 =
        .ok (holdingOf s field).frozen.toValue) →
      ((fields.map Prod.fst).mapM fun name => do
        return (name, ← (ofFields s stored).get name)) =
          Except.ok (fields.map fun field => (field.1, (holdingOf s field).frozen.toValue)) := by
    intro fields
    induction fields with
    | nil => exact fun _ => rfl
    | cons field rest ih =>
        intro hfields
        obtain ⟨hfirst, hrest⟩ := List.forall_mem_cons.1 hfields
        rw [List.map_cons, List.mapM_cons, hfirst, ih hrest]
        rfl
  rw [readBack, show (ofFields s stored).spec = s from rfl, ← hnames]
  exact hread _ fun field hfield => get_ofFields hnames hfield

/-- Reading the record of a spec back yields the fields of the spec. -/
theorem readBack_ofSpec (s : Spec) : (ofSpec s).readBack = .ok s.fields := by
  have hmap : (s.fields.map fun field => (field.1, (holdingOf s field).frozen.toValue)) =
      s.fields.map id := by
    refine List.map_congr_left fun field hfield => ?_
    rw [toValue_holdingOf_of_mem hfield]
    rfl
  rw [ofSpec, readBack_ofFields s.names_fields, hmap, List.map_id]

end SpecRecord

end CommandDispatch
