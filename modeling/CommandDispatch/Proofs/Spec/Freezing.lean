import CommandDispatch.Inspection
import CommandDispatch.Proofs.Spec.Constructing
import CommandDispatch.Proofs.Spec.Veils

/-! # Frozen specs

Whatever is read of a declared spec, and whatever of its storage, fields and properties is tried to
be set, it stays as it was constructed. The one change is that hiding a command adds a flag to it.
However these accesses follow each other, the record of a spec is one of two, the constructed one or
the hidden one, and in both of them storage is closed.
-/

namespace CommandDispatch

/-! ## Guarded names -/

namespace Spec

/-- Commands are the specs that can be hidden later. -/
def IsCommand (s : Spec) : Prop := ∃ c, s = .command c

/-- The names that are never set on a spec: those of storage, of its fields and of its
properties. -/
inductive Guards (s : Spec) : Text → Prop
  | storage {name : Text} (isStorage : SpecAttribute.isStorageName name = true) : Guards s name
  | field {name : Text} (isField : name ∈ s.kind.fieldNames) : Guards s name
  | property {p : SpecProperty} (isProperty : p ∈ SpecProperty.all s) : Guards s p.name

end Spec

namespace SpecProperty

theorem name_injective : Function.Injective name := by
  intro p q hsame
  cases p <;> cases q <;> first | rfl | exact absurd hsame (by decide)

/-- A property is found by its name. -/
theorem find?_name {properties : List SpecProperty} {p : SpecProperty} (hp : p ∈ properties) :
    properties.find? (fun q => q.name = p.name) = some p := by
  induction properties with
  | nil => cases hp
  | cons q rest ih =>
      by_cases hsame : q = p
      · simp [hsame]
      · have hname : q.name ≠ p.name := fun heq => hsame (name_injective heq)
        simpa [hname] using ih (List.mem_of_ne_of_mem (Ne.symm hsame) hp)

/-- No property has the name of a field or of a place in storage. -/
theorem name_distinct (p : SpecProperty) :
    SpecAttribute.isStorageName p.name = false ∧ ∀ kind : SpecKind, p.name ∉ kind.fieldNames := by
  refine ⟨by cases p <;> rfl, ?_⟩
  intro kind
  cases kind <;> cases p <;> decide

end SpecProperty

namespace SpecAttribute

variable {s : Spec}

theorem ofName_storage {name : Text} (hname : isStorageName name = true) :
    ofName s name = storage := if_pos hname

theorem ofName_property {p : SpecProperty} (hp : p ∈ SpecProperty.all s) :
    ofName s p.name = property p := by
  obtain ⟨hstorage, hfield⟩ := p.name_distinct
  have hlookup : s.fields.lookup p.name = none := by
    rw [List.lookup_eq_none_iff]
    rintro ⟨name, v⟩ hmem
    have hne : p.name ≠ name := by
      rintro rfl
      exact hfield s.kind (s.mem_fieldNames hmem)
    simpa using hne
  rw [ofName, hstorage, hlookup, SpecProperty.find?_name hp]
  rfl

end SpecAttribute

/-- No operation has a guarded name. -/
theorem SpecOperation.name_ne_of_guards {s : Spec} {name : Text} (hname : s.Guards name)
    (operation : SpecOperation) : operation.name ≠ name := by
  cases hname with
  | storage hstorage =>
      rintro rfl
      cases operation <;> cases hstorage
  | field hfield =>
      rintro rfl
      revert hfield
      cases s.kind <;> cases operation <;> decide
  | @property p hp => cases operation <;> cases p <;> decide

/-! ## Accesses -/

/-- What can be done to a declared spec from outside: an attribute is read or set, or the spec is
hidden. -/
inductive Access where
  | read (name : Text)
  | set (name : Text) (v : Value)
  | hide

namespace Access

/-- An access that sets guarded names at most. -/
def IsGuarded (s : Spec) : Access → Prop
  | set name _ => s.Guards name
  | read _ | hide => True

def isHide : Access → Bool
  | hide => true
  | read _ | set _ _ => false

theorem any_isHide_iff {accesses : List Access} :
    accesses.any isHide = true ↔ hide ∈ accesses := by
  rw [List.any_eq_true]
  constructor
  · rintro ⟨access, hmem, hhide⟩
    cases access with
    | hide => exact hmem
    | read | set => cases hhide
  · intro hmem
    exact ⟨hide, hmem, rfl⟩

end Access

/-- A spec under inspection: its record, and the session that it is inspected in. -/
structure Inspection where
  record : SpecRecord
  session : Session

namespace Inspection

/-- The answer to an access, or its failure, and what it leaves. -/
def step (host : Host) (i : Inspection) : Access → Except Failure Value × Inspection
  | .read name =>
      let (answer, session) := (i.record.read name).run host i.session
      (answer, { i with session })
  | .set name v =>
      match i.record.set name v with
      | .ok record => (.ok .null, { i with record })
      | .error e => (.error (.access e), i)
  | .hide =>
      match i.record.runHide.run host i.session with
      | (.ok (record, answer), session) => (answer.mapError .access, ⟨record, session⟩)
      | (.error failure, session) => (.error failure, { i with session })

/-- What several accesses leave, also if some of them failed. -/
def run (host : Host) (i : Inspection) (accesses : List Access) : Inspection :=
  accesses.foldl (fun i access => (i.step host access).2) i

end Inspection

/-! ## The two records of a spec -/

/-- Hiding adds the second flag, if it was called at all. -/
theorem CommandFlags.testBit_bits_ite_hide (f : CommandFlags) (hidden : Bool) (i : Nat) :
    (if hidden then f.hide else f).bits.testBit i =
      (f.bits.testBit i || hidden && decide (i = 1)) := by
  cases hidden with
  | true => exact f.testBit_bits_hide i
  | false => exact (Bool.or_false _).symm

theorem Command.flags_mem_fieldNames (c : Command) :
    Text.ofString "flags" ∈ (Spec.command c).kind.fieldNames :=
  Spec.mem_fieldNames (.command c) (v := .int c.flags.bits) (by simp [Spec.fields, Command.fields])

namespace SpecRecord

variable {r : SpecRecord}

/-! ### New records -/

namespace IsNew

theorem permission (hnew : r.IsNew) : r.permission = .bool false := by
  obtain ⟨stored, -, hrecord⟩ := hnew
  rw [← hrecord]
  rfl

/-- Nothing is held but in storage. -/
theorem held?_eq_none (hnew : r.IsNew) {name : Text}
    (hname : SpecAttribute.isStorageName name = false) : r.held? name = none := by
  obtain ⟨stored, -, hrecord⟩ := hnew
  rw [← hrecord, held?, List.lookup_eq_none_iff]
  intro entry hentry
  obtain ⟨field, -, rfl⟩ := List.mem_map.1 hentry
  have hne : name ≠ SpecAttribute.storageName field.1 := by
    rintro rfl
    cases hname
  simpa using hne

/-- The flags of a command are held as they were declared. -/
theorem field_flags (hnew : r.IsNew) {c : Command} (hr : r.spec = .command c) :
    r.field "flags" = .ok (.commandFlags c.flags) := by
  obtain ⟨stored, hnames, hrecord⟩ := hnew
  have hmem : Text.ofString "flags" ∈ stored.map Prod.fst := by
    rw [hnames, hr]
    exact c.flags_mem_fieldNames
  obtain ⟨⟨_, v⟩, hfield, rfl⟩ := List.mem_map.1 hmem
  rw [← hrecord, field_ofFields hnames hfield, hr]
  rfl

/-- All fields read back, each as what it reads as. -/
theorem readBack (hnew : r.IsNew) :
    ∃ back, r.readBack = .ok back ∧ back.map Prod.fst = r.spec.kind.fieldNames ∧
      ∀ name v, (name, v) ∈ back → r.get name = .ok v := by
  obtain ⟨stored, hnames, hrecord⟩ := hnew
  rw [← hrecord]
  refine ⟨_, readBack_ofFields hnames, ?_, fun name v hmem => ?_⟩
  · rw [List.map_map]
    exact hnames
  · obtain ⟨field, hfield, hsame⟩ := List.mem_map.1 hmem
    obtain ⟨rfl, rfl⟩ := Prod.mk.inj hsame
    exact get_ofFields hnames hfield

end IsNew

/-- A record that hiding was called on or not. After hiding, the storage of a command holds its
flags with the one that hides it. -/
def afterHiding (r : SpecRecord) (hidden : Bool) : SpecRecord :=
  match r.spec, hidden with
  | .command c, true => r.hold (SpecAttribute.storageName "flags") (.commandFlags c.flags.hide)
  | _, _ => r

variable {hidden : Bool} {name : Text}

theorem afterHiding_of_not_isCommand (hr : ¬ r.spec.IsCommand) (hidden : Bool) :
    r.afterHiding hidden = r := by
  unfold afterHiding
  split
  next c hc => exact absurd ⟨c, hc⟩ hr
  next => rfl

@[simp] theorem afterHiding_false (r : SpecRecord) : r.afterHiding false = r := by
  unfold afterHiding
  split
  next => contradiction
  next => rfl

theorem afterHiding_true {c : Command} (hr : r.spec = .command c) :
    r.afterHiding true =
      r.hold (SpecAttribute.storageName "flags") (.commandFlags c.flags.hide) := by
  unfold afterHiding
  rw [hr]

@[simp] theorem spec_afterHiding : (r.afterHiding hidden).spec = r.spec := by
  unfold afterHiding
  split <;> rfl

@[simp] theorem permission_afterHiding : (r.afterHiding hidden).permission = r.permission := by
  unfold afterHiding
  split <;> rfl

/-! ### What they hold -/

/-- Hiding concerns the flags only. -/
theorem held?_afterHiding_of_ne (hname : name ≠ SpecAttribute.storageName "flags") :
    (r.afterHiding hidden).held? name = r.held? name := by
  unfold afterHiding
  split
  next => exact held?_hold_of_ne _ _ hname
  next => rfl

theorem field_afterHiding_of_ne (hname : name ≠ Text.ofString "flags") :
    (r.afterHiding hidden).field name = r.field name := by
  have hplace : SpecAttribute.storageName name ≠ SpecAttribute.storageName "flags" :=
    fun heq => hname (List.cons.inj heq).2
  rw [field, field, held?_afterHiding_of_ne hplace]

theorem field_flags_afterHiding (hnew : r.IsNew) {c : Command} (hr : r.spec = .command c)
    (hidden : Bool) :
    (r.afterHiding hidden).field "flags" =
      .ok (.commandFlags (if hidden then c.flags.hide else c.flags)) := by
  cases hidden with
  | true =>
      rw [afterHiding_true hr, field, held?_hold_self]
      rfl
  | false =>
      rw [afterHiding_false]
      exact hnew.field_flags hr

/-- No operation of these records is replaced. -/
theorem implementation_afterHiding (hnew : r.IsNew) (operation : SpecOperation) :
    (r.afterHiding hidden).implementation operation =
      if (SpecOperation.all r.spec).contains operation then .ok .own else .error .absent := by
  have hstorage : SpecAttribute.isStorageName operation.name = false := by
    cases operation <;> rfl
  have hplace : operation.name ≠ SpecAttribute.storageName "flags" := by
    cases operation <;> decide
  rw [implementation, held?_afterHiding_of_ne hplace, hnew.held?_eq_none hstorage,
    spec_afterHiding]

/-! ### What they read as -/

theorem get_of_isStorageName (hname : SpecAttribute.isStorageName name = true) :
    r.get name = .error .storageRead := by
  rw [get, SpecAttribute.ofName_storage hname]

/-- All fields but the flags of a command read as they did before. -/
theorem get_afterHiding (hfield : name ∈ r.spec.kind.fieldNames)
    (hflags : r.spec.IsCommand → name ≠ Text.ofString "flags") :
    (r.afterHiding hidden).get name = r.get name := by
  by_cases hr : r.spec.IsCommand
  · rw [get_of_mem_fieldNames _ (by rwa [spec_afterHiding]),
      field_afterHiding_of_ne (hflags hr), get_of_mem_fieldNames r hfield]
  · rw [afterHiding_of_not_isCommand hr]

/-- The flags of a command read as they were declared, with the one that hides it if hiding was
called. -/
theorem get_flags_afterHiding (hnew : r.IsNew) {c : Command} (hr : r.spec = .command c)
    (hidden : Bool) :
    (r.afterHiding hidden).get "flags" =
      .ok (.int (if hidden then c.flags.hide else c.flags).bits) := by
  have hmem : Text.ofString "flags" ∈ (r.afterHiding hidden).spec.kind.fieldNames := by
    rw [spec_afterHiding, hr]
    exact c.flags_mem_fieldNames
  rw [get_of_mem_fieldNames _ hmem, field_flags_afterHiding hnew hr]
  rfl

theorem get_property {p : SpecProperty} (hp : p ∈ SpecProperty.all r.spec) :
    (r.afterHiding hidden).get p.name = (r.afterHiding hidden).property p := by
  rw [get, spec_afterHiding, SpecAttribute.ofName_property hp]

theorem hasFlag_afterHiding (hnew : r.IsNew) {c : Command} (hr : r.spec = .command c)
    (hidden : Bool) (bit : Nat) :
    (r.afterHiding hidden).hasFlag bit =
      .ok (.bool (c.flags.bits.testBit bit || hidden && decide (bit = 1))) := by
  rw [hasFlag, field_flags_afterHiding hnew hr, ← c.flags.testBit_bits_ite_hide]
  rfl

/-- A command is hidden if it was declared so or hiding was called on it. -/
theorem property_hidden_afterHiding (hnew : r.IsNew) {c : Command} (hr : r.spec = .command c)
    (hidden : Bool) :
    (r.afterHiding hidden).property .hidden = .ok (.bool (c.hidden || hidden)) := by
  have hproperty : (r.afterHiding hidden).property .hidden = (r.afterHiding hidden).hasFlag 1 := by
    rw [property, spec_afterHiding, hr]
    rfl
  rw [hproperty, hasFlag_afterHiding hnew hr, decide_eq_true rfl, Bool.and_true]
  rfl

/-- All other properties are as they were. -/
theorem property_afterHiding (hnew : r.IsNew) {p : SpecProperty}
    (hp : p ∈ SpecProperty.all r.spec) (hother : r.spec.IsCommand → p ≠ .hidden) :
    (r.afterHiding hidden).property p = r.property p := by
  cases hr : r.spec with
  | command c =>
      rw [hr] at hp
      simp only [SpecProperty.all, List.mem_cons, List.not_mem_nil, or_false] at hp
      rcases hp with rfl | rfl | rfl
      · exact absurd rfl (hother ⟨c, hr⟩)
      · have hbefore := hasFlag_afterHiding hnew hr false 0
        rw [afterHiding_false] at hbefore
        rw [property, property, hbefore, hasFlag_afterHiding hnew hr,
          decide_eq_false (by decide), Bool.and_false, Bool.and_false]
      · have hname : (r.afterHiding hidden).field "name" = r.field "name" :=
          field_afterHiding_of_ne (by decide)
        have hshort : (r.afterHiding hidden).field "short_name" = r.field "short_name" :=
          field_afterHiding_of_ne (by decide)
        simp only [property, holdsText, hname, hshort]
  | option | entry | scope =>
      have hnot : ¬ r.spec.IsCommand := by
        rintro ⟨c, hc⟩
        cases hr.symm.trans hc
      rw [afterHiding_of_not_isCommand hnot]

/-! ### What accesses come to -/

variable {host : Host} {session : Session}

/-- Reading calls nothing, prints nothing and writes nothing, also where a name stands for an
operation, which is shown with its record. -/
theorem session_run_read (hnew : r.IsNew) (name : Text) :
    (((r.afterHiding hidden).read name).run host session).2 = session := by
  have himplementation : (r.afterHiding hidden).implementation .listFields = .ok .own := by
    rw [implementation_afterHiding hnew]
    cases r.spec <;> rfl
  have hliteral : ((r.afterHiding hidden).literal.run host session).2 = session := by
    rw [literal, himplementation]
    rfl
  unfold read
  split
  next operation _ =>
    rw [Action.run_bind]
    generalize (r.afterHiding hidden).literal.run host session = shown at hliteral
    obtain ⟨outcome, after⟩ := shown
    cases outcome with
    | ok => exact hliteral
    | error => exact hliteral
  next => rfl

/-- A guarded name stands for no operation. -/
theorem run_read_of_guards (hname : r.spec.Guards name) :
    ((r.afterHiding hidden).read name).run host session =
      (((r.afterHiding hidden).get name).mapError .access, session) := by
  have hoperation : (r.afterHiding hidden).operation? name = none := by
    unfold operation?
    split
    next => rfl
    next =>
      rw [List.find?_eq_none]
      intro operation _
      simpa using SpecOperation.name_ne_of_guards hname operation
  rw [read, hoperation]
  rfl

/-- Storage is closed, and fields and properties are never set. -/
theorem set_of_guards (hnew : r.IsNew) (hname : r.spec.Guards name) (v : Value) :
    (r.afterHiding hidden).set name v =
      .error (if SpecAttribute.isStorageName name then .storageWrite else .readOnly) := by
  unfold set
  rw [spec_afterHiding, permission_afterHiding, hnew.permission]
  cases hname with
  | storage hstorage =>
      rw [SpecAttribute.ofName_storage hstorage, hstorage]
      rfl
  | field hfield =>
      rw [SpecAttribute.ofName_field hfield, r.spec.kind.fieldNames_distinct.2 name hfield]
      rfl
  | @property p hp =>
      rw [SpecAttribute.ofName_property hp, p.name_distinct.1]
      rfl

/-- Hiding a command gives its hidden record, from the hidden record too. -/
theorem hide_afterHiding (hnew : r.IsNew) {c : Command} (hr : r.spec = .command c)
    (hidden : Bool) :
    (r.afterHiding hidden).hide = (r.afterHiding true, .ok ()) := by
  have hclosed : { r.afterHiding hidden with permission := .bool false } =
      r.afterHiding hidden := by
    rw [← hnew.permission, ← permission_afterHiding]
  unfold hide
  rw [field_flags_afterHiding hnew hr, hclosed]
  cases hidden with
  | true =>
      have hagain : (r.afterHiding true).hold (SpecAttribute.storageName "flags")
          (.commandFlags c.flags.hide.hide) = r.afterHiding true := by
        rw [c.flags.hide_hide, afterHiding_true hr, hold_hold]
      exact congrArg (·, Except.ok ()) hagain
  | false =>
      rw [afterHiding_true hr, afterHiding_false]
      rfl

theorem run_runHide (hnew : r.IsNew) {c : Command} (hr : r.spec = .command c) (hidden : Bool) :
    (r.afterHiding hidden).runHide.run host session =
      (.ok (r.afterHiding true, .ok .null), session) := by
  have hown (operation : SpecOperation)
      (hall : (SpecOperation.all (.command c)).contains operation = true) :
      (r.afterHiding hidden).implementation operation = .ok .own := by
    rw [implementation_afterHiding hnew, hr, if_pos hall]
  rw [runHide, hown .hideCommand rfl, hown .openStorage rfl, hide_afterHiding hnew hr]
  rfl

/-- No spec but a command can be hidden. -/
theorem run_runHide_of_not_isCommand (hnew : r.IsNew) (hr : ¬ r.spec.IsCommand) :
    (r.afterHiding hidden).runHide.run host session = (.error (.access .absent), session) := by
  have himplementation : (r.afterHiding hidden).implementation .hideCommand = .error .absent := by
    rw [implementation_afterHiding hnew]
    cases hspec : r.spec with
    | command c => exact absurd ⟨c, hspec⟩ hr
    | option | entry | scope => rfl
  rw [runHide, himplementation]
  rfl

end SpecRecord

/-! ## Inspections -/

namespace Inspection

open SpecRecord

/-- An inspection of a record that hiding was called on or not. -/
def afterHiding (r : SpecRecord) (session : Session) (hidden : Bool) : Inspection :=
  ⟨r.afterHiding hidden, session⟩

variable {r : SpecRecord} {name : Text} (host : Host) (session : Session) (hidden : Bool)

theorem step_read_of_guards (hname : r.spec.Guards name) :
    (afterHiding r session hidden).step host (.read name) =
      (((r.afterHiding hidden).get name).mapError .access, afterHiding r session hidden) := by
  simp only [step, afterHiding, run_read_of_guards hname]

section New

variable (hnew : r.IsNew)
include hnew

theorem step_set_of_guards (hname : r.spec.Guards name) (v : Value) :
    (afterHiding r session hidden).step host (.set name v) =
      (.error (.access (if SpecAttribute.isStorageName name then .storageWrite else .readOnly)),
        afterHiding r session hidden) := by
  simp only [step, afterHiding, set_of_guards hnew hname]

/-- The flags of a command read with the one that hides it if hiding was called. -/
theorem step_read_flags {c : Command} (hr : r.spec = .command c) :
    (afterHiding r session hidden).step host (.read "flags") =
      (.ok (.int (if hidden then c.flags.hide else c.flags).bits),
        afterHiding r session hidden) := by
  have hfield : Text.ofString "flags" ∈ r.spec.kind.fieldNames := by
    rw [hr]
    exact c.flags_mem_fieldNames
  rw [step_read_of_guards host session hidden (.field hfield), get_flags_afterHiding hnew hr]
  rfl

theorem step_read_hidden {c : Command} (hr : r.spec = .command c) :
    (afterHiding r session hidden).step host (.read "hidden") =
      (.ok (.bool (c.hidden || hidden)), afterHiding r session hidden) := by
  have hp : SpecProperty.hidden ∈ SpecProperty.all r.spec := by
    rw [hr]
    exact List.mem_cons_self
  have hread := step_read_of_guards host session hidden (.property hp)
  rw [get_property hp, property_hidden_afterHiding hnew hr] at hread
  exact hread

theorem step_hide {c : Command} (hr : r.spec = .command c) :
    (afterHiding r session hidden).step host .hide = (.ok .null, afterHiding r session true) := by
  simp only [step, afterHiding, run_runHide hnew hr]
  rfl

theorem step_hide_of_not_isCommand (hr : ¬ r.spec.IsCommand) :
    (afterHiding r session hidden).step host .hide =
      (.error (.access .absent), afterHiding r session hidden) := by
  simp only [step, afterHiding, run_runHide_of_not_isCommand hnew hr]

/-- A guarded access leaves one of the two records, and the session as it was. -/
theorem step_of_isGuarded {access : Access} (hguarded : access.IsGuarded r.spec) :
    ((afterHiding r session hidden).step host access).2 =
      afterHiding r session (hidden || access.isHide) := by
  cases access with
  | read name =>
      rw [Access.isHide, Bool.or_false]
      simp only [step, afterHiding, session_run_read hnew]
  | set name v =>
      rw [step_set_of_guards host session hidden hnew hguarded, Access.isHide, Bool.or_false]
  | hide =>
      by_cases hr : r.spec.IsCommand
      · obtain ⟨c, hc⟩ := hr
        rw [step_hide host session hidden hnew hc, Access.isHide, Bool.or_true]
      · rw [step_hide_of_not_isCommand host session hidden hnew hr, afterHiding, afterHiding,
          afterHiding_of_not_isCommand hr, afterHiding_of_not_isCommand hr]

/-- Of a run of guarded accesses it only counts whether hiding is among them. -/
theorem run_of_isGuarded {accesses : List Access}
    (hguarded : ∀ access ∈ accesses, access.IsGuarded r.spec) :
    (afterHiding r session hidden).run host accesses =
      afterHiding r session (hidden || accesses.any Access.isHide) := by
  induction accesses generalizing hidden with
  | nil => rw [List.any_nil, Bool.or_false, run, List.foldl_nil]
  | cons access rest ih =>
      obtain ⟨hfirst, hrest⟩ := List.forall_mem_cons.1 hguarded
      have hstep := step_of_isGuarded host session hidden hnew hfirst
      rw [List.any_cons, ← Bool.or_assoc, ← ih (hidden || access.isHide) hrest, ← hstep]
      rfl

end New

end Inspection

/-- A new record is frozen, except that a command can be hidden: the record of a spec, and every
record that is constructed. Whatever was read of it, whatever of its storage, fields and properties
was tried to be set, and wherever hiding was called in between, nothing was called, printed or
written by that. To set a guarded name fails and changes nothing, and so does reading storage. All
fields read as they did at first, and so do properties, but for the flags of a command and for its
being hidden: its flags are those that it was declared with and, exactly if hiding was called, the
one that hides it. Hiding a command succeeds, and hiding it again changes nothing. -/
theorem SpecRecord.frozen_except_hiding (host : Host) (session : Session) {r : SpecRecord}
    (hnew : r.IsNew) {accesses : List Access}
    (hguarded : ∀ access ∈ accesses, access.IsGuarded r.spec) :
    let now := Inspection.run host ⟨r, session⟩ accesses
    now.session = session ∧
    (∀ name v, r.spec.Guards name → now.step host (.set name v) =
      (.error (.access (if SpecAttribute.isStorageName name then .storageWrite else .readOnly)),
        now)) ∧
    (∀ name, SpecAttribute.isStorageName name = true →
      now.step host (.read name) = (.error (.access .storageRead), now)) ∧
    (∃ back, r.readBack = .ok back ∧ back.map Prod.fst = r.spec.kind.fieldNames ∧
      ∀ name v, (name, v) ∈ back → (r.spec.IsCommand → name ≠ Text.ofString "flags") →
        now.step host (.read name) = (.ok v, now)) ∧
    (∀ p ∈ SpecProperty.all r.spec, (r.spec.IsCommand → p ≠ .hidden) →
      now.step host (.read p.name) = ((r.property p).mapError .access, now)) ∧
    ∀ c, r.spec = .command c →
      (∃ bits : Nat, now.step host (.read "flags") = (.ok (.int bits), now) ∧
        ∀ i, bits.testBit i = true ↔
          c.flags.bits.testBit i = true ∨ i = 1 ∧ Access.hide ∈ accesses) ∧
      (∃ isHidden, now.step host (.read "hidden") = (.ok (.bool isHidden), now) ∧
        (isHidden = true ↔ c.hidden = true ∨ Access.hide ∈ accesses)) ∧
      ∃ after, now.step host .hide = (.ok .null, after) ∧
        after.step host .hide = (.ok .null, after) := by
  intro now
  let hidden := accesses.any Access.isHide
  have hnow : now = Inspection.afterHiding r session hidden := by
    have hrun := Inspection.run_of_isGuarded host session false hnew hguarded
    rwa [Inspection.afterHiding, SpecRecord.afterHiding_false, Bool.false_or] at hrun
  have hread {name : Text} (hname : r.spec.Guards name) :
      now.step host (.read name) =
        (((r.afterHiding hidden).get name).mapError .access, now) := by
    rw [hnow]
    exact Inspection.step_read_of_guards host session hidden hname
  refine ⟨by rw [hnow]; rfl, ?_, ?_, ?_, ?_, ?_⟩
  · intro name v hname
    rw [hnow]
    exact Inspection.step_set_of_guards host session hidden hnew hname v
  · intro name hname
    rw [hread (.storage hname), get_of_isStorageName hname]
    rfl
  · obtain ⟨back, hback, hnames, hget⟩ := hnew.readBack
    refine ⟨back, hback, hnames, fun name v hmem hflags => ?_⟩
    have hfield : name ∈ r.spec.kind.fieldNames := hnames ▸ List.mem_map_of_mem hmem
    rw [hread (.field hfield), get_afterHiding hfield hflags, hget name v hmem]
    rfl
  · intro p hp hother
    rw [hread (.property hp), get_property hp, property_afterHiding hnew hp hother]
  · intro c hc
    refine ⟨⟨(if hidden then c.flags.hide else c.flags).bits, ?_, ?_⟩,
      ⟨c.hidden || hidden, ?_, ?_⟩, ⟨Inspection.afterHiding r session true, ?_, ?_⟩⟩
    · rw [hnow]
      exact Inspection.step_read_flags host session hidden hnew hc
    · intro i
      rw [c.flags.testBit_bits_ite_hide, Bool.or_eq_true, Bool.and_eq_true, decide_eq_true_iff,
        Access.any_isHide_iff, and_comm]
    · rw [hnow]
      exact Inspection.step_read_hidden host session hidden hnew hc
    · rw [Bool.or_eq_true, Access.any_isHide_iff]
    · rw [hnow]
      exact Inspection.step_hide host session hidden hnew hc
    · exact Inspection.step_hide host session true hnew hc

namespace Sample

/-- A command for privileged users. -/
def status : Command where
  longName := "status"
  shortName := none
  descr := none
  longDescr := none
  flags := ⟨1⟩
  handler := ⟨0, "status"⟩
  configure := none
  help := none
  body := .plain

/-- What the command is declared with. -/
def statusFields : Fields :=
  [("name", .text "status"), ("flags", .int 1), ("handler", .callback ⟨0, "status"⟩)]

/-- It is tried to make the command one for all users, and hiding comes in between. -/
def statusAccesses : List Access :=
  [.set "flags" (.int 0), .read "-flags", .hide, .set "-flags" (.int 0),
    .set "su_required" (.bool false), .hide, .read "flags"]

/-- The command is still one for privileged users. It is hidden too, and storage is closed again. -/
theorem status_frozen :
    let host : Host := { answer := fun _ _ _ => ⟨none, .ok .null⟩ }
    let now := Inspection.run host ⟨.ofSpec (.command status), {}⟩ statusAccesses
    SpecRecord.construct .plainCommand statusFields none = .ok (.ofSpec (.command status)) ∧
    (∀ access ∈ statusAccesses, access.IsGuarded (.command status)) ∧
    now.step host (.set "-flags" (.int 0)) = (.error (.access .storageWrite), now) ∧
    now.step host (.set "flags" (.int 0)) = (.error (.access .readOnly), now) ∧
    now.step host (.read "name") = (.ok (.text "status"), now) ∧
    now.step host (.read "su_required") = (.ok (.bool true), now) ∧
    now.step host (.read "hidden") = (.ok (.bool true), now) := by
  intro host now
  have hconstruct : SpecRecord.construct .plainCommand statusFields none =
      .ok (.ofSpec (.command status)) := rfl
  have hstorage : (Spec.command status).Guards "-flags" := .storage rfl
  have hfield : (Spec.command status).Guards "flags" := .field (by decide)
  have hproperty : SpecProperty.superuserRequired ∈ SpecProperty.all (.command status) := by decide
  have hguarded : ∀ access ∈ statusAccesses, access.IsGuarded (.command status) := by
    simp only [statusAccesses, List.forall_mem_cons, Access.IsGuarded, true_and]
    exact ⟨hfield, hstorage, .property hproperty, List.forall_mem_nil _⟩
  obtain ⟨-, hset, -, ⟨back, hback, -, hread⟩, hother, hcommand⟩ :=
    SpecRecord.frozen_except_hiding host {} (SpecRecord.isNew_of_construct hconstruct) hguarded
  obtain rfl : (Spec.command status).fields = back :=
    Except.ok.inj ((SpecRecord.readBack_ofSpec _).symm.trans hback)
  obtain ⟨-, ⟨isHidden, hhidden, hiff⟩, -⟩ := hcommand status rfl
  obtain rfl : isHidden = true := hiff.2 (.inr (by simp [statusAccesses]))
  have hname : (Text.ofString "name", .text (Text.ofString "status")) ∈
      (Spec.command status).fields := List.mem_cons_self
  have hsuperuser := hother _ hproperty fun _ => nofun
  refine ⟨hconstruct, hguarded, ?_, ?_, hread _ _ hname fun _ => by decide, ?_, hhidden⟩
  · exact hset _ _ hstorage
  · exact hset _ _ hfield
  · exact hsuperuser

end Sample

end CommandDispatch
