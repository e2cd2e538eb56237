import CommandDispatch.Proofs.Spec.Declared
import CommandDispatch.Proofs.Spec.ReadingBack

/-! # Constructed records

The record of a declared spec holds the fields of the spec, but for two things that are stored as
they were given: a second name of a command, and callbacks. If there is no second name, or one that
is a text, and if no callback is a collection as well, then the record holds the fields of a spec
after all.
-/

namespace CommandDispatch

open Declaration

/-! ## Callbacks as they are given -/

namespace Declaration

variable {owner : SpecKind} {field : Text} {v : Value}

theorem readCallback_eq_ok_iff {c : Callback} :
    readCallback owner field v = .ok c ↔ v.callback? = some c := by
  unfold readCallback
  cases v.callback? with
  | none => exact iff_of_false nofun nofun
  | some other => exact ⟨fun hread => congrArg some (Except.ok.inj hread),
      fun hsame => congrArg Except.ok (Option.some.inj hsame)⟩

/-- A callback that may be absent is read from one. -/
theorem callback?_of_readCallback? {c : Callback}
    (hread : readCallback? owner field v = .ok (some c)) : v.callback? = some c := by
  unfold readCallback? at hread
  split at hread
  next => cases hread
  next =>
    cases hcallback : readCallback owner field v with
    | error e =>
        rw [hcallback] at hread
        cases hread
    | ok other =>
        rw [hcallback] at hread
        obtain rfl : other = c := Option.some.inj (Except.ok.inj hread)
        exact readCallback_eq_ok_iff.1 hcallback

end Declaration

theorem Fields.get_of_require {fields : Fields} {name : Text} {v : Value}
    (hrequire : fields.require name = .ok v) : fields.get name = v := by
  unfold require at hrequire
  split at hrequire
  next w hw =>
    obtain rfl := Except.ok.inj hrequire
    rw [get, getD, setting, hw]
    rfl
  next => cases hrequire

theorem Value.callback?_ofText? (t : Option Text) : (ofText? t).callback? = none := by
  cases t <;> rfl

theorem Value.callback?_ofLabel? (l : Option Label) : (ofLabel? l).callback? = none := by
  rcases l with _ | _ | _ <;> rfl

/-- A callback is given where a field of a declared spec is one. -/
theorem Spec.callback?_get_of_declare {kind : SpecKind} {fields : Fields} {s : Spec}
    (hdeclare : declare kind fields = .ok s) :
    ∀ field ∈ s.fields, ∀ c, field.2 = .callback c → (fields.get field.1).callback? = some c := by
  have hother {v : Value} (hnone : v.callback? = none) {name : Text} (c : Callback)
      (hsame : v = .callback c) : (fields.get name).callback? = some c := by
    rw [hsame] at hnone
    cases hnone
  have htext (t : Option Text) := @hother _ (Value.callback?_ofText? t)
  have hlabel (l : Option Label) := @hother _ (Value.callback?_ofLabel? l)
  cases declare_eq_ok_iff.1 hdeclare with
  | @option o _ =>
      simp only [Spec.fields, OptionSpec.fields, List.forall_mem_cons]
      exact ⟨hother rfl, htext _, hlabel _, hlabel _, hother rfl, hother rfl, hother rfl,
        hother rfl, List.forall_mem_nil _⟩
  | @entry e _ =>
      simp only [Spec.fields, NamespaceEntry.fields, List.forall_mem_cons]
      exact ⟨hother rfl, hlabel _, hother rfl, List.forall_mem_nil _⟩
  | @scope n _ =>
      simp only [Spec.fields, Namespace.fields, List.forall_mem_cons]
      exact ⟨hother rfl, htext _, hother rfl, List.forall_mem_nil _⟩
  | @command kind command hdeclared =>
      have hread := Command.declare_eq_ok_iff.1 hdeclared
      have hoptional (found : Option Callback) (name : Text)
          (hfound : readCallback? kind.specKind name (fields.get name) = .ok found) (c : Callback)
          (hsame : Value.ofCallback? found = .callback c) :
          (fields.get name).callback? = some c := by
        cases found with
        | none => cases hsame
        | some other =>
            obtain rfl : other = c := Value.callback.inj hsame
            exact callback?_of_readCallback? hfound
      have hhandler : ∀ c, Value.callback command.handler = .callback c →
          (fields.get "handler").callback? = some c := by
        rintro c ⟨⟩
        exact readCallback_eq_ok_iff.1 hread.handler
      have hbody : ∀ field ∈ command.body.fields, ∀ c, field.2 = .callback c →
          (fields.get field.1).callback? = some c := by
        obtain ⟨-, hbody⟩ := CommandBody.declare_eq_ok_iff.1 hread.body
        generalize command.body = body at hbody ⊢
        cases hbody with
        | plain => exact List.forall_mem_nil _
        | options _ hparser _ hparse =>
            simp only [CommandBody.fields, List.forall_mem_cons]
            refine ⟨hother rfl, ?_, List.forall_mem_nil _⟩
            rintro c ⟨⟩
            rw [Fields.get_of_require hparser]
            exact readCallback_eq_ok_iff.1 hparse
        | namespaced _ hparser hparse =>
            simp only [CommandBody.fields, List.forall_mem_cons]
            refine ⟨hother rfl, ?_, List.forall_mem_nil _⟩
            rintro c ⟨⟩
            rw [Fields.get_of_require hparser]
            exact readCallback_eq_ok_iff.1 hparse
      simp only [Spec.fields, Command.fields, List.forall_mem_append, List.forall_mem_cons]
      exact ⟨⟨hother rfl, htext _, hlabel _, hlabel _, hother rfl, hhandler,
        hoptional _ _ hread.configure, hoptional _ _ hread.help, List.forall_mem_nil _⟩, hbody⟩

/-! ## Names -/

namespace Spec

@[simp] theorem renamed_none (s : Spec) : s.renamed none = s := by
  cases s <;> rfl

/-- A spec is of its kind under every name. -/
@[simp] theorem kind_renamed (s : Spec) (secondName : Option Value) :
    (s.renamed secondName).kind = s.kind := by
  cases s with
  | command c =>
      rcases secondName with _ | name
      · rfl
      · cases name <;> rfl
  | option | entry | scope => rfl

theorem isCommand_kind_iff {s : Spec} : s.kind.isCommand = true ↔ ∃ c, s = .command c := by
  cases s with
  | command c =>
      refine iff_of_true ?_ ⟨c, rfl⟩
      rw [kind, Command.kind]
      split <;> rfl
  | option | entry | scope =>
      constructor
      · intro hcommand
        cases hcommand
      · rintro ⟨c, hc⟩
        cases hc

/-- Under a second name a command differs in the field of its name only. -/
theorem fields_renamed {s : Spec} {secondName : Option Value}
    (hcommand : secondName.isSome = true → s.kind.isCommand = true)
    (htext : ∀ name ∈ secondName, ∃ t, name = .text t) :
    (s.renamed secondName).fields = s.fields.map fun field =>
      if field.1 = Text.ofString "name" then (field.1, secondName.getD field.2) else field := by
  cases secondName with
  | none => simp
  | some name =>
      obtain ⟨t, rfl⟩ := htext name rfl
      obtain ⟨c, rfl⟩ := isCommand_kind_iff.1 (hcommand rfl)
      obtain ⟨_, _, _, _, _, _, _, body⟩ := c
      cases body <;> rfl

end Spec

/-! ## What storage holds -/

/-- A value that is both a callback and a collection. -/
def Value.IsCollection (v : Value) : Prop := ∃ c contents, v = .collection c contents

/-- A callback is one by itself unless it is a collection. -/
theorem Value.eq_callback_of_callback? {v : Value} {c : Callback} (hcallback : v.callback? = some c)
    (hplain : ¬ v.IsCollection) : v = .callback c := by
  cases v with
  | callback other => exact congrArg _ (Option.some.inj hcallback)
  | collection other contents => exact absurd ⟨other, contents, rfl⟩ hplain
  | _ => cases hcallback

namespace SpecRecord

variable {kind : SpecKind} {fields : Fields} {secondName : Option Value} {s : Spec} {r : SpecRecord}

/-- A record is constructed from a spec that is declared, under its second name if it has one. -/
theorem construct_eq_ok_iff :
    construct kind fields secondName = .ok r ↔
      (secondName.isSome = true → kind.isCommand = true) ∧
      ∃ s, Spec.declare kind fields = .ok s ∧
        ofFields (s.renamed secondName) (storedFields s fields secondName) = r := by
  unfold construct
  cases hrefused : secondName.isSome && !kind.isCommand with
  | true =>
      obtain ⟨hsome, hkind⟩ := Bool.and_eq_true_iff.1 hrefused
      rw [Bool.not_eq_true'] at hkind
      refine iff_of_false nofun fun ⟨hcommand, _⟩ => ?_
      cases hkind.symm.trans (hcommand hsome)
  | false =>
      have hcommand : secondName.isSome = true → kind.isCommand = true := by
        intro hsome
        simpa [hsome] using hrefused
      constructor
      · intro hconstruct
        obtain ⟨s, hdeclare, hrecord⟩ := exists_ok_of_bind_eq_ok hconstruct
        exact ⟨hcommand, s, hdeclare, Except.ok.inj hrecord⟩
      · rintro ⟨-, s, hdeclare, rfl⟩
        rw [hdeclare]
        rfl

/-- What is stored has the names of the fields of the spec. -/
theorem names_storedFields (s : Spec) (given : Fields) (secondName : Option Value) :
    (storedFields s given secondName).map Prod.fst = (s.renamed secondName).kind.fieldNames := by
  rw [Spec.kind_renamed, ← s.names_fields, storedFields, List.map_map]
  refine List.map_congr_left fun field _ => ?_
  simp only [Function.comp]
  split
  · rfl
  · split <;> rfl

/-- Where no callback is a collection, the fields of the spec are stored as they are. -/
theorem storedFields_eq_fields (hdeclare : Spec.declare kind fields = .ok s)
    (hcommand : secondName.isSome = true → s.kind.isCommand = true)
    (htext : ∀ name ∈ secondName, ∃ t, name = .text t)
    (hplain : ∀ field ∈ storedFields s fields secondName, ¬ field.2.IsCollection) :
    storedFields s fields secondName = (s.renamed secondName).fields := by
  rw [Spec.fields_renamed hcommand htext]
  refine List.map_congr_left fun field hfield => ?_
  have hstored := hplain _ (List.mem_map_of_mem hfield)
  obtain ⟨name, v⟩ := field
  by_cases hname : name = Text.ofString "name"
  · rw [if_pos hname, if_pos hname]
  · rw [if_neg hname] at hstored ⊢
    rw [if_neg hname]
    split
    next c hc =>
      obtain rfl : v = .callback c := hc
      have hgiven := Spec.callback?_get_of_declare hdeclare _ hfield c rfl
      rw [Value.eq_callback_of_callback? hgiven hstored]
    next => rfl

/-- A record with the fields of its kind, to which nothing was done. -/
def IsNew (r : SpecRecord) : Prop :=
  ∃ stored : Fields, stored.map Prod.fst = r.spec.kind.fieldNames ∧ ofFields r.spec stored = r

theorem isNew_ofSpec (s : Spec) : (ofSpec s).IsNew := ⟨s.fields, s.names_fields, rfl⟩

theorem isNew_of_construct (hconstruct : construct kind fields secondName = .ok r) : r.IsNew := by
  obtain ⟨-, s, -, rfl⟩ := construct_eq_ok_iff.1 hconstruct
  exact ⟨_, names_storedFields s fields secondName, rfl⟩

end SpecRecord

end CommandDispatch
