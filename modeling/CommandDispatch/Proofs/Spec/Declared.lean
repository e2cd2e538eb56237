import CommandDispatch.Spec.Declaration

/-! # What declaring ensures

What a declaration has checked holds of what it yields. Long names are names, which start with an
ASCII letter; the options of one schema differ in their long names, and the entries of one namespace
in their names. Here names are told apart as a whole, however long they are.
-/

namespace CommandDispatch

open Declaration

/-- A sequence that yields a result has yielded one at its first step. -/
theorem exists_ok_of_bind_eq_ok {ε α β : Type} {first : Except ε α} {next : α → Except ε β} {b : β}
    (hok : first >>= next = .ok b) : ∃ a, first = .ok a ∧ next a = .ok b := by
  cases first with
  | error _ => cases hok
  | ok a => exact ⟨a, rfl, hok⟩

namespace Declaration

/-- A name is read from a text that is one when it is stripped. -/
theorem readName_eq_ok_iff {owner : SpecKind} {field : Text} {v : Value} {name : Text} :
    readName owner field v = .ok name ↔ ∃ t, v = .text t ∧ t.strip = name ∧ isName name = true := by
  constructor
  · intro hread
    unfold readName at hread
    split at hread
    next t =>
      dsimp only at hread
      split at hread
      next => cases hread
      next =>
        split at hread
        next hname =>
          obtain rfl := Except.ok.inj hread
          exact ⟨t, rfl, rfl, hname⟩
        next => cases hread
    next => cases hread
  · rintro ⟨t, rfl, rfl, hname⟩
    have hne : t.strip ≠ [] := by
      intro hempty
      rw [hempty] at hname
      cases hname
    simp only [readName, hne, hname, if_true, if_false]

theorem isName_of_readName {owner : SpecKind} {field : Text} {v : Value} {name : Text}
    (hread : readName owner field v = .ok name) : isName name = true := by
  obtain ⟨_, -, -, hname⟩ := readName_eq_ok_iff.1 hread
  exact hname

/-- A short name is read as it is given. -/
theorem readShortName_eq_ok_iff {owner : SpecKind} {v : Value} {short : Option Text} :
    readShortName owner v = .ok short ↔
      v = .ofText? short ∧ ∀ name ∈ short, isShortName name = true := by
  constructor
  · intro hread
    unfold readShortName at hread
    split at hread
    next =>
      obtain rfl := Except.ok.inj hread
      exact ⟨rfl, nofun⟩
    next t =>
      split at hread
      next hshort =>
        obtain rfl := Except.ok.inj hread
        exact ⟨rfl, fun name hname => by rwa [← Option.some.inj hname]⟩
      next => cases hread
    next => cases hread
  · rintro ⟨rfl, hshort⟩
    cases short with
    | none => rfl
    | some name => simp only [readShortName, Value.ofText?, hshort name rfl, if_true]

/-- A reader that refuses every item whose name it has met yields items with different names. -/
theorem nodup_of_read {α : Type} (name : α → Text)
    (read : List Text → List Value → Except DeclarationError (List α))
    (hnil : ∀ seen, read seen [] = .ok [])
    (hcons : ∀ seen item rest items, read seen (item :: rest) = .ok items →
      ∃ a others, name a ∉ seen ∧ read (name a :: seen) rest = .ok others ∧ items = a :: others)
    {seen : List Text} {given : List Value} {items : List α} (hread : read seen given = .ok items) :
    (items.map name).Nodup ∧ ∀ a ∈ items, name a ∉ seen := by
  induction given generalizing seen items with
  | nil =>
      obtain rfl := Except.ok.inj ((hnil seen).symm.trans hread)
      exact ⟨List.nodup_nil, List.forall_mem_nil _⟩
  | cons item rest ih =>
      obtain ⟨a, others, hnew, hrest, rfl⟩ := hcons seen item rest items hread
      obtain ⟨hnodup, hunseen⟩ := ih hrest
      refine ⟨List.nodup_cons.2 ⟨?_, hnodup⟩, List.forall_mem_cons.2 ⟨hnew, ?_⟩⟩
      · intro hmem
        obtain ⟨b, hb, hname⟩ := List.mem_map.1 hmem
        exact hunseen b hb (hname ▸ List.mem_cons_self)
      · exact fun b hb hseen => hunseen b hb (List.mem_cons_of_mem _ hseen)

theorem exists_of_readOptionItems {owner : SpecKind} {seen : List Text} {item : Value}
    {rest : List Value} {schema : List OptionSpec}
    (hread : readOptionItems owner seen (item :: rest) = .ok schema) :
    ∃ o others, o.longName ∉ seen ∧ readOptionItems owner (o.longName :: seen) rest = .ok others ∧
      schema = o :: others := by
  unfold readOptionItems at hread
  split at hread
  next hnil => cases hnil
  next hitems =>
    obtain ⟨-, rfl⟩ := List.cons.inj hitems
    split at hread
    next => cases hread
    next o hnew =>
      obtain ⟨others, hothers, hschema⟩ := exists_ok_of_bind_eq_ok hread
      exact ⟨o, others, by simpa using hnew, hothers, (Except.ok.inj hschema).symm⟩
  next => cases hread

theorem exists_of_readEntryItems {seen : List Text} {item : Value} {rest : List Value}
    {entries : List NamespaceEntry} (hread : readEntryItems seen (item :: rest) = .ok entries) :
    ∃ e others, e.name ∉ seen ∧ readEntryItems (e.name :: seen) rest = .ok others ∧
      entries = e :: others := by
  unfold readEntryItems at hread
  split at hread
  next hnil => cases hnil
  next hitems =>
    obtain ⟨-, rfl⟩ := List.cons.inj hitems
    split at hread
    next => cases hread
    next e hnew =>
      obtain ⟨others, hothers, hentries⟩ := exists_ok_of_bind_eq_ok hread
      exact ⟨e, others, by simpa using hnew, hothers, (Except.ok.inj hentries).symm⟩
  next => cases hread

theorem nodup_of_readOptions {owner : SpecKind} {v : Value} {schema : List OptionSpec}
    (hread : readOptions owner v = .ok schema) : (schema.map fun o => o.longName).Nodup := by
  unfold readOptions at hread
  split at hread
  next => exact (nodup_of_read _ (readOptionItems owner) (fun _ => rfl)
    (fun _ _ _ _ => exists_of_readOptionItems) hread).1
  next => cases hread

theorem nodup_of_readEntries {v : Value} {entries : List NamespaceEntry}
    (hread : readEntries v = .ok entries) : (entries.map fun e => e.name).Nodup := by
  unfold readEntries at hread
  split at hread
  next => cases hread
  next => exact (nodup_of_read _ readEntryItems (fun _ => rfl)
    (fun _ _ _ _ => exists_of_readEntryItems) hread).1
  next => cases hread

end Declaration

/-! ## What fields are read as -/

/-- What the fields of an option are read as. -/
structure OptionSpec.ReadFrom (fields : Fields) (o : OptionSpec) : Prop where
  known : fields.only fieldNames = .ok ()
  longName : readName .option "long name" (fields.get "long_name") = .ok o.longName
  shortName : readShortName .option (fields.get "short_name") = .ok o.shortName
  descr : readLabel .option "descr" (fields.get "descr") = .ok o.descr
  metavar : readLabel .option "metavar" (fields.get "metavar") = .ok o.metavar
  maxCount : readCount .option "max count" (fields.getD "max_count" (.int 0)) = .ok o.maxCount
  maxOccurrences : readCount .option "max occurrences"
    (fields.getD "max_occurrences" (.int o.maxCount)) = .ok o.maxOccurrences
  maxValues : readCount .option "max values" (fields.getD "max_values" (.int o.maxCount)) =
    .ok o.maxValues
  flags : ∃ n, readFlags (fields.getD "flags" (.int 0)) = .ok n ∧ o.flags = .ofInt n

/-- An option is declared exactly as its fields are read. -/
theorem OptionSpec.declare_eq_ok_iff {fields : Fields} {o : OptionSpec} :
    declare fields = .ok o ↔ ReadFrom fields o := by
  constructor
  · intro hdeclare
    obtain ⟨_, hknown, hdeclare⟩ := exists_ok_of_bind_eq_ok hdeclare
    obtain ⟨_, hlongName, hdeclare⟩ := exists_ok_of_bind_eq_ok hdeclare
    obtain ⟨_, hshortName, hdeclare⟩ := exists_ok_of_bind_eq_ok hdeclare
    obtain ⟨_, hdescr, hdeclare⟩ := exists_ok_of_bind_eq_ok hdeclare
    obtain ⟨_, hmetavar, hdeclare⟩ := exists_ok_of_bind_eq_ok hdeclare
    obtain ⟨_, hmaxCount, hdeclare⟩ := exists_ok_of_bind_eq_ok hdeclare
    obtain ⟨_, hmaxOccurrences, hdeclare⟩ := exists_ok_of_bind_eq_ok hdeclare
    obtain ⟨_, hmaxValues, hdeclare⟩ := exists_ok_of_bind_eq_ok hdeclare
    obtain ⟨n, hflags, hdeclare⟩ := exists_ok_of_bind_eq_ok hdeclare
    obtain rfl := Except.ok.inj hdeclare
    exact ⟨hknown, hlongName, hshortName, hdescr, hmetavar, hmaxCount, hmaxOccurrences, hmaxValues,
      n, hflags, rfl⟩
  · rintro ⟨hknown, hlongName, hshortName, hdescr, hmetavar, hmaxCount, hmaxOccurrences, hmaxValues,
      n, hread, hflags⟩
    simp only [declare, hknown, hlongName, hshortName, hdescr, hmetavar, hmaxCount,
      hmaxOccurrences, hmaxValues, hread, ← hflags, bind, Except.bind, pure, Except.pure]

/-- What the fields of an entry are read as. -/
structure NamespaceEntry.ReadFrom (fields : Fields) (e : NamespaceEntry) : Prop where
  known : fields.only fieldNames = .ok ()
  name : readName .entry "name" (fields.get "name") = .ok e.name
  descr : readLabel .entry "descr" (fields.get "descr") = .ok e.descr
  options : readOptions .entry (fields.getD "options" (.list [])) = .ok e.options

/-- An entry is declared exactly as its fields are read. -/
theorem NamespaceEntry.declare_eq_ok_iff {fields : Fields} {e : NamespaceEntry} :
    declare fields = .ok e ↔ ReadFrom fields e := by
  constructor
  · intro hdeclare
    obtain ⟨_, hknown, hdeclare⟩ := exists_ok_of_bind_eq_ok hdeclare
    obtain ⟨_, hname, hdeclare⟩ := exists_ok_of_bind_eq_ok hdeclare
    obtain ⟨_, hdescr, hdeclare⟩ := exists_ok_of_bind_eq_ok hdeclare
    obtain ⟨_, hoptions, hdeclare⟩ := exists_ok_of_bind_eq_ok hdeclare
    obtain rfl := Except.ok.inj hdeclare
    exact ⟨hknown, hname, hdescr, hoptions⟩
  · rintro ⟨hknown, hname, hdescr, hoptions⟩
    simp only [declare, hknown, hname, hdescr, hoptions, bind, Except.bind, pure, Except.pure]

/-- What the fields of a namespace are read as. -/
structure Namespace.ReadFrom (fields : Fields) (n : Namespace) : Prop where
  known : fields.only fieldNames = .ok ()
  longName : readName .scope "long name" (fields.get "long_name") = .ok n.longName
  shortName : readShortName .scope (fields.get "short_name") = .ok n.shortName
  entries : readEntries (fields.getD "entries" (.list [])) = .ok n.entries

/-- A namespace is declared exactly as its fields are read. -/
theorem Namespace.declare_eq_ok_iff {fields : Fields} {n : Namespace} :
    declare fields = .ok n ↔ ReadFrom fields n := by
  constructor
  · intro hdeclare
    obtain ⟨_, hknown, hdeclare⟩ := exists_ok_of_bind_eq_ok hdeclare
    obtain ⟨_, hlongName, hdeclare⟩ := exists_ok_of_bind_eq_ok hdeclare
    obtain ⟨_, hshortName, hdeclare⟩ := exists_ok_of_bind_eq_ok hdeclare
    obtain ⟨_, hentries, hdeclare⟩ := exists_ok_of_bind_eq_ok hdeclare
    obtain rfl := Except.ok.inj hdeclare
    exact ⟨hknown, hlongName, hshortName, hentries⟩
  · rintro ⟨hknown, hlongName, hshortName, hentries⟩
    simp only [declare, hknown, hlongName, hshortName, hentries, bind, Except.bind, pure,
      Except.pure]

/-- What the fields are read as that only one kind of command has. -/
inductive CommandBody.ReadFrom (fields : Fields) : CommandBody → Prop
  | plain : ReadFrom fields .plain
  | options {v w : Value} {schema : List OptionSpec} {parse : Callback}
      (given : fields.require "options" = .ok v) (parser : fields.require "options_parse" = .ok w)
      (schema_eq : readOptions .optionCommand v = .ok schema)
      (parse_eq : readCallback .optionCommand "options_parse" w = .ok parse) :
      ReadFrom fields (.options schema parse)
  | namespaced {w : Value} {scope : Namespace} {parse : Callback}
      (given : fields.require "namespace" = .ok (.spec (.scope scope)))
      (parser : fields.require "namespace_opts_parse" = .ok w)
      (parse_eq : readCallback .namespaceCommand "namespace_opts_parse" w = .ok parse) :
      ReadFrom fields (.namespaced scope parse)

/-- The body of a command is declared exactly as its fields are read. -/
theorem CommandBody.declare_eq_ok_iff {fields : Fields} {kind : CommandKind} {body : CommandBody} :
    declare fields kind = .ok body ↔ body.kind = kind ∧ ReadFrom fields body := by
  constructor
  · intro hdeclare
    cases kind with
    | plain =>
        obtain rfl := Except.ok.inj hdeclare
        exact ⟨rfl, .plain⟩
    | options =>
        obtain ⟨_, hgiven, hdeclare⟩ := exists_ok_of_bind_eq_ok hdeclare
        obtain ⟨_, hparser, hdeclare⟩ := exists_ok_of_bind_eq_ok hdeclare
        obtain ⟨_, hschema, hdeclare⟩ := exists_ok_of_bind_eq_ok hdeclare
        obtain ⟨_, hparse, hdeclare⟩ := exists_ok_of_bind_eq_ok hdeclare
        obtain rfl := Except.ok.inj hdeclare
        exact ⟨rfl, .options hgiven hparser hschema hparse⟩
    | namespaced =>
        obtain ⟨v, hgiven, hdeclare⟩ := exists_ok_of_bind_eq_ok hdeclare
        obtain ⟨_, hparser, hdeclare⟩ := exists_ok_of_bind_eq_ok hdeclare
        split at hdeclare
        next scope =>
          obtain ⟨_, hparse, hdeclare⟩ := exists_ok_of_bind_eq_ok hdeclare
          obtain rfl := Except.ok.inj hdeclare
          exact ⟨rfl, .namespaced hgiven hparser hparse⟩
        next => cases hdeclare
  · rintro ⟨rfl, hread⟩
    cases hread with
    | plain => rfl
    | options hgiven hparser hschema hparse =>
        simp only [declare, kind, hgiven, hparser, hschema, hparse, bind, Except.bind, pure,
          Except.pure]
    | namespaced hgiven hparser hparse =>
        simp only [declare, kind, hgiven, hparser, hparse, bind, Except.bind, pure, Except.pure]

/-- What the fields of a command are read as. -/
structure Command.ReadFrom (kind : CommandKind) (fields : Fields) (c : Command) : Prop where
  body : CommandBody.declare fields kind = .ok c.body
  longName : readName kind.specKind "name" (fields.get "name") = .ok c.longName
  shortName : readShortName kind.specKind (fields.get "short_name") = .ok c.shortName
  descr : readLabel kind.specKind "descr" (fields.get "descr") = .ok c.descr
  longDescr : readLabel kind.specKind "long_descr" (fields.get "long_descr") = .ok c.longDescr
  flags : ∃ n, readFlags (fields.getD "flags" (.int 0)) = .ok n ∧ c.flags = .ofInt n
  handler : readCallback kind.specKind "handler" (fields.get "handler") = .ok c.handler
  configure : readCallback? kind.specKind "configure" (fields.get "configure") = .ok c.configure
  help : readCallback? kind.specKind "help" (fields.get "help") = .ok c.help
  known : ∀ name ∈ fields.map (·.1), name ∈ sharedFieldNames ++ kind.ownFieldNames

/-- A command is declared exactly as its fields are read. -/
theorem Command.declare_eq_ok_iff {kind : CommandKind} {fields : Fields} {c : Command} :
    declare kind fields = .ok c ↔ ReadFrom kind fields c := by
  have hknown : (fields.map (·.1)).filter
        (fun name => !(sharedFieldNames ++ kind.ownFieldNames).contains name) = [] ↔
      ∀ name ∈ fields.map (·.1), name ∈ sharedFieldNames ++ kind.ownFieldNames := by
    rw [List.filter_eq_nil_iff]
    exact forall₂_congr fun name _ => by
      rw [Bool.not_eq_true, Bool.not_eq_false', List.contains_iff_mem]
  constructor
  · intro hdeclare
    obtain ⟨_, hbody, hdeclare⟩ := exists_ok_of_bind_eq_ok hdeclare
    obtain ⟨_, hlongName, hdeclare⟩ := exists_ok_of_bind_eq_ok hdeclare
    obtain ⟨_, hshortName, hdeclare⟩ := exists_ok_of_bind_eq_ok hdeclare
    obtain ⟨_, hdescr, hdeclare⟩ := exists_ok_of_bind_eq_ok hdeclare
    obtain ⟨_, hlongDescr, hdeclare⟩ := exists_ok_of_bind_eq_ok hdeclare
    obtain ⟨n, hflags, hdeclare⟩ := exists_ok_of_bind_eq_ok hdeclare
    obtain ⟨_, hhandler, hdeclare⟩ := exists_ok_of_bind_eq_ok hdeclare
    obtain ⟨_, hconfigure, hdeclare⟩ := exists_ok_of_bind_eq_ok hdeclare
    obtain ⟨_, hhelp, hdeclare⟩ := exists_ok_of_bind_eq_ok hdeclare
    dsimp only at hdeclare
    split at hdeclare
    next => cases hdeclare
    next hnone =>
      obtain rfl := Except.ok.inj hdeclare
      exact ⟨hbody, hlongName, hshortName, hdescr, hlongDescr, ⟨n, hflags, rfl⟩, hhandler,
        hconfigure, hhelp, hknown.1 (Classical.not_not.1 hnone)⟩
  · rintro ⟨hbody, hlongName, hshortName, hdescr, hlongDescr, ⟨n, hread, hflags⟩, hhandler,
      hconfigure, hhelp, hnone⟩
    simp only [declare, hbody, hlongName, hshortName, hdescr, hlongDescr, hread, hhandler,
      hconfigure, hhelp, hknown.2 hnone, ← hflags, ne_eq, not_true, if_false, bind, Except.bind,
      pure, Except.pure]

/-- What a spec of a kind is declared as. -/
inductive Spec.DeclaredFrom (fields : Fields) : SpecKind → Spec → Prop
  | option {o : OptionSpec} (declared : OptionSpec.declare fields = .ok o) :
      DeclaredFrom fields .option (.option o)
  | entry {e : NamespaceEntry} (declared : NamespaceEntry.declare fields = .ok e) :
      DeclaredFrom fields .entry (.entry e)
  | scope {n : Namespace} (declared : Namespace.declare fields = .ok n) :
      DeclaredFrom fields .scope (.scope n)
  | command {kind : CommandKind} {c : Command} (declared : Command.declare kind fields = .ok c) :
      DeclaredFrom fields kind.specKind (.command c)

theorem Spec.declare_eq_ok_iff {kind : SpecKind} {fields : Fields} {s : Spec} :
    declare kind fields = .ok s ↔ DeclaredFrom fields kind s := by
  constructor
  · intro hdeclare
    cases kind <;> obtain ⟨_, hdeclared, hdeclare⟩ := exists_ok_of_bind_eq_ok hdeclare <;>
      obtain rfl := Except.ok.inj hdeclare
    case option => exact .option hdeclared
    case entry => exact .entry hdeclared
    case scope => exact .scope hdeclared
    case plainCommand => exact @DeclaredFrom.command _ .plain _ hdeclared
    case optionCommand => exact @DeclaredFrom.command _ .options _ hdeclared
    case namespaceCommand => exact @DeclaredFrom.command _ .namespaced _ hdeclared
  · intro hdeclared
    cases hdeclared with
    | @command kind _ hdeclared =>
        cases kind <;> simp only [CommandKind.specKind, declare, hdeclared] <;> rfl
    | option hdeclared | entry hdeclared | scope hdeclared =>
        rw [declare, hdeclared]
        rfl

/-! ## What a declared spec satisfies -/

theorem OptionSpec.isName_of_declare {fields : Fields} {o : OptionSpec}
    (hdeclare : declare fields = .ok o) : isName o.longName = true :=
  isName_of_readName (declare_eq_ok_iff.1 hdeclare).longName

theorem NamespaceEntry.nodup_of_declare {fields : Fields} {e : NamespaceEntry}
    (hdeclare : declare fields = .ok e) : (e.options.map fun o => o.longName).Nodup :=
  nodup_of_readOptions (declare_eq_ok_iff.1 hdeclare).options

theorem Namespace.nodup_of_declare {fields : Fields} {n : Namespace}
    (hdeclare : declare fields = .ok n) : (n.entries.map fun e => e.name).Nodup :=
  nodup_of_readEntries (declare_eq_ok_iff.1 hdeclare).entries

theorem Command.declare_body {kind : CommandKind} {fields : Fields} {c : Command}
    (hdeclare : declare kind fields = .ok c) : CommandBody.declare fields kind = .ok c.body :=
  (declare_eq_ok_iff.1 hdeclare).body

theorem Command.isName_of_declare {kind : CommandKind} {fields : Fields} {c : Command}
    (hdeclare : declare kind fields = .ok c) : isName c.longName = true :=
  isName_of_readName (declare_eq_ok_iff.1 hdeclare).longName

theorem Command.nodup_of_declare {fields : Fields} {c : Command} {schema : List OptionSpec}
    {parse : Callback} (hdeclare : declare .options fields = .ok c)
    (hbody : c.body = .options schema parse) : (schema.map fun o => o.longName).Nodup := by
  obtain ⟨-, hread⟩ := CommandBody.declare_eq_ok_iff.1 (declare_body hdeclare)
  rw [hbody] at hread
  cases hread with
  | options _ _ hschema _ => exact nodup_of_readOptions hschema

/-- A schema that a command or an entry was declared with; its options were declared before. -/
structure AcceptedSchema (schema : List OptionSpec) : Prop where
  options : ∀ o ∈ schema, ∃ fields, OptionSpec.declare fields = .ok o
  owner : (∃ fields c parse, Command.declare .options fields = .ok c ∧
      c.body = .options schema parse) ∨
    ∃ fields e, NamespaceEntry.declare fields = .ok e ∧ e.options = schema

namespace AcceptedSchema

variable {schema : List OptionSpec}

theorem isName (haccepted : AcceptedSchema schema) {o : OptionSpec} (ho : o ∈ schema) :
    Declaration.isName o.longName = true := by
  obtain ⟨fields, hdeclare⟩ := haccepted.options o ho
  exact OptionSpec.isName_of_declare hdeclare

/-- The options of a schema differ in their long names. -/
theorem nodup (haccepted : AcceptedSchema schema) : (schema.map fun o => o.longName).Nodup := by
  rcases haccepted.owner with ⟨_, _, _, hdeclare, hbody⟩ | ⟨_, _, hdeclare, rfl⟩
  · exact Command.nodup_of_declare hdeclare hbody
  · exact NamespaceEntry.nodup_of_declare hdeclare

end AcceptedSchema

/-- A command that was declared, and perhaps hidden since; its options were declared before. -/
structure AcceptedCommand (c : Command) : Prop where
  command : ∃ kind fields declared, Command.declare kind fields = .ok declared ∧
    (c = declared ∨ c = declared.hide)
  options : ∀ schema parse, c.body = .options schema parse →
    ∀ o ∈ schema, ∃ fields, OptionSpec.declare fields = .ok o

theorem AcceptedCommand.isName {c : Command} (haccepted : AcceptedCommand c) :
    Declaration.isName c.longName = true := by
  obtain ⟨_, _, declared, hdeclare, hsame⟩ := haccepted.command
  have hname := Command.isName_of_declare hdeclare
  rcases hsame with rfl | rfl
  · exact hname
  · exact hname

end CommandDispatch
