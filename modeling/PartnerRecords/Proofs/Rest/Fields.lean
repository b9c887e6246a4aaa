import PartnerRecords.Proofs.Json.Settled
import PartnerRecords.Rest.Document

/-!
# Fields of a document

A document lists its fields one after another, each with its name, or has them by name. Either way
says the same about a field: what the last description says that carries its name. A description
comes apart into a value and further particulars, and nothing of it is lost.
-/

namespace PartnerRecords

open Json (Value)

/-! ## Descriptions -/

/-- The value of a description and what else it says. -/
structure FieldView.Splits (description : Dict Value) (view : FieldView) : Prop where
  ordered : view.metadata.Ordered
  others : ∀ name, view.metadata.get? name =
    if name = "value" then none else description.get? name
  present : ∀ value, description.get? "value" = some value →
    view.value = value ∧ view.metadata.insert "value" value = description
  absent : description.get? "value" = none → view.value = .null ∧ view.metadata = description

theorem FieldView.splits_ofValue {description : Dict Value} (ordered : description.Ordered) :
    Splits description (.ofValue (.object description)) where
  ordered := ordered.erase "value"
  others name := by
    simp only [ofValue, Dict.get?_erase, eq_comm]
  present value there := ⟨congrArg (·.getD .null) there, ordered.insert_erase there⟩
  absent missing := ⟨congrArg (·.getD .null) missing, ordered.erase_eq_self missing⟩

/-- A description comes apart in one way only. -/
theorem FieldView.splits_iff {description : Dict Value} (ordered : description.Ordered)
    {view : FieldView} :
    Splits description view ↔ FieldView.ofValue (.object description) = view := by
  refine ⟨fun splits => ?_, fun same => same ▸ splits_ofValue ordered⟩
  have taken := splits_ofValue ordered
  have values : (FieldView.ofValue (.object description)).value = view.value := by
    cases there : description.get? "value" with
    | none => rw [(taken.absent there).1, (splits.absent there).1]
    | some value => rw [(taken.present value there).1, (splits.present value there).1]
  have particulars : (FieldView.ofValue (.object description)).metadata = view.metadata :=
    taken.ordered.ext splits.ordered fun name => by rw [taken.others, splits.others]
  exact congr (congrArg FieldView.mk values) particulars

namespace WindowReply

def HasName (name : String) (description : Dict Value) : Prop :=
  description.get? "field" = some (.text name)

/-- Among entries of a list, the last description with a name. -/
def IsLast (entries : List Value) (name : String) (description : Dict Value) : Prop :=
  ∃ before after, entries = before ++ .object description :: after ∧ HasName name description ∧
    ∀ later, .object later ∈ after → ¬ HasName name later

theorem IsLast.mem {entries : List Value} {name : String} {description : Dict Value}
    (last : IsLast entries name description) : .object description ∈ entries := by
  obtain ⟨before, after, rfl, -⟩ := last
  exact List.mem_append_right before List.mem_cons_self

/-- An entry that comes last is the last one with its name, and leaves the other names alone. -/
theorem isLast_concat {entries : List Value} {entry : Value} {name : String}
    {description : Dict Value} :
    IsLast (entries ++ [entry]) name description ↔
      entry = .object description ∧ HasName name description ∨
        IsLast entries name description ∧
          ∀ later, entry = .object later → ¬ HasName name later := by
  constructor
  · rintro ⟨before, after, split, named, others⟩
    cases after using List.reverseRecOn with
    | nil =>
        obtain ⟨-, same⟩ := List.append_inj' split rfl
        exact .inl ⟨List.head_eq_of_cons_eq same, named⟩
    | append_singleton after final =>
        rw [← List.cons_append, ← List.append_assoc] at split
        obtain ⟨rfl, same⟩ := List.append_inj' split rfl
        cases same
        refine .inr ⟨⟨before, after, rfl, named, fun later member => ?_⟩, fun later same => ?_⟩
        · exact others later (List.mem_append_left _ member)
        · exact others later (same ▸ List.mem_append_right after List.mem_cons_self)
  · rintro (⟨rfl, named⟩ | ⟨⟨before, after, rfl, named, others⟩, other⟩)
    · exact ⟨entries, [], rfl, named, nofun⟩
    · refine ⟨before, after ++ [entry], by rw [List.append_assoc, List.cons_append], named,
        fun later member => ?_⟩
      rcases List.mem_append.mp member with earlier | final
      · exact others later earlier
      · exact other later (List.mem_singleton.mp final).symm

theorem isLast_concat_of_named {entries : List Value} {name : String}
    {description last : Dict Value} (named : HasName name last) :
    IsLast (entries ++ [.object last]) name description ↔ description = last := by
  rw [isLast_concat]
  constructor
  · rintro (⟨same, -⟩ | ⟨-, fresh⟩)
    · exact (Value.object.inj same).symm
    · exact absurd named (fresh last rfl)
  · rintro rfl
    exact .inl ⟨rfl, named⟩

theorem isLast_concat_of_unnamed {entries : List Value} {entry : Value} {name : String}
    {description : Dict Value}
    (unnamed : ∀ other, entry = .object other → ¬ HasName name other) :
    IsLast (entries ++ [entry]) name description ↔ IsLast entries name description := by
  rw [isLast_concat]
  constructor
  · rintro (⟨same, named⟩ | ⟨last, -⟩)
    · exact absurd named (unnamed description same)
    · exact last
  · exact fun last => .inr ⟨last, unnamed⟩

/-! ### Lists of fields -/

section Listed

variable {α : Type} (part : Value → α)

def named? (entry : Value) : Option (String × α) :=
  ((entry.member? "field").bind Value.text?).map fun name => (name, part entry)

variable {part}

/-- An entry counts exactly if it is a description that carries a name. -/
theorem named?_eq_some_iff {entry : Value} {name : String} {found : α} :
    named? part entry = some (name, found) ↔
      ∃ description, entry = .object description ∧ HasName name description ∧
        part entry = found := by
  constructor
  · intro counts
    obtain ⟨other, named, same⟩ := Option.map_eq_some_iff.mp counts
    obtain ⟨value, there, isText⟩ := Option.bind_eq_some_iff.mp named
    cases same
    cases entry with
    | object description =>
        cases value with
        | text name =>
            cases isText
            exact ⟨description, rfl, there, rfl⟩
        | _ => cases isText
    | _ => cases there
  · rintro ⟨description, rfl, named, rfl⟩
    rw [named?, Value.member?, named]
    rfl

/-- Of the entries that are listed under one name the last one stays. -/
theorem get?_listed (entries : List Value) (name : String) (found : α) :
    (Dict.ofList (entries.filterMap (named? part))).get? name = some found ↔
      ∃ description, IsLast entries name description ∧ part (.object description) = found := by
  induction entries using List.reverseRecOn with
  | nil =>
      refine iff_of_false nofun ?_
      rintro ⟨description, last, -⟩
      cases last.mem
  | append_singleton entries entry ih =>
      rw [List.filterMap_append]
      cases counts : named? part entry with
      | none =>
          have unnamed : ∀ other, entry = .object other → ¬ HasName name other := by
            intro other same named
            rw [named?_eq_some_iff.mpr ⟨other, same, named, rfl⟩] at counts
            cases counts
          rw [List.filterMap_cons_none counts, List.filterMap_nil, List.append_nil, ih]
          exact exists_congr fun description =>
            and_congr_left fun _ => (isLast_concat_of_unnamed unnamed).symm
      | some field =>
          obtain ⟨other, partOfLast⟩ := field
          obtain ⟨last, rfl, named, rfl⟩ := named?_eq_some_iff.mp counts
          rw [List.filterMap_cons_some counts, List.filterMap_nil, Dict.ofList_concat,
            Dict.get?_insert]
          split
          · next same =>
              subst same
              simp only [isLast_concat_of_named named, exists_eq_left, Option.some.injEq]
          · next ne =>
              have unnamed : ∀ other, Value.object last = .object other →
                  ¬ HasName name other := by
                rintro _ ⟨⟩ namedToo
                cases named.symm.trans namedToo
                exact ne rfl
              rw [ih]
              exact exists_congr fun description =>
                and_congr_left fun _ => (isLast_concat_of_unnamed unnamed).symm

end Listed

/-! ## Documents -/

/-- Documents with a list of fields, and no fields by name that would come first. -/
inductive Lists (entries : List Value) : Value → Prop
  | document {members : Dict Value} (listed : members.get? "fields" = some (.list entries))
      (unnamed : ∀ byName, members.get? "fieldsByName" ≠ some (.object byName)) :
      Lists entries (.object members)

/-- Documents that have, under the name of a field, the last description that carries it. -/
inductive Indexes (entries : List Value) : Value → Prop
  | document {members byName : Dict Value}
      (named : members.get? "fieldsByName" = some (.object byName))
      (each : ∀ name value, byName.get? name = some value ↔
        ∃ description, value = .object description ∧ IsLast entries name description) :
      Indexes entries (.object members)

section Documents

variable {entries : List Value} {listing index : Value}

theorem Lists.fields_eq (lists : Lists entries listing) :
    (ofBody listing).fields = Dict.ofList (entries.filterMap (named? FieldView.ofValue)) := by
  obtain ⟨listed, unnamed⟩ := lists
  change documentFields _ = _
  unfold documentFields
  split
  · next there => exact absurd there (unnamed _)
  · next there _ =>
      cases listed.symm.trans there
      rfl
  · next missing => exact absurd listed (missing entries)

theorem Indexes.get?_fields (indexes : Indexes entries index) (name : String)
    (view : FieldView) :
    (ofBody index).fields.get? name = some view ↔
      ∃ description, IsLast entries name description ∧
        FieldView.ofValue (.object description) = view := by
  obtain ⟨named, each⟩ := indexes
  change Dict.get? (documentFields _) name = _ ↔ _
  rw [documentFields, Value.member?, named, Dict.get?_map, Option.map_eq_some_iff]
  constructor
  · rintro ⟨value, there, rfl⟩
    obtain ⟨description, rfl, last⟩ := (each name value).mp there
    exact ⟨description, last, rfl⟩
  · rintro ⟨description, last, rfl⟩
    exact ⟨.object description, (each name _).mpr ⟨description, rfl, last⟩, rfl⟩

theorem Indexes.ordered_fields (indexes : Indexes entries index) (settled : index.IsSettled) :
    (ofBody index).fields.Ordered := by
  obtain ⟨named, each⟩ := indexes
  change Dict.Ordered (documentFields _)
  rw [documentFields, Value.member?, named]
  exact (settled.member named).ordered.map FieldView.ofValue

/-- Both ways of having fields lead to the same dictionary. -/
theorem Lists.fields_eq_of_indexes (lists : Lists entries listing)
    (indexes : Indexes entries index) (settled : index.IsSettled) :
    (ofBody listing).fields = (ofBody index).fields := by
  rw [lists.fields_eq]
  refine (Dict.ordered_ofList _).ext (indexes.ordered_fields settled) fun name => ?_
  refine Option.ext fun view => ?_
  rw [get?_listed, indexes.get?_fields]

theorem Lists.ordered_description (lists : Lists entries listing) (settled : listing.IsSettled)
    {name : String} {description : Dict Value} (last : IsLast entries name description) :
    description.Ordered := by
  obtain ⟨listed, -⟩ := lists
  exact ((settled.member listed).item last.mem).ordered

def indexOf (entries : List Value) : Value :=
  .ofMembers [("fieldsByName", .ofMembers (entries.filterMap (named? id)))]

/-- Every list of fields has its index. -/
theorem indexes_indexOf (entries : List Value) : Indexes entries (indexOf entries) := by
  refine .document rfl fun name value => ?_
  rw [get?_listed]
  exact exists_congr fun description => by rw [and_comm, id_eq, eq_comm]

theorem settled_indexOf (settled : ∀ entry ∈ entries, entry.IsSettled) :
    (indexOf entries).IsSettled := by
  refine Value.settled_ofMembers (List.forall_mem_singleton.mpr (Value.settled_ofMembers ?_))
  intro member there
  obtain ⟨entry, listed, counts⟩ := List.mem_filterMap.mp there
  obtain ⟨-, -, -, same⟩ := named?_eq_some_iff.mp counts
  exact same ▸ settled entry listed

end Documents

theorem nothing_of_no_document {body : Value} (single : ∀ members, body ≠ .object members)
    (several : ∀ members rest, body ≠ .list (.object members :: rest)) :
    (ofBody body).fields = [] ∧ (ofBody body).documentId = .error (.missingField "id") := by
  cases body with
  | object members => exact absurd rfl (single members)
  | list documents =>
      cases documents with
      | nil => exact ⟨rfl, rfl⟩
      | cons document rest =>
          cases document with
          | object members => exact absurd rfl (several members rest)
          | _ => exact ⟨rfl, rfl⟩
  | _ => exact ⟨rfl, rfl⟩

/-- Whichever way a document has its fields, what it says about them is the same: under each name
the last description that carries it, taken apart. A list of documents says what the first one
says alone, and a body without a document says nothing. -/
theorem fields_of_either_format :
    (∀ {entries : List Value} {listing index : Value}, Lists entries listing →
      Indexes entries index → listing.IsSettled → index.IsSettled →
        (ofBody listing).fields = (ofBody index).fields ∧
        ∀ name view, (ofBody listing).fields.get? name = some view ↔
          ∃ description, IsLast entries name description ∧ FieldView.Splits description view) ∧
    (∀ (members : Dict Value) (rest : List Value),
      (ofBody (.list (.object members :: rest))).fields = (ofBody (.object members)).fields ∧
      (ofBody (.list (.object members :: rest))).documentId =
        (ofBody (.object members)).documentId) ∧
    ∀ body, (∀ members, body ≠ .object members) →
      (∀ members rest, body ≠ .list (.object members :: rest)) →
        (ofBody body).fields = [] ∧ (ofBody body).documentId = .error (.missingField "id") := by
  refine ⟨fun lists indexes settled settledToo => ⟨?_, fun name view => ?_⟩,
    fun members rest => ⟨rfl, rfl⟩, fun body single several => ?_⟩
  · exact lists.fields_eq_of_indexes indexes settledToo
  · rw [lists.fields_eq, get?_listed]
    exact exists_congr fun description => and_congr_right fun last =>
      (FieldView.splits_iff (lists.ordered_description settled last)).symm
  · exact nothing_of_no_document single several

def scatteredFields : List Value :=
  [.ofMembers [("field", .text "IsVendor"), ("value", .boolean false)], .boolean true,
    .ofMembers [("value", .null)], .ofMembers [("field", .ofNat 7)],
    .ofMembers [("field", .text "IsVendor"), ("readonly", .boolean true)],
    .ofMembers [("value", .text "Acme"), ("field", .text "Name")]]

theorem settled_scatteredFields : ∀ entry ∈ scatteredFields, entry.IsSettled := by
  simp [scatteredFields, Value.settled_ofMembers, Value.IsSettled.null, Value.IsSettled.boolean,
    Value.IsSettled.text, Value.IsSettled.number, Value.ofNat]

theorem fields_of_scattered :
    (ofBody (.ofMembers [("fields", .list scatteredFields)])).fields =
      (ofBody (.ofMembers [("fieldsByName", .ofMembers
        [("IsVendor", .ofMembers [("field", .text "IsVendor"), ("readonly", .boolean true)]),
          ("Name", .ofMembers [("value", .text "Acme"), ("field", .text "Name")])])])).fields ∧
    (ofBody (.list [])).fields = [] := by
  obtain ⟨formats, -, nothing⟩ := fields_of_either_format
  have listed : (Value.ofMembers [("fields", .list scatteredFields)]).IsSettled :=
    Value.settled_ofMembers (List.forall_mem_singleton.mpr (.list settled_scatteredFields))
  constructor
  · exact (formats (.document rfl (by rintro _ ⟨⟩)) (indexes_indexOf scatteredFields) listed
      (settled_indexOf settled_scatteredFields)).1
  · exact (nothing (.list []) nofun nofun).1

end WindowReply

end PartnerRecords
