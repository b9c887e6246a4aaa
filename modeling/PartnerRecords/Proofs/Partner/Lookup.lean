import PartnerRecords.Partner.Terms
import PartnerRecords.Proofs.Partner.Errand
import PartnerRecords.Proofs.Rest.Dropdown

/-!
# Names that are looked up

Three names of a draft are looked up among the options of a dropdown. A name that is found becomes
a change of one field, with the key of the first option that has the name as its caption; the first
name that is not found is the failure of the whole computation. A key is sent as the reply to the
dropdown has it.
-/

namespace PartnerRecords

open Json (Value)

inductive Lookup
  | discountSchema
  | pricingSystem
  | paymentTerm
deriving DecidableEq, Repr

/-! ## Lookups -/

def OnField (field : String) (changes : List Change) : Prop :=
  ∀ change ∈ changes, change.path = field

theorem OnField.filter_self {field : String} {changes : List Change}
    (onField : OnField field changes) : changes.filter (·.path = field) = changes :=
  List.filter_eq_self.mpr fun change member => decide_eq_true (onField change member)

theorem OnField.filter_other {field other : String} {changes : List Change}
    (onField : OnField field changes) (apart : field ≠ other) :
    changes.filter (·.path = other) = [] := by
  refine List.filter_eq_nil_iff.mpr fun change member same => apart ?_
  rw [← onField change member]
  exact of_decide_eq_true same

namespace Lookup

def all : List Lookup := [.discountSchema, .pricingSystem, .paymentTerm]

def earlier : Lookup → List Lookup
  | .discountSchema => []
  | .pricingSystem => [.discountSchema]
  | .paymentTerm => [.discountSchema, .pricingSystem]

def field : Lookup → String
  | .discountSchema => Field.discountSchema
  | .pricingSystem => Field.pricingSystem
  | .paymentTerm => Field.paymentTerm

def name? (d : Draft) : Lookup → Option String
  | .discountSchema => d.customerDiscountSchema
  | .pricingSystem => d.customerPricingSystem
  | .paymentTerm => d.paymentTerm

def options (s : ReferenceSnapshot) : Lookup → List Reference
  | .discountSchema => s.discountSchemas
  | .pricingSystem => s.pricingSystems
  | .paymentTerm => s.paymentTerms

variable (d : Draft) (s : ReferenceSnapshot)

def missing? (l : Lookup) : Option String :=
  (l.name? d).filter fun name => (Reference.find? (l.options s) name).isNone

def changes (l : Lookup) : Except NoSuchReference (List Change) :=
  resolvedChange l.field (l.options s) (l.name? d)

variable {d s} {l : Lookup} {name : String}

theorem changes_unnamed (unnamed : l.name? d = none) :
    l.missing? d s = none ∧ l.changes d s = .ok [] := by
  unfold missing? changes
  rw [unnamed]
  exact ⟨rfl, rfl⟩

theorem changes_missing (named : l.name? d = some name)
    (missing : Reference.find? (l.options s) name = none) :
    l.missing? d s = some name ∧ l.changes d s = .error ⟨name⟩ := by
  unfold missing? changes resolvedChange
  simp only [named, missing, Option.filter_some, Option.isNone_none, if_true, and_self]

theorem changes_found (named : l.name? d = some name) {option : Reference}
    (found : Reference.find? (l.options s) name = some option) :
    l.missing? d s = none ∧ l.changes d s = .ok [⟨l.field, option.value⟩] := by
  unfold missing? changes resolvedChange
  simp [named, found]

/-- A lookup fails with the name that is missing, and of nothing else. -/
theorem changes_ends (l : Lookup) :
    (∃ name, l.missing? d s = some name ∧ l.changes d s = .error ⟨name⟩) ∨
      l.missing? d s = none ∧ ∃ found, l.changes d s = .ok found := by
  cases named : l.name? d with
  | none =>
      obtain ⟨present, ends⟩ := changes_unnamed named
      exact .inr ⟨present, [], ends⟩
  | some name =>
      cases found : Reference.find? (l.options s) name with
      | none => exact .inl ⟨name, changes_missing named found⟩
      | some option =>
          obtain ⟨present, ends⟩ := changes_found named found
          exact .inr ⟨present, _, ends⟩

/-- A lookup changes its own field alone. -/
theorem onField_of_changes {found : List Change} (ends : l.changes d s = .ok found) :
    OnField l.field found := by
  cases named : l.name? d with
  | none =>
      cases (changes_unnamed named).2.symm.trans ends
      nofun
  | some name =>
      cases there : Reference.find? (l.options s) name with
      | none => cases (changes_missing named there).2.symm.trans ends
      | some option =>
          cases (changes_found named there).2.symm.trans ends
          exact List.forall_mem_singleton.mpr rfl

theorem field_injective {l other : Lookup} (same : l.field = other.field) : l = other := by
  cases l <;> cases other <;> first | rfl | exact absurd same (by decide)

theorem all_eq (l : Lookup) : ∃ later, all = l.earlier ++ l :: later := by
  cases l <;> exact ⟨_, rfl⟩

/-- The first name that is missing, if that of one lookup is: its own, unless one looked up before
is missing too. -/
theorem findSome?_all (missing : l.missing? d s = some name) :
    all.findSome? (·.missing? d s) =
      some ((l.earlier.findSome? (·.missing? d s)).getD name) := by
  obtain ⟨later, split⟩ := l.all_eq
  rw [split, List.findSome?_append, List.findSome?_cons, missing]
  cases l.earlier.findSome? (·.missing? d s) <;> rfl

/-- The changes of lookups, one after another. The first that fails is the failure of all. -/
def changesOf (d : Draft) (s : ReferenceSnapshot) :
    List Lookup → Except NoSuchReference (List Change)
  | [] => .ok []
  | l :: rest => do
      let found ← l.changes d s
      let others ← changesOf d s rest
      return found ++ others

theorem changesOf_cons {found : List Change} (ends : l.changes d s = .ok found)
    (rest : List Lookup) :
    changesOf d s (l :: rest) = (changesOf d s rest).map (found ++ ·) := by
  rw [changesOf, ends]
  cases changesOf d s rest <;> rfl

/-- Lookups fail with the first name that is missing, and of nothing else. -/
theorem changesOf_ends (lookups : List Lookup) :
    (∃ name, lookups.findSome? (·.missing? d s) = some name ∧
      changesOf d s lookups = .error ⟨name⟩) ∨
    lookups.findSome? (·.missing? d s) = none ∧ ∃ found, changesOf d s lookups = .ok found := by
  induction lookups with
  | nil => exact .inr ⟨rfl, [], rfl⟩
  | cons l rest ih =>
      rw [List.findSome?_cons]
      rcases l.changes_ends (d := d) (s := s) with ⟨name, missing, failed⟩ | ⟨present, found, ends⟩
      · refine .inl ⟨name, by rw [missing], ?_⟩
        rw [changesOf, failed]
        rfl
      · rw [present, changesOf_cons ends]
        rcases ih with ⟨name, missing, failed⟩ | ⟨others, later, ended⟩
        · exact .inl ⟨name, missing, by rw [failed]; rfl⟩
        · exact .inr ⟨others, found ++ later, by rw [ended]; rfl⟩

/-- Of what lookups change, the field of one of them has its changes, and no other field has any. -/
theorem filter_changesOf {lookups : List Lookup} (once : lookups.Nodup) {found : List Change}
    (ends : changesOf d s lookups = .ok found) (l : Lookup) :
    (l ∉ lookups → found.filter (·.path = l.field) = []) ∧
      (l ∈ lookups → l.changes d s = .ok (found.filter (·.path = l.field))) := by
  induction lookups generalizing found with
  | nil =>
      cases ends
      exact ⟨fun _ => rfl, fun member => absurd member List.not_mem_nil⟩
  | cons first rest ih =>
      obtain ⟨apart, once⟩ := List.nodup_cons.mp once
      rcases first.changes_ends (d := d) (s := s) with ⟨name, -, failed⟩ | ⟨-, own, ended⟩
      · rw [changesOf, failed] at ends
        cases ends
      rw [changesOf_cons ended] at ends
      cases later : changesOf d s rest with
      | error cause =>
          rw [later] at ends
          cases ends
      | ok others =>
          rw [later] at ends
          cases ends
          obtain ⟨elsewhere, within⟩ := ih once later
          have onField := onField_of_changes ended
          rw [List.filter_append]
          by_cases same : first = l
          · subst same
            rw [onField.filter_self, elsewhere apart, List.append_nil]
            exact ⟨fun absent => absurd (List.mem_cons_self ..) absent, fun _ => ended⟩
          · rw [onField.filter_other (mt field_injective same), List.nil_append]
            refine ⟨fun absent => elsewhere (mt (List.mem_cons_of_mem _) absent), fun member => ?_⟩
            rcases List.mem_cons.mp member with rfl | later
            · exact absurd rfl same
            · exact within later

end Lookup

/-! ## The computation -/

def plainChanges (d : Draft) (s : ReferenceSnapshot) : List Change :=
  flagChange Field.isVendor d.isVendor s.vendorFlag ++
    nameChange Field.vendorPricingSystem d.vendorPricingSystem ++
    nameChange Field.vendorDiscountSchema d.vendorDiscountSchema ++
    flagChange Field.isCustomer d.isCustomer s.customerFlag ++
    nameChange Field.dunning d.customerDunning

variable {d : Draft} {s : ReferenceSnapshot} {l : Lookup} {name : String}

theorem termChanges_eq (d : Draft) (s : ReferenceSnapshot) :
    termChanges d s = (Lookup.changesOf d s Lookup.all).map (plainChanges d s ++ ·) := by
  have steps : termChanges d s = do
      let discount ← Lookup.discountSchema.changes d s
      let pricing ← Lookup.pricingSystem.changes d s
      let payment ← Lookup.paymentTerm.changes d s
      return plainChanges d s ++ discount ++ pricing ++ payment := rfl
  rw [steps]
  simp only [Lookup.all, Lookup.changesOf]
  cases Lookup.discountSchema.changes d s with
  | error cause => rfl
  | ok discount =>
      cases Lookup.pricingSystem.changes d s with
      | error cause => rfl
      | ok pricing =>
          cases Lookup.paymentTerm.changes d s with
          | error cause => rfl
          | ok payment => simp [Except.map, bind, Except.bind, pure, Except.pure]

theorem termChanges_of_missing (missing : Lookup.all.findSome? (·.missing? d s) = some name) :
    termChanges d s = .error ⟨name⟩ := by
  rw [termChanges_eq]
  rcases Lookup.changesOf_ends Lookup.all with ⟨other, first, failed⟩ | ⟨present, -⟩
  · cases missing.symm.trans first
    rw [failed]
    rfl
  · cases missing.symm.trans present

theorem onField_flagChange (field : String) (wanted present : Bool) :
    OnField field (flagChange field wanted present) := by
  unfold flagChange
  split
  · exact List.forall_mem_singleton.mpr rfl
  · nofun

theorem onField_nameChange (field : String) (name : Option String) :
    OnField field (nameChange field name) := by
  cases name with
  | none => nofun
  | some name => exact List.forall_mem_singleton.mpr rfl

theorem filter_plainChanges (d : Draft) (s : ReferenceSnapshot) (l : Lookup) :
    (plainChanges d s).filter (·.path = l.field) = [] := by
  have apart : ∀ other ∈ [Field.isVendor, Field.vendorPricingSystem, Field.vendorDiscountSchema,
      Field.isCustomer, Field.dunning], other ≠ l.field := by
    cases l <;> decide
  simp only [List.forall_mem_cons] at apart
  obtain ⟨vendor, vendorPricing, vendorDiscount, customer, dunning, -⟩ := apart
  simp only [plainChanges, List.filter_append, (onField_flagChange _ _ _).filter_other vendor,
    (onField_nameChange _ _).filter_other vendorPricing,
    (onField_nameChange _ _).filter_other vendorDiscount,
    (onField_flagChange _ _ _).filter_other customer,
    (onField_nameChange _ _).filter_other dunning, List.append_nil]

/-- If the computation succeeds, the changes of the field of a lookup are those of the lookup. -/
theorem filter_termChanges {changes : List Change} (resolved : termChanges d s = .ok changes)
    (l : Lookup) : l.changes d s = .ok (changes.filter (·.path = l.field)) := by
  rw [termChanges_eq] at resolved
  cases ends : Lookup.changesOf d s Lookup.all with
  | error cause =>
      rw [ends] at resolved
      cases resolved
  | ok found =>
      rw [ends] at resolved
      cases resolved
      rw [List.filter_append, filter_plainChanges, List.nil_append]
      exact (Lookup.filter_changesOf (by decide) ends l).2 (by cases l <;> decide)

/-! ## Keys -/

/-- Keys are sent as they were received. Where a name is looked up among the options of a dropdown
and the computation succeeds, its field is changed once, to an object of the name and of what the
first entry with exactly this caption has as its key. Where no entry has exactly this caption, the
computation fails with the name, or with one that was looked up before and is missing. -/
theorem key_echoed {ω : Type} (desk : Desk ω) (client : WindowClient) (record : RecordId)
    (tab : String) (world after : ω) (reply : WindowReply) (members : List (String × Value))
    (entries : List (Dict Value)) (d : Draft) (s : ReferenceSnapshot) (l : Lookup) (name : String)
    (replied : client.sendTo desk [record.text, tab, record.text, "field", l.field, "dropdown"] id
      none world = (.ok reply, after))
    (body : reply.body = .object members)
    (listed : Dict.get? members "values" = some (.list (entries.map .object)))
    (decoded : (client.dropdown desk record tab l.field world).1 = .ok (l.options s))
    (named : l.name? d = some name) :
    (∀ changes, termChanges d s = .ok changes →
      ∃ key, Reference.FirstKey name entries key ∧
        (changes.filter (·.path = l.field)).map Change.written =
          [.ofMembers [("op", .text "replace"), ("path", .text l.field),
            ("value", .object [("caption", .text name), ("key", key)])]]) ∧
    ((∀ entry ∈ entries, ¬ Reference.HasCaption name entry) →
      termChanges d s = .error ⟨(l.earlier.findSome? (·.missing? d s)).getD name⟩) := by
  have options : WindowClient.dropdownOptions? (.object members) = some (l.options s) :=
    body ▸ WindowClient.options_of_dropdown replied decoded
  have read := WindowClient.ofEntry_of_dropdownOptions? listed options
  refine ⟨fun changes resolved => ?_, fun without => ?_⟩
  · have changed := filter_termChanges resolved l
    cases found : Reference.find? (l.options s) name with
    | none => cases (Lookup.changes_missing named found).2.symm.trans changed
    | some option =>
        obtain ⟨rfl, first⟩ := Reference.firstKey_of_find? read found
        have once := Except.ok.inj ((Lookup.changes_found named found).2.symm.trans changed)
        refine ⟨option.key.value, first, ?_⟩
        rw [← once, ← Reference.value_eq]
        rfl
  · have absent := (Reference.find?_eq_none_iff read).mpr without
    have missing := (Lookup.changes_missing named absent).1
    exact termChanges_of_missing (Lookup.findSome?_all missing)

/-- Terms of payment. Two have the same caption, and a third differs from them by a blank; one of
the keys is a text that spells a number. -/
def netTerms : List (Dict Value) :=
  [[("caption", .text "Net 30 "), ("key", .number (.whole 29))],
    [("caption", .text "Net 30"), ("key", .text "30")],
    [("caption", .text "Net 30"), ("key", .number (.whole 31))]]

def netText : String :=
  "\x7b\"values\": [\x7b\"key\": 29, \"caption\": \"Net 30 \"\x7d, " ++
    "\x7b\"key\": \"30\", \"caption\": \"Net 30\"\x7d, " ++
    "\x7b\"key\": 31, \"caption\": \"Net 30\"\x7d]\x7d"

def netDesk : Desk Unit where
  exchange _ world := (.answered 200 (some netText.toUTF8), world)
  call _ world := (.error .notNavigated, world)
  note _ world := world
  readOrder _ := .inTurn

theorem parse?_netText :
    Value.parse? netText = some (.object [("values", .list (netTerms.map .object))]) := by
  have tokens : Json.tokens? netText.toList = some [
      .openObject, .text (some "values"), .colon, .openList,
      .openObject, .text (some "key"), .colon, .number (some (.whole 29)), .comma,
      .text (some "caption"), .colon, .text (some "Net 30 "), .closeObject, .comma,
      .openObject, .text (some "key"), .colon, .text (some "30"), .comma,
      .text (some "caption"), .colon, .text (some "Net 30"), .closeObject, .comma,
      .openObject, .text (some "key"), .colon, .number (some (.whole 31)), .comma,
      .text (some "caption"), .colon, .text (some "Net 30"), .closeObject,
      .closeList, .closeObject] := by
    decide +kernel
  unfold Value.parse? Json.Tree.parse?
  rw [tokens]
  rfl

theorem netDesk_replied :
    PartnerWindow.sample.client.sendTo netDesk
        ["7", "AD_Tab-223", "7", "field", "C_PaymentTerm_ID", "dropdown"] id none () =
      (.ok ⟨.object [("values", .list (netTerms.map .object))], []⟩, ()) := by
  obtain ⟨sent, asked⟩ : ∃ sent, PartnerWindow.sample.client.request
      ["7", "AD_Tab-223", "7", "field", "C_PaymentTerm_ID", "dropdown"] id none = .ok sent :=
    ⟨_, if_pos (by decide +kernel)⟩
  have success : 200 ≤ 200 ∧ 200 < 300 := by decide
  have shown : netText.toUTF8.data.all Response.isSpace = false := by decide +kernel
  rw [Desk.sendTo_of_request asked]
  dsimp only [netDesk]
  rw [Reply.read_toUTF8 success shown, parse?_netText]
  rfl

/-- Of these terms the second is sent, with a text for its key. -/
theorem key_echoed_net :
    let d : Draft := { name := "Acme", paymentTerm := some "Net 30" }
    let s : ReferenceSnapshot := { paymentTerms :=
      [⟨.number 29, "Net 30 "⟩, ⟨.text "30", "Net 30"⟩, ⟨.number 31, "Net 30"⟩] }
    ∃ changes key, termChanges d s = .ok changes ∧ Reference.FirstKey "Net 30" netTerms key ∧
      (changes.filter (·.path = Field.paymentTerm)).map Change.written =
        [.ofMembers [("op", .text "replace"), ("path", .text Field.paymentTerm),
          ("value", .object [("caption", .text "Net 30"), ("key", key)])]] := by
  intro d s
  have resolved : termChanges d s =
      .ok [⟨Field.paymentTerm, Reference.value ⟨.text "30", "Net 30"⟩⟩] := rfl
  have decoded : (PartnerWindow.sample.client.dropdown netDesk ⟨"7"⟩ "AD_Tab-223"
      Field.paymentTerm ()).1 = .ok s.paymentTerms := by
    rw [Field.paymentTerm, WindowClient.dropdown_of_replied netDesk_replied]
    rfl
  obtain ⟨key, first, sent⟩ := (key_echoed netDesk PartnerWindow.sample.client ⟨"7"⟩ "AD_Tab-223"
    () () _ _ netTerms d s .paymentTerm "Net 30" netDesk_replied rfl rfl decoded rfl).1 _ resolved
  exact ⟨_, key, resolved, first, sent⟩

end PartnerRecords
