import PartnerRecords.Partner.Draft
import PartnerRecords.Proofs.Json.Written

/-!
# Drafts as they are written

A draft is written with every field, but a document may show the fields in another order and leave
out those that have their default: all of them are read as that draft. Documents with members that
no field has the name of, and documents without a field that has no default, are no drafts.
-/

namespace PartnerRecords

open Json (Tree Value)
open Json.Tree (Arranged Misfit Slot)

/-! ## Fields -/

def textSlot (name text : String) : Slot :=
  { name, tree := .text (some text) }

def flagSlot (name : String) (flag : Bool) : Slot :=
  { name, tree := .boolean flag, isDefault := !flag }

def referenceSlot (name : String) (reference : Option String) : Slot :=
  { name, tree := (Value.ofOption reference).tree, isDefault := reference.isNone }

def listSlot (name : String) (items : List Tree) : Slot :=
  { name, tree := .list items, isDefault := items.isEmpty }

section Found

variable {name : String} {field : Option Tree}

theorem required_textSlot {text : String} (found : (textSlot name text).Found field) :
    Tree.required Tree.text? field = some text :=
  found.required_eq rfl rfl

theorem orDefault_flagSlot {flag : Bool} (found : (flagSlot name flag).Found field) :
    Tree.orDefault false Tree.boolean? field = some flag := by
  have reads : Tree.boolean? (flagSlot name flag).tree = some flag := rfl
  refine found.orDefault_eq reads fun isDefault => ?_
  cases flag with
  | false => rfl
  | true => cases isDefault

theorem referenceName?_referenceSlot {reference : Option String}
    (found : (referenceSlot name reference).Found field) :
    Draft.referenceName? field = some reference := by
  have reads : Tree.nullOr? Tree.text? (referenceSlot name reference).tree = some reference := by
    cases reference <;> rfl
  exact found.orDefault_eq reads fun isDefault => (Option.isNone_iff_eq_none.mp isDefault).symm

theorem orDefault_listSlot {α : Type} {reader : Tree → Option α} {items : List α}
    {trees : List Tree} (each : List.Forall₂ (fun item t => reader t = some item) items trees)
    (found : (listSlot name trees).Found field) :
    Tree.orDefault [] (Tree.items? reader) field = some items := by
  have reads : Tree.items? reader (listSlot name trees).tree = some items :=
    mapM_of_forall₂ each.flip
  refine found.orDefault_eq reads fun isDefault => ?_
  obtain rfl := List.isEmpty_iff.mp isDefault
  cases each
  rfl

end Found

/-- What is written of members is an object that shows all of them. -/
theorem arranged_ofMembers {members : List (String × Value)} {slots : List Slot}
    (distinct : (List.map Prod.fst members).Nodup)
    (same : Json.memberTrees members = slots.map fun slot => (some slot.name, slot.tree)) :
    Arranged slots (Value.ofMembers members).tree := by
  have shown : ∀ slots : List Slot,
      Tree.Shown slots (slots.map fun slot => (some slot.name, slot.tree)) := by
    intro slots
    induction slots with
    | nil => exact .nil
    | cons slot rest ih => exact .written slot ih
  rw [Value.ofMembers, Value.tree_object]
  exact .object (shown slots) (same ▸ (Dict.perm_ofList distinct).map _)

theorem numberless_ofMembers {members : List (String × Value)}
    (distinct : (List.map Prod.fst members).Nodup)
    (each : ∀ member ∈ members, member.2.Numberless) : (Value.ofMembers members).Numberless :=
  .object fun member present => each member ((Dict.perm_ofList distinct).mem_iff.mp present)

/-! ## Locations -/

namespace Location

def slots (l : Location) : List Slot :=
  [textSlot "name" l.name, textSlot "city" l.city, textSlot "country" l.country]

def Form (l : Location) (t : Tree) : Prop :=
  Arranged l.slots t

theorem form_value (l : Location) : l.Form l.value.tree :=
  arranged_ofMembers (by decide : fieldNames.Nodup) rfl

theorem numberless_value (l : Location) : l.value.Numberless := by
  refine numberless_ofMembers (by decide : fieldNames.Nodup) ?_
  simp only [List.forall_mem_cons, List.not_mem_nil, false_implies, implies_true, and_true]
  exact ⟨.text _, .text _, .text _⟩

theorem Form.ofTree?_eq {l : Location} {t : Tree} (form : l.Form t) : ofTree? t = some l := by
  obtain ⟨fields, read, found⟩ := form.exists_fields (by decide : fieldNames.Nodup)
  have read : t.fields? fieldNames false = some fields := read
  obtain _ | ⟨name, _ | ⟨city, _ | ⟨country, ⟨⟩⟩⟩⟩ := found
  rw [ofTree?, read]
  simp only [Option.bind_eq_bind, Option.bind_some, required_textSlot name, required_textSlot city,
    required_textSlot country]
  rfl

theorem ofTree?_of_misfit {t : Tree} (misfit : Misfit fieldNames fieldNames t) :
    ofTree? t = none := by
  refine Option.eq_none_iff_forall_ne_some.mpr fun l read => ?_
  simp only [ofTree?, Option.bind_eq_bind, Option.bind_eq_some_iff] at read
  obtain ⟨fields, shown, read⟩ := read
  obtain ⟨missing, -, pair⟩ := misfit.exists_missing (List.Subset.refl _) shown
  split at read
  · simp only [Option.bind_eq_some_iff] at read
    obtain ⟨_, name, _, city, _, country, -⟩ := read
    simp only [fieldNames, List.zip_cons_cons, List.zip_nil_right, List.mem_cons, Prod.mk.injEq,
      List.not_mem_nil, or_false] at pair
    rcases pair with ⟨-, rfl⟩ | ⟨-, rfl⟩ | ⟨-, rfl⟩
    · cases name
    · cases city
    · cases country
  · cases read

end Location

/-! ## Contacts -/

namespace Contact

def slots (c : Contact) : List Slot :=
  [textSlot "firstName" c.firstName, textSlot "lastName" c.lastName,
    flagSlot "isDefaultContact" c.isDefault]

def Form (c : Contact) (t : Tree) : Prop :=
  Arranged c.slots t

theorem form_value (c : Contact) : c.Form c.value.tree :=
  arranged_ofMembers (by decide : fieldNames.Nodup) rfl

theorem numberless_value (c : Contact) : c.value.Numberless := by
  refine numberless_ofMembers (by decide : fieldNames.Nodup) ?_
  simp only [List.forall_mem_cons, List.not_mem_nil, false_implies, implies_true, and_true]
  exact ⟨.text _, .text _, .boolean _⟩

theorem Form.ofTree?_eq {c : Contact} {t : Tree} (form : c.Form t) : ofTree? t = some c := by
  obtain ⟨fields, read, found⟩ := form.exists_fields (by decide : fieldNames.Nodup)
  have read : t.fields? fieldNames false = some fields := read
  obtain _ | ⟨first, _ | ⟨last, _ | ⟨isDefault, ⟨⟩⟩⟩⟩ := found
  rw [ofTree?, read]
  simp only [Option.bind_eq_bind, Option.bind_some, required_textSlot first,
    required_textSlot last, orDefault_flagSlot isDefault]
  rfl

def needed : List String := ["firstName", "lastName"]

theorem ofTree?_of_misfit {t : Tree} (misfit : Misfit fieldNames needed t) :
    ofTree? t = none := by
  refine Option.eq_none_iff_forall_ne_some.mpr fun c read => ?_
  simp only [ofTree?, Option.bind_eq_bind, Option.bind_eq_some_iff] at read
  obtain ⟨fields, shown, read⟩ := read
  obtain ⟨missing, need, pair⟩ := misfit.exists_missing (by decide) shown
  split at read
  · simp only [Option.bind_eq_some_iff] at read
    obtain ⟨_, first, _, last, -⟩ := read
    simp only [fieldNames, List.zip_cons_cons, List.zip_nil_right, List.mem_cons, Prod.mk.injEq,
      List.not_mem_nil, or_false] at pair
    rcases pair with ⟨-, rfl⟩ | ⟨-, rfl⟩ | ⟨rfl, -⟩
    · cases first
    · cases last
    · exact absurd need (by decide)
  · cases read

end Contact

/-! ## Drafts -/

namespace Draft

def slots (d : Draft) (locations contacts : List Tree) : List Slot :=
  [textSlot "name" d.name, flagSlot "isVendor" d.isVendor, flagSlot "isCustomer" d.isCustomer,
    referenceSlot "vendorPricingSystem" d.vendorPricingSystem,
    referenceSlot "vendorDiscountSchema" d.vendorDiscountSchema,
    referenceSlot "customerPricingSystem" d.customerPricingSystem,
    referenceSlot "customerDiscountSchema" d.customerDiscountSchema,
    referenceSlot "customerDunning" d.customerDunning, referenceSlot "paymentTerm" d.paymentTerm,
    referenceSlot "bank" d.bank, listSlot "bPartnerLocations" locations,
    listSlot "contacts" contacts]

inductive Form (d : Draft) : Tree → Prop
  | arranged {t : Tree} {locations contacts : List Tree}
      (eachLocation : List.Forall₂ Location.Form d.locations locations)
      (eachContact : List.Forall₂ Contact.Form d.contacts contacts)
      (arranged : Arranged (d.slots locations contacts) t) : Form d t

theorem form_value (d : Draft) : d.Form d.value.tree := by
  have eachLocation :
      List.Forall₂ Location.Form d.locations (d.locations.map fun l => l.value.tree) :=
    List.forall₂_map_right_iff.mpr (List.forall₂_same.mpr fun l _ => l.form_value)
  have eachContact : List.Forall₂ Contact.Form d.contacts (d.contacts.map fun c => c.value.tree) :=
    List.forall₂_map_right_iff.mpr (List.forall₂_same.mpr fun c _ => c.form_value)
  refine .arranged eachLocation eachContact (arranged_ofMembers (by decide : fieldNames.Nodup) ?_)
  simp only [Json.memberTrees, List.map_cons, List.map_nil, Value.tree_list, List.map_map]
  rfl

theorem numberless_value (d : Draft) : d.value.Numberless := by
  have reference (name : Option String) : (Value.ofOption name).Numberless := by
    cases name with
    | none => exact .null
    | some name => exact .text name
  refine numberless_ofMembers (by decide : fieldNames.Nodup) ?_
  simp only [List.forall_mem_cons, List.not_mem_nil, false_implies, implies_true, and_true,
    reference, true_and]
  refine ⟨.text _, .boolean _, .boolean _, .list ?_, .list ?_⟩
  · exact List.forall_mem_map.mpr fun l _ => l.numberless_value
  · exact List.forall_mem_map.mpr fun c _ => c.numberless_value

theorem Form.ofTree?_eq {d : Draft} {t : Tree} (form : d.Form t) : ofTree? t = some d := by
  obtain ⟨eachLocation, eachContact, arranged⟩ := form
  obtain ⟨fields, read, found⟩ := arranged.exists_fields (by decide : fieldNames.Nodup)
  have read : t.fields? fieldNames false = some fields := read
  have locationsRead := eachLocation.imp fun _ _ form => Location.Form.ofTree?_eq form
  have contactsRead := eachContact.imp fun _ _ form => Contact.Form.ofTree?_eq form
  obtain _ | ⟨name, _ | ⟨isVendor, _ | ⟨isCustomer, _ | ⟨vendorPricing, _ | ⟨vendorDiscount,
    _ | ⟨customerPricing, _ | ⟨customerDiscount, _ | ⟨dunning, _ | ⟨paymentTerm, _ | ⟨bank,
    _ | ⟨locations, _ | ⟨contacts, ⟨⟩⟩⟩⟩⟩⟩⟩⟩⟩⟩⟩⟩⟩ := found
  rw [ofTree?, read]
  simp only [Option.bind_eq_bind, Option.bind_some, required_textSlot name,
    orDefault_flagSlot isVendor, orDefault_flagSlot isCustomer,
    referenceName?_referenceSlot vendorPricing, referenceName?_referenceSlot vendorDiscount,
    referenceName?_referenceSlot customerPricing, referenceName?_referenceSlot customerDiscount,
    referenceName?_referenceSlot dunning, referenceName?_referenceSlot paymentTerm,
    referenceName?_referenceSlot bank, orDefault_listSlot locationsRead locations,
    orDefault_listSlot contactsRead contacts]
  rfl

inductive Misfit : Tree → Prop
  | whole {t : Tree} (misfit : Tree.Misfit fieldNames ["name"] t) : Misfit t
  | location {members : List (Option String × Tree)} {locations : List Tree} {t : Tree}
      (listed : (some "bPartnerLocations", .list locations) ∈ members) (location : t ∈ locations)
      (misfit : Tree.Misfit Location.fieldNames Location.fieldNames t) : Misfit (.object members)
  | contact {members : List (Option String × Tree)} {contacts : List Tree} {t : Tree}
      (listed : (some "contacts", .list contacts) ∈ members) (contact : t ∈ contacts)
      (misfit : Tree.Misfit Contact.fieldNames Contact.needed t) : Misfit (.object members)

/-- What is read of a draft: its fields, with a name and readable details among them. -/
theorem exists_of_ofTree? {t : Tree} {d : Draft} (read : ofTree? t = some d) :
    ∃ fields, t.fields? fieldNames false = some fields ∧
      (∀ field, ("name", field) ∈ fieldNames.zip fields →
        Tree.required Tree.text? field = some d.name) ∧
      (∀ field, ("bPartnerLocations", field) ∈ fieldNames.zip fields →
        Tree.orDefault [] (Tree.items? Location.ofTree?) field = some d.locations) ∧
      ∀ field, ("contacts", field) ∈ fieldNames.zip fields →
        Tree.orDefault [] (Tree.items? Contact.ofTree?) field = some d.contacts := by
  simp only [ofTree?, Option.bind_eq_bind, Option.bind_eq_some_iff] at read
  obtain ⟨fields, shown, read⟩ := read
  split at read
  · simp only [Option.bind_eq_some_iff] at read
    obtain ⟨_, name, _, -, _, -, _, -, _, -, _, -, _, -, _, -, _, -, _, -, _, locations, _,
      contacts, same⟩ := read
    cases same
    refine ⟨_, shown, fun field pair => ?_, fun field pair => ?_, fun field pair => ?_⟩
    all_goals simp only [fieldNames, List.zip_cons_cons, List.zip_nil_right, List.mem_cons,
      Prod.mk.injEq, List.not_mem_nil, or_false, String.reduceEq, false_and, false_or,
      true_and] at pair
    · exact pair ▸ name
    · exact pair ▸ locations
    · exact pair ▸ contacts
  · cases read

theorem ofTree?_of_misfit {t : Tree} (misfit : Misfit t) : ofTree? t = none := by
  refine Option.eq_none_iff_forall_ne_some.mpr fun d read => ?_
  obtain ⟨fields, shown, name, locations, contacts⟩ := exists_of_ofTree? read
  cases misfit with
  | whole misfit =>
      obtain ⟨missing, need, pair⟩ := misfit.exists_missing (by decide) shown
      obtain rfl := List.mem_singleton.mp need
      cases name none pair
  | location listed location misfit =>
      have each := locations _ (Tree.mem_zip_of_fields?_object shown listed)
      obtain ⟨l, read⟩ := read_of_mapM each location
      rw [Location.ofTree?_of_misfit misfit] at read
      cases read
  | contact listed contact misfit =>
      have each := contacts _ (Tree.mem_zip_of_fields?_object shown listed)
      obtain ⟨c, read⟩ := read_of_mapM each contact
      rw [Contact.ofTree?_of_misfit misfit] at read
      cases read

/-- A draft is read from each of its documents, and from the text of what is written of it; what
does not fit is read as no draft. -/
structure Transparent (d : Draft) : Prop where
  roundTrip : ofTree? d.value.tree = some d
  text : (Tree.parse? d.value.render).bind ofTree? = some d
  form : d.Form d.value.tree
  decoded : ∀ t, d.Form t → ofTree? t = some d
  refused : ∀ t, Misfit t → ofTree? t = none
  /-- What is written of a document is read as the document is. -/
  texts : ∀ v : Value, v.Numberless → (Tree.parse? v.render).bind ofTree? = ofTree? v.tree

theorem transparent_documents (d : Draft) : d.Transparent where
  roundTrip := d.form_value.ofTree?_eq
  text := by
    rw [Json.Tree.parse?_render d.numberless_value, Option.bind_some]
    exact d.form_value.ofTree?_eq
  form := d.form_value
  decoded := fun _ form => form.ofTree?_eq
  refused := fun _ misfit => ofTree?_of_misfit misfit
  texts := by
    intro v numberless
    rw [Json.Tree.parse?_render numberless, Option.bind_some]

example : ofTree? (.object [
      (some "contacts", .list [.object [(some "lastName", .text (some "Doe")),
        (some "firstName", .text (some "Jane"))]]),
      (some "isVendor", .boolean true), (some "bank", .null), (some "name", .text (some "Acme"))]) =
    some { name := "Acme", isVendor := true,
           contacts := [{ firstName := "Jane", lastName := "Doe" }] } := by
  rfl

end Draft

end PartnerRecords
