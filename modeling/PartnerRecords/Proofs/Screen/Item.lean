import PartnerRecords.Proofs.Rest.Deed
import PartnerRecords.Proofs.Screen.Answer
import PartnerRecords.Screen.Entry

/-!
# Items

Locations, contacts and bank accounts are items: each makes one row of its tab. All are entered
the same way. A form is filled by a list of calls, checked if it shows an address, and saved.
-/

namespace PartnerRecords

open Text (trim)

def Location.summary (l : Location) : String :=
  ", ".intercalate (([l.city, l.country].map trim).filter (· ≠ ""))

inductive Item
  | location (location : Location)
  | contact (contact : Contact)
  | bank (name : String)
deriving DecidableEq, Repr

namespace Item

def tab : Item → DetailTab
  | .location _ => .locations
  | .contact _ => .contacts
  | .bank _ => .bankAccounts

def row : Item → GridRow
  | .location l => Dict.ofList [(Field.locationName, l.name), (Field.locationAddress, l.summary)]
  | .contact c =>
      let names :=
        Dict.ofList [(Field.contactFirstName, c.firstName), (Field.contactLastName, c.lastName)]
      if c.isDefault then names.insert Field.contactDefault "true" else names
  | .bank name => Dict.ofList [(Field.bank, name), (Field.bankAccountName, Entry.accountName)]

def event : Item → Event
  | .location l => .enteringLocation l
  | .contact c => .enteringContact c
  | .bank name => .enteringBank name

def form : Item → List Call
  | .location l =>
      [.selectTab .locations, .pressAddNew, .writeText Field.locationName l.name .modal,
        .clickFormTitle, .openAddressEditor Field.locationAddress,
        .writeText Field.addressLine Entry.blankLine .address,
        .writeText Field.addressCity l.city .address,
        .pickOption Field.addressCountry l.country l.country .address, .closeAddressEditor]
  | .contact c =>
      [.selectTab .contacts, .pressAddNew, .writeText Field.contactFirstName c.firstName .modal,
        .writeText Field.contactLastName c.lastName .modal] ++
      if c.isDefault then [.clickCheckbox Field.contactDefault true .modal] else []
  | .bank name =>
      [.selectTab .bankAccounts, .pressAddNew, .pickOption Field.bank name name .modal,
        .writeText Field.bankAccountName Entry.accountName .modal]

def looks : Item → List Call
  | .location _ => [.addressSummary Field.locationAddress]
  | _ => []

def calls (item : Item) : List Call :=
  item.form ++ item.looks ++ [.pressDone]

/-- An entry selects no tab but that of its item. -/
theorem tab_eq_of_mem_calls {item : Item} {tab : DetailTab}
    (member : .selectTab tab ∈ item.calls) : tab = item.tab := by
  cases item with
  | location l => simpa [calls, form, looks, Item.tab] using member
  | contact c =>
      cases isDefault : c.isDefault with
      | true => simpa [calls, form, looks, Item.tab, isDefault] using member
      | false => simpa [calls, form, looks, Item.tab, isDefault] using member
  | bank name => simpa [calls, form, looks, Item.tab] using member

variable {ω : Type} (desk : Desk ω)

def enter : Item → Act ω Failure Unit
  | .location l => Entry.location desk l
  | .contact c => Entry.contact desk c
  | .bank name => Entry.bank desk name

/-- Whether the form shows what it should. Only addresses are looked at. -/
def check : Item → Act ω Failure Unit
  | .location l => do
      let summary ← desk.gesture (.addressSummary Field.locationAddress)
      if Text.contains summary l.city then Act.done ()
      else Act.fail (.addressNotRendered summary l.city)
  | _ => Act.done ()

def follow : List Call → Act ω Failure Unit :=
  Act.each fun c => do let _ ← desk.gesture c

theorem follow_nil : follow desk [] = pure () := rfl

theorem check_contact (c : Contact) : (contact c).check desk = pure () := rfl

theorem check_bank (name : String) : (bank name).check desk = pure () := rfl

theorem follow_cons (c : Call) (rest : List Call) :
    follow desk (c :: rest) = (do let _ ← desk.gesture c; follow desk rest) := by
  change (desk.gesture c >>= fun _ => pure ()) >>= (fun _ => follow desk rest) = _
  rw [bind_assoc]
  rfl

theorem follow_append (calls later : List Call) :
    follow desk (calls ++ later) = (do follow desk calls; follow desk later) := by
  induction calls with
  | nil => rfl
  | cons c rest ih => rw [List.cons_append, follow_cons, follow_cons, ih, bind_assoc]

/-- An item is announced, its form filled, checked and saved. -/
theorem enter_eq (item : Item) :
    item.enter desk = (do
      desk.report item.event
      follow desk item.form
      item.check desk
      desk.gesture .pressDone) := by
  cases item with
  | location l =>
      have checked : ((location l).check desk >>= fun _ => desk.gesture .pressDone) = (do
          let summary ← desk.gesture (.addressSummary Field.locationAddress)
          if Text.contains summary l.city then desk.gesture .pressDone
          else Act.fail (.addressNotRendered summary l.city)) := by
        simp only [check, bind_assoc]
        refine bind_congr fun summary => ?_
        split <;> rfl
      simp only [enter, Entry.location, event, form, follow_cons, follow_nil, bind_assoc,
        pure_bind, checked]
  | contact c =>
      simp only [enter, Entry.contact, event, form, follow_append, follow_cons, follow_nil,
        check_contact, bind_assoc, pure_bind]
      cases c.isDefault with
      | true => simp only [if_true, follow_cons, follow_nil, bind_assoc, pure_bind]
      | false => rfl
  | bank name =>
      simp only [enter, Entry.bank, event, form, follow_cons, follow_nil, check_bank, bind_assoc,
        pure_bind]

def fill (item : Item) : Act ω Failure Unit := do
  desk.report item.event
  follow desk item.form
  item.check desk

theorem enter_eq_fill (item : Item) :
    item.enter desk = (do item.fill desk; desk.gesture .pressDone) := by
  rw [enter_eq]
  unfold fill
  simp only [bind_assoc]

section Keeping

variable {desk} {allowed : Call → Prop} {holds : ω → Prop}

theorem follow_keeps (keeps : desk.Keeps allowed holds) {calls : List Call}
    (may : ∀ c ∈ calls, allowed c) :
    (follow desk calls).Keeps (fun cause => cause.isOfEntry = true) holds := by
  induction calls with
  | nil => exact .done
  | cons c rest ih =>
      rw [follow_cons]
      have first := keeps.gesture (may c List.mem_cons_self)
      exact first.bind fun _ => ih fun c member => may c (List.mem_cons_of_mem _ member)

theorem check_keeps (keeps : desk.Keeps allowed holds) {item : Item}
    (may : ∀ c ∈ item.looks, allowed c) :
    (item.check desk).Keeps (fun cause => cause.isOfEntry = true) holds := by
  cases item with
  | location l =>
      refine (keeps.gesture (may _ List.mem_cons_self)).bind fun summary => ?_
      split
      · exact .done
      · exact .fail rfl
  | contact c => exact .done
  | bank name => exact .done

theorem fill_keeps (keeps : desk.Keeps allowed holds) {item : Item}
    (may : ∀ c ∈ item.form ++ item.looks, allowed c) :
    (item.fill desk).Keeps (fun cause => cause.isOfEntry = true) holds := by
  have inForm : ∀ c ∈ item.form, allowed c := fun c member =>
    may c (List.mem_append_left _ member)
  have inLooks : ∀ c ∈ item.looks, allowed c := fun c member =>
    may c (List.mem_append_right _ member)
  refine (keeps.report item.event).bind fun _ => ?_
  exact (follow_keeps keeps inForm).bind fun _ => check_keeps keeps inLooks

/-- An entry keeps what all of its calls keep. -/
theorem enter_keeps (keeps : desk.Keeps allowed holds) {item : Item}
    (may : ∀ c ∈ item.calls, allowed c) :
    (item.enter desk).Keeps (fun cause => cause.isOfEntry = true) holds := by
  have before : ∀ c ∈ item.form ++ item.looks, allowed c := fun c member =>
    may c (List.mem_append_left _ member)
  have last : allowed .pressDone := may _ (by simp [calls])
  rw [enter_eq_fill]
  exact (fill_keeps keeps before).bind fun _ => keeps.gesture last

theorem expectRows_keeps (keeps : desk.Keeps allowed holds) (may : allowed .countRows)
    {tab : DetailTab} {rows : Nat} :
    (Entry.expectRows desk tab rows).Keeps (fun cause => cause.isManual = true) holds := by
  refine ((keeps.gesture may).weaken Failure.isManual_of_isOfEntry).bind fun actual => ?_
  split
  · exact .done
  · exact .fail rfl

end Keeping

end Item

end PartnerRecords
