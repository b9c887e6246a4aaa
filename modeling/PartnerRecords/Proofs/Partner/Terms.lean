import Mathlib.Data.List.Nodup
import PartnerRecords.Partner.Builder
import PartnerRecords.Proofs.Partner.Lookup

/-!
# What a draft asks for

The terms of a draft are two flags, three names that are sent as they are, and three that are
looked up. Each has a field of its own, and its change depends on nothing else. If a name is not
found nothing is changed; otherwise the changes stand in the order of the terms, one for each term
that asks for something.
-/

namespace PartnerRecords

open Json (Value)

inductive Flag
  | vendor
  | customer
deriving DecidableEq, Repr

inductive GivenName
  | vendorPricingSystem
  | vendorDiscountSchema
  | dunning
deriving DecidableEq, Repr

inductive Term
  | flag (flag : Flag)
  | given (name : GivenName)
  | lookup (lookup : Lookup)
deriving DecidableEq, Repr

namespace Flag

def field : Flag → String
  | .vendor => Field.isVendor
  | .customer => Field.isCustomer

def wanted (d : Draft) : Flag → Bool
  | .vendor => d.isVendor
  | .customer => d.isCustomer

def present (s : ReferenceSnapshot) : Flag → Bool
  | .vendor => s.vendorFlag
  | .customer => s.customerFlag

end Flag

namespace GivenName

def field : GivenName → String
  | .vendorPricingSystem => Field.vendorPricingSystem
  | .vendorDiscountSchema => Field.vendorDiscountSchema
  | .dunning => Field.dunning

def name? (d : Draft) : GivenName → Option String
  | .vendorPricingSystem => d.vendorPricingSystem
  | .vendorDiscountSchema => d.vendorDiscountSchema
  | .dunning => d.customerDunning

end GivenName

/-! ## What each term asks for -/

def Reference.IsFirst (name : String) (options : List Reference) (option : Reference) : Prop :=
  ∃ before behind, options = before ++ option :: behind ∧ option.caption = name ∧
    ∀ other ∈ before, other.caption ≠ name

theorem Reference.find?_eq_some_iff {options : List Reference} {name : String}
    {option : Reference} : find? options name = some option ↔ IsFirst name options option := by
  unfold find? IsFirst
  rw [List.find?_eq_some_iff_append]
  constructor
  · rintro ⟨same, before, behind, split, others⟩
    exact ⟨before, behind, split, by simpa using same, fun other member => by
      simpa using others other member⟩
  · rintro ⟨before, behind, split, same, others⟩
    exact ⟨by simpa using same, before, behind, split, fun other member => by
      simpa using others other member⟩

def Lookup.IsMissing (d : Draft) (s : ReferenceSnapshot) (l : Lookup) (name : String) : Prop :=
  l.name? d = some name ∧ ∀ option ∈ l.options s, option.caption ≠ name

namespace Term

/-- The terms in the order of their changes. -/
def all : List Term :=
  [.flag .vendor, .given .vendorPricingSystem, .given .vendorDiscountSchema, .flag .customer,
    .given .dunning, .lookup .discountSchema, .lookup .pricingSystem, .lookup .paymentTerm]

def field : Term → String
  | .flag f => f.field
  | .given n => n.field
  | .lookup l => l.field

/-- The value that a term asks for: a flag that is wanted and not set, a name as it is, or an
object of the caption and of the key that comes first with it. -/
inductive Asks (d : Draft) (s : ReferenceSnapshot) : Term → Value → Prop
  | flag {f : Flag} (wanted : f.wanted d = true) (unset : f.present s = false) :
      Asks d s (.flag f) (.boolean true)
  | given {n : GivenName} {name : String} (named : n.name? d = some name) :
      Asks d s (.given n) (.text name)
  | lookup {l : Lookup} {name : String} {option : Reference} (named : l.name? d = some name)
      (first : Reference.IsFirst name (l.options s) option) :
      Asks d s (.lookup l) (.ofMembers [("key", option.key.value), ("caption", .text name)])

def value? (d : Draft) (s : ReferenceSnapshot) : Term → Option Value
  | .flag f => if f.wanted d && !f.present s then some (.boolean true) else none
  | .given n => (n.name? d).map .text
  | .lookup l => ((l.name? d).bind (Reference.find? (l.options s))).map Reference.value

def change? (d : Draft) (s : ReferenceSnapshot) (t : Term) : Option Change :=
  (t.value? d s).map (⟨t.field, ·⟩)

variable {d : Draft} {s : ReferenceSnapshot} {t : Term} {v : Value}

theorem mem_all (t : Term) : t ∈ all := by
  rcases t with (_ | _) | (_ | _ | _) | (_ | _ | _) <;> decide

theorem field_injective {other : Term} (same : t.field = other.field) : t = other := by
  have once : (all.map field).Nodup := by decide
  exact List.inj_on_of_nodup_map once t.mem_all other.mem_all same

theorem asks_iff : t.Asks d s v ↔ t.value? d s = some v := by
  constructor
  · intro asks
    cases asks with
    | flag wanted unset => simp [value?, wanted, unset]
    | given named => simp [value?, named]
    | lookup named first =>
        have found := Reference.find?_eq_some_iff.mpr first
        obtain ⟨-, -, -, rfl, -⟩ := first
        simp [value?, named, found, Reference.value]
  · intro asked
    cases t with
    | flag f =>
        simp only [value?, Option.ite_none_right_eq_some, Bool.and_eq_true, Bool.not_eq_true',
          Option.some.injEq] at asked
        obtain ⟨⟨wanted, unset⟩, rfl⟩ := asked
        exact .flag wanted unset
    | given n =>
        obtain ⟨name, named, rfl⟩ := Option.map_eq_some_iff.mp asked
        exact .given named
    | lookup l =>
        obtain ⟨option, found, rfl⟩ := Option.map_eq_some_iff.mp asked
        obtain ⟨name, named, found⟩ := Option.bind_eq_some_iff.mp found
        have first := Reference.find?_eq_some_iff.mp found
        have same : option.caption = name := by
          obtain ⟨-, -, -, same, -⟩ := first
          exact same
        rw [Reference.value, same]
        exact .lookup named first

theorem mem_changes_iff : ⟨t.field, v⟩ ∈ all.filterMap (change? d s) ↔ t.Asks d s v := by
  rw [asks_iff, List.mem_filterMap]
  constructor
  · rintro ⟨other, -, changed⟩
    obtain ⟨value, asked, same⟩ := Option.map_eq_some_iff.mp changed
    obtain ⟨fields, rfl⟩ := Change.mk.inj same
    rw [← field_injective fields]
    exact asked
  · intro asked
    exact ⟨t, t.mem_all, by rw [change?, asked]; rfl⟩

/-- No field is changed twice, and none out of its turn. -/
theorem path_changes_sublist (terms : List Term) :
    ((terms.filterMap (change? d s)).map Change.path).Sublist (terms.map field) := by
  induction terms with
  | nil => exact .slnil
  | cons t rest ih =>
      cases asked : t.value? d s with
      | none =>
          rw [List.filterMap_cons_none (by rw [change?, asked]; rfl)]
          exact ih.cons _
      | some value =>
          have changed : change? d s t = some ⟨t.field, value⟩ := by
            rw [change?, asked]
            rfl
          rw [List.filterMap_cons_some changed]
          exact ih.cons_cons _

end Term

/-! ## All terms together -/

section Computation

variable {d : Draft} {s : ReferenceSnapshot} {name : String}

theorem Lookup.missing?_eq_some_iff {l : Lookup} :
    l.missing? d s = some name ↔ l.IsMissing d s name := by
  unfold missing? IsMissing
  rw [Option.filter_eq_some_iff, Option.isNone_iff_eq_none, Reference.find?, List.find?_eq_none]
  simp

theorem Lookup.missing?_eq_none_iff {l : Lookup} :
    l.missing? d s = none ↔ ∀ name, ¬ l.IsMissing d s name := by
  simp only [← missing?_eq_some_iff]
  exact Option.eq_none_iff_forall_ne_some

theorem Lookup.before_eq {l : Lookup} {before behind : List Lookup}
    (split : all = before ++ l :: behind) : before = l.earlier := by
  obtain ⟨later, known⟩ := l.all_eq
  have once : all.Nodup := by decide
  rw [split] at known once
  exact ((List.append_cons_inj_of_notMem (by grind) (by grind)).mp known).1

/-- The computation fails with the first name that is missing. -/
theorem termChanges_eq_error_iff :
    termChanges d s = .error ⟨name⟩ ↔ ∃ l : Lookup, l.IsMissing d s name ∧
      ∀ before ∈ l.earlier, ∀ other, ¬ before.IsMissing d s other := by
  constructor
  · intro failed
    have first : Lookup.all.findSome? (·.missing? d s) = some name := by
      rw [termChanges_eq] at failed
      rcases Lookup.changesOf_ends Lookup.all with ⟨other, first, ended⟩ | ⟨-, found, ended⟩
      · rw [ended] at failed
        cases failed
        exact first
      · rw [ended] at failed
        cases failed
    obtain ⟨before, l, behind, split, missing, present⟩ := List.findSome?_eq_some_iff.mp first
    rw [Lookup.before_eq split] at present
    exact ⟨l, Lookup.missing?_eq_some_iff.mp missing, fun earlier member =>
      Lookup.missing?_eq_none_iff.mp (present earlier member)⟩
  · rintro ⟨l, missing, present⟩
    have found : l.earlier.findSome? (·.missing? d s) = none :=
      List.findSome?_eq_none_iff.mpr fun earlier member =>
        Lookup.missing?_eq_none_iff.mpr (present earlier member)
    have first := Lookup.findSome?_all (Lookup.missing?_eq_some_iff.mpr missing)
    rw [found] at first
    exact termChanges_of_missing first

/-- A lookup that does not fail makes the change that its term asks for. -/
theorem Lookup.changes_eq {l : Lookup} (present : l.missing? d s = none) :
    l.changes d s = .ok ((Term.lookup l).change? d s).toList := by
  cases named : l.name? d with
  | none =>
      rw [(changes_unnamed named).2]
      simp [Term.change?, Term.value?, named]
  | some name =>
      cases found : Reference.find? (l.options s) name with
      | none => cases present.symm.trans (changes_missing named found).1
      | some option =>
          rw [(changes_found named found).2]
          simp [Term.change?, Term.value?, named, found, Term.field]

theorem Lookup.changesOf_eq {lookups : List Lookup}
    (present : ∀ l ∈ lookups, l.missing? d s = none) :
    changesOf d s lookups = .ok ((lookups.map Term.lookup).filterMap (Term.change? d s)) := by
  induction lookups with
  | nil => rfl
  | cons l rest ih =>
      obtain ⟨here, others⟩ := List.forall_mem_cons.mp present
      rw [changesOf_cons (changes_eq here), ih others, List.map_cons, List.filterMap_cons]
      cases (Term.lookup l).change? d s <;> rfl

theorem flagChange_eq (f : Flag) :
    flagChange f.field (f.wanted d) (f.present s) = ((Term.flag f).change? d s).toList := by
  unfold flagChange Term.change? Term.value?
  dsimp only
  split <;> rfl

theorem nameChange_eq (n : GivenName) :
    nameChange n.field (n.name? d) = ((Term.given n).change? d s).toList := by
  unfold nameChange Term.change? Term.value?
  dsimp only
  cases n.name? d <;> rfl

theorem plainChanges_eq : plainChanges d s =
    [.flag .vendor, .given .vendorPricingSystem, .given .vendorDiscountSchema, .flag .customer,
      .given .dunning].filterMap (Term.change? d s) := by
  simp only [List.filterMap_eq_flatMap_toList, List.flatMap_cons, List.flatMap_nil,
    List.append_nil, ← flagChange_eq, ← nameChange_eq, ← List.append_assoc]
  rfl

/-- If no name is missing, each term makes the change it asks for. -/
theorem termChanges_eq_ok (present : ∀ l : Lookup, l.missing? d s = none) :
    termChanges d s = .ok (Term.all.filterMap (Term.change? d s)) := by
  rw [termChanges_eq, Lookup.changesOf_eq fun l _ => present l, plainChanges_eq]
  exact congrArg Except.ok (List.filterMap_append ..).symm

/-- A draft that needs no reference data asks for nothing. -/
theorem Term.value?_of_needless (needless : d.needsReferences = false) (t : Term) :
    t.value? d s = none := by
  simp only [Draft.needsReferences, Bool.or_eq_false_iff, Option.isSome_eq_false_iff,
    Option.isNone_iff_eq_none] at needless
  rcases t with (_ | _) | (_ | _ | _) | (_ | _ | _) <;>
    simp [value?, Flag.wanted, GivenName.name?, Lookup.name?, needless]

theorem Lookup.missing?_of_needless (needless : d.needsReferences = false) (l : Lookup) :
    l.missing? d s = none := by
  simp only [Draft.needsReferences, Bool.or_eq_false_iff, Option.isSome_eq_false_iff,
    Option.isNone_iff_eq_none] at needless
  cases l <;> simp [missing?, Lookup.name?, needless]

theorem termChanges_of_needless (needless : d.needsReferences = false) :
    termChanges d s = .ok [] := by
  rw [termChanges_eq_ok fun l => l.missing?_of_needless needless, List.filterMap_eq_nil_iff.mpr]
  exact fun t _ => by rw [Term.change?, Term.value?_of_needless needless]; rfl

/-- A name that is missing stops the computation. -/
theorem exists_error_iff : (∃ cause, termChanges d s = .error cause) ↔
    ∃ (l : Lookup) (name : String), l.IsMissing d s name := by
  constructor
  · rintro ⟨⟨name⟩, failed⟩
    obtain ⟨l, missing, -⟩ := termChanges_eq_error_iff.mp failed
    exact ⟨l, name, missing⟩
  · rintro ⟨l, name, missing⟩
    have first := Lookup.findSome?_all (Lookup.missing?_eq_some_iff.mpr missing)
    exact ⟨_, termChanges_of_missing first⟩

theorem changes_eq_of_termChanges {changes : List Change}
    (resolved : termChanges d s = .ok changes) :
    changes = Term.all.filterMap (Term.change? d s) := by
  have present : ∀ l : Lookup, l.missing? d s = none := by
    intro l
    refine Lookup.missing?_eq_none_iff.mpr fun name missing => ?_
    obtain ⟨cause, failed⟩ := exists_error_iff.mpr ⟨l, name, missing⟩
    cases failed.symm.trans resolved
  exact Except.ok.inj (resolved.symm.trans (termChanges_eq_ok present))

end Computation

/-- The changes of a draft, for any options and flags that the server may have. The computation
fails exactly if a name that is looked up is not found, and then with the first such name. Otherwise
it makes at most one change of each field, in a fixed order, and each to what is asked for and only
if something is. Without need of reference data it changes nothing: had they been read nevertheless,
nothing more would have been sent. -/
theorem changes_of_terms (d : Draft) (s : ReferenceSnapshot) :
    ((∃ cause, termChanges d s = .error cause) ↔
      ∃ (l : Lookup) (name : String), l.IsMissing d s name) ∧
    (∀ name, termChanges d s = .error ⟨name⟩ ↔ ∃ l : Lookup, l.IsMissing d s name ∧
      ∀ before ∈ l.earlier, ∀ other, ¬ before.IsMissing d s other) ∧
    (∀ changes, termChanges d s = .ok changes →
      (changes.map Change.path).Sublist ["IsVendor", "PO_PricingSystem_ID",
        "PO_DiscountSchema_ID", "IsCustomer", "C_Dunning_ID", "M_DiscountSchema_ID",
        "M_PricingSystem_ID", "C_PaymentTerm_ID"] ∧
      ∀ (t : Term) (v : Value), ⟨t.field, v⟩ ∈ changes ↔ t.Asks d s v) ∧
    (d.needsReferences = false → termChanges d s = .ok [] ∧
      ∀ (ω : Type) (window : PartnerWindow) (desk : Desk ω) (record : RecordId) (world after : ω),
        window.snapshot desk record world = (.ok s, after) →
          Builder.sendTerms window desk d record world = (.ok (), after)) := by
  refine ⟨exists_error_iff, fun name => termChanges_eq_error_iff, fun changes resolved => ?_,
    fun needless => ⟨termChanges_of_needless needless, ?_⟩⟩
  · rw [changes_eq_of_termChanges resolved]
    exact ⟨Term.path_changes_sublist Term.all, fun t v => Term.mem_changes_iff⟩
  · intro ω window desk record world after read
    unfold Builder.sendTerms
    rw [Act.bind_apply, read]
    dsimp only
    rw [termChanges_of_needless needless]
    rfl

/-- Of two names that are missing, the one that is looked up first is reported. -/
example :
    let d : Draft :=
      { name := "Acme", customerPricingSystem := some "Retail", paymentTerm := some "Net 30" }
    termChanges d { pricingSystems := [⟨.number 1, "retail"⟩] } = .error ⟨"Retail"⟩ :=
  rfl

end PartnerRecords
