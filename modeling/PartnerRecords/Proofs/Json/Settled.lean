import Mathlib.Data.List.Induction
import PartnerRecords.Proofs.Json.Record

/-!
# Settled values

A dictionary is told by what it has under its names. Every object of a value that was read is one:
its names stand in order, each once, however often they were repeated in the text.
-/

namespace PartnerRecords

/-! ## Dictionaries -/

namespace Dict

variable {α β : Type} {entries others : Dict α}

theorem get?_eq_some_iff (ordered : Ordered entries) {name : String} {value : α} :
    entries.get? name = some value ↔ (name, value) ∈ entries := by
  induction entries with
  | nil => exact iff_of_false nofun nofun
  | cons entry rest ih =>
      obtain ⟨other, old⟩ := entry
      obtain ⟨first, tail⟩ := List.pairwise_cons.mp ordered
      rw [get?, List.mem_cons, Prod.mk.injEq]
      split
      · next same =>
          subst same
          have later : (other, value) ∉ rest := fun member =>
            String.lt_irrefl other (first _ member)
          simp [later, eq_comm]
      · next ne =>
          rw [ih tail]
          simp [Ne.symm ne]

theorem Ordered.nodup (ordered : Ordered entries) : entries.Nodup := by
  refine List.Pairwise.imp (fun before same => ?_) ordered
  subst same
  exact String.lt_irrefl _ before

/-- Dictionaries that have the same under every name are the same. -/
theorem Ordered.ext (ordered : Ordered entries) (orderedToo : Ordered others)
    (same : ∀ name, entries.get? name = others.get? name) : entries = others := by
  have members : entries.Perm others := by
    refine (List.perm_ext_iff_of_nodup ordered.nodup orderedToo.nodup).mpr fun (name, value) => ?_
    rw [← get?_eq_some_iff ordered, ← get?_eq_some_iff orderedToo, same]
  exact members.eq_of_pairwise (fun _ _ _ _ before after => absurd after (String.lt_asymm before))
    ordered orderedToo

theorem get?_map (f : α → β) (entries : Dict α) (name : String) :
    (entries.map f).get? name = (entries.get? name).map f := by
  induction entries with
  | nil => rfl
  | cons entry rest ih =>
      obtain ⟨other, value⟩ := entry
      change (if other = name then some (f value) else (map f rest).get? name) = _
      rw [get?, ih]
      split <;> rfl

theorem Ordered.map (ordered : Ordered entries) (f : α → β) : Ordered (entries.map f) :=
  List.pairwise_map.mpr ordered

theorem Ordered.erase (ordered : Ordered entries) (key : String) : Ordered (entries.erase key) :=
  ordered.filter _

/-- Putting back what was taken out restores a dictionary. -/
theorem Ordered.insert_erase (ordered : Ordered entries) {key : String} {value : α}
    (there : entries.get? key = some value) : (entries.erase key).insert key value = entries := by
  refine ((ordered.erase key).insert key value).ext ordered fun name => ?_
  rw [get?_insert, get?_erase]
  split
  · next same => rw [← same, there]
  · rfl

theorem Ordered.erase_eq_self (ordered : Ordered entries) {key : String}
    (missing : entries.get? key = none) : entries.erase key = entries := by
  refine (ordered.erase key).ext ordered fun name => ?_
  rw [get?_erase]
  split
  · next same => rw [← same, missing]
  · rfl

/-! ### Dictionaries of lists -/

theorem ofList_concat (list : List (String × α)) (entry : String × α) :
    ofList (list ++ [entry]) = (ofList list).insert entry.1 entry.2 :=
  List.foldl_concat ..

theorem ordered_ofList (list : List (String × α)) : Ordered (ofList list) := by
  induction list using List.reverseRecOn with
  | nil => exact .nil
  | append_singleton list entry ih =>
      rw [ofList_concat]
      exact ih.insert entry.1 entry.2

/-- The last entry of a name is the one that is found. -/
theorem get?_ofList_append (front : List (String × α)) (name : String) (value : α)
    {back : List (String × α)} (absent : ∀ entry ∈ back, entry.1 ≠ name) :
    (ofList (front ++ (name, value) :: back)).get? name = some value := by
  induction back using List.reverseRecOn with
  | nil => rw [ofList_concat, get?_insert, if_pos rfl]
  | append_singleton back last ih =>
      obtain ⟨others, final⟩ := List.forall_mem_append.mp absent
      rw [← List.cons_append, ← List.append_assoc, ofList_concat, get?_insert,
        if_neg (final last List.mem_cons_self), ih others]

theorem mem_of_mem_insert {key : String} {value : α} {entry : String × α}
    (member : entry ∈ entries.insert key value) : entry = (key, value) ∨ entry ∈ entries := by
  induction entries with
  | nil => exact .inl (List.mem_singleton.mp member)
  | cons head rest ih =>
      simp only [insert] at member
      split at member
      · exact List.mem_cons.mp member
      · split at member
        · exact (List.mem_cons.mp member).imp_right (List.mem_cons_of_mem _)
        · rcases List.mem_cons.mp member with rfl | later
          · exact .inr List.mem_cons_self
          · exact (ih later).imp_right (List.mem_cons_of_mem _)

theorem mem_of_mem_ofList {list : List (String × α)} {entry : String × α}
    (member : entry ∈ ofList list) : entry ∈ list := by
  induction list using List.reverseRecOn with
  | nil => cases member
  | append_singleton list last ih =>
      rw [ofList_concat] at member
      rcases mem_of_mem_insert member with rfl | earlier
      · exact List.mem_append_right _ List.mem_cons_self
      · exact List.mem_append_left _ (ih earlier)

end Dict

/-! ## Values -/

namespace Json

/-- The names of every object in a value stand in order, each once. -/
inductive Value.IsSettled : Value → Prop
  | null : IsSettled .null
  | boolean (value : Bool) : IsSettled (.boolean value)
  | number (value : Number) : IsSettled (.number value)
  | text (value : String) : IsSettled (.text value)
  | list {items : List Value} (each : ∀ item ∈ items, IsSettled item) : IsSettled (.list items)
  | object {members : Dict Value} (ordered : members.Ordered)
      (each : ∀ member ∈ members, IsSettled member.2) : IsSettled (.object members)

theorem Value.IsSettled.ordered {members : Dict Value}
    (settled : (Value.object members).IsSettled) : members.Ordered := by
  cases settled with
  | object ordered each => exact ordered

theorem Value.IsSettled.member {members : Dict Value} (settled : (Value.object members).IsSettled)
    {name : String} {value : Value} (there : members.get? name = some value) :
    value.IsSettled := by
  cases settled with
  | object ordered each => exact each _ ((Dict.get?_eq_some_iff ordered).mp there)

theorem Value.IsSettled.item {items : List Value} (settled : (Value.list items).IsSettled)
    {item : Value} (member : item ∈ items) : item.IsSettled := by
  cases settled with
  | list each => exact each item member

theorem Value.settled_ofMembers {members : List (String × Value)}
    (each : ∀ member ∈ members, member.2.IsSettled) : (ofMembers members).IsSettled :=
  .object (Dict.ordered_ofList members) fun member there =>
    each member (Dict.mem_of_mem_ofList there)

theorem exists_read_of_mem {α β : Type} {read : α → Option β} {items : List α} {found : List β}
    (each : items.mapM read = some found) {result : β} (member : result ∈ found) :
    ∃ item ∈ items, read item = some result := by
  induction forall₂_of_mapM each with
  | nil => cases member
  | cons first _ ih =>
      rcases List.mem_cons.mp member with rfl | later
      · exact ⟨_, List.mem_cons_self, first⟩
      · obtain ⟨item, earlier, same⟩ := ih (mapM_of_forall₂ ‹_›) later
        exact ⟨item, List.mem_cons_of_mem _ earlier, same⟩

/-- Every value that is read off a tree is settled. -/
theorem Tree.settled_of_value? {depth : Nat} {t : Tree} {value : Value}
    (read : t.value? depth = some value) : value.IsSettled := by
  induction depth generalizing t value with
  | zero =>
      cases t with
      | null => cases read; exact .null
      | boolean _ => cases read; exact .boolean _
      | number _ =>
          obtain ⟨_, -, rfl⟩ := Option.map_eq_some_iff.mp read
          exact .number _
      | text _ =>
          obtain ⟨_, -, rfl⟩ := Option.map_eq_some_iff.mp read
          exact .text _
      | list _ => cases read
      | object _ => cases read
  | succ depth ih =>
      cases t with
      | null => cases read; exact .null
      | boolean _ => cases read; exact .boolean _
      | number _ =>
          obtain ⟨_, -, rfl⟩ := Option.map_eq_some_iff.mp read
          exact .number _
      | text _ =>
          obtain ⟨_, -, rfl⟩ := Option.map_eq_some_iff.mp read
          exact .text _
      | list items =>
          obtain ⟨values, each, rfl⟩ := Option.map_eq_some_iff.mp read
          refine .list fun value member => ?_
          obtain ⟨t, -, read⟩ := exists_read_of_mem each member
          exact ih read
      | object members =>
          obtain ⟨values, each, rfl⟩ := Option.map_eq_some_iff.mp read
          refine Value.settled_ofMembers fun member there => ?_
          obtain ⟨t, -, read⟩ := exists_read_of_mem each there
          obtain ⟨name, -, read⟩ := Option.bind_eq_some_iff.mp read
          obtain ⟨value, inner, same⟩ := Option.bind_eq_some_iff.mp read
          cases same
          exact ih inner

theorem Value.settled_of_parse? {text : String} {value : Value}
    (read : Value.parse? text = some value) : value.IsSettled := by
  obtain ⟨t, -, read⟩ := Option.bind_eq_some_iff.mp read
  exact t.settled_of_value? read

/-- Where no name is repeated, each one can be looked up. -/
theorem Tree.only?_of_ordered {members : Dict Value} (ordered : members.Ordered) (name : String) :
    only? (memberTrees members) name = some ((Dict.get? members name).map Value.tree) := by
  induction members with
  | nil => rfl
  | cons member rest ih =>
      obtain ⟨other, value⟩ := member
      obtain ⟨first, tail⟩ := List.pairwise_cons.mp ordered
      rw [memberTrees, List.map_cons, Dict.get?]
      split
      · next same =>
          subst same
          refine only?_cons_self _ fun later there repeated => ?_
          obtain ⟨⟨name, _⟩, present, rfl⟩ := List.mem_map.mp there
          cases repeated
          exact String.lt_irrefl other (first _ present)
      · next ne => exact (only?_cons_of_ne ne _).trans (ih tail)

end Json

end PartnerRecords
