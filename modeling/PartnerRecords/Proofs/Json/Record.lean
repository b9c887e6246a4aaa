import Mathlib.Data.List.Forall2
import PartnerRecords.Json.Tree
import PartnerRecords.Json.Record

/-!
# Records as they are written

The fields of a record are found in an object by their names, in whatever order its members stand.
A field that says what leaving it out says may be left out; a member that no field has the name of,
or a field that is needed and missing, spoils the record.
-/

namespace PartnerRecords

open Json (Tree Value)

/-! ## Lists of readings -/

theorem forall₂_of_mapM {α β : Type} {read : α → Option β} {items : List α} {found : List β}
    (each : items.mapM read = some found) :
    List.Forall₂ (fun item result => read item = some result) items found := by
  induction items generalizing found with
  | nil =>
      cases each
      exact .nil
  | cons item rest ih =>
      rw [List.mapM_cons] at each
      obtain ⟨result, first, each⟩ := Option.bind_eq_some_iff.mp each
      obtain ⟨results, others, each⟩ := Option.bind_eq_some_iff.mp each
      cases each
      exact .cons first (ih others)

theorem mapM_of_forall₂ {α β : Type} {read : α → Option β} {items : List α} {found : List β}
    (each : List.Forall₂ (fun item result => read item = some result) items found) :
    items.mapM read = some found := by
  induction each with
  | nil => rfl
  | cons first _ ih =>
      rw [List.mapM_cons, first, ih]
      rfl

theorem read_of_mapM {α β : Type} {read : α → Option β} {items : List α} {found : List β}
    (each : items.mapM read = some found) {item : α} (member : item ∈ items) :
    ∃ result, read item = some result := by
  induction forall₂_of_mapM each with
  | nil => cases member
  | cons first _ ih =>
      rcases List.mem_cons.mp member with rfl | later
      · exact ⟨_, first⟩
      · exact ih (mapM_of_forall₂ ‹_›) later

theorem exists_forall₂ {α β : Type} {Related : α → β → Prop} {items : List α}
    (each : ∀ item ∈ items, ∃ result, Related item result) :
    ∃ results, List.Forall₂ Related items results := by
  induction items with
  | nil => exact ⟨[], .nil⟩
  | cons item rest ih =>
      obtain ⟨⟨result, first⟩, others⟩ := List.forall_mem_cons.mp each
      obtain ⟨results, related⟩ := ih others
      exact ⟨result :: results, .cons first related⟩

theorem exists_mem_zip {α β : Type} {Related : α → β → Prop} {items : List α} {results : List β}
    (each : List.Forall₂ Related items results) {item : α} (member : item ∈ items) :
    ∃ result, (item, result) ∈ items.zip results ∧ Related item result := by
  induction each with
  | nil => cases member
  | cons first _ ih =>
      rcases List.mem_cons.mp member with rfl | later
      · exact ⟨_, List.mem_cons_self, first⟩
      · obtain ⟨result, pair, related⟩ := ih later
        exact ⟨result, List.mem_cons_of_mem _ pair, related⟩

/-! ## Dictionaries -/

theorem Dict.get?_eq_head? {α : Type} (entries : Dict α) (name : String) :
    entries.get? name = (entries.filter (·.1 == name)).head?.map (·.2) := by
  induction entries with
  | nil => rfl
  | cons entry rest ih =>
      obtain ⟨other, value⟩ := entry
      by_cases same : other = name
      · simp [get?, same]
      · simp [get?, same, ih]

namespace Dict

variable {α : Type}

theorem perm_insert {entries : Dict α} {key : String}
    (fresh : ∀ entry ∈ entries, entry.1 ≠ key) (value : α) :
    (entries.insert key value).Perm ((key, value) :: entries) := by
  induction entries with
  | nil => exact .refl _
  | cons entry rest ih =>
      obtain ⟨other, later⟩ := List.forall_mem_cons.mp fresh
      rw [insert]
      split
      · exact .refl _
      · exact ((ih later).cons entry).trans (.swap _ _ _)

theorem perm_foldl_insert {dict : Dict α} {entries : List (String × α)}
    (distinct : (List.map Prod.fst (dict ++ entries)).Nodup) :
    (entries.foldl (fun dict entry => dict.insert entry.1 entry.2) dict).Perm
      (dict ++ entries) := by
  induction entries generalizing dict with
  | nil => rw [List.append_nil, List.foldl_nil]
  | cons entry rest ih =>
      have fresh : ∀ other ∈ dict, other.1 ≠ entry.1 := by
        intro other member same
        rw [List.map_append, List.map_cons] at distinct
        refine (List.nodup_append.mp distinct).2.2 _ (List.mem_map_of_mem member) _
          List.mem_cons_self same
      have inserted : (dict.insert entry.1 entry.2 ++ rest).Perm (dict ++ entry :: rest) :=
        ((perm_insert fresh entry.2).append_right rest).trans List.perm_middle.symm
      rw [List.foldl_cons]
      exact (ih ((inserted.map Prod.fst).nodup_iff.mpr distinct)).trans inserted

/-- A dictionary of distinct names holds what was given. -/
theorem perm_ofList {entries : List (String × α)} (distinct : (List.map Prod.fst entries).Nodup) :
    (ofList entries).Perm entries :=
  @perm_foldl_insert α [] entries distinct

end Dict

/-! ## Members of objects -/

namespace Json

abbrev memberTrees (members : List (String × Value)) : List (Option String × Tree) :=
  members.map fun member => (some member.1, member.2.tree)

theorem Value.tree_object (members : List (String × Value)) :
    (Value.object members).tree = .object (memberTrees members) := by
  simp only [tree, memberTreesAfter_eq, List.reverse_nil, List.nil_append]

theorem Value.tree_list (items : List Value) :
    (Value.list items).tree = .list (items.map tree) := by
  simp only [tree, treesAfter_eq, List.reverse_nil, List.nil_append]

/-- The one member with a name has the value that the object has under it. -/
theorem Tree.only?_memberTrees {members : List (String × Value)} {name : String}
    {found : Option Tree} (read : only? (memberTrees members) name = some found) :
    found = (Dict.get? members name).map Value.tree := by
  have kept : (memberTrees members).filter (fun member => member.1 == some name) =
      memberTrees (members.filter (·.1 == name)) := by
    rw [memberTrees, List.filter_map]
    rfl
  rw [Dict.get?_eq_head?]
  unfold only? at read
  rw [kept] at read
  generalize members.filter (·.1 == name) = named at read ⊢
  cases named with
  | nil =>
      cases read
      rfl
  | cons member others =>
      cases others with
      | nil =>
          cases read
          rfl
      | cons second rest => cases read

theorem Tree.fields?_memberTrees (members : List (String × Value)) (names : List String) :
    (Tree.object (memberTrees members)).fields? names true =
      names.mapM (only? (memberTrees members)) := by
  simp [fields?]

/-- A field that has to be there is read off the value that the object has under its name. -/
theorem Tree.required_member {α : Type} {members : List (String × Value)} {name : String}
    {found : Option Tree} (only : only? (memberTrees members) name = some found)
    {reader : Tree → Option α} {result : α} (read : required reader found = some result) :
    ∃ value, Dict.get? members name = some value ∧ reader value.tree = some result := by
  rw [only?_memberTrees only, required, Option.bind_map] at read
  exact Option.bind_eq_some_iff.mp read

theorem Value.eq_of_text?_tree {value : Value} {text : String}
    (read : value.tree.text? = some text) : value = .text text := by
  cases value with
  | text other =>
      cases read
      rfl
  | _ => cases read

end Json

/-! ## Members of records -/

namespace Json.Tree

section Only

variable {members others : List (Option String × Tree)} {name : String}

/-- The order of members does not matter. -/
theorem only?_perm (order : members.Perm others) (name : String) :
    only? members name = only? others name := by
  have kept := order.filter fun member => member.1 == some name
  unfold only?
  generalize members.filter _ = found at kept
  generalize others.filter _ = foundToo at kept
  cases foundToo with
  | nil => rw [kept.eq_nil]
  | cons first rest =>
      cases rest with
      | nil => rw [List.perm_singleton.mp kept]
      | cons second rest =>
          -- The name is repeated on one side, so it is on the other.
          rcases found with _ | ⟨_, _ | ⟨_, _⟩⟩
          · exact absurd kept.length_eq (by simp)
          · exact absurd kept.length_eq (by simp)
          · rfl

theorem filter_of_absent (absent : ∀ member ∈ members, member.1 ≠ some name) :
    members.filter (fun member => member.1 == some name) = [] := by
  refine List.filter_eq_nil_iff.mpr fun member present => ?_
  rw [beq_iff_eq]
  exact absent member present

theorem only?_of_absent (absent : ∀ member ∈ members, member.1 ≠ some name) :
    only? members name = some none := by
  rw [only?, filter_of_absent absent]

theorem only?_cons_self (t : Tree) (absent : ∀ member ∈ members, member.1 ≠ some name) :
    only? ((some name, t) :: members) name = some (some t) := by
  rw [only?, List.filter_cons_of_pos (by simp), filter_of_absent absent]

theorem only?_cons_of_ne {other : String} (ne : other ≠ name) (t : Tree) :
    only? ((some other, t) :: members) name = only? members name := by
  rw [only?, List.filter_cons_of_neg (by simpa using ne), only?]

/-- Where a name is not repeated, the member that has it is the one. -/
theorem eq_of_only? {field : Option Tree} (only : only? members name = some field) {t : Tree}
    (member : (some name, t) ∈ members) : field = some t := by
  have kept : (some name, t) ∈ members.filter fun member => member.1 == some name :=
    List.mem_filter.mpr ⟨member, by simp⟩
  unfold only? at only
  split at only
  · next nothing =>
      rw [nothing] at kept
      cases kept
  · next one =>
      rw [one] at kept
      rw [← Option.some.inj only, ← List.mem_singleton.mp kept]
  · cases only

end Only

/-! ## Arrangements -/

/-- A field as it is written, and whether leaving it out says the same. -/
structure Slot where
  name : String
  tree : Tree
  isDefault : Bool := false

/-- Members for fields in their order, without some that say what leaving them out says. -/
inductive Shown : List Slot → List (Option String × Tree) → Prop
  | nil : Shown [] []
  | written (slot : Slot) {slots : List Slot} {members : List (Option String × Tree)}
      (rest : Shown slots members) : Shown (slot :: slots) ((some slot.name, slot.tree) :: members)
  | left {slot : Slot} {slots : List Slot} {members : List (Option String × Tree)}
      (isDefault : slot.isDefault = true) (rest : Shown slots members) :
      Shown (slot :: slots) members

inductive Arranged (slots : List Slot) : Tree → Prop
  | object {shown members : List (Option String × Tree)} (shows : Shown slots shown)
      (order : members.Perm shown) : Arranged slots (.object members)

inductive Slot.Found (slot : Slot) : Option Tree → Prop
  | written : Found slot (some slot.tree)
  | left (isDefault : slot.isDefault = true) : Found slot none

theorem Shown.exists_slot {slots : List Slot} {members : List (Option String × Tree)}
    (shown : Shown slots members) {member : Option String × Tree} (present : member ∈ members) :
    ∃ slot ∈ slots, member.1 = some slot.name := by
  induction shown with
  | nil => cases present
  | written slot rest ih =>
      rcases List.mem_cons.mp present with rfl | later
      · exact ⟨slot, List.mem_cons_self, rfl⟩
      · obtain ⟨other, member, same⟩ := ih later
        exact ⟨other, List.mem_cons_of_mem _ member, same⟩
  | left isDefault rest ih =>
      obtain ⟨other, member, same⟩ := ih present
      exact ⟨other, List.mem_cons_of_mem _ member, same⟩

/-- A name that no field has is the name of no member. -/
theorem Shown.absent {slots : List Slot} {members : List (Option String × Tree)}
    (shown : Shown slots members) {name : String} (unknown : name ∉ slots.map Slot.name) :
    ∀ member ∈ members, member.1 ≠ some name := by
  intro member present same
  obtain ⟨slot, isSlot, named⟩ := shown.exists_slot present
  rw [named, Option.some.injEq] at same
  exact unknown (same ▸ List.mem_map_of_mem isSlot)

/-- Each field is found among the members, or else says what leaving it out says. -/
theorem Shown.exists_found {slots : List Slot} {members : List (Option String × Tree)}
    (shown : Shown slots members) (distinct : (slots.map Slot.name).Nodup) :
    ∀ slot ∈ slots, ∃ field, only? members slot.name = some field ∧ slot.Found field := by
  induction shown with
  | nil => exact fun _ member => nomatch member
  | written first rest ih =>
      obtain ⟨unknown, distinct⟩ := List.nodup_cons.mp distinct
      intro slot member
      rcases List.mem_cons.mp member with rfl | later
      · exact ⟨_, only?_cons_self _ (rest.absent unknown), .written⟩
      · have ne : first.name ≠ slot.name := by
          intro same
          exact unknown (same ▸ List.mem_map_of_mem later)
        rw [only?_cons_of_ne ne]
        exact ih distinct slot later
  | left isDefault rest ih =>
      obtain ⟨unknown, distinct⟩ := List.nodup_cons.mp distinct
      intro slot member
      rcases List.mem_cons.mp member with rfl | later
      -- No other field has the name of this one, so nothing is found under it.
      · exact ⟨none, only?_of_absent (rest.absent unknown), .left isDefault⟩
      · exact ih distinct slot later

/-- All fields of an object, in whatever order it shows them. -/
theorem Arranged.exists_fields {slots : List Slot} {t : Tree} (arranged : Arranged slots t)
    (distinct : (slots.map Slot.name).Nodup) :
    ∃ fields, t.fields? (slots.map Slot.name) false = some fields ∧
      List.Forall₂ Slot.Found slots fields := by
  obtain ⟨shows, order⟩ := arranged
  next shown members =>
  obtain ⟨fields, related⟩ := exists_forall₂ (shows.exists_found distinct)
  have known : members.all (fun member =>
      member.1.any fun name => false || (slots.map Slot.name).contains name) = true := by
    refine List.all_eq_true.mpr fun member present => ?_
    obtain ⟨slot, isSlot, named⟩ := shows.exists_slot (order.mem_iff.mp present)
    rw [named]
    simpa using ⟨slot, isSlot, rfl⟩
  refine ⟨fields, ?_, related.imp fun _ _ found => found.2⟩
  rw [fields?, if_pos known]
  refine mapM_of_forall₂ (List.forall₂_map_left_iff.mpr (related.imp fun slot field found => ?_))
  rw [only?_perm order]
  exact found.1

namespace Slot.Found

variable {α : Type} {slot : Slot} {field : Option Tree} (found : slot.Found field)
variable {reader : Tree → Option α} {result : α} (reads : reader slot.tree = some result)

include found reads

theorem required_eq (needed : slot.isDefault = false) : required reader field = some result := by
  cases found with
  | written => exact reads
  | left isDefault =>
      rw [needed] at isDefault
      cases isDefault

theorem orDefault_eq {default : α} (same : slot.isDefault = true → default = result) :
    orDefault default reader field = some result := by
  cases found with
  | written => exact reads
  | left isDefault => exact congrArg some (same isDefault)

end Slot.Found

/-! ## Misfits -/

/-- An object that is no record: it has a member with the name of no field, or none with the name
of a field that is needed. -/
inductive Misfit (names needed : List String) : Tree → Prop
  | unknown {members : List (Option String × Tree)} {name : String} {t : Tree}
      (member : (some name, t) ∈ members) (unknown : name ∉ names) :
      Misfit names needed (.object members)
  | missing {members : List (Option String × Tree)} {name : String} (need : name ∈ needed)
      (absent : ∀ member ∈ members, member.1 ≠ some name) : Misfit names needed (.object members)

/-- What is read of an object: it has no other members, and each field at most once. -/
theorem of_fields?_object {members : List (Option String × Tree)} {names : List String}
    {fields : List (Option Tree)} (read : (object members).fields? names false = some fields) :
    (∀ name t, (some name, t) ∈ members → name ∈ names) ∧
      List.Forall₂ (fun name field => only? members name = some field) names fields := by
  rw [fields?] at read
  split at read
  · next known =>
      refine ⟨fun name t member => ?_, forall₂_of_mapM read⟩
      simpa using List.all_eq_true.mp known _ member
  · cases read

theorem mem_zip_of_fields?_object {members : List (Option String × Tree)} {names : List String}
    {fields : List (Option Tree)} (read : (object members).fields? names false = some fields)
    {name : String} {t : Tree} (member : (some name, t) ∈ members) :
    (name, some t) ∈ names.zip fields := by
  obtain ⟨known, each⟩ := of_fields?_object read
  obtain ⟨field, pair, only⟩ := exists_mem_zip each (known name t member)
  exact eq_of_only? only member ▸ pair

/-- Where the fields of a misfit can be read all the same, one that is needed is missing. -/
theorem Misfit.exists_missing {names needed : List String} {t : Tree}
    (misfit : Misfit names needed t) (subset : needed ⊆ names) {fields : List (Option Tree)}
    (read : t.fields? names false = some fields) :
    ∃ name ∈ needed, (name, none) ∈ names.zip fields := by
  cases misfit with
  | unknown member unknown => exact absurd ((of_fields?_object read).1 _ _ member) unknown
  | missing need absent =>
      obtain ⟨-, each⟩ := of_fields?_object read
      obtain ⟨field, pair, only⟩ := exists_mem_zip each (subset need)
      rw [only?_of_absent absent, Option.some.injEq] at only
      exact ⟨_, need, only ▸ pair⟩

end Json.Tree

end PartnerRecords
