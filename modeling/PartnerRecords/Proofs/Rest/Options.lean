import PartnerRecords.Proofs.Act
import PartnerRecords.Proofs.Json.Record
import PartnerRecords.Rest.Client

/-!
# Options of a dropdown

The body of a dropdown lists entries, each an object. An option is read from every entry, with the
key and the caption that stand there; sent in a change, it is again an object of that key and that
caption, and of nothing else.
-/

namespace PartnerRecords

open Json (Tree Value)

/-! ## Entries -/

/-- Reading a key and sending it gives what was read. -/
theorem ReferenceKey.value_of_ofTree? {value : Value} {key : ReferenceKey}
    (read : ofTree? value.tree = some key) : key.value = value := by
  cases value with
  | text word =>
      cases read
      rfl
  | number number =>
      cases number with
      | whole n =>
          change (if _ then some (ReferenceKey.number n) else none) = _ at read
          split at read
          · cases read
            rfl
          · cases read
      | real n => cases read
  | _ => cases read

namespace Reference

structure OfEntry (entry : Dict Value) (option : Reference) : Prop where
  key : Dict.get? entry "key" = some option.key.value
  caption : Dict.get? entry "caption" = some (.text option.caption)

def HasCaption (name : String) (entry : Dict Value) : Prop :=
  Dict.get? entry "caption" = some (.text name)

def FirstKey (name : String) (entries : List (Dict Value)) (key : Value) : Prop :=
  ∃ before entry rest, entries = before ++ entry :: rest ∧
    (∀ other ∈ before, ¬ HasCaption name other) ∧ HasCaption name entry ∧
    Dict.get? entry "key" = some key

theorem ofEntry_of_ofTree? {entry : Dict Value} {option : Reference}
    (read : ofTree? (Value.object entry).tree = some option) : OfEntry entry option := by
  rw [Json.Value.tree_object] at read
  unfold ofTree? at read
  rw [Json.Tree.fields?_memberTrees] at read
  simp only [fieldNames, List.mapM_cons, List.mapM_nil, Option.pure_def, Option.bind_eq_bind,
    Option.bind_some, Option.bind_assoc, Option.bind_eq_some_iff, Option.some.injEq] at read
  obtain ⟨keyTree, keyOnly, captionTree, captionOnly, key, keyRead, caption, captionRead, rfl⟩ :=
    read
  obtain ⟨keyValue, keyThere, keyRead⟩ := Json.Tree.required_member keyOnly keyRead
  obtain ⟨captionValue, captionThere, captionRead⟩ :=
    Json.Tree.required_member captionOnly captionRead
  refine ⟨?_, ?_⟩
  · rw [keyThere, ReferenceKey.value_of_ofTree? keyRead]
  · rw [captionThere, Json.Value.eq_of_text?_tree captionRead]

/-- What is sent of an option is its key and its caption. -/
theorem value_eq (option : Reference) :
    option.value = .object [("caption", .text option.caption), ("key", option.key.value)] := by
  have before : "caption" < "key" := by decide
  simp [value, Value.ofMembers, Dict.ofList, Dict.insert, before]

variable {entries : List (Dict Value)} {options : List Reference} {name : String}

/-- The option that is found has the caption, and the key of the first entry with it. -/
theorem firstKey_of_find? (read : List.Forall₂ OfEntry entries options) {option : Reference}
    (found : find? options name = some option) :
    option.caption = name ∧ FirstKey name entries option.key.value := by
  induction read with
  | nil => cases found
  | @cons entry first entries options ofEntry read ih =>
      unfold find? at found
      rw [List.find?_cons] at found
      split at found
      · next same =>
          cases found
          obtain rfl : option.caption = name := by simpa using same
          exact ⟨rfl, [], entry, entries, rfl, nofun, ofEntry.caption, ofEntry.key⟩
      · next other =>
          obtain ⟨same, before, later, rest, rfl, others, captioned, key⟩ := ih found
          refine ⟨same, entry :: before, later, rest, rfl, ?_, captioned, key⟩
          refine List.forall_mem_cons.mpr ⟨fun captioned => ?_, others⟩
          cases ofEntry.caption.symm.trans captioned
          simp at other

theorem find?_eq_none_iff (read : List.Forall₂ OfEntry entries options) :
    find? options name = none ↔ ∀ entry ∈ entries, ¬ HasCaption name entry := by
  induction read with
  | nil => exact iff_of_true rfl nofun
  | @cons entry option entries options ofEntry read ih =>
      have captioned : option.caption = name ↔ HasCaption name entry := by
        rw [HasCaption, ofEntry.caption, Option.some.injEq, Value.text.injEq]
      rw [List.forall_mem_cons, ← ih, ← captioned, find?, List.find?_cons]
      by_cases same : option.caption = name
      · simp [same]
      · rw [beq_false_of_ne same, find?]
        simp [same]

end Reference

namespace WindowClient

/-- Every option of a dropdown is one of its entries. -/
theorem ofEntry_of_dropdownOptions? {members : List (String × Value)}
    {entries : List (Dict Value)} {options : List Reference}
    (listed : Dict.get? members "values" = some (.list (entries.map .object)))
    (read : dropdownOptions? (.object members) = some options) :
    List.Forall₂ Reference.OfEntry entries options := by
  unfold dropdownOptions? at read
  rw [Json.Value.tree_object, Json.Tree.fields?_memberTrees] at read
  simp only [List.mapM_cons, List.mapM_nil, Option.pure_def, Option.bind_eq_bind,
    Option.bind_some, Option.bind_assoc, Option.bind_eq_some_iff] at read
  obtain ⟨found, only, read⟩ := read
  obtain ⟨value, there, read⟩ := Json.Tree.required_member only read
  cases listed.symm.trans there
  rw [Json.Value.tree_list, List.map_map] at read
  have each := List.forall₂_map_left_iff.mp (forall₂_of_mapM read)
  exact each.imp fun _ _ => Reference.ofEntry_of_ofTree?

theorem dropdown_of_replied {ω : Type} {client : WindowClient} {desk : Desk ω}
    {record : RecordId} {tab field : String} {world after : ω} {reply : WindowReply}
    (replied : client.sendTo desk [record.text, tab, record.text, "field", field, "dropdown"] id
      none world = (.ok reply, after)) :
    client.dropdown desk record tab field world =
      ((dropdownOptions? reply.body).elim (.error (.decode (.dropdown field))) .ok, after) := by
  unfold dropdown dropdownSegments
  rw [Act.bind_apply, replied]
  exact Act.ofExcept_apply _ _

/-- The options of a dropdown are those in the body of the reply. -/
theorem options_of_dropdown {ω : Type} {client : WindowClient} {desk : Desk ω}
    {record : RecordId} {tab field : String} {world after : ω} {reply : WindowReply}
    {options : List Reference}
    (replied : client.sendTo desk [record.text, tab, record.text, "field", field, "dropdown"] id
      none world = (.ok reply, after))
    (decoded : (client.dropdown desk record tab field world).1 = .ok options) :
    dropdownOptions? reply.body = some options := by
  rw [dropdown_of_replied replied] at decoded
  cases read : dropdownOptions? reply.body with
  | none =>
      rw [read] at decoded
      cases decoded
  | some list =>
      rw [read] at decoded
      cases decoded
      rfl

end WindowClient

end PartnerRecords
