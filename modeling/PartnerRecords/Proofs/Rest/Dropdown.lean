import PartnerRecords.Proofs.Config.Variable
import PartnerRecords.Proofs.Json.Settled
import PartnerRecords.Proofs.Rest.Dialogue
import PartnerRecords.Proofs.Rest.Options

/-!
# Bodies of dropdowns

A dropdown is a record of one field, the list of its options, and an option a record of two. Either
may be written as an object, with the fields under their names, or as a list, with the fields in
their order. A body that is neither, or has anything else where an option is due, is no dropdown.
-/

namespace PartnerRecords

open Json (Tree Value)

/-! ## Replies -/

/-- What is read of a body is settled. -/
theorem Response.settled_of_readBody {body : ByteArray} {reply : WindowReply}
    (read : readBody body = .ok reply) : reply.body.IsSettled := by
  unfold readBody at read
  split at read
  · cases read
    exact .null
  · cases parsed : (String.fromUTF8? body).bind Value.parse? with
    | none =>
        rw [parsed] at read
        cases read
    | some value =>
        rw [parsed] at read
        cases read
        obtain ⟨text, -, parsed⟩ := Option.bind_eq_some_iff.mp parsed
        exact Value.settled_of_parse? parsed

theorem Reply.settled_of_read {url : Url} {answer : Reply} {reply : WindowReply}
    (read : answer.read url = .ok reply) : reply.body.IsSettled := by
  cases answer with
  | unsent => cases read
  | dropped => cases read
  | answered status body =>
      change (if _ then _ else _) = _ at read
      split at read
      · cases read
      · cases body with
        | none => cases read
        | some bytes => exact Response.settled_of_readBody read

/-- What is read of a reply that succeeds with a text that is not blank. -/
theorem Reply.read_toUTF8 {status : Nat} {text : String} (success : 200 ≤ status ∧ status < 300)
    (shown : text.toUTF8.data.all Response.isSpace = false) (url : Url) :
    (answered status (some text.toUTF8)).read url =
      (Value.parse? text).elim (.error (.decode .notJson)) fun body => .ok (.ofBody body) := by
  have inside : ¬ (status < 200 ∨ 300 ≤ status) := by omega
  have read : (answered status (some text.toUTF8)).read url = Response.readBody text.toUTF8 :=
    if_neg inside
  rw [read, Response.readBody, shown, Environment.fromUTF8?_toUTF8, Option.bind_some]
  cases Value.parse? text <;> rfl

theorem WindowClient.settled_of_sendTo {ω : Type} {client : WindowClient} {desk : Desk ω}
    {segments : List String} {adjust : Url → Url} {changes : Option (List Change)} {world after : ω}
    {reply : WindowReply}
    (replied : client.sendTo desk segments adjust changes world = (.ok reply, after)) :
    reply.body.IsSettled := by
  unfold sendTo at replied
  rw [Act.bind_apply] at replied
  cases extended : extend client.windowUrl segments with
  | error cause =>
      rw [extended] at replied
      cases replied
  | ok url =>
      rw [extended] at replied
      dsimp only [Act.ofExcept, Act.done_apply] at replied
      cases sendable : (adjust url).withoutCredentials.isSendable with
      | false =>
          rw [Desk.send_unsendable sendable] at replied
          cases replied
      | true =>
          rw [Desk.send_sendable sendable] at replied
          exact Reply.settled_of_read (congrArg Prod.fst replied)

/-! ## Options -/

def ReferenceKey.Fits : ReferenceKey → Prop
  | .number n => -(Text.signedLimit : Int) ≤ n ∧ n < Text.signedLimit
  | .text _ => True

theorem ReferenceKey.ofTree?_eq_some_iff {value : Value} {key : ReferenceKey} :
    ofTree? value.tree = some key ↔ key.Fits ∧ value = key.value := by
  constructor
  · intro read
    refine ⟨?_, (value_of_ofTree? read).symm⟩
    obtain rfl := value_of_ofTree? read
    cases key with
    | text word => trivial
    | number n =>
        change (if _ then some (ReferenceKey.number n) else none) = _ at read
        split at read
        · next fits => exact fits
        · cases read
  · rintro ⟨fits, rfl⟩
    cases key with
    | text word => rfl
    | number n => exact if_pos fits

namespace Reference

/-- How an option may be written: its key and its caption under their names, beside whatever else,
or these two one after the other. -/
inductive Written (option : Reference) : Value → Prop
  | object {entry : Dict Value} (fits : option.key.Fits) (ofEntry : OfEntry entry option) :
      Written option (.object entry)
  | list (fits : option.key.Fits) :
      Written option (.list [option.key.value, .text option.caption])

/-- An option is read of its two fields. -/
theorem ofTree?_of_fields {t : Tree} (key caption : Option Value) {option : Reference}
    (fields : t.fields? fieldNames true = some [key.map Value.tree, caption.map Value.tree]) :
    ofTree? t = some option ↔
      option.key.Fits ∧ key = some option.key.value ∧ caption = some (.text option.caption) := by
  unfold ofTree?
  rw [fields]
  simp only [Option.pure_def, Option.bind_eq_bind, Option.bind_some, Option.bind_eq_some_iff,
    Tree.required, Option.bind_map, Function.comp_apply]
  constructor
  · rintro ⟨key, ⟨keyValue, rfl, keyRead⟩, caption, ⟨captionValue, rfl, captionRead⟩, same⟩
    cases same
    obtain ⟨fits, rfl⟩ := ReferenceKey.ofTree?_eq_some_iff.mp keyRead
    rw [Value.eq_of_text?_tree captionRead]
    exact ⟨fits, rfl, rfl⟩
  · rintro ⟨fits, rfl, rfl⟩
    exact ⟨_, ⟨_, rfl, ReferenceKey.ofTree?_eq_some_iff.mpr ⟨fits, rfl⟩⟩, _, ⟨_, rfl, rfl⟩, rfl⟩

theorem fields?_object {members : Dict Value} (ordered : members.Ordered) :
    (Value.object members).tree.fields? fieldNames true =
      some [(Dict.get? members "key").map Value.tree,
        (Dict.get? members "caption").map Value.tree] := by
  rw [Value.tree_object, Tree.fields?_memberTrees, fieldNames]
  simp only [List.mapM_cons, List.mapM_nil, Tree.only?_of_ordered ordered, Option.pure_def,
    Option.bind_eq_bind, Option.bind_some]

theorem ofTree?_eq_some_iff {value : Value} (settled : value.IsSettled) {option : Reference} :
    ofTree? value.tree = some option ↔ Written option value := by
  cases value with
  | object members =>
      rw [ofTree?_of_fields _ _ (fields?_object settled.ordered)]
      constructor
      · rintro ⟨fits, key, caption⟩
        exact .object fits ⟨key, caption⟩
      · rintro (⟨fits, key, caption⟩ | _)
        exact ⟨fits, key, caption⟩
  | list items =>
      rw [Value.tree_list]
      rcases items with _ | ⟨first, _ | ⟨second, _ | ⟨third, rest⟩⟩⟩
      · rw [ofTree?_of_fields none none rfl]
        constructor
        · rintro ⟨-, ⟨⟩, -⟩
        · rintro ⟨⟩
      · rw [ofTree?_of_fields (some first) none rfl]
        constructor
        · rintro ⟨-, -, ⟨⟩⟩
        · rintro ⟨⟩
      · rw [ofTree?_of_fields (some first) (some second) rfl]
        constructor
        · rintro ⟨fits, ⟨⟩, ⟨⟩⟩
          exact .list fits
        · rintro (_ | fits)
          exact ⟨fits, rfl, rfl⟩
      · have long : (Tree.list (List.map Value.tree (first :: second :: third :: rest))).fields?
            fieldNames true = none := by
          rw [Tree.fields?, if_neg (by simp [fieldNames])]
        unfold ofTree?
        rw [long]
        constructor <;> rintro ⟨⟩
  | null => constructor <;> rintro ⟨⟩
  | boolean _ => constructor <;> rintro ⟨⟩
  | number _ => constructor <;> rintro ⟨⟩
  | text _ => constructor <;> rintro ⟨⟩

theorem items?_eq_some_iff {items : List Value} (settled : (Value.list items).IsSettled)
    {options : List Reference} :
    Tree.items? ofTree? (Value.list items).tree = some options ↔
      List.Forall₂ Written options items := by
  rw [Value.tree_list, Tree.items?]
  constructor
  · intro read
    have each := List.forall₂_map_left_iff.mp (forall₂_of_mapM read)
    have settledEach := (List.forall₂_and_left _ _).mpr ⟨fun _ => settled.item, each⟩
    exact settledEach.flip.imp fun _ _ found => (ofTree?_eq_some_iff found.1).mp found.2
  · intro each
    have settledEach := (List.forall₂_and_left _ _).mpr ⟨fun _ => settled.item, each.flip⟩
    refine mapM_of_forall₂ (List.forall₂_map_left_iff.mpr ?_)
    exact settledEach.imp fun _ _ found => (ofTree?_eq_some_iff found.1).mpr found.2

end Reference

namespace WindowClient

/-- How options may be listed: under the name of values, beside whatever else, or alone. -/
inductive Listed (options : List Reference) : Value → Prop
  | object {members : Dict Value} {items : List Value}
      (listed : Dict.get? members "values" = some (.list items))
      (each : List.Forall₂ Reference.Written options items) : Listed options (.object members)
  | list {items : List Value} (each : List.Forall₂ Reference.Written options items) :
      Listed options (.list [.list items])

theorem exists_items_of_read {value : Value} {options : List Reference}
    (read : Tree.items? Reference.ofTree? value.tree = some options) :
    ∃ items, value = .list items := by
  cases value with
  | list items => exact ⟨items, rfl⟩
  | object members =>
      rw [Value.tree_object] at read
      cases read
  | _ => cases read

/-- The options of a dropdown are read of its one field. -/
theorem dropdownOptions?_of_field {body : Value} (values : Option Value) {options : List Reference}
    (fields : body.tree.fields? ["values"] true = some [values.map Value.tree])
    (settled : ∀ value, values = some value → value.IsSettled) :
    dropdownOptions? body = some options ↔
      ∃ items, values = some (.list items) ∧ List.Forall₂ Reference.Written options items := by
  unfold dropdownOptions?
  rw [fields]
  simp only [Option.bind_eq_bind, Option.bind_some, Tree.required, Option.bind_map,
    Option.bind_eq_some_iff, Function.comp_apply]
  constructor
  · rintro ⟨value, rfl, read⟩
    obtain ⟨items, rfl⟩ := exists_items_of_read read
    exact ⟨items, rfl, (Reference.items?_eq_some_iff (settled _ rfl)).mp read⟩
  · rintro ⟨items, rfl, each⟩
    exact ⟨_, rfl, (Reference.items?_eq_some_iff (settled _ rfl)).mpr each⟩

theorem dropdownOptions?_eq_some_iff {body : Value} (settled : body.IsSettled)
    {options : List Reference} : dropdownOptions? body = some options ↔ Listed options body := by
  cases body with
  | object members =>
      have fields : (Value.object members).tree.fields? ["values"] true =
          some [(Dict.get? members "values").map Value.tree] := by
        rw [Value.tree_object, Tree.fields?_memberTrees]
        simp only [List.mapM_cons, List.mapM_nil, Tree.only?_of_ordered settled.ordered,
          Option.pure_def, Option.bind_eq_bind, Option.bind_some]
      rw [dropdownOptions?_of_field _ fields fun _ => settled.member]
      constructor
      · rintro ⟨items, listed, each⟩
        exact .object listed each
      · rintro (⟨listed, each⟩ | _)
        exact ⟨_, listed, each⟩
  | list items =>
      rcases items with _ | ⟨first, _ | ⟨second, rest⟩⟩
      · rw [dropdownOptions?_of_field none rfl (by rintro _ ⟨⟩)]
        constructor
        · rintro ⟨_, ⟨⟩, _⟩
        · rintro ⟨⟩
      · have fields : (Value.list [first]).tree.fields? ["values"] true =
            some [(some first).map Value.tree] := by
          rw [Value.tree_list]
          rfl
        have settledFirst : ∀ value, some first = some value → value.IsSettled := by
          rintro _ ⟨⟩
          exact settled.item List.mem_cons_self
        rw [dropdownOptions?_of_field _ fields settledFirst]
        constructor
        · rintro ⟨items, ⟨⟩, each⟩
          exact .list each
        · rintro (_ | each)
          exact ⟨_, rfl, each⟩
      · have long : (Value.list (first :: second :: rest)).tree.fields? ["values"] true = none := by
          rw [Value.tree_list, Tree.fields?, if_neg (by simp)]
        unfold dropdownOptions?
        rw [long]
        constructor <;> rintro ⟨⟩
  | _ => constructor <;> rintro ⟨⟩

/-- From the reply to a dropdown those options are taken that it lists. Where it lists none, the
dropdown has failed, and the failure names the field. -/
theorem dropdown_of_reply {ω : Type} {client : WindowClient} {desk : Desk ω} {world after : ω}
    {reply : WindowReply} (record : RecordId) (tab field : String)
    (replied : client.sendTo desk [record.text, tab, record.text, "field", field, "dropdown"] id
      none world = (.ok reply, after)) :
    (∀ options, client.dropdown desk record tab field world = (.ok options, after) ↔
      Listed options reply.body) ∧
    ((∀ options, ¬ Listed options reply.body) →
      client.dropdown desk record tab field world =
        (.error (.decode (.dropdown field)), after)) := by
  have listed (options : List Reference) :
      dropdownOptions? reply.body = some options ↔ Listed options reply.body :=
    dropdownOptions?_eq_some_iff (settled_of_sendTo replied)
  rw [dropdown_of_replied replied]
  refine ⟨fun options => ?_, fun nothing => ?_⟩
  · rw [← listed]
    cases dropdownOptions? reply.body <;> simp
  · cases read : dropdownOptions? reply.body with
    | none => rfl
    | some options => exact absurd ((listed options).mp read) (nothing options)

def answering (text : String) : Desk Unit where
  exchange _ world := (.answered 200 (some text.toUTF8), world)
  call _ world := (.error .notNavigated, world)
  note _ world := world
  readOrder _ := .inTurn

def ofLocalhost : WindowClient where
  windowUrl := {
    scheme := "http"
    authority := some { host := some (.name "localhost") }
    path := .segments ["window", "123"] }

theorem sendTo_answering {text : String} {value : Value}
    (shown : text.toUTF8.data.all Response.isSpace = false)
    (parsed : Value.parse? text = some value) :
    ofLocalhost.sendTo (answering text)
        ["7", "AD_Tab-223", "7", "field", "C_PaymentTerm_ID", "dropdown"] id none () =
      (.ok (.ofBody value), ()) := by
  obtain ⟨sent, asked⟩ : ∃ sent, ofLocalhost.request
      ["7", "AD_Tab-223", "7", "field", "C_PaymentTerm_ID", "dropdown"] id none = .ok sent :=
    ⟨_, if_pos (by decide +kernel)⟩
  have success : 200 ≤ 200 ∧ 200 < 300 := by decide
  rw [Desk.sendTo_of_request asked]
  dsimp only [answering]
  rw [Reply.read_toUTF8 success shown, parsed, Option.elim_some]

def mixedText : String :=
  "\x7b\"values\": [\x7b\"key\": \"30\", \"caption\": \"Net 30\", \"active\": true\x7d, " ++
    "[31, \"Net 31\"]]\x7d"

def mixedBody : Value :=
  .object [("values", .list
    [.object [("active", .boolean true), ("caption", .text "Net 30"), ("key", .text "30")],
      .list [.ofNat 31, .text "Net 31"]])]

/-- A text is read of its tokens. -/
theorem parse?_of_tokens {text : String} {tokens : List Json.Token} {value : Value}
    (lexed : Json.tokens? text.toList = some tokens)
    (read : (Tree.ofTokens? tokens).bind (Tree.value? Json.depthLimit) = some value) :
    Value.parse? text = some value := by
  unfold Value.parse? Tree.parse?
  rw [lexed]
  exact read

theorem parse?_mixedText : Value.parse? mixedText = some mixedBody := by
  have tokens : Json.tokens? mixedText.toList = some [
      .openObject, .text (some "values"), .colon, .openList,
      .openObject, .text (some "key"), .colon, .text (some "30"), .comma,
      .text (some "caption"), .colon, .text (some "Net 30"), .comma,
      .text (some "active"), .colon, .boolean true, .closeObject, .comma,
      .openList, .number (some (.whole 31)), .comma, .text (some "Net 31"), .closeList,
      .closeList, .closeObject] := by
    decide +kernel
  exact parse?_of_tokens tokens rfl

theorem dropdown_of_mixed :
    ofLocalhost.dropdown (answering mixedText) ⟨"7"⟩ "AD_Tab-223" "C_PaymentTerm_ID" () =
      (.ok [⟨.text "30", "Net 30"⟩, ⟨.number 31, "Net 31"⟩], ()) := by
  have shown : mixedText.toUTF8.data.all Response.isSpace = false := by decide +kernel
  have replied := sendTo_answering shown parse?_mixedText
  refine ((dropdown_of_reply ⟨"7"⟩ "AD_Tab-223" "C_PaymentTerm_ID" replied).1 _).mpr ?_
  refine .object rfl (.cons (.object trivial ⟨rfl, rfl⟩) (.cons (.list ?_) .nil))
  exact ⟨by decide, by decide⟩

def nestedText : String := "[[[7, \"Net 30\"]]]"

theorem parse?_nestedText :
    Value.parse? nestedText = some (.list [.list [.list [.ofNat 7, .text "Net 30"]]]) := by
  have tokens : Json.tokens? nestedText.toList = some [.openList, .openList, .openList,
      .number (some (.whole 7)), .comma, .text (some "Net 30"), .closeList, .closeList,
      .closeList] := by
    decide +kernel
  exact parse?_of_tokens tokens rfl

/-- A body without an object passes for a dropdown. -/
theorem lists_pass_for_dropdown :
    (∃ reply, ofLocalhost.sendTo (answering nestedText)
        ["7", "AD_Tab-223", "7", "field", "C_PaymentTerm_ID", "dropdown"] id none () =
          (.ok reply, ()) ∧ ∀ members, reply.body ≠ .object members) ∧
    ofLocalhost.dropdown (answering nestedText) ⟨"7"⟩ "AD_Tab-223" "C_PaymentTerm_ID" () =
      (.ok [⟨.number 7, "Net 30"⟩], ()) := by
  have shown : nestedText.toUTF8.data.all Response.isSpace = false := by decide +kernel
  have replied := sendTo_answering shown parse?_nestedText
  refine ⟨⟨_, replied, by rintro _ ⟨⟩⟩, ?_⟩
  rw [dropdown_of_replied replied]
  rfl

end WindowClient

end PartnerRecords