import PartnerRecords.Proofs.Json.Source
import PartnerRecords.Proofs.Rest.Dropdown

/-!
# Identifiers

A reply names its document by a text or by a number. What is read of the digits of a number is the
number itself as long as it fits 64 bits, and the identifier is then a text of the same digits. From
there on it is the text of a real number, which stands for other numbers as well, or there is none.
-/

namespace PartnerRecords

open Json

/-! ## Usable replies -/

/-- A success, and what is read of it: nothing of a blank body, and else the value that its text
spells. -/
inductive Reply.Shows : Reply → WindowReply → Prop
  | blank {status : Nat} {bytes : ByteArray} (success : 200 ≤ status ∧ status < 300)
      (blank : bytes.data.all Response.isSpace = true) :
      Shows (.answered status (some bytes)) {}
  | value {status : Nat} {text : String} {body : Value} (success : 200 ≤ status ∧ status < 300)
      (shown : text.toUTF8.data.all Response.isSpace = false)
      (parsed : Value.parse? text = some body) :
      Shows (.answered status (some text.toUTF8)) (.ofBody body)

theorem Response.exists_text_of_readBody {bytes : ByteArray} {found : WindowReply}
    (shown : bytes.data.all isSpace = false) (read : readBody bytes = .ok found) :
    ∃ text body, bytes = text.toUTF8 ∧ Value.parse? text = some body ∧ found = .ofBody body := by
  rw [readBody, shown, if_neg Bool.false_ne_true] at read
  cases parsed : (String.fromUTF8? bytes).bind Value.parse? with
  | none =>
      rw [parsed] at read
      cases read
  | some body =>
      rw [parsed] at read
      cases read
      obtain ⟨text, decoded, parsed⟩ := Option.bind_eq_some_iff.mp parsed
      exact ⟨text, body, (Environment.toUTF8_of_fromUTF8? decoded).symm, parsed, rfl⟩

theorem Reply.read_eq_ok_iff (url : Url) {reply : Reply} {found : WindowReply} :
    reply.read url = .ok found ↔ reply.Shows found := by
  constructor
  · intro read
    cases reply with
    | unsent => cases read
    | dropped => cases read
    | answered status bytes? =>
        change (if status < 200 ∨ 300 ≤ status then _ else _) = _ at read
        split at read
        · cases read
        · next inside =>
            have success : 200 ≤ status ∧ status < 300 := by omega
            cases bytes? with
            | none => cases read
            | some bytes =>
                cases blank : bytes.data.all Response.isSpace with
                | true =>
                    cases (if_pos blank).symm.trans read
                    exact .blank success blank
                | false =>
                    obtain ⟨text, body, rfl, parsed, rfl⟩ :=
                      Response.exists_text_of_readBody blank read
                    exact .value success blank parsed
  · intro shows
    cases shows with
    | @blank status bytes success blank =>
        have inside : ¬ (status < 200 ∨ 300 ≤ status) := by omega
        exact (if_neg inside).trans (if_pos blank)
    | value success shown parsed =>
        rw [read_toUTF8 success shown, parsed]
        rfl

inductive Heads (document : Value) : Value → Prop
  | alone : Heads document document
  | list (rest : List Value) : Heads document (.list (document :: rest))

/-- The document of a body, or the first of its documents, has an identifier. -/
inductive WindowReply.Identifies (r : WindowReply) : RecordId → Prop
  | text {document : Value} {id : String} (first : Heads document r.body)
      (member : document.member? "id" = some (.text id)) (nonempty : id ≠ "") : Identifies r ⟨id⟩
  | number {document : Value} {id : Number} (first : Heads document r.body)
      (member : document.member? "id" = some (.number id)) : Identifies r ⟨id.text⟩

theorem firstDocument?_bind_eq_some_iff {body id : Value} :
    (WindowReply.firstDocument? body).bind (·.member? "id") = some id ↔
      ∃ document, Heads document body ∧ document.member? "id" = some id := by
  constructor
  · intro found
    obtain ⟨document, first, member⟩ := Option.bind_eq_some_iff.mp found
    refine ⟨document, ?_, member⟩
    cases body with
    | list documents =>
        obtain ⟨rest, rfl⟩ := List.head?_eq_some_iff.mp first
        exact .list rest
    | object members =>
        cases first
        exact .alone
    | _ => cases first
  · rintro ⟨document, first, member⟩
    cases first with
    | list rest => exact member
    | alone =>
        cases body with
        | object members => exact member
        | _ => cases member

theorem WindowReply.documentId_eq_ok_iff {r : WindowReply} {record : RecordId} :
    r.documentId = .ok record ↔ r.Identifies record := by
  unfold documentId
  constructor
  · intro read
    split at read
    · next id found =>
        obtain ⟨document, first, member⟩ := firstDocument?_bind_eq_some_iff.mp found
        split at read
        · cases read
        · next nonempty =>
            cases read
            exact .text first member nonempty
    · next id found =>
        obtain ⟨document, first, member⟩ := firstDocument?_bind_eq_some_iff.mp found
        cases read
        exact .number first member
    · cases read
  · intro identifies
    cases identifies with
    | text first member nonempty =>
        rw [firstDocument?_bind_eq_some_iff.mpr ⟨_, first, member⟩]
        exact if_neg nonempty
    | number first member => rw [firstDocument?_bind_eq_some_iff.mpr ⟨_, first, member⟩]

/-! ## Members that can be read -/

namespace Json.Tree

def member? (depth : Nat) (member : Option String × Tree) : Option (String × Value) := do
  let name ← member.1
  let value ← member.2.value? depth
  return (name, value)

def IsReadable (depth : Nat) (member : Option String × Tree) : Prop :=
  ∃ entry, member? depth member = some entry

theorem value?_object (depth : Nat) (members : List (Option String × Tree)) :
    (object members).value? (depth + 1) =
      (members.mapM (member? depth)).map Value.ofMembers := by
  rw [value?]
  rfl

theorem value?_list (depth : Nat) (items : List Tree) :
    (list items).value? (depth + 1) = (items.mapM (value? depth)).map .list := by
  rw [value?]

theorem member?_number (depth : Nat) (name : String) (number : Option Number) :
    member? depth (some name, .number number) = number.map fun x => (name, .number x) := by
  cases depth <;> cases number <;> rfl

theorem name_of_member? {depth : Nat} {member : Option String × Tree} {entry : String × Value}
    (read : member? depth member = some entry) : member.1 = some entry.1 := by
  obtain ⟨name, named, read⟩ := Option.bind_eq_some_iff.mp read
  obtain ⟨value, -, same⟩ := Option.bind_eq_some_iff.mp read
  cases same
  exact named

theorem IsReadable.exists_mapM {depth : Nat} {members : List (Option String × Tree)}
    (readable : ∀ member ∈ members, IsReadable depth member) :
    ∃ entries, members.mapM (member? depth) = some entries := by
  obtain ⟨entries, each⟩ := exists_forall₂ readable
  exact ⟨entries, mapM_of_forall₂ each⟩

/-- An object whose last member of a name is a number is read if the number is, and has it under
that name. -/
theorem exists_object {depth : Nat} {front back : List (Option String × Tree)} {name : String}
    (number : Option Number) (earlier : ∀ member ∈ front, IsReadable depth member)
    (later : ∀ member ∈ back, IsReadable depth member)
    (last : ∀ member ∈ back, member.1 ≠ some name) :
    ∃ members : Number → Dict Value,
      (object (front ++ (some name, .number number) :: back)).value? (depth + 1) =
        number.map (fun x => .object (members x)) ∧
      ∀ x, (members x).get? name = some (.number x) := by
  obtain ⟨before, readBefore⟩ := IsReadable.exists_mapM earlier
  obtain ⟨behind, readBehind⟩ := IsReadable.exists_mapM later
  refine ⟨fun x => Dict.ofList (before ++ (name, .number x) :: behind), ?_, fun x => ?_⟩
  · rw [value?_object, List.mapM_append, List.mapM_cons, readBefore, readBehind, member?_number]
    cases number <;> rfl
  · refine Dict.get?_ofList_append before name _ fun entry member same => ?_
    obtain ⟨item, there, read⟩ := exists_read_of_mem readBehind member
    exact last item there (by rw [name_of_member? read, same])

end Json.Tree

/-! ## Texts of documents -/

/-- The text of a document with a number, in decimal digits, as its identifier: an object, with
blanks wherever they may be, whose last member of this name is the number. Whatever else is in it
can be read and nests at most so deep. -/
inductive WritesDocument (depth n : Nat) : List Char → Prop
  | document {before behind : List (List Char)} {front back : List (Option String × Tree)}
      {name digits cs : List Char}
      (earlier : List.Forall₂ WritesMember before front)
      (later : List.Forall₂ WritesMember behind back)
      (earlierRead : ∀ member ∈ front, Tree.IsReadable depth member)
      (laterRead : ∀ member ∈ back, Tree.IsReadable depth member)
      (last : ∀ member ∈ back, member.1 ≠ some "id")
      (named : tokens? name = some [.text (some "id")])
      (number : IsSpaced (Nat.toDigits 10 n) digits)
      (spaced : IsSpaced ('\x7b' ::
        ([','].intercalate (before ++ (name ++ ':' :: digits) :: behind) ++ ['\x7d'])) cs) :
      WritesDocument depth n cs

inductive WritesReply (n : Nat) : List Char → Prop
  | document {cs : List Char} (document : WritesDocument (depthLimit - 1) n cs) : WritesReply n cs
  | list {first cs : List Char} {rest : List (List Char)} {trees : List Tree}
      (document : WritesDocument (depthLimit - 2) n first)
      (others : List.Forall₂ (fun text t => Tree.parse? (String.ofList text) = some t) rest trees)
      (othersRead : ∀ t ∈ trees, ∃ value, t.value? (depthLimit - 1) = some value)
      (spaced : IsSpaced ('[' :: ([','].intercalate (first :: rest) ++ [']'])) cs) :
      WritesReply n cs

theorem WritesDocument.exists_value {depth n : Nat} {cs : List Char}
    (document : WritesDocument depth n cs) : ∃ t, ∃ members : Number → Dict Value, Writes cs t ∧
      t.value? (depth + 1) = (Literal.decimal n).number?.map (fun x => .object (members x)) ∧
      ∀ x, (members x).get? "id" = some (.number x) := by
  cases document with
  | document earlier later earlierRead laterRead last named number spaced =>
      have member : WritesMember _ (some "id", .number (Literal.decimal n).number?) :=
        .member named (writes_iff.mp ((writes_toDigits n).spaced number))
      obtain ⟨members, read, found⟩ :=
        Tree.exists_object (Literal.decimal n).number? earlierRead laterRead last
      have each := List.rel_append earlier (.cons member later)
      exact ⟨_, members, (writes_object each).spaced spaced, read, found⟩

/-- A reply is read as far as its number is, and has its text as the identifier. -/
theorem WritesReply.exists_body {n : Nat} {cs : List Char} (reply : WritesReply n cs) :
    ∃ body : Number → Value,
      Value.parse? (String.ofList cs) = (Literal.decimal n).number?.map body ∧
      ∀ x, (WindowReply.ofBody (body x)).documentId = .ok ⟨x.text⟩ := by
  cases reply with
  | document document =>
      obtain ⟨t, members, writes, read, found⟩ := document.exists_value
      refine ⟨fun x => .object (members x), ?_, fun x => ?_⟩
      · rw [Value.parse?, writes_iff.mp writes]
        exact read
      · exact WindowReply.documentId_eq_ok_iff.mpr (.number .alone (found x))
  | @list first cs rest trees document others othersRead spaced =>
      obtain ⟨t, members, writes, read, found⟩ := document.exists_value
      obtain ⟨values, each⟩ := exists_forall₂ othersRead
      refine ⟨fun x => .list (.object (members x) :: values), ?_, fun x => ?_⟩
      · have written : Writes cs (.list (t :: trees)) :=
          (writes_list (.cons writes (others.imp fun _ _ => writes_iff.mpr))).spaced spaced
        have first : t.value? (depthLimit - 1) = _ := read
        have items := Tree.value?_list (depthLimit - 1) (t :: trees)
        rw [List.mapM_cons, first, mapM_of_forall₂ each] at items
        rw [Value.parse?, writes_iff.mp written]
        refine items.trans ?_
        cases (Literal.decimal n).number? <;> rfl
      · exact WindowReply.documentId_eq_ok_iff.mpr (.number (.list values) (found x))

/-! ## Replies -/

/-- The identifier of a document that is numbered in decimal digits, if they are read. -/
def RecordId.ofDigits? (n : Nat) : Option RecordId :=
  (Literal.decimal n).number?.map fun x => ⟨x.text⟩

/-- The identifier has the digits of the number exactly if the number fits 64 bits. -/
theorem RecordId.ofDigits?_eq_toString_iff (n : Nat) :
    ofDigits? n = some ⟨toString n⟩ ↔ n < Text.wordLimit := by
  unfold ofDigits?
  cases read : (Literal.decimal n).number? with
  | none =>
      rw [Literal.number?_decimal] at read
      split at read
      · cases read
      · next large => exact iff_of_false (by rintro ⟨⟩) large
  | some number =>
      rw [← Literal.text_eq_toString_iff read]
      simp only [Option.map_some, Option.some.injEq, RecordId.mk.injEq]

theorem Response.shown_of_mem {cs : List Char} {c : Char} (member : c ∈ cs)
    (shown : (String.utf8EncodeChar c).all isSpace = false) :
    (String.ofList cs).toUTF8.data.all isSpace = false := by
  change (String.ofList cs).toByteArray.data.all isSpace = false
  rw [String.toByteArray_ofList, List.utf8Encode, List.data_toByteArray, List.all_toArray,
    List.all_eq_false]
  rw [List.all_eq_false] at shown
  obtain ⟨byte, inside, visible⟩ := shown
  exact ⟨byte, List.mem_flatMap.mpr ⟨c, member, inside⟩, visible⟩

theorem WritesReply.shown {n : Nat} {cs : List Char} (reply : WritesReply n cs) :
    (String.ofList cs).toUTF8.data.all Response.isSpace = false := by
  have opened : ∀ {c : Char} {rest cs : List Char}, IsSpaced (c :: rest) cs → c ∈ cs := by
    rintro c rest cs ⟨before, behind, -, -, rfl⟩
    exact List.mem_append_left _ (List.mem_append_right _ List.mem_cons_self)
  cases reply with
  | document document =>
      cases document with
      | document _ _ _ _ _ _ _ spaced => exact Response.shown_of_mem (opened spaced) (by decide)
  | list _ _ _ spaced => exact Response.shown_of_mem (opened spaced) (by decide)

/-- What is read of a reply that succeeds and numbers its document. -/
theorem WritesReply.documentId_eq {n status : Nat} {cs : List Char} (reply : WritesReply n cs)
    (success : 200 ≤ status ∧ status < 300) (url : Url) :
    ((Reply.answered status (some (String.ofList cs).toUTF8)).read url).bind
        WindowReply.documentId =
      (RecordId.ofDigits? n).elim (.error (.decode .notJson)) .ok := by
  obtain ⟨body, parsed, identified⟩ := reply.exists_body
  rw [Reply.read_toUTF8 success reply.shown, parsed, RecordId.ofDigits?]
  cases (Literal.decimal n).number? with
  | none => rfl
  | some x => exact identified x

/-- A document that is created has the identifier that is read of its number. -/
theorem WindowClient.createRecord_eq {ω : Type} {client : WindowClient} {desk : Desk ω} {world : ω}
    {request : Request} {n status : Nat} {cs : List Char} (reply : WritesReply n cs)
    (success : 200 ≤ status ∧ status < 300)
    (asked : client.request ["NEW"] id (some []) = .ok request)
    (answered : (desk.exchange request (desk.note (.requested request) world)).1 =
      .answered status (some (String.ofList cs).toUTF8)) :
    (client.createRecord desk world).1 =
      (RecordId.ofDigits? n).elim (.error (.decode .notJson)) .ok := by
  rw [← reply.documentId_eq success request.url.withoutCredentials, ← answered, createRecord,
    Act.bind_apply, Desk.sendTo_of_request asked]
  generalize (desk.exchange request (desk.note (.requested request) world)).1.read
    request.url.withoutCredentials = found
  cases found with
  | error cause => rfl
  | ok found => exact congrArg Prod.fst (Act.ofExcept_apply found.documentId _)

end PartnerRecords
