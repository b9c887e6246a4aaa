import PartnerRecords.Proofs.Rest.Deed
import PartnerRecords.Rest.Client

/-!
# Dialogues

A dialogue is what passes between a desk and the server, exchange by exchange, while the screen
is left alone. An act that holds one takes a course: which exchanges may come about, and
with which outcome. Courses follow each other as acts do.
-/

namespace PartnerRecords

open Act

variable {ω α β : Type}

/-- Work at a recorded desk that reports requests, sends them, and does nothing else. -/
inductive Desk.Dialogue (desk : Desk ω) (start : List Deed × ω) :
    Exchanges → List Deed × ω → Prop
  | silence : Dialogue desk start [] start
  | reported {trace : Exchanges} {log : List Deed} {world : ω} (request : Request) :
      Dialogue desk start trace (log, world) →
      Dialogue desk start trace
        (log ++ [.noted (.requested request)], desk.note (.requested request) world)
  | replied {trace : Exchanges} {log : List Deed} {world : ω} (request : Request) :
      Dialogue desk start trace (log, world) →
      Dialogue desk start (trace ++ [(request, (desk.exchange request world).1)])
        (log ++ [.sent request (desk.exchange request world).1],
          (desk.exchange request world).2)

namespace Desk.Dialogue

variable {desk : Desk ω} {start middle after : List Deed × ω} {trace later : Exchanges}

theorem trans (first : desk.Dialogue start trace middle)
    (second : desk.Dialogue middle later after) : desk.Dialogue start (trace ++ later) after := by
  induction second with
  | silence =>
      rw [List.append_nil]
      exact first
  | reported request _ ih => exact .reported request ih
  | replied request _ ih =>
      rw [← List.append_assoc]
      exact .replied request ih

/-- The deeds of a dialogue are its exchanges, and no call is among them. -/
theorem deeds (dialogue : desk.Dialogue start trace after) :
    ∃ deeds, after.1 = start.1 ++ deeds ∧ Deed.calls deeds = [] ∧
      Deed.exchanges deeds = trace := by
  induction dialogue with
  | silence => exact ⟨[], (List.append_nil _).symm, rfl, rfl⟩
  | reported request _ ih =>
      obtain ⟨deeds, rfl, calls, exchanges⟩ := ih
      refine ⟨deeds ++ [.noted (.requested request)], List.append_assoc .., ?_, ?_⟩
      · simp [calls]
      · simp [exchanges]
  | replied request _ ih =>
      obtain ⟨deeds, rfl, calls, exchanges⟩ := ih
      refine ⟨deeds ++ [.sent request _], List.append_assoc .., ?_, ?_⟩
      · simp [calls]
      · simp [exchanges]

end Desk.Dialogue

/-! ## Courses -/

/-- Which exchanges may come about, with which outcome. -/
abbrev Course (α : Type) :=
  Exchanges → Except Failure α → Prop

namespace Course

inductive Silent (outcome : Except Failure α) : Course α
  | silent : Silent outcome [] outcome

inductive Then (first : Course α) (next : α → Course β) : Course β
  | broken {trace : Exchanges} {cause : Failure} : first trace (.error cause) →
      Then first next trace (.error cause)
  | followed {trace later : Exchanges} {value : α} {outcome : Except Failure β} :
      first trace (.ok value) → next value later outcome →
      Then first next (trace ++ later) outcome

inductive Reading (course : Course α) (read : α → Except Failure β) : Course β
  | broken {trace : Exchanges} {cause : Failure} : course trace (.error cause) →
      Reading course read trace (.error cause)
  | read {trace : Exchanges} {value : α} : course trace (.ok value) →
      Reading course read trace (read value)

inductive Attempted (course : Course α) : Course (Except Failure α)
  | kept {trace : Exchanges} {outcome : Except Failure α} :
      course trace outcome → Attempted course trace (.ok outcome)

/-- A request is sent and its reply read, unless there is none that could be sent. -/
inductive Asks (request : Except Failure Request) : Course WindowReply
  | unsent {cause : Failure} : request = .error cause → Asks request [] (.error cause)
  | replied {sent : Request} (reply : Reply) : request = .ok sent →
      Asks request [(sent, reply)] (reply.read sent.url.withoutCredentials)

theorem reading_bind {course : Course α} {trace : Exchanges} {outcome : Except Failure α}
    (goes : course trace outcome) (read : α → Except Failure β) :
    Reading course read trace (outcome >>= read) := by
  cases outcome with
  | error cause => exact .broken goes
  | ok value => exact .read goes

end Course

namespace Desk

/-- An act at a recorded desk holds a dialogue and takes a course. -/
def Takes (desk : Desk ω) (act : Act (List Deed × ω) Failure α) (course : Course α) : Prop :=
  ∀ state, act.Ends state
    (fun value after => ∃ trace, desk.Dialogue state trace after ∧ course trace (.ok value))
    fun cause after => ∃ trace, desk.Dialogue state trace after ∧ course trace (.error cause)

variable {desk : Desk ω} {act : Act (List Deed × ω) Failure α}
variable {next : α → Act (List Deed × ω) Failure β}
variable {course : Course α} {later : α → Course β}

theorem takes_iff : desk.Takes act course ↔ ∀ state, ∃ trace,
    desk.Dialogue state trace (act state).2 ∧ course trace (act state).1 := by
  refine forall_congr' fun state => ?_
  unfold Ends
  rcases act state with ⟨_ | _, _⟩ <;> exact Iff.rfl

theorem Takes.mono {other : Course α} (takes : desk.Takes act course)
    (weaken : ∀ trace outcome, course trace outcome → other trace outcome) :
    desk.Takes act other := by
  intro state
  refine (takes state).mono ?_ ?_
  · rintro value after ⟨trace, dialogue, goes⟩
    exact ⟨trace, dialogue, weaken _ _ goes⟩
  · rintro cause after ⟨trace, dialogue, goes⟩
    exact ⟨trace, dialogue, weaken _ _ goes⟩

theorem takes_ofExcept (outcome : Except Failure α) :
    desk.Takes (ofExcept outcome) (Course.Silent outcome) := by
  intro state
  cases outcome with
  | ok value => exact ⟨[], .silence, .silent⟩
  | error cause => exact ⟨[], .silence, .silent⟩

theorem Takes.bind (first : desk.Takes act course)
    (second : ∀ value, desk.Takes (next value) (later value)) :
    desk.Takes (act >>= next) (course.Then later) := by
  intro state
  rw [ends_bind]
  refine (first state).mono ?_ ?_
  · rintro value middle ⟨trace, dialogue, goes⟩
    refine (second value middle).mono ?_ ?_
    · rintro last after ⟨rest, more, ends⟩
      exact ⟨trace ++ rest, dialogue.trans more, .followed goes ends⟩
    · rintro cause after ⟨rest, more, ends⟩
      exact ⟨trace ++ rest, dialogue.trans more, .followed goes ends⟩
  · rintro cause after ⟨trace, dialogue, goes⟩
    exact ⟨trace, dialogue, .broken goes⟩

theorem Takes.attempt (takes : desk.Takes act course) :
    desk.Takes act.attempt course.Attempted := by
  rw [takes_iff] at takes ⊢
  intro state
  obtain ⟨trace, dialogue, goes⟩ := takes state
  exact ⟨trace, dialogue, .kept goes⟩

/-- Reading a reply takes no exchange. -/
theorem Takes.reading (first : desk.Takes act course) (read : α → Except Failure β) :
    desk.Takes (act >>= fun value => ofExcept (read value)) (course.Reading read) := by
  refine (first.bind fun value => takes_ofExcept (read value)).mono fun trace outcome goes => ?_
  cases goes with
  | broken failed => exact .broken failed
  | followed goes nothing =>
      cases nothing
      rw [List.append_nil]
      exact .read goes

end Desk

/-- A request goes to the URL that is made of the address of the window, if that can be sent to. -/
theorem WindowClient.exists_url_of_request {client : WindowClient} {segments : List String}
    {adjust : Url → Url} {changes : Option (List Change)} {request : Request}
    (asked : client.request segments adjust changes = .ok request) :
    ∃ url, extend client.windowUrl segments = .ok url ∧
      (adjust url).withoutCredentials.isSendable = true ∧
      request = { url := adjust url, changes } := by
  unfold WindowClient.request at asked
  cases extended : extend client.windowUrl segments with
  | error cause =>
      rw [extended] at asked
      cases asked
  | ok url =>
      rw [extended] at asked
      change (if _ then _ else _) = _ at asked
      split at asked
      · next sendable =>
          cases asked
          exact ⟨url, rfl, sendable, rfl⟩
      · cases asked

def Failure.isUnformed : Failure → Bool
  | .http (.cannotBeBase _) => true
  | .http (.unsendable _) => true
  | _ => false

theorem Failure.isImmediate_of_isUnformed {failure : Failure}
    (unformed : failure.isUnformed = true) : failure.isImmediate = true := by
  unfold isUnformed at unformed
  split at unformed
  · rfl
  · rfl
  · cases unformed

theorem Failure.isUnformed_eq_false {failure : Failure} (later : failure.isImmediate = false) :
    failure.isUnformed = false := by
  rw [Bool.eq_false_iff] at later ⊢
  exact fun unformed => later (isImmediate_of_isUnformed unformed)

theorem WindowClient.isUnformed_of_request {client : WindowClient} {segments : List String}
    {adjust : Url → Url} {changes : Option (List Change)} {cause : Failure}
    (unsent : client.request segments adjust changes = .error cause) :
    cause.isUnformed = true := by
  unfold request extend at unsent
  cases extended : client.windowUrl.extend? segments with
  | none =>
      rw [extended] at unsent
      cases unsent
      rfl
  | some url =>
      rw [extended] at unsent
      change (if _ then _ else _) = _ at unsent
      split at unsent
      · cases unsent
      · cases unsent
        rfl

/-- A request that cannot be sent fails before there is anything to wait for. -/
theorem WindowClient.isImmediate_of_request {client : WindowClient} {segments : List String}
    {adjust : Url → Url} {changes : Option (List Change)} {cause : Failure}
    (unsent : client.request segments adjust changes = .error cause) :
    cause.isImmediate = true :=
  Failure.isImmediate_of_isUnformed (isUnformed_of_request unsent)

namespace Desk

variable {desk : Desk ω}

theorem announce_apply (request : Request) (world : ω) :
    desk.announce request world =
      (if request.url.withoutCredentials.isSendable then .ok ()
        else .error (.http (.unsendable request.url.withoutCredentials)),
        desk.note (.requested request) world) := by
  unfold announce
  rw [bind_apply]
  dsimp only [report, update_apply]
  split <;> rfl

theorem send_unsendable {request : Request} {world : ω}
    (unsendable : request.url.withoutCredentials.isSendable = false) :
    desk.send request world = (.error (.http (.unsendable request.url.withoutCredentials)),
      desk.note (.requested request) world) := by
  rw [send, bind_apply, announce_apply, unsendable]
  rfl

theorem send_sendable {request : Request} {world : ω}
    (sendable : request.url.withoutCredentials.isSendable = true) :
    desk.send request world =
      ((desk.exchange request (desk.note (.requested request) world)).1.read
          request.url.withoutCredentials,
        (desk.exchange request (desk.note (.requested request) world)).2) := by
  rw [send, bind_apply, announce_apply, sendable]
  rfl

/-- Nothing is sent by announcing a request. -/
theorem takes_announce (request : Request) :
    desk.Takes (desk.recorded.announce request) (Course.Silent
      (if request.url.withoutCredentials.isSendable then .ok ()
        else .error (.http (.unsendable request.url.withoutCredentials)))) := by
  rw [takes_iff]
  intro (log, world)
  rw [announce_apply]
  exact ⟨[], .reported request .silence, .silent⟩

theorem takes_deliver (request : Request) :
    desk.Takes (desk.recorded.deliver request) (Course.Asks (.ok request)) := by
  rw [takes_iff]
  intro (log, world)
  exact ⟨_, .replied request .silence, .replied _ rfl⟩

theorem takes_send (request : Request) :
    desk.Takes (desk.recorded.send request) (Course.Asks
      (if request.url.withoutCredentials.isSendable then .ok request
        else .error (.http (.unsendable request.url.withoutCredentials)))) := by
  refine ((takes_announce request).bind fun _ => takes_deliver request).mono ?_
  intro trace outcome goes
  cases sendable : request.url.withoutCredentials.isSendable with
  | false =>
      rw [sendable] at goes
      cases goes with
      | broken nothing =>
          cases nothing
          exact .unsent rfl
      | followed nothing _ => cases nothing
  | true =>
      rw [sendable] at goes
      cases goes with
      | broken nothing => cases nothing
      | followed nothing asks =>
          cases nothing
          exact asks

/-- What a request under the address of the window brings, once it is one. -/
theorem sendTo_of_request {client : WindowClient} {segments : List String}
    {adjust : Url → Url} {changes : Option (List Change)} {request : Request}
    (asked : client.request segments adjust changes = .ok request) (desk : Desk ω) (world : ω) :
    client.sendTo desk segments adjust changes world =
      ((desk.exchange request (desk.note (.requested request) world)).1.read
          request.url.withoutCredentials,
        (desk.exchange request (desk.note (.requested request) world)).2) := by
  obtain ⟨url, extended, sendable, rfl⟩ := WindowClient.exists_url_of_request asked
  unfold WindowClient.sendTo
  rw [extended]
  exact send_sendable sendable

/-- A request under the address of the window is sent once, if it can be. -/
theorem takes_sendTo (desk : Desk ω) (client : WindowClient) (segments : List String)
    (adjust : Url → Url) (changes : Option (List Change)) :
    desk.Takes (client.sendTo desk.recorded segments adjust changes)
      (Course.Asks (client.request segments adjust changes)) := by
  unfold WindowClient.sendTo WindowClient.request
  cases WindowClient.extend client.windowUrl segments with
  | error cause =>
      intro state
      exact ⟨[], .silence, .unsent rfl⟩
  | ok url => exact takes_send { url := adjust url, changes }

end Desk

/-! ## Failures of the server's part -/

def Failure.isOfServer : Failure → Bool
  | .http _ => true
  | .status _ _ => true
  | .decode _ => true
  | .missingField _ => true
  | .notFound _ => true
  | _ => false

def Failure.isOfExchange : Failure → Bool
  | .http _ => true
  | .status _ _ => true
  | .decode _ => true
  | _ => false

theorem Failure.isOfServer_of_isOfExchange {failure : Failure}
    (ofExchange : failure.isOfExchange = true) : failure.isOfServer = true := by
  cases failure <;> first | rfl | cases ofExchange

theorem Failure.isOfExchange_of_isImmediate {failure : Failure}
    (immediate : failure.isImmediate = true) : failure.isOfExchange = true := by
  cases failure <;> first | rfl | cases immediate

/-- What is wrong with a response: its status, its end, or its body. -/
theorem Response.cause_of_read {response : Response} {cause : Failure}
    (failed : response.read = .error cause) :
    cause = .status response.status response.url ∨ cause = .http (.brokenOff response.url) ∨
      cause = .decode .notJson := by
  unfold Response.read at failed
  split at failed
  · cases failed
    exact .inl rfl
  · cases body : response.body with
    | none =>
        rw [body] at failed
        cases failed
        exact .inr (.inl rfl)
    | some bytes =>
        rw [body] at failed
        change readBody bytes = _ at failed
        unfold readBody at failed
        split at failed
        · cases failed
        · split at failed
          · cases failed
          · cases failed
            exact .inr (.inr rfl)

/-- A reply is one to a request that was sent. -/
theorem Reply.isOfExchange_of_read {url : Url} {reply : Reply} {cause : Failure}
    (failed : reply.read url = .error cause) :
    cause.isOfExchange = true ∧ cause.isUnformed = false := by
  cases reply with
  | unsent =>
      cases failed
      exact ⟨rfl, rfl⟩
  | dropped =>
      cases failed
      exact ⟨rfl, rfl⟩
  | answered status body =>
      rcases Response.cause_of_read failed with rfl | rfl | rfl
      · exact ⟨rfl, rfl⟩
      · exact ⟨rfl, rfl⟩
      · exact ⟨rfl, rfl⟩

theorem WindowReply.isOfServer_of_documentId {reply : WindowReply} {cause : Failure}
    (failed : reply.documentId = .error cause) : cause.isOfServer = true := by
  unfold documentId at failed
  split at failed
  · split at failed
    · cases failed
      rfl
    · cases failed
  · cases failed
  · cases failed
    rfl

/-- A request under the address of a window fails of its exchange alone. -/
theorem Course.isOfExchange_of_asks {client : WindowClient} {segments : List String}
    {adjust : Url → Url} {changes : Option (List Change)} {trace : Exchanges} {cause : Failure}
    (asks : Course.Asks (client.request segments adjust changes) trace (.error cause)) :
    cause.isOfExchange = true := by
  generalize ended : (Except.error cause : Except Failure WindowReply) = outcome at asks
  cases asks with
  | unsent failed =>
      cases ended
      exact Failure.isOfExchange_of_isImmediate (WindowClient.isImmediate_of_request failed)
  | replied reply _ => exact (Reply.isOfExchange_of_read ended.symm).1

theorem Course.isOfServer_of_asks {client : WindowClient} {segments : List String}
    {adjust : Url → Url} {changes : Option (List Change)} {trace : Exchanges} {cause : Failure}
    (asks : Course.Asks (client.request segments adjust changes) trace (.error cause)) :
    cause.isOfServer = true :=
  Failure.isOfServer_of_isOfExchange (isOfExchange_of_asks asks)

end PartnerRecords
