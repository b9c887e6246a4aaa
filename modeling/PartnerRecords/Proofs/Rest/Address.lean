import PartnerRecords.Proofs.Url.Segment
import PartnerRecords.Rest.Client

/-!
# Addresses under a window

Documents, tabs and dropdowns of a window have addresses that go on after the address of the
window, one segment for each text, exactly as long as all these texts can be segments. Others
lead astray: a document that is named by a dot has the address of the window itself.
-/

namespace PartnerRecords

/-- The path goes on after another one, one segment for each text that it stands for. -/
def UrlPath.LeadsOn (base : UrlPath) (texts : List String) (path : UrlPath) : Prop :=
  ∃ front segments, base = .segments front ∧ path = .segments segments ∧
    Url.Continues front texts segments

namespace Url

def below (base : Url) (texts : List String) : Url :=
  (base.extend? texts).getD base

theorem extend?_of_segments {u : Url} {list : List String} (path : u.path = .segments list)
    (texts : List String) : u.extend? texts = some (u.below texts) ∧
      u.below texts = { u with path := (u.below texts).path } := by
  unfold below extend?
  rw [path]
  exact ⟨rfl, rfl⟩

structure EndsNamed (u : Url) (front : List String) : Prop where
  path : u.path = .segments front
  named : ∃ before last, front = before ++ [last] ∧ last ≠ ""

namespace EndsNamed

variable {u : Url} {front : List String} (ends : EndsNamed u front)

include ends

theorem ne_nil : front ≠ [] := by
  obtain ⟨before, last, rfl, -⟩ := ends.named
  exact List.append_ne_nil_of_right_ne_nil _ (List.cons_ne_nil _ _)

theorem getLast?_ne : front.getLast? ≠ some "" := by
  obtain ⟨before, last, rfl, named⟩ := ends.named
  rw [List.getLast?_append, List.getLast?_singleton]
  exact fun empty => named (Option.some.inj empty)

theorem ne_empty : front ≠ [""] := by
  rintro rfl
  exact ends.getLast?_ne rfl

theorem extend?_eq (texts : List String) :
    u.extend? texts = some (u.below texts) ∧
      u.below texts =
        { u with path := .segments (texts.foldl (pushSegment u.scheme) front) } := by
  have kept : dropEmptyLast front = front := if_neg fun empty => ends.getLast?_ne empty.2
  unfold below extend?
  rw [ends.path]
  simp only [kept, Option.getD_some, and_self]

theorem path_below (texts : List String) :
    (u.below texts).path = .segments (texts.foldl (pushSegment u.scheme) front) := by
  rw [(ends.extend?_eq texts).2]

variable (web : IsWeb u.scheme)

include web

theorem leadsOn_iff (texts : List String) :
    u.path.LeadsOn texts (u.below texts).path ↔ ∀ text ∈ texts, IsProper text := by
  rw [← continues_iff web ends.ne_nil ends.ne_empty, ends.path, ends.path_below]
  constructor
  · rintro ⟨_, _, same, path, continues⟩
    cases same
    cases path
    exact continues
  · exact fun continues => ⟨_, _, rfl, rfl, continues⟩

/-- Texts that can be segments can be told from where they lead. -/
theorem below_injective {texts others : List String} (proper : ∀ text ∈ texts, IsProper text)
    (alsoProper : ∀ text ∈ others, IsProper text) (same : u.below texts = u.below others) :
    texts = others := by
  obtain ⟨_, _, path, reached, continues⟩ := (ends.leadsOn_iff web texts).mpr proper
  obtain ⟨_, _, alsoPath, alsoReached, continuesAlso⟩ :=
    (ends.leadsOn_iff web others).mpr alsoProper
  rw [path] at alsoPath
  rw [same, alsoReached] at reached
  cases alsoPath
  cases reached
  exact continues.injective continuesAlso

/-- Only a dot segment leads back to where it is added. -/
theorem below_eq_self_iff (text : String) :
    u.below [text] = u ↔ text = "." ∨ text = ".." := by
  constructor
  · intro back
    have path := ends.path_below [text]
    rw [back, ends.path, List.foldl_cons, List.foldl_nil, UrlPath.segments.injEq] at path
    have pushed := pushed web front text
    generalize pushSegment u.scheme front text = reached at path pushed
    cases pushed with
    | skipped dots => exact dots
    | turned kept _ _ => exact absurd (by rw [path, List.getLast?_concat]) ends.getLast?_ne
    | added _ =>
        have length := congrArg List.length path
        rw [opened, if_neg ends.ne_empty, List.length_append, List.length_singleton] at length
        exact absurd length.symm (Nat.succ_ne_self _)
  · intro dots
    rw [(ends.extend?_eq [text]).2, List.foldl_cons, List.foldl_nil, pushSegment_web web,
      if_pos dots, ← ends.path]

end EndsNamed

theorem isDigit_of_mem_toString {number : Nat} {c : Char}
    (member : c ∈ (toString number).toList) : c.isDigit = true := by
  rw [Nat.toString_eq_ofList_toDigits, String.toList_ofList] at member
  exact Nat.isDigit_of_mem_toDigits (by decide) (by decide) member

theorem isProper_toString (number : Nat) : IsProper (toString number) := by
  have digits : ∀ c ∈ (toString number).toList, c.isDigit = true :=
    fun _ => isDigit_of_mem_toString
  refine ⟨?_, ?_, ?_⟩
  · refine List.filter_eq_self.mpr fun c member => ?_
    cases ignored : isIgnored c with
    | false => rfl
    | true =>
        have digit := digits c member
        simp only [isIgnored, Bool.or_eq_true, beq_iff_eq] at ignored
        obtain (rfl | rfl) | rfl := ignored <;> exact absurd digit (by decide)
  · intro dot
    exact absurd (digits '.' (by rw [dot]; decide)) (by decide)
  · intro dots
    exact absurd (digits '.' (by rw [dots]; decide)) (by decide)

theorem toString_ne_empty (number : Nat) : toString number ≠ "" := by
  intro empty
  have digits := congrArg String.toList empty
  rw [Nat.toString_eq_ofList_toDigits, String.toList_ofList] at digits
  exact Nat.toDigits_ne_nil digits

end Url

namespace WindowClient

open Url

theorem exists_base_of_connect {apiUrl : String} {windowId : Nat} {client : WindowClient}
    (connected : connect apiUrl windowId = .ok client) :
    ∃ (base : Url) (list : List String), client.windowUrl = { base with
      path := .segments (["window", toString windowId].foldl (pushSegment base.scheme) list) } := by
  unfold connect extend at connected
  cases parsed : Url.parse apiUrl with
  | error cause =>
      rw [parsed] at connected
      cases connected
  | ok base =>
      simp only [parsed] at connected
      unfold extend? at connected
      cases path : base.path with
      | plain text =>
          rw [path] at connected
          cases connected
      | segments list =>
          rw [path] at connected
          cases connected
          exact ⟨base, _, rfl⟩

/-- The address of a window ends in the number of the window. -/
theorem endsNamed_of_connect {apiUrl : String} {windowId : Nat} {client : WindowClient}
    (connected : connect apiUrl windowId = .ok client) (web : IsWeb client.windowUrl.scheme) :
    ∃ front, client.windowUrl.EndsNamed front := by
  obtain ⟨base, list, windowUrl⟩ := exists_base_of_connect connected
  rw [windowUrl] at web
  rw [windowUrl, List.foldl_cons, List.foldl_cons, List.foldl_nil,
    (isProper_toString windowId).pushSegment_eq web]
  refine ⟨_, rfl, _, _, rfl, fun empty => toString_ne_empty windowId ?_⟩
  have stands := (isProper_toString windowId).decodeText?_written
  rw [empty, Text.Percent.decodeText?_empty] at stands
  exact (Option.some.inj stands).symm

section Requests

variable {client : WindowClient} {front : List String}
variable (ends : client.windowUrl.EndsNamed front)

include ends

theorem sendTo_eq {ω : Type} (desk : Desk ω) (texts : List String) (adjust : Url → Url)
    (changes : Option (List Change)) :
    client.sendTo desk texts adjust changes =
      desk.send { url := adjust (client.windowUrl.below texts), changes } := by
  unfold sendTo extend
  rw [(ends.extend?_eq texts).1]
  rfl

end Requests

/-- Where a client sends its requests. All of them go below the window, and nothing of the address
of the window but its path changes on the way; the path goes on with the texts that are added if
and only if all of them can be segments. -/
structure Addresses (client : WindowClient) : Prop where
  patchRecord {ω : Type} (desk : Desk ω) (record : RecordId) (changes : List Change) :
    client.patchRecord desk record changes =
      desk.send { url := client.windowUrl.below [record.text], changes := some changes }
  patchRecordAdvanced {ω : Type} (desk : Desk ω) (record : RecordId) (changes : List Change) :
    client.patchRecordAdvanced desk record changes =
      desk.send { url := (client.windowUrl.below [record.text]).appendQuery "advanced=true",
                  changes := some changes }
  tabFields {ω : Type} (desk : Desk ω) (record : RecordId) (tab : String) :
    client.tabFields desk record tab =
      desk.send { url := client.windowUrl.below [record.text, tab], changes := none }
  dropdown {ω : Type} (desk : Desk ω) (record : RecordId) (tab field : String) :
    client.dropdown desk record tab field = do
      let reply ← desk.send
        { url := client.windowUrl.below
            [record.text, tab, record.text, "field", field, "dropdown"], changes := none }
      Act.ofExcept ((dropdownOptions? reply.body).elim (.error (.decode (.dropdown field))) .ok)
  below_eq (texts : List String) :
    client.windowUrl.below texts =
      { client.windowUrl with path := (client.windowUrl.below texts).path }
  leadsOn_iff (texts : List String) :
    client.windowUrl.path.LeadsOn texts (client.windowUrl.below texts).path ↔
      ∀ text ∈ texts, IsProper text
  injective {record other : RecordId} :
    IsProper record.text → IsProper other.text →
      client.windowUrl.below [record.text] = client.windowUrl.below [other.text] → record = other
  window_iff (record : RecordId) :
    client.windowUrl.below [record.text] = client.windowUrl ↔
      record.text = "." ∨ record.text = ".."

/-- Ids, tabs and fields that can be segments never alter the structure of a path, and no others
leave it alone. -/
theorem addresses_of_connect {apiUrl : String} {windowId : Nat} {client : WindowClient}
    (connected : connect apiUrl windowId = .ok client) (web : IsWeb client.windowUrl.scheme) :
    client.Addresses := by
  obtain ⟨front, ends⟩ := endsNamed_of_connect connected web
  exact
    { patchRecord := fun desk _ _ => sendTo_eq ends desk _ _ _
      patchRecordAdvanced := fun desk _ _ => sendTo_eq ends desk _ _ _
      tabFields := fun desk _ _ => sendTo_eq ends desk _ _ _
      dropdown := fun desk _ _ _ => by
        unfold dropdown
        rw [sendTo_eq ends]
        rfl
      below_eq := fun texts => by rw [(ends.extend?_eq texts).2]
      leadsOn_iff := ends.leadsOn_iff web
      injective := fun proper alsoProper same => by
        have texts := ends.below_injective web (List.forall_mem_singleton.mpr proper)
          (List.forall_mem_singleton.mpr alsoProper) same
        exact congrArg RecordId.mk (List.cons.inj texts).1
      window_iff := fun record => ends.below_eq_self_iff web record.text }

def loopback : WindowClient where
  windowUrl :=
    { scheme := "http"
      authority := some { host := some (.ipv6 [0, 0, 0, 0, 0, 0, 0, 1]) }
      path := .segments ["rest", "api", "window", "123"] }

theorem addresses_of_loopback :
    connect "http://[::1]/rest/api" 123 = .ok loopback ∧ IsWeb loopback.windowUrl.scheme ∧
      loopback.Addresses := by
  have connected : connect "http://[::1]/rest/api" 123 = .ok loopback := by decide +kernel
  exact ⟨connected, .inl rfl, addresses_of_connect connected (.inl rfl)⟩

/-- A document whose id is a dot has the address of its window, and one whose id is two dots
behind a tabulator that of everything beside the window. -/
theorem dots_lead_astray :
    (WindowReply.ofBody (.object [("id", .text ".")])).documentId = .ok ⟨"."⟩ ∧
      loopback.windowUrl.below ["."] = loopback.windowUrl ∧
      (WindowReply.ofBody (.object [("id", .text "\t..")])).documentId = .ok ⟨"\t.."⟩ ∧
      (loopback.windowUrl.below ["\t.."]).path = .segments ["rest", "api", "window", ""] := by
  refine ⟨rfl, ?_, rfl, ?_⟩ <;> decide +kernel

end WindowClient

end PartnerRecords
