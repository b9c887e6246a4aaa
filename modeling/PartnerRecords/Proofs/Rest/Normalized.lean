import PartnerRecords.Proofs.Rest.Window
import PartnerRecords.Proofs.Url.Slashes

/-!
# Normalized URLs of servers

Settings lose the slashes at the end of their URL as a text, before anyone reads it as a URL. What
they were part of is decided by what comes last there: with a fragment or a query, the path keeps
all of its slashes.
-/

namespace PartnerRecords

open Url

/-- What a window has in front of its segments is empty only behind two slashes. -/
theorem Url.Trunk.exists_front {list trunk : List String} (is : Trunk list trunk)
    (ends : trunk.getLast? = some "") : ∃ front, list = front ++ ["", ""] := by
  cases is with
  | whole named => exact absurd ends named
  | slash shown =>
      obtain ⟨front, rfl⟩ := List.getLast?_eq_some_iff.mp ends
      exact ⟨front, by rw [List.append_assoc]; rfl⟩
  | slashes => cases ends

namespace Settings

/-- What becomes of the URL of settings that lose the slashes at its end, so many of them. -/
structure Normalized (s : Settings) (count : Nat) (u : Url) (list : List String) : Prop where
  slashes : s.apiUrl.toList = s.validate.2.apiUrl.toList ++ List.replicate count '/'
  trimmed : IsTrimmed s.validate.2.apiUrl
  parsed : Url.parse s.validate.2.apiUrl = .ok u
  path : u.path = .segments list
  original : (IsPadded s.validate.2.apiUrl → count = 0) →
    ∃ original, Url.parse s.apiUrl = .ok original ∧ Trailed count u original
  ends : list.getLast? = some "" ↔ list = [""] ∨ EndsOpen s.validate.2.apiUrl
  plain : u.query = none → u.fragment = none → list.getLast? = some "" →
    list = [""] ∨ isDots (lastPiece (visible (trimEnds s.validate.2.apiUrl.toList))) = true ∨
      EndsUnread s.validate.2.apiUrl
  window : ∃ window trunk, PartnerWindow.connect s.validate.2 = .ok window ∧ Trunk list trunk ∧
    window.client.windowUrl =
      { u with path := .segments (trunk ++ ["window", toString s.layout.windowId]) } ∧
    (trunk.getLast? = some "" → ∃ front, list = front ++ ["", ""])

/-- Valid settings have lost nothing but slashes that came last in their URL. -/
theorem normalized_by_validation (s : Settings) (passes : s.validate.1 = .ok ()) :
    ∃ count u list, s.Normalized count u list := by
  have valid : s.validate.2.IsValid := (check_eq_ok_iff s.normalize).mp passes
  obtain ⟨count, slashes⟩ := exists_slashes s.apiUrl
  obtain ⟨u, known, web⟩ := valid.url
  obtain ⟨window, connected, -, base, list, trunk, parsed, path, isTrunk, windowUrl⟩ :=
    PartnerWindow.exists_window valid
  obtain rfl := Except.ok.inj (known.symm.trans parsed)
  have trimmed : IsTrimmed s.validate.2.apiUrl := isTrimmed_trimSlashes s.apiUrl
  have ends := getLast?_path parsed web path
  exact ⟨count, u, list, {
    slashes
    trimmed
    parsed
    path
    original := exists_trailed parsed web slashes
    ends
    plain := fun noQuery noFragment empty =>
      (ends.mp empty).imp_right (cases_of_endsOpen parsed web noQuery noFragment trimmed)
    window := ⟨window, trunk, connected, isTrunk, windowUrl, isTrunk.exists_front⟩ }⟩

def loopbackUrl (segments : List String) (query : Option String) : Url where
  scheme := "http"
  authority := some { host := some (.ipv6 [0, 0, 0, 0, 0, 0, 0, 1]) }
  path := .segments segments
  query

def trailing : Settings where
  apiUrl := "http://[::1]/api//"

/-- Both slashes are gone, and the window is right behind the path. -/
theorem normalized_trailing :
    trailing.Normalized 2 (loopbackUrl ["api"] none) ["api"] ∧
      Url.parse trailing.apiUrl = .ok (loopbackUrl ["api", "", ""] none) ∧
      (PartnerWindow.connect trailing.validate.2).map (·.client.windowUrl) =
        .ok (loopbackUrl ["api", "window", "123"] none) := by
  obtain ⟨count, u, list, normalized⟩ :=
    normalized_by_validation trailing (by decide +kernel)
  have read : Url.parse trailing.validate.2.apiUrl = .ok (loopbackUrl ["api"] none) := by
    decide +kernel
  obtain rfl : u = loopbackUrl ["api"] none := Except.ok.inj (normalized.parsed.symm.trans read)
  obtain rfl : ["api"] = list := UrlPath.segments.inj normalized.path
  obtain rfl : 2 = count := by
    have slashes := congrArg List.length normalized.slashes
    rw [List.length_append, List.length_replicate] at slashes
    exact Nat.add_left_cancel slashes
  exact ⟨normalized, by decide +kernel, by decide +kernel⟩

/-- A slash is taken off a query, slashes in front of a query stay, and a text that is no URL
becomes one. -/
theorem slashes_beyond_path :
    (({ apiUrl := "http://[::1]/?a=/" } : Settings).validate.1 = .ok () ∧
      Url.parse "http://[::1]/?a=/" = .ok (loopbackUrl [""] (some "a=/")) ∧
      Url.parse ({ apiUrl := "http://[::1]/?a=/" } : Settings).validate.2.apiUrl =
        .ok (loopbackUrl [""] (some "a="))) ∧
    (({ apiUrl := "http://[::1]/api//?a" } : Settings).validate.1 = .ok () ∧
      Url.parse "http://[::1]/api//?a" = .ok (loopbackUrl ["api", "", ""] (some "a")) ∧
      (PartnerWindow.connect ({ apiUrl := "http://[::1]/api//?a" } : Settings).validate.2).map
          (·.client.windowUrl) =
        .ok (loopbackUrl ["api", "", "window", "123"] (some "a"))) ∧
    ({ apiUrl := "http://[::1] /" } : Settings).validate.1 = .ok () ∧
      Url.parse "http://[::1] /" = .error .invalidIpv6 := by
  refine ⟨⟨?_, ?_, ?_⟩, ⟨?_, ?_, ?_⟩, ?_, ?_⟩
  all_goals decide +kernel

end Settings

end PartnerRecords
