import PartnerRecords.Proofs.Config.Validity
import PartnerRecords.Proofs.Rest.Address
import PartnerRecords.Rest.Snapshot

/-!
# Windows of valid settings

Whatever passes validation leads to a window: the URL of the server goes on with the two segments
of the window, and nothing else of it changes. A slash at the end of its path gives way to them.
-/

namespace PartnerRecords

namespace Url

/-! ## Paths that can go on -/

theorem path_of_afterSlashes {scheme : String} {cs : List Char} {u : Url}
    (read : afterSlashes scheme cs = .ok u) : ∃ list, u.path = .segments list := by
  obtain ⟨⟨authority, rest⟩, -, finished⟩ := bind_eq_ok_iff.mp read
  cases finished
  exact ⟨_, rfl⟩

theorem path_of_afterFileSlashes {cs : List Char} {u : Url}
    (read : afterFileSlashes cs = .ok u) : ∃ list, u.path = .segments list := by
  unfold afterFileSlashes at read
  dsimp only at read
  split at read
  · cases read
    exact ⟨_, rfl⟩
  · obtain ⟨host, -, finished⟩ := bind_eq_ok_iff.mp read
    cases finished
    exact ⟨_, rfl⟩

theorem path_of_readFile {cs : List Char} {u : Url} (read : readFile cs = .ok u) :
    ∃ list, u.path = .segments list := by
  unfold readFile at read
  dsimp only at read
  split at read
  · exact path_of_afterFileSlashes read
  · cases read
    exact ⟨_, rfl⟩

theorem path_of_readOther {scheme : String} {cs : List Char} {u : Url}
    (read : readOther scheme cs = .ok u) :
    (∃ list, u.path = .segments list) ∨ u.scheme = scheme := by
  unfold readOther at read
  split at read
  · exact .inl (path_of_afterSlashes read)
  · cases read
    exact .inl ⟨_, rfl⟩
  · cases read
    exact .inr rfl

/-- Only a scheme that demands no host has paths of plain text. -/
theorem path_of_parse {text : String} {u : Url} (parsed : parse text = .ok u) :
    (∃ list, u.path = .segments list) ∨ isSpecialScheme u.scheme = false := by
  unfold parse at parsed
  dsimp only at parsed
  split at parsed
  · cases parsed
  · split at parsed
    · exact .inl (path_of_readFile parsed)
    · split at parsed
      · exact .inl (path_of_afterSlashes parsed)
      · next other =>
          rcases path_of_readOther parsed with segments | same
          · exact .inl segments
          · rw [same]
            exact .inr (Bool.eq_false_iff.mpr other)

/-! ## Trunks -/

/-- What is left of a path when segments are added to it. -/
inductive Trunk : List String → List String → Prop
  /-- A path without a slash at its end is kept. -/
  | whole {list : List String} (named : list.getLast? ≠ some "") : Trunk list list
  /-- A slash at the end gives way. -/
  | slash {front : List String} (shown : front ≠ [""]) : Trunk (front ++ [""]) front
  /-- Of two slashes alone nothing is left: without the second one, the path is the root. -/
  | slashes : Trunk ["", ""] []

theorem trunk_opened (list : List String) : Trunk list (opened (dropEmptyLast list)) := by
  rcases List.eq_nil_or_concat list with rfl | ⟨front, last, rfl⟩
  · exact .whole nofun
  · by_cases empty : last = ""
    · subst empty
      cases front with
      | nil => exact Trunk.slash (List.cons_ne_nil "" []).symm
      | cons first rest =>
          have dropped : dropEmptyLast (first :: rest ++ [""]) = first :: rest := by
            rw [dropEmptyLast, if_pos ⟨by simp, List.getLast?_concat⟩, List.dropLast_concat]
          rw [List.concat_eq_append, dropped, opened]
          split
          · next root =>
              rw [root]
              exact .slashes
          · next shown => exact .slash shown
    · have named : (front.concat last).getLast? ≠ some "" := by
        rw [List.concat_eq_append, List.getLast?_concat]
        exact fun same => empty (Option.some.inj same)
      have kept : dropEmptyLast (front.concat last) = front.concat last :=
        if_neg fun dropped => named dropped.2
      have shown : front.concat last ≠ [""] := by
        intro same
        rw [same] at named
        exact named rfl
      rw [kept, opened, if_neg shown]
      exact .whole named

/-! ## Written segments -/

theorem encode_eq_self {set : Char → Bool} {cs : List Char} (plain : ∀ c ∈ cs, set c = false) :
    Text.Percent.encode set cs = cs := by
  induction cs with
  | nil => rfl
  | cons c rest ih =>
      obtain ⟨head, tail⟩ := List.forall_mem_cons.mp plain
      have kept : Text.Percent.encodeChar set c = [c] := by
        rw [Text.Percent.encodeChar, head]
        rfl
      rw [Text.Percent.encode, List.flatMap_cons, kept]
      exact congrArg (c :: ·) (ih tail)

theorem specialSegmentSet_of_isDigit {c : Char} (digit : c.isDigit = true) :
    Text.Percent.specialSegmentSet c = false := by
  have bounds : 48 ≤ c.toNat ∧ c.toNat < 58 := by
    simp only [Char.isDigit, Bool.and_eq_true, decide_eq_true_eq, ge_iff_le,
      UInt32.le_iff_toNat_le] at digit
    exact ⟨digit.1, Nat.lt_succ_of_le digit.2⟩
  have all : ∀ n < 58, 48 ≤ n → Text.Percent.specialSegmentSet (Char.ofNat n) = false := by decide
  rw [← Char.ofNat_toNat c]
  exact all c.toNat bounds.2 bounds.1

/-- Numbers are segments as they stand. -/
theorem written_toString (number : Nat) : written (toString number) = toString number := by
  rw [written, (isProper_toString number).visible, encoded,
    encode_eq_self fun c member => specialSegmentSet_of_isDigit (isDigit_of_mem_toString member),
    String.ofList_toList]

theorem isProper_window : IsProper "window" :=
  ⟨by decide, by decide, by decide⟩

/-- The segments of a window go under the trunk of a path. -/
theorem extend?_window {base : Url} {list : List String} (web : IsWeb base.scheme)
    (path : base.path = .segments list) (number : Nat) :
    base.extend? ["window", toString number] = some { base with
      path := .segments (opened (dropEmptyLast list) ++ ["window", toString number]) } := by
  have window : written "window" = "window" := by decide
  have behind : opened (opened (dropEmptyLast list) ++ ["window"]) =
      opened (dropEmptyLast list) ++ ["window"] := by
    refine if_neg fun root => ?_
    have last := congrArg List.getLast? root
    rw [List.getLast?_concat] at last
    exact absurd (Option.some.inj last) (by decide)
  rw [extend?, path]
  dsimp only
  rw [List.foldl_cons, List.foldl_cons, List.foldl_nil, isProper_window.pushSegment_eq web,
    window, (isProper_toString number).pushSegment_eq web, behind, written_toString,
    List.append_assoc]
  rfl

end Url

/-! ## Windows -/

namespace PartnerWindow

open Url

/-- A window of settings: its URL is that of the server, with the trunk of its path and behind it
the two segments of the window. -/
structure Opens (s : Settings) (window : PartnerWindow) : Prop where
  layout : window.layout = s.layout
  url : ∃ base list trunk, Url.parse s.apiUrl = .ok base ∧ base.path = .segments list ∧
    Trunk list trunk ∧ window.client.windowUrl =
      { base with path := .segments (trunk ++ ["window", toString s.layout.windowId]) }

/-- Valid settings lead to a window. -/
theorem exists_window {s : Settings} (valid : s.IsValid) :
    ∃ window, connect s = .ok window ∧ Opens s window := by
  obtain ⟨base, parsed, web⟩ := valid.url
  rcases path_of_parse parsed with ⟨list, path⟩ | other
  · have extended := extend?_window web path s.layout.windowId
    refine ⟨⟨⟨_⟩, s.layout⟩, ?_, rfl, base, list, _, parsed, path, trunk_opened list, rfl⟩
    rw [connect, WindowClient.connect, parsed]
    dsimp only
    rw [WindowClient.extend, extended]
    rfl
  · rw [web.isSpecialScheme_eq] at other
    cases other

inductive Loaded (files : FileSystem) (env : Environment) (path : Option String) :
    Except Failure PartnerWindow → Prop
  | fault {cause : ConfigError} (unloaded : Settings.load files env path = .error cause) :
      Loaded files env path (.error (.config cause))
  | window {s : Settings} {window : PartnerWindow} (loaded : Settings.load files env path = .ok s)
      (opens : Opens s window) : Loaded files env path (.ok window)

theorem loaded_load (files : FileSystem) (env : Environment) (path : Option String) :
    Loaded files env path (load files env path) := by
  rw [load]
  cases loaded : Settings.load files env path with
  | error cause => exact .fault loaded
  | ok s =>
      have obtained := Settings.Obtained.ofEnvironment files env path loaded
      obtain ⟨window, connected, opens⟩ := exists_window obtained.isValid.1
      have whole : (do connect (← (Except.ok s : Except ConfigError Settings).mapError
          Failure.config)) = connect s := rfl
      rw [whole, connected]
      exact .window loaded opens

/-- Settings that pass validation always lead to a window, so one that is loaded can fail for its
settings only. -/
theorem windows_of_valid_settings :
    (∀ s : Settings, s.validate.1 = .ok () →
      ∃ window, connect s.validate.2 = .ok window ∧ Opens s.validate.2 window) ∧
    ∀ files env path, Loaded files env path (load files env path) := by
  constructor
  · intro s passes
    exact exists_window ((Settings.check_eq_ok_iff s.normalize).mp passes)
  · exact loaded_load

def slashedUrl (segments : List String) : Url where
  scheme := "http"
  authority := some { host := some (.ipv6 [0, 0, 0, 0, 0, 0, 0, 1]) }
  path := .segments segments
  query := some "a"

/-- A slash before the query is none of the end of the URL, and gives way to the window. -/
theorem window_behind_slash :
    ({ apiUrl := "http://[::1]/api/?a/" } : Settings).validate =
        (.ok (), { apiUrl := "http://[::1]/api/?a" }) ∧
      ∃ window, connect { apiUrl := "http://[::1]/api/?a" } = .ok window ∧
        Opens { apiUrl := "http://[::1]/api/?a" } window ∧
        window.client.windowUrl = slashedUrl ["api", "window", "123"] := by
  have validated : ({ apiUrl := "http://[::1]/api/?a/" } : Settings).validate =
      (.ok (), { apiUrl := "http://[::1]/api/?a" }) := by
    decide +kernel
  obtain ⟨window, connected, opens⟩ :=
    windows_of_valid_settings.1 { apiUrl := "http://[::1]/api/?a/" } (by rw [validated])
  rw [validated] at connected opens
  have known : connect { apiUrl := "http://[::1]/api/?a" } =
      .ok ⟨⟨slashedUrl ["api", "window", "123"]⟩, {}⟩ := by
    decide +kernel
  obtain rfl := Except.ok.inj (connected.symm.trans known)
  exact ⟨validated, _, connected, opens, rfl⟩

/-! ## Two slashes -/

def slashed : Settings where
  apiUrl := "http://[::1]//?a"

/-- Two empty segments give way to a window, not one. -/
theorem slashes_give_way :
    slashed.validate = (.ok (), slashed) ∧ Url.parse slashed.apiUrl = .ok (slashedUrl ["", ""]) ∧
      connect slashed = .ok ⟨⟨slashedUrl ["window", "123"]⟩, slashed.layout⟩ ∧
      ∀ kept : List String, kept = ["", ""] ∨ kept ++ [""] = ["", ""] →
        (slashedUrl ["window", "123"]).path ≠ .segments (kept ++ ["window", "123"]) := by
  refine ⟨by decide +kernel, by decide +kernel, by decide +kernel, ?_⟩
  rintro kept (rfl | one) same
  · exact absurd same (by decide)
  · have shorter : kept = [""] := List.append_cancel_right (one : kept ++ [""] = [""] ++ [""])
    rw [shorter] at same
    exact absurd same (by decide)

end PartnerWindow

end PartnerRecords
