import Mathlib.Data.List.TakeWhile
import PartnerRecords.Config.Environment
import PartnerRecords.Proofs.Url.Segment

/-!
# Valid settings

Validation takes the slashes off the end of the URL and then only looks. So a second validation
finds what the first one found, and whoever receives settings that were validated can rely on them
without looking again.
-/

namespace PartnerRecords

/-! ## Results -/

section Results

variable {ε δ α β : Type} {result : β}

theorem bind_eq_ok_iff {x : Except ε α} {next : α → Except ε β} :
    (x >>= next) = .ok result ↔ ∃ found, x = .ok found ∧ next found = .ok result := by
  cases x <;> simp [bind, Except.bind]

theorem mapError_eq_ok_iff {x : Except δ β} {say : δ → ε} :
    x.mapError say = .ok result ↔ x = .ok result := by
  cases x <;> simp [Except.mapError]

end Results

/-! ## Slashes -/

def IsTrimmed (text : String) : Prop :=
  text.toList.getLast? ≠ some '/'

theorem toList_trimSlashes (text : String) :
    (trimSlashes text).toList = (text.toList.reverse.dropWhile (· == '/')).reverse :=
  String.toList_ofList

/-- Nothing but slashes is taken off. -/
theorem exists_slashes (text : String) :
    ∃ count, text.toList = (trimSlashes text).toList ++ List.replicate count '/' := by
  have slashes : ∀ c ∈ text.toList.reverse.takeWhile (· == '/'), c = '/' := by
    intro c member
    have slash := List.mem_takeWhile_imp member
    exact beq_iff_eq.mp slash
  refine ⟨(text.toList.reverse.takeWhile (· == '/')).length, ?_⟩
  calc text.toList
      = (text.toList.reverse.takeWhile (· == '/') ++
          text.toList.reverse.dropWhile (· == '/')).reverse := by
        rw [List.takeWhile_append_dropWhile, List.reverse_reverse]
    _ = (trimSlashes text).toList ++ (text.toList.reverse.takeWhile (· == '/')).reverse := by
        rw [List.reverse_append, toList_trimSlashes]
    _ = _ := by
        conv_lhs => rw [List.eq_replicate_of_mem slashes, List.reverse_replicate]

theorem isTrimmed_trimSlashes (text : String) : IsTrimmed (trimSlashes text) := by
  intro ends
  rw [toList_trimSlashes, List.getLast?_reverse] at ends
  have kept := List.head?_dropWhile_not (· == '/') text.toList.reverse
  rw [ends] at kept
  simp at kept

theorem IsTrimmed.trimSlashes_eq {text : String} (trimmed : IsTrimmed text) :
    trimSlashes text = text := by
  obtain ⟨count, parts⟩ := exists_slashes text
  cases count with
  | zero => exact (String.toList_inj.mp (by rw [parts]; simp)).symm
  | succ count =>
      refine absurd ?_ trimmed
      rw [parts, List.replicate_succ', ← List.append_assoc, List.getLast?_concat]

namespace Settings

/-! ## Checks -/

structure IsValid (s : Settings) : Prop where
  url : ∃ u, Url.parse s.apiUrl = .ok u ∧ Url.IsWeb u.scheme
  requestTimeout : 0 < s.requestTimeoutSecs
  connectTimeout : 0 < s.connectTimeoutSecs
  windowId : 0 < s.layout.windowId
  vendorTab : ∃ c ∈ s.layout.vendorTab.toList, Text.isBlank c = false
  customerTab : ∃ c ∈ s.layout.customerTab.toList, Text.isBlank c = false

theorem checkUrl_eq_ok_iff (text : String) :
    checkUrl text = .ok () ↔ ∃ u, Url.parse text = .ok u ∧ Url.IsWeb u.scheme := by
  unfold checkUrl
  cases Url.parse text with
  | error cause => simp
  | ok u =>
      dsimp only
      split
      · next web => exact iff_of_true rfl ⟨u, rfl, web⟩
      · next other =>
          refine iff_of_false nofun ?_
          rintro ⟨_, same, web⟩
          cases same
          exact other web

theorem isBlankText_eq_false_iff (text : String) :
    Text.isBlankText text = false ↔ ∃ c ∈ text.toList, Text.isBlank c = false := by
  simp [Text.isBlankText]

theorem layout_validate_eq_ok_iff (l : Layout) :
    l.validate = .ok () ↔ 0 < l.windowId ∧ (∃ c ∈ l.vendorTab.toList, Text.isBlank c = false) ∧
      ∃ c ∈ l.customerTab.toList, Text.isBlank c = false := by
  rw [← isBlankText_eq_false_iff, ← isBlankText_eq_false_iff, Nat.pos_iff_ne_zero]
  unfold Layout.validate
  split
  · simp [*]
  · split
    · simp [*]
    · split <;> simp [*]

theorem check_eq (s : Settings) :
    s.check = (checkUrl s.apiUrl).bind fun _ =>
      if s.requestTimeoutSecs = 0 then .error .requestTimeout
      else if s.connectTimeoutSecs = 0 then .error .connectTimeout
      else s.layout.validate := by
  unfold check
  by_cases request : s.requestTimeoutSecs = 0
  · rw [if_pos request, if_pos request]
    rfl
  · by_cases connect : s.connectTimeoutSecs = 0
    · rw [if_neg request, if_neg request, if_pos connect, if_pos connect]
      rfl
    · rw [if_neg request, if_neg request, if_neg connect, if_neg connect]
      rfl

/-- Settings pass if and only if they are valid. -/
theorem check_eq_ok_iff (s : Settings) : s.check = .ok () ↔ s.IsValid := by
  have parts : s.check = .ok () ↔ checkUrl s.apiUrl = .ok () ∧ 0 < s.requestTimeoutSecs ∧
      0 < s.connectTimeoutSecs ∧ s.layout.validate = .ok () := by
    rw [check_eq, Nat.pos_iff_ne_zero, Nat.pos_iff_ne_zero]
    cases checkUrl s.apiUrl with
    | error reason => simp [Except.bind]
    | ok _ => simp [Except.bind, ite_eq_iff]
  rw [parts, checkUrl_eq_ok_iff, layout_validate_eq_ok_iff]
  constructor
  · rintro ⟨url, request, connect, windowId, vendorTab, customerTab⟩
    exact ⟨url, request, connect, windowId, vendorTab, customerTab⟩
  · rintro ⟨url, request, connect, windowId, vendorTab, customerTab⟩
    exact ⟨url, request, connect, windowId, vendorTab, customerTab⟩

/-! ## Normal settings -/

theorem normalize_eq_self {s : Settings} (trimmed : IsTrimmed s.apiUrl) : s.normalize = s := by
  rw [normalize, trimmed.trimSlashes_eq]

theorem normalize_normalize (s : Settings) : s.normalize.normalize = s.normalize :=
  normalize_eq_self (isTrimmed_trimSlashes s.apiUrl)

theorem validated_eq_ok_iff {s found : Settings} :
    s.validated = .ok found ↔ s.normalize.IsValid ∧ found = s.normalize := by
  rw [← check_eq_ok_iff, validated]
  cases s.normalize.check with
  | error reason => simp [Except.map]
  | ok _ => simp [Except.map, eq_comm]

/-- Settings that were read from a text, or loaded from the environment and its files. -/
inductive Obtained (s : Settings) : Prop
  | ofText (text : String) (parsed : parse text = .ok s)
  | ofEnvironment (files : FileSystem) (env : Environment) (path : Option String)
      (loaded : load files env path = .ok s)

/-- Whatever is obtained was validated last of all. -/
theorem Obtained.exists_validated {s : Settings} (obtained : Obtained s) :
    ∃ raw : Settings, raw.validated = .ok s := by
  cases obtained with
  | ofText text parsed =>
      obtain ⟨raw, -, valid⟩ := bind_eq_ok_iff.mp parsed
      exact ⟨raw, mapError_eq_ok_iff.mp valid⟩
  | ofEnvironment files env path loaded =>
      obtain ⟨overrides, -, loaded⟩ := bind_eq_ok_iff.mp loaded
      obtain ⟨raw, -, valid⟩ := bind_eq_ok_iff.mp loaded
      exact ⟨overrides.apply raw, mapError_eq_ok_iff.mp valid⟩

theorem Obtained.isValid {s : Settings} (obtained : Obtained s) :
    s.IsValid ∧ IsTrimmed s.apiUrl := by
  obtain ⟨raw, validated⟩ := obtained.exists_validated
  obtain ⟨valid, rfl⟩ := validated_eq_ok_iff.mp validated
  exact ⟨valid, isTrimmed_trimSlashes raw.apiUrl⟩

/-- What validation does and leaves: its first run settles the outcome and the settings. -/
structure Settled (s : Settings) : Prop where
  again : s.validate.2.validate = s.validate
  slashes : ∃ count, s.apiUrl.toList = s.validate.2.apiUrl.toList ++ List.replicate count '/'
  trimmed : IsTrimmed s.validate.2.apiUrl
  otherwise : s.validate.2 = { s with apiUrl := s.validate.2.apiUrl }
  passes_iff : s.validate.1 = .ok () ↔ s.validate.2.IsValid
  obtained : Obtained s → s.IsValid ∧ IsTrimmed s.apiUrl ∧ s.validate = (.ok (), s)

/-- Validation is settled by its first run, for valid settings and for others; and settings that
were obtained are valid already. -/
theorem settled_by_validation (s : Settings) : s.Settled where
  again := by
    simp only [validate, normalize_normalize]
  slashes := exists_slashes s.apiUrl
  trimmed := isTrimmed_trimSlashes s.apiUrl
  otherwise := rfl
  passes_iff := check_eq_ok_iff s.normalize
  obtained := by
    intro obtained
    obtain ⟨valid, trimmed⟩ := obtained.isValid
    refine ⟨valid, trimmed, ?_⟩
    rw [validate, normalize_eq_self trimmed, (check_eq_ok_iff s).mpr valid]

def loopback : Settings where
  apiUrl := "http://[::1]"

theorem settled_loopback : loopback.IsValid ∧ loopback.validate = (.ok (), loopback) := by
  have parsed : parse "api_url = \"http://[::1]//\"" = .ok loopback := by decide +kernel
  obtain ⟨valid, -, same⟩ := (settled_by_validation loopback).obtained (.ofText _ parsed)
  exact ⟨valid, same⟩

end Settings

end PartnerRecords
