import PartnerRecords.Proofs.Config.Loading
import PartnerRecords.Proofs.Config.Override

/-!
# The variable of the timeout

Either the variable of the timeout spells a positive number of 64 bits, or nothing is loaded at all.
The number takes the place of what the settings file says of the timeout, as if it stood there
itself. The file has to be readable as it is, though, with a number of 64 bits if it has a timeout.
-/

namespace PartnerRecords

/-! ## Spelt seconds -/

namespace Environment

/-- Bytes that spell seconds: UTF-8, and between the blanks at its ends a positive number of 64 bits
in decimal digits, after a plus or without. -/
inductive SpellsSeconds (bytes : ByteArray) (value : Nat) : Prop
  | between {s core : String} (text : s.toUTF8 = bytes) (is : Text.Core s.toList core.toList)
      (spells : Spells core value) (positive : 0 < value) (small : value < Text.wordLimit) :
      SpellsSeconds bytes value

theorem SpellsSeconds.small {bytes : ByteArray} {value : Nat} (spells : SpellsSeconds bytes value) :
    value < Text.wordLimit := by
  cases spells with
  | between _ _ _ _ small => exact small

theorem Spells.ne_empty {core : String} {value : Nat} (spells : Spells core value) : core ≠ "" := by
  rintro rfl
  obtain ⟨nonempty, -, -⟩ := (spells_iff "" value).mp spells
  exact nonempty rfl

/-- A variable that is set is taken for a timeout exactly if it spells one. -/
theorem timed_iff {env : Environment} {bytes : ByteArray}
    (given : env timeoutSeconds = some bytes) (value : Nat) :
    Timed env (.ok (some value)) ↔ SpellsSeconds bytes value := by
  constructor
  · rintro (_ | _ | _ | _ | ⟨holds, spells, small⟩)
    cases holds with
    | text found is shown =>
        rw [given, Option.some.injEq] at found
        exact .between found.symm is spells (Nat.succ_pos _) small
  · rintro ⟨rfl, is, spells, positive, small⟩
    obtain ⟨count, rfl⟩ := Nat.exists_eq_succ_of_ne_zero (Nat.ne_of_gt positive)
    exact .positive (.text given is spells.ne_empty) spells small

end Environment

namespace Settings

/-! ## Files -/

inductive HoldsDocument (files : FileSystem) (name : String) (document : Toml.Value) : Prop
  | text {text : String} (found : files name = .ok text.toUTF8)
      (small : text.toUTF8.size ≤ sizeLimit)
      (parsed : Toml.Document.parse? text = some document) : HoldsDocument files name document

def described (document : Toml.Value) : Except ConfigError Settings :=
  (ofToml? document).elim (.error .document) .ok

section Loads

variable {files : FileSystem} {env : Environment} {overrides : Overrides} {name : String}
variable {document : Toml.Value}

theorem HoldsDocument.ofFile_eq (holds : HoldsDocument files name document) :
    ofFile files (some name) = described document := by
  obtain ⟨found, small, parsed⟩ := holds
  rw [ofFile_of_ok found, ofBytes_toUTF8 small, read, parsed, Option.bind_some, described]
  cases ofToml? document <;> rfl

theorem HoldsDocument.load_eq (holds : HoldsDocument files name document)
    (given : Overrides.read env = .ok overrides) :
    load files env (some name) = (described document).bind fun stored =>
      (overrides.apply stored).validated.mapError .invalid := by
  rw [load_of_ok _ given, ← holds.ofFile_eq]
  rfl

/-- A file without a document is a fault whatever the variables say. -/
theorem exists_fault (nothing : ∀ document, ¬ HoldsDocument files name document) :
    ∃ cause, ofFile files (some name) = .error cause := by
  have stored := stored_ofFile files (some name)
  generalize ofFile files (some name) = found at stored
  cases stored with
  | unread _ => exact ⟨_, rfl⟩
  | large _ _ => exact ⟨_, rfl⟩
  | garbled _ _ _ => exact ⟨_, rfl⟩
  | @text _ text found small =>
      cases parsed : Toml.Document.parse? text with
      | none => exact ⟨.document, by rw [read, parsed]; rfl⟩
      | some document => exact absurd (.text found small parsed) (nothing document)

theorem load_of_fault {cause : ConfigError} (given : Overrides.read env = .ok overrides)
    (fault : ofFile files (some name) = .error cause) :
    load files env (some name) = .error cause := by
  rw [load_of_ok _ given]
  change (ofFile files (some name)).bind _ = _
  rw [fault]
  rfl

end Loads

/-! ## Variables alone -/

open Environment (SpellsSeconds configPath timeoutSeconds)

structure OnlyTimeout (env : Environment) (bytes : ByteArray) : Prop where
  path : env configPath = none
  apiUrl : env Environment.apiUrl = none
  timeout : env timeoutSeconds = some bytes

theorem read_unset : Overrides.read (fun _ => none) = .ok {} := by
  have given : Overrides.Given (fun _ => none) (.ok {}) :=
    .all (.unset rfl) (.unset rfl) (.unset (.unset rfl))
  exact given.read_eq

section Only

variable {env : Environment} {bytes : ByteArray} (only : OnlyTimeout env bytes)

include only

theorem OnlyTimeout.read_eq : Overrides.read env =
    env.timeout.map fun value => { requestTimeoutSecs := value } := by
  rw [Overrides.read_eq, Environment.filled_of_none only.path,
    Environment.filled_of_none only.apiUrl]
  rfl

theorem OnlyTimeout.read_eq_ok_iff (overrides : Overrides) :
    Overrides.read env = .ok overrides ↔
      ∃ value, SpellsSeconds bytes value ∧ overrides = { requestTimeoutSecs := some value } := by
  have timed := Environment.timed_timeout env
  rw [only.read_eq]
  constructor
  · intro read
    cases found : env.timeout with
    | error reason =>
        rw [found] at read
        cases read
    | ok value =>
        rw [found] at read timed
        cases read
        cases value with
        | none =>
            cases timed with
            | unset holds => cases (eq_none_of_holds holds).symm.trans only.timeout
        | some value =>
            exact ⟨value, (Environment.timed_iff only.timeout value).mp timed, rfl⟩
  · rintro ⟨value, spells, rfl⟩
    rw [((Environment.timed_iff only.timeout value).mpr spells).timeout_eq]
    rfl

theorem OnlyTimeout.read_of_spells {value : Nat} (spells : SpellsSeconds bytes value) :
    Overrides.read env = .ok { requestTimeoutSecs := some value } :=
  (only.read_eq_ok_iff _).mpr ⟨value, spells, rfl⟩

end Only

/-- What the variable of the timeout does where no other one is set. -/
structure Timing (env : Environment) (bytes : ByteArray) : Prop where
  /-- It is accepted exactly if it spells a positive number of 64 bits. -/
  accepted (overrides : Overrides) : Overrides.read env = .ok overrides ↔
    ∃ value, SpellsSeconds bytes value ∧ overrides = { requestTimeoutSecs := some value }
  /-- Else nothing is loaded, and no file counts. -/
  refused : (∀ value, ¬ SpellsSeconds bytes value) →
    ∃ reason, ∀ files path, load files env path = .error (.invalid reason)
  /-- Without a file it goes into the standard settings. -/
  standard {value : Nat} : SpellsSeconds bytes value → ∀ files,
    load files env none = ({ requestTimeoutSecs := value } : Settings).validated.mapError .invalid
  /-- It mends no file without a document. -/
  unread {value : Nat} : SpellsSeconds bytes value → ∀ files name,
    (∀ document, ¬ HoldsDocument files name document) →
    load files env (some name) = load files (fun _ => none) (some name)
  /-- It counts as if it stood in the file, -/
  retimed {value : Nat} {old? : Option Toml.Value} {document changed : Toml.Value} :
    SpellsSeconds bytes value → Retimed value old? document changed →
    (∀ old, old? = some old → old.IsWord) →
    ∀ files others name, HoldsDocument files name document → HoldsDocument others name changed →
    load files env (some name) = load others (fun _ => none) (some name)
  /-- unless what stands there can not be read. -/
  spoiled {value : Nat} {old : Toml.Value} {document changed : Toml.Value} :
    SpellsSeconds bytes value → Retimed value (some old) document changed → ¬ old.IsWord →
    ∀ files name, HoldsDocument files name document →
    load files env (some name) = .error .document

/-- The variable of the timeout is a positive number of 64 bits, which takes the place of any
timeout in the file, or a fault of its own. -/
theorem timing_of_variable {env : Environment} {bytes : ByteArray} (only : OnlyTimeout env bytes) :
    Timing env bytes where
  accepted := only.read_eq_ok_iff
  refused := by
    intro other
    cases read : Overrides.read env with
    | error reason => exact ⟨reason, fun files path => load_of_error path read⟩
    | ok overrides =>
        obtain ⟨value, spells, -⟩ := (only.read_eq_ok_iff overrides).mp read
        exact absurd spells (other value)
  standard {value} spells files := by
    have given := only.read_of_spells spells
    have merged : ({ requestTimeoutSecs := some value } : Overrides).apply {} =
        { requestTimeoutSecs := value } := rfl
    rw [load_of_ofFile given rfl, merged]
  unread {value} spells files name nothing := by
    have given := only.read_of_spells spells
    obtain ⟨cause, fault⟩ := exists_fault nothing
    rw [load_of_fault given fault, load_of_fault read_unset fault]
  retimed {value old? document changed} spells retimed readable files others name holds
      holdsToo := by
    have given := only.read_of_spells spells
    obtain ⟨absent, numbers⟩ := retimed
    obtain ⟨seconds, old⟩ := exists_ofToml? absent readable
    have new := ofToml?_numbers absent numbers spells.small
    -- Both documents describe the same settings but for the timeout, which the override sets.
    rw [holds.load_eq given, holdsToo.load_eq read_unset, described, described, old, new]
    generalize ofToml? (.table (_ ++ timeoutMember none ++ _)) = base
    cases base with
    | none => simp only [Option.map_none, Option.elim_none, Except.bind]
    | some s =>
        have merged : ({ requestTimeoutSecs := some value } : Overrides).apply
            { s with requestTimeoutSecs := seconds } = { s with requestTimeoutSecs := value } := rfl
        have kept : ({} : Overrides).apply { s with requestTimeoutSecs := value } =
            { s with requestTimeoutSecs := value } := rfl
        simp only [Option.map_some, Option.elim_some, Except.bind, merged, kept]
  spoiled {value old document changed} spells retimed other files name holds := by
    have given := only.read_of_spells spells
    obtain ⟨absent, -⟩ := retimed
    rw [holds.load_eq given, described, ofToml?_of_other absent other]
    rfl

/-! ### A file with a timeout -/

def settingsText (timeout : String) : String :=
  "api_url = \"http://[::1]\"\nrequest_timeout_secs = " ++ timeout

def settingsTokens (timeout : Toml.Token) : List Toml.Token :=
  [.run ['a', 'p', 'i', '_', 'u', 'r', 'l'], .blank true, .equals, .blank true,
    .quoted "http://[::1]" false, .newline,
    .run ['r', 'e', 'q', 'u', 'e', 's', 't', '_', 't', 'i', 'm', 'e', 'o', 'u', 't', '_', 's', 'e',
      'c', 's'], .blank true, .equals, .blank true, timeout]

def settingsDocument (timeout : Toml.Value) : Toml.Value :=
  .table [("api_url", .text "http://[::1]"), ("request_timeout_secs", timeout)]

def settingsFile (timeout : String) : FileSystem :=
  fun _ => .ok (settingsText timeout).toUTF8

def oneDigit (c : Char) : Toml.Value :=
  .scalar (.integer ⟨10, [c]⟩)

def variableAlone (text : String) : Environment :=
  fun name => if name = timeoutSeconds then some text.toUTF8 else none

theorem holds_settingsFile {timeout : String} (token : Toml.Token) {value : Toml.Value}
    (small : (settingsText timeout).toUTF8.size ≤ sizeLimit)
    (cut : Toml.tokens? (settingsText timeout) = some (settingsTokens token))
    (read : ((settingsTokens token).foldlM Toml.Document.step {}).bind Toml.Document.result? =
      some (settingsDocument value)) (name : String) :
    HoldsDocument (settingsFile timeout) name (settingsDocument value) := by
  refine .text rfl small ?_
  rw [Toml.Document.parse?, cut]
  exact read

theorem retimed_settingsDocument (old : Toml.Value) :
    Retimed 7 (some old) (settingsDocument old) (settingsDocument (oneDigit '7')) :=
  @Retimed.retimed 7 (some old) [("api_url", .text "http://[::1]")] [] (oneDigit '7') (by decide)
    ⟨_, rfl, by decide⟩

theorem onlyTimeout_variableAlone (text : String) : OnlyTimeout (variableAlone text) text.toUTF8 :=
  ⟨if_neg (by decide), if_neg (by decide), if_pos rfl⟩

/-- Seconds with a sign and zeros in front, between blanks. -/
theorem spellsSeconds_signed : SpellsSeconds " +007\n".toUTF8 7 := by
  have core : Text.Core " +007\n".toList "+007".toList := by
    refine ⟨⟨[' '], ['\n'], by decide, List.forall_mem_singleton.mpr rfl,
      List.forall_mem_singleton.mpr rfl⟩, ?_, ?_⟩
    · rintro c ⟨⟩
      decide
    · rintro c ⟨⟩
      decide
  have spells : Environment.Spells "+007" 7 :=
    @Environment.Spells.signed ['0', '0', '7'] (by decide) (List.all_eq_true.mp rfl)
  exact .between rfl core spells (by decide) (by decide)

/-- A zero in the file gives way. -/
theorem timing_of_signed :
    OnlyTimeout (variableAlone " +007\n") " +007\n".toUTF8 ∧
      Timing (variableAlone " +007\n") " +007\n".toUTF8 ∧
      load (settingsFile "0") (variableAlone " +007\n") (some "c.toml") =
        load (settingsFile "7") (fun _ => none) (some "c.toml") := by
  have only := onlyTimeout_variableAlone " +007\n"
  have timing := timing_of_variable only
  refine ⟨only, timing, ?_⟩
  have retimed := retimed_settingsDocument (oneDigit '0')
  refine timing.retimed spellsSeconds_signed retimed ?_ _ _ _ ?_ ?_
  · rintro old ⟨⟩
    exact ⟨0, by decide, _, rfl, by decide⟩
  · exact holds_settingsFile (.run ['0']) (by decide +kernel) (by decide +kernel) rfl _
  · exact holds_settingsFile (.run ['7']) (by decide +kernel) (by decide +kernel) rfl _

/-- A timeout in the file that is no number spoils what the variable would mend. -/
theorem text_spoils_timeout :
    OnlyTimeout (variableAlone " +007\n") " +007\n".toUTF8 ∧
      SpellsSeconds " +007\n".toUTF8 7 ∧
      HoldsDocument (settingsFile "\"x\"") "c.toml" (settingsDocument (.text "x")) ∧
      HoldsDocument (settingsFile "7") "c.toml" (settingsDocument (oneDigit '7')) ∧
      Retimed 7 (some (.text "x")) (settingsDocument (.text "x"))
        (settingsDocument (oneDigit '7')) ∧
      load (settingsFile "\"x\"") (variableAlone " +007\n") (some "c.toml") = .error .document ∧
      load (settingsFile "7") (fun _ => none) (some "c.toml") =
        .ok { loopback with requestTimeoutSecs := 7 } := by
  have only := onlyTimeout_variableAlone " +007\n"
  have given := only.read_of_spells spellsSeconds_signed
  have holds : HoldsDocument (settingsFile "\"x\"") "c.toml" (settingsDocument (.text "x")) :=
    holds_settingsFile (.quoted "x" false) (by decide +kernel) (by decide +kernel) rfl _
  have holdsToo : HoldsDocument (settingsFile "7") "c.toml" (settingsDocument (oneDigit '7')) :=
    holds_settingsFile (.run ['7']) (by decide +kernel) (by decide +kernel) rfl _
  refine ⟨only, spellsSeconds_signed, holds, holdsToo, retimed_settingsDocument _, ?_, ?_⟩
  · have unread : described (settingsDocument (.text "x")) = .error .document := rfl
    rw [holds.load_eq given, unread]
    rfl
  · have parsed : parse (settingsText "7") = .ok { loopback with requestTimeoutSecs := 7 } := by
      decide +kernel
    rw [← parsed]
    exact load_bare rfl rfl rfl rfl (by decide +kernel)

end Settings

end PartnerRecords
