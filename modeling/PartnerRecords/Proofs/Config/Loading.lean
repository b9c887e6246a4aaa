import PartnerRecords.Proofs.Config.Variable

/-!
# Loading settings

The variables come first, then the file that the caller or else a variable names, and last the
check of what both together say. Every outcome, failures included, follows from the variables and
the one file that is read; and what a variable overrides does not count in the file.
-/

namespace PartnerRecords.Settings

open Environment (Holds configPath timeoutSeconds)

/-! ## Files -/

inductive Stored (files : FileSystem) : Option String → Except ConfigError Settings → Prop
  | standard : Stored files none (.ok {})
  | unread {path : String} {fault : FileFault} (unread : files path = .error fault) :
      Stored files (some path) (.error (.file fault))
  | large {path : String} {bytes : ByteArray} (found : files path = .ok bytes)
      (large : sizeLimit < bytes.size) : Stored files (some path) (.error (.invalid .fileTooLarge))
  | garbled {path : String} {bytes : ByteArray} (found : files path = .ok bytes)
      (small : bytes.size ≤ sizeLimit) (garbled : ∀ text : String, text.toUTF8 ≠ bytes) :
      Stored files (some path) (.error (.invalid .fileNotUtf8))
  | text {path text : String} (found : files path = .ok text.toUTF8)
      (small : text.toUTF8.size ≤ sizeLimit) : Stored files (some path) (read text)

variable {files : FileSystem}

theorem ofFile_of_error {path : String} {fault : FileFault} (unread : files path = .error fault) :
    ofFile files (some path) = .error (.file fault) := by
  rw [ofFile, unread]
  rfl

theorem ofFile_of_ok {path : String} {bytes : ByteArray} (found : files path = .ok bytes) :
    ofFile files (some path) = ofBytes bytes := by
  rw [ofFile, found]
  rfl

theorem ofBytes_toUTF8 {text : String} (small : text.toUTF8.size ≤ sizeLimit) :
    ofBytes text.toUTF8 = read text := by
  rw [ofBytes, if_neg (Nat.not_lt_of_le small), Environment.fromUTF8?_toUTF8]

theorem stored_ofFile (files : FileSystem) (named : Option String) :
    Stored files named (ofFile files named) := by
  cases named with
  | none => exact .standard
  | some path =>
      cases found : files path with
      | error fault =>
          rw [ofFile_of_error found]
          exact .unread found
      | ok bytes =>
          rw [ofFile_of_ok found]
          by_cases large : sizeLimit < bytes.size
          · rw [ofBytes, if_pos large]
            exact .large found large
          · have small := Nat.le_of_not_lt large
            cases read : String.fromUTF8? bytes with
            | none =>
                rw [ofBytes, if_neg large, read]
                exact .garbled found small ((Environment.fromUTF8?_eq_none_iff bytes).mp read)
            | some text =>
                obtain rfl := Environment.toUTF8_of_fromUTF8? read
                rw [ofBytes_toUTF8 small]
                exact .text found small

theorem Stored.ofFile_eq {named : Option String} {found : Except ConfigError Settings}
    (stored : Stored files named found) : ofFile files named = found := by
  cases stored with
  | standard => rfl
  | unread unread => exact ofFile_of_error unread
  | large found large => rw [ofFile_of_ok found, ofBytes, if_pos large]
  | garbled found small garbled =>
      rw [ofFile_of_ok found, ofBytes, if_neg (Nat.not_lt_of_le small),
        (Environment.fromUTF8?_eq_none_iff _).mpr garbled]
  | text found small => rw [ofFile_of_ok found, ofBytes_toUTF8 small]

/-! ## Outcomes -/

inductive Loaded (files : FileSystem) (env : Environment) (path : Option String) :
    Except ConfigError Settings → Prop
  /-- A fault of a variable comes before anything about files. -/
  | misled {reason : Invalid} (fault : Overrides.Given env (.error reason)) :
      Loaded files env path (.error (.invalid reason))
  /-- The file of the caller, or else that of the variable, has a fault. -/
  | file {overrides : Overrides} {cause : ConfigError} (given : Overrides.Given env (.ok overrides))
      (fault : Stored files (path <|> overrides.path) (.error cause)) :
      Loaded files env path (.error cause)
  /-- Only the settings that both together say are checked. -/
  | merged {overrides : Overrides} {stored : Settings}
      (given : Overrides.Given env (.ok overrides))
      (found : Stored files (path <|> overrides.path) (.ok stored)) :
      Loaded files env path
        ({ stored with
            apiUrl := overrides.apiUrl.getD stored.apiUrl
            requestTimeoutSecs :=
              overrides.requestTimeoutSecs.getD stored.requestTimeoutSecs : Settings
          }.validated.mapError .invalid)

theorem load_of_error {env : Environment} {reason : Invalid} (path : Option String)
    (fault : Overrides.read env = .error reason) :
    load files env path = .error (.invalid reason) := by
  rw [load, fault]
  rfl

theorem load_of_ok {env : Environment} {overrides : Overrides} (path : Option String)
    (given : Overrides.read env = .ok overrides) :
    load files env path = (ofFile files (path <|> overrides.path)).bind fun stored =>
      (overrides.apply stored).validated.mapError .invalid := by
  rw [load, given]
  rfl

theorem load_of_ofFile {env : Environment} {path : Option String} {overrides : Overrides}
    {stored : Settings} (given : Overrides.read env = .ok overrides)
    (found : ofFile files (path <|> overrides.path) = .ok stored) :
    load files env path = (overrides.apply stored).validated.mapError .invalid := by
  rw [load_of_ok path given, found]
  dsimp only [Except.bind]

theorem loaded_load (files : FileSystem) (env : Environment) (path : Option String) :
    Loaded files env path (load files env path) := by
  have given := Overrides.given_read env
  cases read : Overrides.read env with
  | error reason =>
      rw [read] at given
      rw [load_of_error path read]
      exact .misled given
  | ok overrides =>
      rw [read] at given
      have stored := stored_ofFile files (path <|> overrides.path)
      cases found : ofFile files (path <|> overrides.path) with
      | error cause =>
          rw [load_of_ok path read, found]
          exact .file given (found ▸ stored)
      | ok settings =>
          rw [load_of_ofFile read found]
          rw [found] at stored
          exact Loaded.merged given stored

theorem Loaded.load_eq {env : Environment} {path : Option String}
    {outcome : Except ConfigError Settings} (loaded : Loaded files env path outcome) :
    load files env path = outcome := by
  cases loaded with
  | misled fault => exact load_of_error path fault.read_eq
  | file given fault =>
      rw [load_of_ok path given.read_eq, fault.ofFile_eq]
      rfl
  | merged given found =>
      exact load_of_ofFile given.read_eq found.ofFile_eq

/-! ## What does not count -/

inductive Names (env : Environment) : Option String → String → Prop
  | caller (name : String) : Names env (some name) name
  | variable {name : String} (holds : Holds env configPath (.ok (some name))) : Names env none name

/-- Settings that differ at most in what the variables override. -/
structure Alike (env : Environment) (s t : Settings) : Prop where
  apiUrl : env Environment.apiUrl = none → s.apiUrl = t.apiUrl
  requestTimeout : env timeoutSeconds = none → s.requestTimeoutSecs = t.requestTimeoutSecs
  connectTimeout : s.connectTimeoutSecs = t.connectTimeoutSecs
  layout : s.layout = t.layout

inductive AlikeIn (env : Environment) (files others : FileSystem) (name : String) : Prop
  | same (same : ofFile others (some name) = ofFile files (some name)) :
      AlikeIn env files others name
  | overridden {s t : Settings} (old : ofFile files (some name) = .ok s)
      (new : ofFile others (some name) = .ok t) (alike : Alike env s t) :
      AlikeIn env files others name

theorem eq_none_of_holds {env : Environment} {name : String} (holds : Holds env name (.ok none)) :
    env name = none := by
  cases holds with
  | unset absent => exact absent

/-- Nothing is overridden by variables that are not set. -/
theorem Alike.apply_eq {env : Environment} {s t : Settings} (alike : Alike env s t)
    {overrides : Overrides} (given : Overrides.Given env (.ok overrides)) :
    overrides.apply s = overrides.apply t := by
  cases given with
  | @all path url value named addressed timed =>
      have urls : url.getD s.apiUrl = url.getD t.apiUrl := by
        cases url with
        | none => exact alike.apiUrl (eq_none_of_holds addressed)
        | some _ => rfl
      have timeouts : value.getD s.requestTimeoutSecs = value.getD t.requestTimeoutSecs := by
        cases timed with
        | unset holds => exact alike.requestTimeout (eq_none_of_holds holds)
        | positive _ _ _ => rfl
      rw [Overrides.apply, Overrides.apply, urls, timeouts, alike.connectTimeout, alike.layout]

theorem names_of_given {env : Environment} {path : Option String} {name : String}
    {overrides : Overrides} (given : Overrides.Given env (.ok overrides))
    (named : (path <|> overrides.path) = some name) : Names env path name := by
  cases given with
  | all holds _ _ =>
      cases path with
      | none =>
          obtain rfl : _ = some name := named
          exact .variable holds
      | some _ =>
          cases named
          exact .caller name

structure Loading (files : FileSystem) (env : Environment) (path : Option String) : Prop where
  outcome : ∀ result, load files env path = result ↔ Loaded files env path result
  /-- Other files do not count, nor does what the variables override in the one that is read. -/
  overridden : ∀ others : FileSystem,
    (∀ name, Names env path name → AlikeIn env files others name) →
    load others env path = load files env path
  /-- Beside the file of the caller, the variable counts only for its faults. -/
  named : ∀ name, path = some name → ∀ other : Environment,
    (∀ key, key ≠ configPath → other key = env key) →
    (∃ found, Holds env configPath (.ok found)) → (∃ found, Holds other configPath (.ok found)) →
    load files other path = load files env path
  /-- Without variables, the text of the file is all that counts. -/
  bare : ∀ name text, path = some name → env configPath = none →
    env Environment.apiUrl = none → env timeoutSeconds = none →
    files name = .ok text.toUTF8 → text.toUTF8.size ≤ sizeLimit →
    load files env path = parse text

theorem load_overridden {env : Environment} {path : Option String} {others : FileSystem}
    (alike : ∀ name, Names env path name → AlikeIn env files others name) :
    load others env path = load files env path := by
  have given := Overrides.given_read env
  cases read : Overrides.read env with
  | error reason => rw [load_of_error path read, load_of_error path read]
  | ok overrides =>
      rw [read] at given
      cases named : path <|> overrides.path with
      | none => rw [load_of_ok path read, load_of_ok path read, named, ofFile, ofFile]
      | some name =>
          cases alike name (names_of_given given named) with
          | same same => rw [load_of_ok path read, load_of_ok path read, named, same]
          | overridden old new alike =>
              rw [← named] at old new
              rw [load_of_ofFile read old, load_of_ofFile read new, alike.apply_eq given]

/-- Another path of the file leaves the other variables as they are. -/
theorem given_renamed {env other : Environment} {found path : Option String}
    {outcome : Except Invalid Overrides}
    (same : ∀ key, key ≠ configPath → other key = env key)
    (sound : Holds env configPath (.ok found)) (holds : Holds other configPath (.ok path))
    (given : Overrides.Given env outcome) :
    Overrides.Given other (outcome.map fun overrides => { overrides with path }) := by
  have url := same Environment.apiUrl (by decide)
  have timeout := same timeoutSeconds (by decide)
  cases given with
  | path fault =>
      have clash := sound.filled_eq.symm.trans fault.filled_eq
      cases clash
  | apiUrl _ fault => exact .apiUrl holds (fault.congr url)
  | timeout _ addressed fault => exact .timeout holds (addressed.congr url) (fault.congr timeout)
  | all _ addressed timed => exact .all holds (addressed.congr url) (timed.congr timeout)

theorem load_named {env other : Environment} (name : String)
    (same : ∀ key, key ≠ configPath → other key = env key)
    (sound : ∃ found, Holds env configPath (.ok found))
    (soundToo : ∃ found, Holds other configPath (.ok found)) :
    load files other (some name) = load files env (some name) := by
  obtain ⟨found, holds⟩ := sound
  obtain ⟨path, holdsToo⟩ := soundToo
  have renamed := given_renamed same holds holdsToo (Overrides.given_read env)
  cases read : Overrides.read env with
  | error reason =>
      rw [read] at renamed
      rw [load_of_error _ read, load_of_error _ renamed.read_eq]
  | ok overrides =>
      rw [read] at renamed
      rw [load_of_ok _ read, load_of_ok _ renamed.read_eq]
      rfl

theorem load_bare {env : Environment} {name text : String} (noPath : env configPath = none)
    (noUrl : env Environment.apiUrl = none) (noTimeout : env timeoutSeconds = none)
    (found : files name = .ok text.toUTF8) (small : text.toUTF8.size ≤ sizeLimit) :
    load files env (some name) = parse text := by
  have given : Overrides.Given env (.ok {}) :=
    .all (.unset noPath) (.unset noUrl) (.unset (.unset noTimeout))
  have stored : ofFile files (some name) = Settings.read text := (Stored.text found small).ofFile_eq
  rw [load_of_ok _ given.read_eq]
  change (ofFile files (some name)).bind _ = _
  rw [stored]
  rfl

/-- Loading is settled by the variables and the one file that they or the caller name. -/
theorem loading_of_variables_and_file (files : FileSystem) (env : Environment)
    (path : Option String) : Loading files env path where
  outcome := by
    intro result
    constructor
    · rintro rfl
      exact loaded_load files env path
    · exact Loaded.load_eq
  overridden := fun _ alike => load_overridden alike
  named := by
    rintro name rfl other same sound soundToo
    exact load_named name same sound soundToo
  bare := by
    rintro name text rfl noPath noUrl noTimeout found small
    exact load_bare noPath noUrl noTimeout found small

def overriding : Environment := fun key =>
  if key = Environment.apiUrl then some " http://[::1]/ ".toUTF8
  else if key = timeoutSeconds then some "7".toUTF8
  else none

def single (text : String) : FileSystem := fun name =>
  if name = "c.toml" then .ok text.toUTF8 else .error .missing

/-- What the variables say counts in place of what the file says, valid or not, and the rest of the
file counts with it; without variables, the file counts as it is read. -/
theorem loading_of_loopback :
    Loaded (single "api_url = \"nowhere\"\nconnect_timeout_secs = 3") overriding (some "c.toml")
        (.ok { loopback with requestTimeoutSecs := 7, connectTimeoutSecs := 3 }) ∧
      load (single "request_timeout_secs = 0\nconnect_timeout_secs = 3") overriding
          (some "c.toml") =
        .ok { loopback with requestTimeoutSecs := 7, connectTimeoutSecs := 3 } ∧
      load (single "api_url = \"http://[::1]/\"") (fun _ => none) (some "c.toml") =
        .ok loopback := by
  have loaded : load (single "api_url = \"nowhere\"\nconnect_timeout_secs = 3") overriding
      (some "c.toml") = .ok { loopback with requestTimeoutSecs := 7, connectTimeoutSecs := 3 } := by
    decide +kernel
  refine ⟨?_, ?_, ?_⟩
  · exact ((loading_of_variables_and_file _ _ _).outcome _).mp loaded
  · rw [← loaded]
    refine (loading_of_variables_and_file _ overriding _).overridden _ ?_
    rintro name ⟨⟩
    refine .overridden (s := { apiUrl := "nowhere", connectTimeoutSecs := 3 })
      (t := { requestTimeoutSecs := 0, connectTimeoutSecs := 3 }) ?_ ?_ ?_
    · decide +kernel
    · decide +kernel
    · exact ⟨nofun, nofun, rfl, rfl⟩
  · have parsed : parse "api_url = \"http://[::1]/\"" = .ok loopback := by decide +kernel
    rw [← parsed]
    exact (loading_of_variables_and_file _ _ _).bare _ _ rfl rfl rfl rfl rfl (by decide)

end PartnerRecords.Settings
