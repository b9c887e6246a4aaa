import Mathlib.Data.List.TakeWhile
import PartnerRecords.Proofs.Config.Validity

/-!
# Variables

A variable that is set counts with the text between its blanks, and one of them has to spell a
number. The variables are looked at in their order, and the first fault is the fault of all.
-/

namespace PartnerRecords

/-! ## Blanks -/

namespace Text

/-- What lies between the blanks at the ends of a text. -/
structure Core (text core : List Char) : Prop where
  between : ∃ before behind, text = before ++ core ++ behind ∧
    (∀ c ∈ before, isBlank c = true) ∧ ∀ c ∈ behind, isBlank c = true
  begins : ∀ c, core.head? = some c → isBlank c = false
  ends : ∀ c, core.getLast? = some c → isBlank c = false

theorem dropWhile_blanks {before : List Char} (blank : ∀ c ∈ before, isBlank c = true)
    {core : List Char} (begins : ∀ c, core.head? = some c → isBlank c = false) :
    (before ++ core).dropWhile isBlank = core := by
  rw [List.dropWhile_append_of_pos blank]
  cases core with
  | nil => rfl
  | cons c rest => exact List.dropWhile_cons_of_neg (by simp [begins c rfl])

theorem not_isBlank_of_dropWhile {cs : List Char} {c : Char}
    (head : (cs.dropWhile isBlank).head? = some c) : isBlank c = false := by
  have kept := List.head?_dropWhile_not isBlank cs
  rw [head] at kept
  exact kept

theorem core_strip (text : List Char) : Core text (strip text) := by
  have front := List.takeWhile_append_dropWhile (p := isBlank) (l := text)
  have back : strip text ++ ((text.dropWhile isBlank).reverse.takeWhile isBlank).reverse =
      text.dropWhile isBlank := by
    rw [strip, ← List.reverse_append, List.takeWhile_append_dropWhile, List.reverse_reverse]
  constructor
  · refine ⟨text.takeWhile isBlank, ((text.dropWhile isBlank).reverse.takeWhile isBlank).reverse,
      ?_, ?_, ?_⟩
    · rw [List.append_assoc, back, front]
    · intro c member
      exact List.mem_takeWhile_imp member
    · intro c member
      exact List.mem_takeWhile_imp (List.mem_reverse.mp member)
  · intro c head
    have whole : (text.dropWhile isBlank).head? = some c := by
      rw [← back, List.head?_append, head]
      rfl
    exact not_isBlank_of_dropWhile whole
  · intro c last
    rw [strip, List.getLast?_reverse] at last
    exact not_isBlank_of_dropWhile last

/-- A text has one core. -/
theorem Core.eq_strip {text core : List Char} (is : Core text core) : core = strip text := by
  obtain ⟨before, behind, rfl, blankBefore, blankBehind⟩ := is.between
  cases core with
  | nil =>
      have blank : ((before ++ []) ++ behind).all isBlank = true := by
        rw [List.append_nil, List.all_append, List.all_eq_true.mpr blankBefore,
          List.all_eq_true.mpr blankBehind]
        rfl
      exact ((strip_eq_nil _).mpr blank).symm
  | cons c rest =>
      have front : (before ++ (c :: rest ++ behind)).dropWhile isBlank = c :: rest ++ behind :=
        dropWhile_blanks blankBefore is.begins
      have back :
          (behind.reverse ++ (c :: rest).reverse).dropWhile isBlank = (c :: rest).reverse := by
        refine dropWhile_blanks (fun c member => ?_) (fun c head => ?_)
        · exact blankBehind c (List.mem_reverse.mp member)
        · rw [List.head?_reverse] at head
          exact is.ends c head
      rw [strip, List.append_assoc, front, List.reverse_append, back, List.reverse_reverse]

/-- Only a text of blanks has an empty core. -/
theorem trim_eq_empty_iff (s : String) : trim s = "" ↔ isBlankText s = true := by
  rw [trim, isBlankText, ← strip_eq_nil, ← String.ofList_nil]
  exact ⟨fun same => String.ofList_injective same, congrArg String.ofList⟩

end Text

namespace Environment

/-! ## Texts -/

/-- What a variable holds: nothing if it is not set, else the core of its text; or its fault. -/
inductive Holds (env : Environment) (name : String) : Except Invalid (Option String) → Prop
  | unset (absent : env name = none) : Holds env name (.ok none)
  | garbled {bytes : ByteArray} (given : env name = some bytes)
      (garbled : ∀ s : String, s.toUTF8 ≠ bytes) : Holds env name (.error (.variableNotUtf8 name))
  | blank {s : String} (given : env name = some s.toUTF8)
      (blank : ∀ c ∈ s.toList, Text.isBlank c = true) :
      Holds env name (.error (.variableEmpty name))
  | text {s core : String} (given : env name = some s.toUTF8)
      (is : Text.Core s.toList core.toList) (shown : core ≠ "") : Holds env name (.ok (some core))

theorem fromUTF8?_toUTF8 (s : String) : String.fromUTF8? s.toUTF8 = some s :=
  dif_pos s.isValidUTF8

theorem toUTF8_of_fromUTF8? {bytes : ByteArray} {s : String}
    (read : String.fromUTF8? bytes = some s) : s.toUTF8 = bytes := by
  unfold String.fromUTF8? at read
  split at read
  · cases read
    rfl
  · cases read

theorem fromUTF8?_eq_none_iff (bytes : ByteArray) :
    String.fromUTF8? bytes = none ↔ ∀ s : String, s.toUTF8 ≠ bytes := by
  constructor
  · rintro unread s rfl
    rw [fromUTF8?_toUTF8] at unread
    cases unread
  · intro garbled
    cases read : String.fromUTF8? bytes with
    | none => rfl
    | some s => exact absurd (toUTF8_of_fromUTF8? read) (garbled s)

variable {env : Environment} {name : String}

theorem filled_of_none (absent : env name = none) : env.filled name = .ok none := by
  rw [filled, Environment.text, absent]
  rfl

theorem filled_of_garbled {bytes : ByteArray} (given : env name = some bytes)
    (garbled : ∀ s : String, s.toUTF8 ≠ bytes) :
    env.filled name = .error (.variableNotUtf8 name) := by
  rw [filled, Environment.text, given]
  simp only [(fromUTF8?_eq_none_iff bytes).mpr garbled]
  rfl

theorem filled_of_text {s : String} (given : env name = some s.toUTF8) :
    env.filled name =
      if Text.isBlankText s then .error (.variableEmpty name) else .ok (some (Text.trim s)) := by
  rw [filled, Environment.text, given]
  simp only [fromUTF8?_toUTF8]
  rfl

theorem holds_filled (env : Environment) (name : String) : Holds env name (env.filled name) := by
  cases given : env name with
  | none =>
      rw [filled_of_none given]
      exact .unset given
  | some bytes =>
      cases read : String.fromUTF8? bytes with
      | none =>
          have garbled := (fromUTF8?_eq_none_iff bytes).mp read
          rw [filled_of_garbled given garbled]
          exact .garbled given garbled
      | some s =>
          rw [← toUTF8_of_fromUTF8? read] at given
          rw [filled_of_text given]
          split
          · next blank => exact .blank given (List.all_eq_true.mp blank)
          · next shown =>
              refine .text given ?_ (mt (Text.trim_eq_empty_iff s).mp shown)
              rw [Text.trim, String.toList_ofList]
              exact Text.core_strip s.toList

/-- What a variable holds is what is read of it. -/
theorem Holds.filled_eq {held : Except Invalid (Option String)} (holds : Holds env name held) :
    env.filled name = held := by
  cases holds with
  | unset absent => exact filled_of_none absent
  | garbled given garbled => exact filled_of_garbled given garbled
  | blank given blank =>
      rw [filled_of_text given]
      exact if_pos (List.all_eq_true.mpr blank)
  | @text s core given is shown =>
      obtain rfl : core = Text.trim s := by
        rw [Text.trim, ← is.eq_strip, String.ofList_toList]
      rw [filled_of_text given, if_neg (mt (Text.trim_eq_empty_iff s).mpr shown)]

theorem Holds.congr {other : Environment} {held : Except Invalid (Option String)}
    (holds : Holds env name held) (same : other name = env name) : Holds other name held := by
  cases holds with
  | unset absent => exact .unset (same.trans absent)
  | garbled given garbled => exact .garbled (same.trans given) garbled
  | blank given blank => exact .blank (same.trans given) blank
  | text given is shown => exact .text (same.trans given) is shown

/-! ## Numbers -/

inductive Spells : String → Nat → Prop
  | plain {digits : List Char} (nonempty : digits ≠ []) (all : ∀ d ∈ digits, d.isDigit = true) :
      Spells (String.ofList digits) (Text.valueIn 10 digits)
  | signed {digits : List Char} (nonempty : digits ≠ []) (all : ∀ d ∈ digits, d.isDigit = true) :
      Spells (String.ofList ('+' :: digits)) (Text.valueIn 10 digits)

def digitsOf : List Char → List Char
  | '+' :: rest => rest
  | cs => cs

theorem digitsOf_cases (cs : List Char) : cs = '+' :: digitsOf cs ∨ digitsOf cs = cs := by
  unfold digitsOf
  split
  · exact .inl rfl
  · exact .inr rfl

theorem digitsOf_of_all {digits : List Char} (all : ∀ d ∈ digits, d.isDigit = true) :
    digitsOf digits = digits := by
  rcases digitsOf_cases digits with signed | same
  · rw [signed] at all
    exact absurd (all '+' List.mem_cons_self) (by decide)
  · exact same

theorem spells_iff (s : String) (value : Nat) :
    Spells s value ↔ digitsOf s.toList ≠ [] ∧ (∀ d ∈ digitsOf s.toList, d.isDigit = true) ∧
      Text.valueIn 10 (digitsOf s.toList) = value := by
  constructor
  · intro spells
    cases spells with
    | plain nonempty all =>
        rw [String.toList_ofList, digitsOf_of_all all]
        exact ⟨nonempty, all, rfl⟩
    | signed nonempty all =>
        rw [String.toList_ofList]
        exact ⟨nonempty, all, rfl⟩
  · rintro ⟨nonempty, all, rfl⟩
    rcases digitsOf_cases s.toList with signed | same
    · have spells := Spells.signed nonempty all
      rwa [← signed, String.ofList_toList] at spells
    · have spells := Spells.plain nonempty all
      rwa [congrArg String.ofList same, String.ofList_toList] at spells

/-- A text is read as a number if it spells one that fits. -/
theorem word?_eq_some_iff (s : String) (value : Nat) :
    word? s = some value ↔ Spells s value ∧ value < Text.wordLimit := by
  have read : word? s =
      if (digitsOf s.toList).isEmpty || !(digitsOf s.toList).all Char.isDigit then none
      else Text.valueBelow? Text.wordLimit 10 (digitsOf s.toList) := rfl
  rw [read, spells_iff, Text.valueBelow?_eq (by decide) (by decide)]
  split
  · next refused =>
      refine iff_of_false nofun ?_
      rintro ⟨⟨nonempty, all, -⟩, -⟩
      rw [Bool.or_eq_true, List.isEmpty_iff, Bool.not_eq_true', ← Bool.not_eq_true,
        List.all_eq_true] at refused
      exact refused.elim nonempty (· all)
  · next accepted =>
      rw [Bool.or_eq_true, List.isEmpty_iff, Bool.not_eq_true', ← Bool.not_eq_true,
        List.all_eq_true, not_or, not_not] at accepted
      obtain ⟨nonempty, all⟩ := accepted
      split
      · next fits =>
          rw [Option.some.injEq]
          constructor
          · rintro rfl
            exact ⟨⟨nonempty, all, rfl⟩, fits⟩
          · rintro ⟨⟨-, -, same⟩, -⟩
            exact same
      · next large =>
          refine iff_of_false nofun ?_
          rintro ⟨⟨-, -, rfl⟩, fits⟩
          exact large fits

theorem word?_eq_none_iff (s : String) :
    word? s = none ↔ ∀ value, Spells s value → Text.wordLimit ≤ value := by
  constructor
  · intro unread value spells
    by_contra small
    have read := (word?_eq_some_iff s value).mpr ⟨spells, Nat.lt_of_not_le small⟩
    rw [unread] at read
    cases read
  · intro large
    cases read : word? s with
    | none => rfl
    | some value =>
        obtain ⟨spells, small⟩ := (word?_eq_some_iff s value).mp read
        exact absurd small (Nat.not_lt_of_le (large value spells))

inductive Timed (env : Environment) : Except Invalid (Option Nat) → Prop
  | unset (holds : Holds env timeoutSeconds (.ok none)) : Timed env (.ok none)
  | fault {reason : Invalid} (holds : Holds env timeoutSeconds (.error reason)) :
      Timed env (.error reason)
  | other {text : String} (holds : Holds env timeoutSeconds (.ok (some text)))
      (other : ∀ value, Spells text value → Text.wordLimit ≤ value) :
      Timed env (.error (.variableNotSeconds timeoutSeconds))
  | zero {text : String} (holds : Holds env timeoutSeconds (.ok (some text)))
      (spells : Spells text 0) : Timed env (.error (.variableZero timeoutSeconds))
  | positive {text : String} {value : Nat} (holds : Holds env timeoutSeconds (.ok (some text)))
      (spells : Spells text (value + 1)) (small : value + 1 < Text.wordLimit) :
      Timed env (.ok (some (value + 1)))

def timeout (env : Environment) : Except Invalid (Option Nat) := do
  match ← env.filled timeoutSeconds with
  | none => return none
  | some s => return some (← seconds timeoutSeconds s)

theorem timed_timeout (env : Environment) : Timed env env.timeout := by
  have holds := holds_filled env timeoutSeconds
  unfold timeout
  cases filled : env.filled timeoutSeconds with
  | error reason => exact .fault (filled ▸ holds)
  | ok found =>
      rw [filled] at holds
      cases found with
      | none => exact .unset holds
      | some text =>
          dsimp only [bind, Except.bind]
          cases read : word? text with
          | none =>
              rw [seconds, read]
              exact .other holds ((word?_eq_none_iff text).mp read)
          | some value =>
              obtain ⟨spells, small⟩ := (word?_eq_some_iff text value).mp read
              rw [seconds, read]
              cases value with
              | zero => exact .zero holds spells
              | succ value => exact .positive holds spells small

theorem Timed.timeout_eq {env : Environment} {found : Except Invalid (Option Nat)}
    (timed : Timed env found) : env.timeout = found := by
  unfold timeout
  cases timed with
  | unset holds =>
      rw [holds.filled_eq]
      rfl
  | fault holds =>
      rw [holds.filled_eq]
      rfl
  | other holds other =>
      rw [holds.filled_eq]
      dsimp only [bind, Except.bind]
      rw [seconds, (word?_eq_none_iff _).mpr other]
  | zero holds spells =>
      rw [holds.filled_eq]
      dsimp only [bind, Except.bind]
      rw [seconds, (word?_eq_some_iff _ 0).mpr ⟨spells, by decide⟩]
      rfl
  | positive holds spells small =>
      rw [holds.filled_eq]
      dsimp only [bind, Except.bind]
      rw [seconds, (word?_eq_some_iff _ _).mpr ⟨spells, small⟩]
      rfl

theorem Timed.congr {env other : Environment} {found : Except Invalid (Option Nat)}
    (timed : Timed env found) (same : other timeoutSeconds = env timeoutSeconds) :
    Timed other found := by
  cases timed with
  | unset holds => exact .unset (holds.congr same)
  | fault holds => exact .fault (holds.congr same)
  | other holds unread => exact .other (holds.congr same) unread
  | zero holds spells => exact .zero (holds.congr same) spells
  | positive holds spells small => exact .positive (holds.congr same) spells small

end Environment

/-! ## All variables -/

namespace Overrides

open Environment (Holds Timed configPath timeoutSeconds)

/-- What the variables override, or the fault of the first of them that has one. -/
inductive Given (env : Environment) : Except Invalid Overrides → Prop
  | path {reason : Invalid} (fault : Holds env configPath (.error reason)) :
      Given env (.error reason)
  | apiUrl {path : Option String} {reason : Invalid} (named : Holds env configPath (.ok path))
      (fault : Holds env Environment.apiUrl (.error reason)) : Given env (.error reason)
  | timeout {path url : Option String} {reason : Invalid}
      (named : Holds env configPath (.ok path)) (addressed : Holds env Environment.apiUrl (.ok url))
      (fault : Timed env (.error reason)) : Given env (.error reason)
  | all {path url : Option String} {value : Option Nat} (named : Holds env configPath (.ok path))
      (addressed : Holds env Environment.apiUrl (.ok url)) (timed : Timed env (.ok value)) :
      Given env (.ok ⟨path, url, value⟩)

theorem read_eq (env : Environment) :
    read env = (env.filled configPath).bind fun path =>
      (env.filled Environment.apiUrl).bind fun url =>
        env.timeout.map fun value => ⟨path, url, value⟩ := by
  unfold read Environment.timeout
  cases env.filled configPath with
  | error reason => rfl
  | ok path =>
      cases env.filled Environment.apiUrl with
      | error reason => rfl
      | ok url =>
          cases env.filled timeoutSeconds with
          | error reason => rfl
          | ok found =>
              cases found with
              | none => rfl
              | some s =>
                  dsimp only [bind, Except.bind]
                  cases Environment.seconds timeoutSeconds s <;> rfl

theorem given_read (env : Environment) : Given env (read env) := by
  have named := Environment.holds_filled env configPath
  have addressed := Environment.holds_filled env Environment.apiUrl
  have timed := Environment.timed_timeout env
  rw [read_eq]
  cases path : env.filled configPath with
  | error reason => exact .path (path ▸ named)
  | ok path =>
      cases url : env.filled Environment.apiUrl with
      | error reason => exact .apiUrl (path ▸ named) (url ▸ addressed)
      | ok url =>
          cases value : env.timeout with
          | error reason => exact .timeout (path ▸ named) (url ▸ addressed) (value ▸ timed)
          | ok value => exact .all (path ▸ named) (url ▸ addressed) (value ▸ timed)

theorem Given.read_eq {env : Environment} {found : Except Invalid Overrides}
    (given : Given env found) : read env = found := by
  rw [Overrides.read_eq]
  cases given with
  | path fault => rw [fault.filled_eq]; rfl
  | apiUrl named fault => rw [named.filled_eq, fault.filled_eq]; rfl
  | timeout named addressed fault =>
      rw [named.filled_eq, addressed.filled_eq, fault.timeout_eq]
      rfl
  | all named addressed timed =>
      rw [named.filled_eq, addressed.filled_eq, timed.timeout_eq]
      rfl

end Overrides

end PartnerRecords
