import PartnerRecords.Config.Environment
import PartnerRecords.Proofs.Json.Record

/-!
# Timeouts of documents

A document that sets the timeout describes what it describes without, but for the timeout; and one
whose timeout is no number of 64 bits describes nothing.
-/

namespace PartnerRecords

open Json (Tree)

/-! ## Trees of documents -/

namespace Toml.Value

theorem memberTreesAfter_eq (done : List (Option String × Tree))
    (members : List (String × Toml.Value)) :
    memberTreesAfter done members =
      done.reverse ++ members.map fun member => (some member.1, member.2.tree) := by
  induction members generalizing done with
  | nil => simp [memberTreesAfter]
  | cons member rest ih =>
      obtain ⟨name, value⟩ := member
      simp [memberTreesAfter, ih]

theorem tree_table (members : List (String × Toml.Value)) :
    (table members).tree = .object (members.map fun member => (some member.1, member.2.tree)) := by
  rw [tree, memberTreesAfter_eq, List.reverse_nil, List.nil_append]

theorem whole?_tree_iff (value : Toml.Value) (size : Int) :
    value.tree.whole? = some size ↔
      ∃ numeral : Numeral, value = .scalar (.integer numeral) ∧ numeral.value? = some size := by
  constructor
  · intro read
    cases value with
    | scalar scalar =>
        cases scalar with
        | integer numeral =>
            refine ⟨numeral, rfl, ?_⟩
            rw [tree] at read
            cases known : numeral.value? with
            | none =>
                rw [known] at read
                cases read
            | some found =>
                rw [known] at read
                cases read
                rfl
        | _ => cases read
    | text _ => cases read
    | list _ =>
        rw [tree] at read
        cases read
    | table _ =>
        rw [tree] at read
        cases read
  · rintro ⟨numeral, rfl, known⟩
    rw [tree, known]
    rfl

def Numbers (value : Toml.Value) (n : Nat) : Prop :=
  ∃ numeral : Numeral, value = .scalar (.integer numeral) ∧ numeral.value? = some (n : Int)

def IsWord (value : Toml.Value) : Prop :=
  ∃ n < Text.wordLimit, value.Numbers n

theorem natural?_tree_iff (value : Toml.Value) (limit n : Nat) :
    Tree.natural? limit value.tree = some n ↔ value.Numbers n ∧ n < limit := by
  rw [Tree.natural?, Option.bind_eq_some_iff]
  constructor
  · rintro ⟨size, whole, fits⟩
    split at fits
    · next bounds =>
        cases fits
        obtain ⟨numeral, rfl, known⟩ := (whole?_tree_iff value size).mp whole
        exact ⟨⟨numeral, rfl, by rw [known, Int.toNat_of_nonneg bounds.1]⟩, by omega⟩
    · cases fits
  · rintro ⟨numbers, small⟩
    have bounds : (0 : Int) ≤ n ∧ (n : Int) < limit := by omega
    exact ⟨n, (whole?_tree_iff value n).mpr numbers,
      (if_pos bounds).trans (congrArg some (Int.toNat_natCast n))⟩

end Toml.Value

/-! ## Members -/

namespace Settings

def entry (member : String × Toml.Value) : Option String × Tree :=
  cutMember (some member.1, member.2.tree)

theorem fst_entry (member : String × Toml.Value) : (entry member).1 = some member.1 := by
  unfold entry cutMember
  split <;> rfl

theorem ofToml?_table (members : List (String × Toml.Value)) :
    ofToml? (.table members) = ofTree? (.object (members.map entry)) := by
  rw [ofToml?, Toml.Value.tree_table]
  dsimp only
  rw [List.map_map]
  rfl

def timeoutMember (value? : Option Toml.Value) : List (String × Toml.Value) :=
  value?.toList.map fun value => ("request_timeout_secs", value)

section Members

variable {front back : List (String × Toml.Value)} (value? : Option Toml.Value)

theorem perm_timeoutMember :
    ((front ++ timeoutMember value? ++ back).map entry).Perm
      ((timeoutMember value?).map entry ++ (front ++ back).map entry) := by
  rw [← List.map_append]
  refine List.Perm.map entry ?_
  rw [← List.append_assoc]
  exact List.perm_append_comm.append_right back

section Absent

variable (absent : ∀ member ∈ front ++ back, member.1 ≠ "request_timeout_secs")

include absent

theorem absent_entry : ∀ member ∈ (front ++ back).map entry,
    member.1 ≠ some "request_timeout_secs" := by
  intro member there
  obtain ⟨item, present, rfl⟩ := List.mem_map.mp there
  rw [fst_entry]
  exact fun same => absent item present (Option.some.inj same)

theorem only?_timeout :
    Tree.only? ((front ++ timeoutMember value? ++ back).map entry) "request_timeout_secs" =
      some (value?.map Toml.Value.tree) := by
  rw [Tree.only?_perm (perm_timeoutMember value?)]
  cases value? with
  | none => exact Tree.only?_of_absent (absent_entry absent)
  | some value => exact Tree.only?_cons_self _ (absent_entry absent)

end Absent

theorem only?_other {name : String} (other : "request_timeout_secs" ≠ name) :
    Tree.only? ((front ++ timeoutMember value? ++ back).map entry) name =
      Tree.only? ((front ++ back).map entry) name := by
  rw [Tree.only?_perm (perm_timeoutMember value?)]
  cases value? with
  | none => rfl
  | some value => exact Tree.only?_cons_of_ne other _

theorem all_timeoutMember {test : Option String × Tree → Bool}
    (known : ∀ value, test (some "request_timeout_secs", value) = true) :
    ((front ++ timeoutMember value? ++ back).map entry).all test =
      ((front ++ back).map entry).all test := by
  rw [(perm_timeoutMember value?).all_eq, List.all_append]
  cases value? with
  | none => rfl
  | some value =>
      have first : test (entry ("request_timeout_secs", value)) = true := known value.tree
      rw [timeoutMember, Option.toList_some, List.map_singleton, List.map_singleton, List.all_cons,
        first]
      rfl

end Members

/-- The fields of a document with and without a timeout are found together, but for the timeout. -/
theorem exists_fields {front back : List (String × Toml.Value)}
    (absent : ∀ member ∈ front ++ back, member.1 ≠ "request_timeout_secs") :
    ∃ others : Option (Option Tree × Option Tree × Option Tree), ∀ value?,
      (Tree.object ((front ++ timeoutMember value? ++ back).map entry)).fields? fieldNames false =
        others.map fun (url, connect, window) =>
          [url, value?.map Toml.Value.tree, connect, window] := by
  have known : ∀ value : Tree, (fun member : Option String × Tree =>
      member.1.any fun name => false || fieldNames.contains name)
        (some "request_timeout_secs", value) = true := fun _ => rfl
  generalize base : (front ++ back).map entry = members
  refine ⟨if members.all fun member => member.1.any fun name => false || fieldNames.contains name
    then do return (← Tree.only? members "api_url", ← Tree.only? members "connect_timeout_secs",
      ← Tree.only? members "bpartner_window") else none, fun value? => ?_⟩
  rw [Tree.fields?, all_timeoutMember value? known, base]
  split
  · simp only [fieldNames, List.mapM_cons, List.mapM_nil, only?_timeout value? absent,
      @only?_other front back value? "api_url" (by decide),
      @only?_other front back value? "connect_timeout_secs" (by decide),
      @only?_other front back value? "bpartner_window" (by decide), base]
    cases Tree.only? members "api_url" with
    | none => rfl
    | some url =>
        cases Tree.only? members "connect_timeout_secs" with
        | none => rfl
        | some connect => cases Tree.only? members "bpartner_window" <;> rfl
  · rfl

/-- What a document says beside the timeout is read as if it said nothing of that. -/
theorem ofToml?_timed {front back : List (String × Toml.Value)}
    (absent : ∀ member ∈ front ++ back, member.1 ≠ "request_timeout_secs")
    (value? : Option Toml.Value) :
    ofToml? (.table (front ++ timeoutMember value? ++ back)) =
      (ofToml? (.table (front ++ timeoutMember none ++ back))).bind fun s =>
        (Tree.orDefault ({} : Settings).requestTimeoutSecs (Tree.natural? Text.wordLimit)
          (value?.map Toml.Value.tree)).map fun seconds =>
            { s with requestTimeoutSecs := seconds } := by
  obtain ⟨others, fields⟩ := exists_fields absent
  rw [ofToml?_table, ofToml?_table, ofTree?, ofTree?, fields value?, fields none]
  cases others with
  | none => rfl
  | some found =>
      obtain ⟨url, connect, window⟩ := found
      dsimp only [Option.map_some, bind, Option.bind]
      generalize Tree.orDefault _ _ url = url
      generalize Tree.orDefault _ _ connect = connect
      generalize Tree.orDefault _ _ window = window
      cases url <;> cases connect <;> cases window <;>
        cases Tree.orDefault 30 _ (value?.map Toml.Value.tree) <;> rfl

section Timeouts

variable {front back : List (String × Toml.Value)}
variable (absent : ∀ member ∈ front ++ back, member.1 ≠ "request_timeout_secs")

include absent

theorem ofToml?_numbers {value : Toml.Value} {n : Nat} (numbers : value.Numbers n)
    (small : n < Text.wordLimit) :
    ofToml? (.table (front ++ timeoutMember (some value) ++ back)) =
      (ofToml? (.table (front ++ timeoutMember none ++ back))).map fun s =>
        { s with requestTimeoutSecs := n } := by
  have read := (Toml.Value.natural?_tree_iff value Text.wordLimit n).mpr ⟨numbers, small⟩
  rw [ofToml?_timed absent, Option.map_some, Tree.orDefault, read]
  cases ofToml? (.table (front ++ timeoutMember none ++ back)) <;> rfl

theorem ofToml?_of_other {value : Toml.Value} (other : ¬ value.IsWord) :
    ofToml? (.table (front ++ timeoutMember (some value) ++ back)) = none := by
  have unread : Tree.natural? Text.wordLimit value.tree = none := by
    cases read : Tree.natural? Text.wordLimit value.tree with
    | none => rfl
    | some n =>
        obtain ⟨numbers, small⟩ := (Toml.Value.natural?_tree_iff value Text.wordLimit n).mp read
        exact absurd ⟨n, small, numbers⟩ other
  rw [ofToml?_timed absent, Option.map_some, Tree.orDefault, unread]
  cases ofToml? (.table (front ++ timeoutMember none ++ back)) <;> rfl

/-- A document without a timeout, or with one that can be read, makes settings of the rest. -/
theorem exists_ofToml? {old? : Option Toml.Value}
    (readable : ∀ old, old? = some old → old.IsWord) :
    ∃ seconds, ofToml? (.table (front ++ timeoutMember old? ++ back)) =
      (ofToml? (.table (front ++ timeoutMember none ++ back))).map fun s =>
        { s with requestTimeoutSecs := seconds } := by
  cases old? with
  | none =>
      refine ⟨({} : Settings).requestTimeoutSecs, (ofToml?_timed absent none).trans ?_⟩
      cases ofToml? (.table (front ++ timeoutMember none ++ back)) <;> rfl
  | some old =>
      obtain ⟨n, small, numbers⟩ := readable old rfl
      exact ⟨n, ofToml?_numbers absent numbers small⟩

end Timeouts

/-! ## Documents with another timeout -/

/-- The second document has the number as its timeout, and differs from the first in nothing but
the timeout, which may be missing there. -/
inductive Retimed (value : Nat) (old? : Option Toml.Value) : Toml.Value → Toml.Value → Prop
  | retimed {front back : List (String × Toml.Value)} {new : Toml.Value}
      (absent : ∀ member ∈ front ++ back, member.1 ≠ "request_timeout_secs")
      (numbers : new.Numbers value) :
      Retimed value old? (.table (front ++ timeoutMember old? ++ back))
        (.table (front ++ timeoutMember (some new) ++ back))

end Settings

end PartnerRecords
