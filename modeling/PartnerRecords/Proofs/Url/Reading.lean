import PartnerRecords.Proofs.Config.Validity
import PartnerRecords.Url.Parser

/-!
# Reading web URLs

The text of a web URL has a front, its scheme and its authority, and what follows: path, query and
fragment. The two are read independently of each other, so behind one front anything else may
follow, and scheme and authority remain what they are.
-/

namespace PartnerRecords.Url

/-! ## Runs of characters -/

section Runs

variable {test : Char → Bool} {run rest : List Char}

/-- A run of characters ends where a character stands that does not belong to it. -/
theorem takeWhile_run (same : ∀ c ∈ run, test c = true) (ends : ∀ c ∈ rest.head?, test c = false) :
    (run ++ rest).takeWhile test = run := by
  rw [List.takeWhile_append_of_pos same]
  cases rest with
  | nil => rw [List.takeWhile_nil, List.append_nil]
  | cons c rest => rw [List.takeWhile_cons_of_neg (by simp [ends c rfl]), List.append_nil]

theorem dropWhile_run (same : ∀ c ∈ run, test c = true) (ends : ∀ c ∈ rest.head?, test c = false) :
    (run ++ rest).dropWhile test = rest := by
  rw [List.dropWhile_append_of_pos same]
  cases rest with
  | nil => rfl
  | cons c rest => exact List.dropWhile_cons_of_neg (by simp [ends c rfl])

theorem ends_dropWhile (test : Char → Bool) (cs : List Char) :
    ∀ c ∈ (cs.dropWhile test).head?, test c = false := by
  intro c first
  have ends := List.head?_dropWhile_not test cs
  rw [Option.mem_def.mp first] at ends
  exact ends

theorem exists_run (test : Char → Bool) (cs : List Char) : ∃ run rest, cs = run ++ rest ∧
    (∀ c ∈ run, test c = true) ∧ ∀ c ∈ rest.head?, test c = false :=
  ⟨cs.takeWhile test, cs.dropWhile test, List.takeWhile_append_dropWhile.symm,
    fun _ => List.mem_takeWhile_imp, ends_dropWhile test cs⟩

end Runs

/-! ## Authorities -/

/-- What is read of the text of an authority, and what is left over behind its port. -/
structure AuthorityOf (scheme : String) (cs : List Char) (authority : Authority)
    (ending : List Char) : Prop where
  named : (splitHost false ((splitCredentials cs).getD ([], cs)).2).1 ≠ []
  credentials : (authority.username, authority.password) =
    readCredentials ((splitCredentials cs).getD ([], cs)).1
  host : ∃ host, authority.host = some host ∧
    readSpecialHost (splitHost false ((splitCredentials cs).getD ([], cs)).2).1 = .ok host
  port : readPort scheme ((splitHost false ((splitCredentials cs).getD ([], cs)).2).2.drop 1) =
    .ok (authority.port, ending)

theorem readAuthority_eq_ok_iff {scheme : String} (special : isSpecialScheme scheme = true)
    {cs rest behind : List Char} {authority : Authority} :
    readAuthority scheme cs rest = .ok (authority, behind) ↔
      ∃ ending, AuthorityOf scheme cs authority ending ∧ behind = ending ++ rest := by
  unfold readAuthority
  rw [special]
  by_cases alone : cs = ['@'] ∧ !rest.isEmpty
  · rw [if_pos alone]
    refine iff_of_false nofun ?_
    rintro ⟨ending, ⟨named, -⟩, -⟩
    rw [alone.1] at named
    exact named rfl
  · rw [if_neg alone]
    dsimp only
    by_cases empty : (splitHost false ((splitCredentials cs).getD ([], cs)).2).1 = []
    · rw [if_pos (by rw [empty]; rfl)]
      refine iff_of_false nofun ?_
      rintro ⟨ending, ⟨named, -⟩, -⟩
      exact named empty
    · rw [if_neg (by rw [List.isEmpty_iff]; exact empty), if_pos rfl]
      constructor
      · intro read
        obtain ⟨host, hostRead, read⟩ := bind_eq_ok_iff.mp read
        obtain ⟨⟨port, ending⟩, portRead, read⟩ := bind_eq_ok_iff.mp read
        cases read
        exact ⟨ending, ⟨empty, rfl, ⟨host, rfl, hostRead⟩, portRead⟩, rfl⟩
      · rintro ⟨ending, ⟨named, credentials, ⟨host, hostEq, hostRead⟩, port⟩, rfl⟩
        obtain ⟨username, password, hostToo, portToo⟩ := authority
        cases hostEq
        cases credentials
        exact bind_eq_ok_iff.mpr ⟨host, hostRead, bind_eq_ok_iff.mpr ⟨_, port, rfl⟩⟩

theorem mem_of_mem_splitHost {bracketed : Bool} {cs : List Char} {c : Char}
    (member : c ∈ (splitHost bracketed cs).2) : c ∈ cs := by
  induction cs generalizing bracketed with
  | nil => exact member
  | cons first rest ih =>
      unfold splitHost at member
      split at member
      · exact member
      · exact List.mem_cons_of_mem first (ih member)

theorem mem_of_mem_splitCredentials {cs : List Char} {c : Char}
    (member : c ∈ ((splitCredentials cs).getD ([], cs)).2) : c ∈ cs := by
  unfold splitCredentials at member
  split at member
  · have backwards := List.mem_reverse.mp member
    exact List.mem_reverse.mp ((List.takeWhile_sublist _).mem backwards)
  · exact member

/-- Only a backslash can be left over behind a port. -/
theorem ending_of_readPort {scheme : String} {cs ending : List Char} {port : Option Nat}
    (read : readPort scheme cs = .ok (port, ending)) :
    (∀ c ∈ ending, c ∈ cs) ∧ ∀ c ∈ ending.head?, c = '\\' := by
  unfold readPort at read
  dsimp only at read
  split at read
  · cases read
  · split at read
    · cases read
    · next clean =>
        have left : ending = cs.dropWhile Char.isDigit := by
          split at read <;> cases read <;> rfl
        subst left
        refine ⟨fun c member => (List.dropWhile_sublist _).mem member, fun c first => ?_⟩
        rw [Option.mem_def.mp first] at clean
        simpa using clean

theorem AuthorityOf.ending_eq_nil {scheme : String} {cs ending : List Char} {authority : Authority}
    (is : AuthorityOf scheme cs authority ending) (plain : '\\' ∉ cs) : ending = [] := by
  obtain ⟨members, first⟩ := ending_of_readPort is.port
  cases ending with
  | nil => rfl
  | cons c rest =>
      have found := List.mem_of_mem_drop (members c List.mem_cons_self)
      rw [first c rfl] at found
      exact absurd (mem_of_mem_splitCredentials (mem_of_mem_splitHost found)) plain

/-! ## What follows an authority -/

def isHostChar (c : Char) : Bool :=
  !isSlash true c && c != '?' && c != '#'

/-- Path, query and fragment do not begin with a character of an authority. -/
def Follows (rest : List Char) : Prop :=
  ∀ c ∈ rest.head?, isHostChar c = false

def ofRest (scheme : String) (authority : Authority) (rest : List Char) : Url :=
  finish scheme (some authority) (.segments (readSegments scheme (splitTail rest).1))
    (splitTail rest).2

theorem afterSlashes_append {scheme : String} (special : isSpecialScheme scheme = true)
    {host rest : List Char} (inside : ∀ c ∈ host, isHostChar c = true) (follows : Follows rest)
    {u : Url} :
    afterSlashes scheme (host ++ rest) = .ok u ↔
      ∃ authority, AuthorityOf scheme host authority [] ∧ u = ofRest scheme authority rest := by
  have plain : '\\' ∉ host := by
    intro member
    exact absurd (inside _ member) (by decide)
  unfold afterSlashes
  rw [special]
  change (readAuthority scheme ((host ++ rest).takeWhile isHostChar)
    ((host ++ rest).dropWhile isHostChar) >>= _) = _ ↔ _
  rw [takeWhile_run inside follows, dropWhile_run inside follows]
  constructor
  · intro read
    obtain ⟨⟨authority, behind⟩, authorityRead, finished⟩ := bind_eq_ok_iff.mp read
    obtain ⟨ending, is, rfl⟩ := (readAuthority_eq_ok_iff special).mp authorityRead
    obtain rfl := is.ending_eq_nil plain
    cases finished
    exact ⟨authority, is, rfl⟩
  · rintro ⟨authority, is, rfl⟩
    exact bind_eq_ok_iff.mpr
      ⟨(authority, rest), (readAuthority_eq_ok_iff special).mpr ⟨[], is, rfl⟩, rfl⟩

/-! ## Schemes -/

structure IsName (name : List Char) : Prop where
  first : ∃ c ∈ name.head?, c.isAlpha = true
  all : ∀ c ∈ name, isSchemeChar c = true

theorem splitScheme?_eq_some_iff {cs rest : List Char} {scheme : String} :
    splitScheme? cs = some (scheme, rest) ↔ ∃ name, IsName name ∧ cs = name ++ ':' :: rest ∧
      scheme = String.ofList (name.map Char.toLower) := by
  have colon : isSchemeChar ':' = false := by decide
  constructor
  · intro split
    unfold splitScheme? at split
    split at split
    · next alpha =>
        split at split
        · next behind =>
            cases split
            refine ⟨cs.takeWhile isSchemeChar, ⟨?_, fun c => List.mem_takeWhile_imp⟩, ?_, rfl⟩
            · cases cs with
              | nil => cases alpha
              | cons c others =>
                  have letter : c.isAlpha = true := alpha
                  have inside : isSchemeChar c = true := by
                    simp [isSchemeChar, Char.isAlphanum, letter]
                  rw [List.takeWhile_cons_of_pos inside]
                  exact ⟨c, rfl, letter⟩
            · rw [← behind, List.takeWhile_append_dropWhile]
        · cases split
    · cases split
  · rintro ⟨name, ⟨⟨c, first, alpha⟩, all⟩, rfl, rfl⟩
    have ends : ∀ c ∈ (':' :: rest).head?, isSchemeChar c = false := by
      rintro _ ⟨⟩
      exact colon
    have head : (name ++ ':' :: rest).head? = some c := by
      rw [List.head?_append, Option.mem_def.mp first, Option.some_or]
    unfold splitScheme?
    rw [head, Option.any_some, if_pos alpha, takeWhile_run all ends, dropWhile_run all ends]
    rfl

theorem scheme_of_afterSlashes {scheme : String} {cs : List Char} {u : Url}
    (read : afterSlashes scheme cs = .ok u) : u.scheme = scheme := by
  obtain ⟨⟨authority, rest⟩, -, finished⟩ := bind_eq_ok_iff.mp read
  cases finished
  rfl

theorem scheme_of_readFile {cs : List Char} {u : Url} (read : readFile cs = .ok u) :
    u.scheme = "file" := by
  unfold readFile at read
  dsimp only at read
  split at read
  · unfold afterFileSlashes at read
    dsimp only at read
    split at read
    · cases read
      rfl
    · obtain ⟨host, -, finished⟩ := bind_eq_ok_iff.mp read
      cases finished
      rfl
  · cases read
    rfl

theorem scheme_of_readOther {scheme : String} {cs : List Char} {u : Url}
    (read : readOther scheme cs = .ok u) : u.scheme = scheme := by
  unfold readOther at read
  split at read
  · exact scheme_of_afterSlashes read
  · cases read
    rfl
  · cases read
    rfl

theorem parse_web {text scheme : String} {rest : List Char}
    (split : splitScheme? (visible (trimEnds text.toList)) = some (scheme, rest))
    (web : IsWeb scheme) :
    parse text = afterSlashes scheme (rest.dropWhile (isSlash true)) := by
  have other : scheme ≠ "file" := by
    rintro rfl
    exact absurd web (by unfold IsWeb; decide)
  unfold parse
  dsimp only
  rw [split]
  dsimp only
  rw [if_neg other, if_pos web.isSpecialScheme_eq]

/-- The text of a web URL begins with a scheme. -/
theorem exists_scheme_of_parse {text : String} {u : Url} (parsed : parse text = .ok u) :
    ∃ rest, splitScheme? (visible (trimEnds text.toList)) = some (u.scheme, rest) := by
  unfold parse at parsed
  dsimp only at parsed
  split at parsed
  · cases parsed
  · next scheme rest split =>
      refine ⟨rest, ?_⟩
      rw [split]
      split at parsed
      · next file => rw [scheme_of_readFile parsed, file]
      · split at parsed
        · rw [scheme_of_afterSlashes parsed]
        · rw [scheme_of_readOther parsed]

/-! ## Fronts -/

/-- A front of a web URL: whatever follows it is read under this scheme and this authority. -/
structure Front (front : List Char) (scheme : String) (authority : Authority) : Prop where
  unmarked : ∀ c ∈ front, c ≠ '?' ∧ c ≠ '#'
  web : IsWeb scheme
  reads : ∀ (text : String) (rest : List Char), visible (trimEnds text.toList) = front ++ rest →
    Follows rest → parse text = .ok (ofRest scheme authority rest)

theorem AuthorityOf.ne_nil {scheme : String} {cs ending : List Char} {authority : Authority}
    (is : AuthorityOf scheme cs authority ending) : cs ≠ [] := by
  rintro rfl
  exact is.named rfl

theorem unmarked_front {name slashes host : List Char} (isName : IsName name)
    (allSlashes : ∀ c ∈ slashes, isSlash true c = true)
    (inside : ∀ c ∈ host, isHostChar c = true) :
    ∀ c ∈ name ++ ':' :: (slashes ++ host), c ≠ '?' ∧ c ≠ '#' := by
  intro c member
  have kind : isSchemeChar c = true ∨ c = ':' ∨ isSlash true c = true ∨ isHostChar c = true := by
    rcases List.mem_append.mp member with inName | behind
    · exact .inl (isName.all c inName)
    · rcases List.mem_cons.mp behind with colon | behind
      · exact .inr (.inl colon)
      · rcases List.mem_append.mp behind with inSlashes | inHost
        · exact .inr (.inr (.inl (allSlashes c inSlashes)))
        · exact .inr (.inr (.inr (inside c inHost)))
  constructor
  · rintro rfl
    exact absurd kind (by decide)
  · rintro rfl
    exact absurd kind (by decide)

/-- The text of a web URL has a front. -/
theorem exists_front {text : String} {u : Url} (parsed : parse text = .ok u)
    (web : IsWeb u.scheme) :
    ∃ front authority rest, Front front u.scheme authority ∧
      visible (trimEnds text.toList) = front ++ rest ∧ Follows rest ∧
        u = ofRest u.scheme authority rest := by
  obtain ⟨behind, split⟩ := exists_scheme_of_parse parsed
  obtain ⟨name, isName, whole, lower⟩ := splitScheme?_eq_some_iff.mp split
  rw [parse_web split web] at parsed
  obtain ⟨slashes, after, rfl, allSlashes, ends⟩ := exists_run (isSlash true) behind
  obtain ⟨host, rest, rfl, inside, follows⟩ := exists_run isHostChar after
  rw [dropWhile_run allSlashes ends] at parsed
  obtain ⟨authority, is, same⟩ :=
    (afterSlashes_append web.isSpecialScheme_eq inside follows).mp parsed
  refine ⟨name ++ ':' :: (slashes ++ host), authority, rest,
    ⟨unmarked_front isName allSlashes inside, web, ?_⟩, by simp [whole], follows, same⟩
  intro other rest' wholeToo followsToo
  have splitToo : splitScheme? (visible (trimEnds other.toList)) =
      some (u.scheme, slashes ++ (host ++ rest')) :=
    splitScheme?_eq_some_iff.mpr ⟨name, isName, by simp [wholeToo], lower⟩
  have endsToo : ∀ c ∈ (host ++ rest').head?, isSlash true c = false := by
    obtain ⟨first, others, rfl⟩ := List.exists_cons_of_ne_nil is.ne_nil
    rintro _ ⟨⟩
    have hostChar := inside first List.mem_cons_self
    simp only [isHostChar, Bool.and_eq_true, Bool.not_eq_true'] at hostChar
    exact hostChar.1.1
  rw [parse_web splitToo web, dropWhile_run allSlashes endsToo]
  exact (afterSlashes_append web.isSpecialScheme_eq inside followsToo).mpr ⟨authority, is, rfl⟩

end PartnerRecords.Url
