import PartnerRecords.Proofs.Json.Numeral
import PartnerRecords.Proofs.Json.Settled

/-!
# Texts of objects

A text that is read on its own is read in the same way as a part of a longer one. So the text of
an object is read member by member, with blanks around each part, and a number among its members
as its digits say.
-/

namespace PartnerRecords.Json

/-! ## Tokens before a text -/

def Lexer.after (before : List Token) (l : Lexer) : Lexer :=
  ⟨l.tokens ++ before, l.mode⟩

section Before

variable (before : List Token)

theorem Lexer.flush_after (l : Lexer) :
    (l.after before).flush = l.flush.map (· ++ before) := by
  obtain ⟨tokens, mode⟩ := l
  cases mode with
  | word seen => cases found : wordToken? seen.reverse <;> simp [flush, after, found]
  | number seen => cases found : numberToken? seen.reverse <;> simp [flush, after, found]
  | _ => rfl

theorem Lexer.start_after (tokens : List Token) (c : Char) :
    start (tokens ++ before) c = (start tokens c).map (after before) := by
  unfold start
  repeat' split
  all_goals first | rfl | (cases punctuation? c <;> rfl)

theorem Lexer.step_after (l : Lexer) (c : Char) :
    (l.after before).step c = (l.step c).map (after before) := by
  have flushed : (l.after before).flush.bind (start · c) =
      (l.flush.bind (start · c)).map (after before) := by
    rw [flush_after]
    cases l.flush with
    | none => rfl
    | some tokens => exact start_after before tokens c
  obtain ⟨tokens, mode⟩ := l
  cases mode with
  | between => exact start_after before tokens c
  | word seen =>
      unfold step
      dsimp only [after] at flushed ⊢
      split
      · rfl
      · exact flushed
  | number seen =>
      unfold step
      dsimp only [after] at flushed ⊢
      split
      · rfl
      · exact flushed
  | quoted text =>
      unfold step
      dsimp only [after]
      repeat' split
      all_goals rfl
  | escape text =>
      unfold step
      dsimp only [after]
      split
      · rfl
      · cases escaped? c <;> rfl
  | unit text missing value =>
      unfold step
      dsimp only [after]
      cases Text.hexValue? c with
      | none => rfl
      | some digit =>
          dsimp only [Option.map]
          split <;> rfl

theorem Lexer.foldlM_after (l : Lexer) (cs : List Char) :
    cs.foldlM step (l.after before) = (cs.foldlM step l).map (after before) := by
  induction cs generalizing l with
  | nil => rfl
  | cons c rest ih =>
      rw [List.foldlM_cons, List.foldlM_cons, step_after]
      cases l.step c with
      | none => rfl
      | some next => exact ih next

end Before

/-- The tokens of a text are the same after other tokens. -/
theorem lexes_of_tokens? {cs : List Char} {tokens : List Token} (cut : tokens? cs = some tokens) :
    Lexes cs tokens := by
  unfold tokens? at cut
  obtain ⟨reversed, ended, rfl⟩ := Option.map_eq_some_iff.mp cut
  obtain ⟨l, read, flushed⟩ := Option.bind_eq_some_iff.mp ended
  intro before
  refine ⟨l.after before, ?_, ?_⟩
  · have shifted := Lexer.foldlM_after before {} cs
    rw [read] at shifted
    exact shifted
  · rw [Lexer.flush_after, flushed, List.reverse_reverse]
    rfl

theorem Lexes.tokens?_eq {cs : List Char} {tokens : List Token} (lexes : Lexes cs tokens) :
    tokens? cs = some tokens := by
  obtain ⟨l, read, flushed⟩ := lexes []
  rw [tokens?, read, Option.bind_some, flushed, List.append_nil, Option.map_some,
    List.reverse_reverse]

/-! ## Frames around a value -/

def Assembly.under (outer : List Frame) : Assembly → Assembly
  | .valueDue frames => .valueDue (frames ++ outer)
  | .itemOrEnd frames => .itemOrEnd (frames ++ outer)
  | .nameDue done frames => .nameDue done (frames ++ outer)
  | .nameOrEnd frames => .nameOrEnd (frames ++ outer)
  | .colonDue done name frames => .colonDue done name (frames ++ outer)
  | .complete tree frames => .complete tree (frames ++ outer)

section Around

variable (outer : List Frame)

theorem Assembly.begin_under {frames : List Frame} {token : Token} {reached : Assembly}
    (read : begin frames token = some reached) :
    begin (frames ++ outer) token = some (reached.under outer) := by
  cases token <;> cases read <;> rfl

theorem Assembly.continue_under {tree : Tree} {frames : List Frame} {token : Token}
    {reached : Assembly} (read : continue? tree frames token = some reached) :
    continue? tree (frames ++ outer) token = some (reached.under outer) := by
  cases frames with
  | nil => cases token <;> cases read
  | cons frame rest => cases frame <;> cases token <;> cases read <;> rfl

theorem Assembly.step_itemOrEnd {frames : List Frame} {token : Token} (other : token ≠ .closeList) :
    (itemOrEnd frames).step token = begin (.items [] :: frames) token := by
  cases token with
  | closeList => exact absurd rfl other
  | _ => rfl

theorem Assembly.step_under {state reached : Assembly} {token : Token}
    (read : state.step token = some reached) :
    (state.under outer).step token = some (reached.under outer) := by
  cases state with
  | valueDue frames => exact begin_under outer read
  | itemOrEnd frames =>
      by_cases ends : token = .closeList
      · subst ends
        cases read
        rfl
      · rw [step_itemOrEnd ends] at read
        exact (step_itemOrEnd ends).trans (begin_under outer read)
  | complete tree frames => exact continue_under outer read
  | _ => cases token <;> cases read <;> rfl

theorem Assembly.foldlM_under {state reached : Assembly} {tokens : List Token}
    (read : tokens.foldlM step state = some reached) :
    tokens.foldlM step (state.under outer) = some (reached.under outer) := by
  induction tokens generalizing state with
  | nil =>
      cases read
      rfl
  | cons token rest ih =>
      rw [List.foldlM_cons] at read ⊢
      obtain ⟨next, first, others⟩ := Option.bind_eq_some_iff.mp read
      rw [step_under outer first]
      exact ih others

end Around

/-- Tokens that are assembled to a tree are so within anything. -/
theorem assembles_of_ofTokens? {tokens : List Token} {t : Tree}
    (read : Tree.ofTokens? tokens = some t) : Assembles tokens t := by
  obtain ⟨reached, read, complete⟩ := Option.bind_eq_some_iff.mp read
  intro outer
  have shifted := Assembly.foldlM_under outer read
  unfold Assembly.result? at complete
  split at complete
  · cases complete
    exact shifted
  · cases complete

/-! ## Texts of values -/

/-- A text of one tree, whatever it is a part of. -/
def Writes (cs : List Char) (t : Tree) : Prop :=
  ∃ tokens, Lexes cs tokens ∧ Assembles tokens t

theorem writes_iff {cs : List Char} {t : Tree} :
    Writes cs t ↔ Tree.parse? (String.ofList cs) = some t := by
  constructor
  · rintro ⟨tokens, lexes, assembles⟩
    rw [Tree.parse?, String.toList_ofList, lexes.tokens?_eq, Option.bind_some, Tree.ofTokens?,
      assembles []]
    rfl
  · intro read
    rw [Tree.parse?, String.toList_ofList] at read
    obtain ⟨tokens, cut, read⟩ := Option.bind_eq_some_iff.mp read
    exact ⟨tokens, lexes_of_tokens? cut, assembles_of_ofTokens? read⟩

/-! ## Blanks -/

def IsSpaced (inner cs : List Char) : Prop :=
  ∃ before behind, (∀ c ∈ before, isSpace c = true) ∧ (∀ c ∈ behind, isSpace c = true) ∧
    cs = before ++ inner ++ behind

/-- Blanks begin no run, and go on with none. -/
theorem plain_of_isSpace {c : Char} (space : isSpace c = true) :
    c.isAlpha = false ∧ isNumberChar c = false := by
  simp only [isSpace, Bool.or_eq_true, beq_iff_eq] at space
  rcases space with ((rfl | rfl) | rfl) | rfl <;> exact ⟨rfl, rfl⟩

/-- A blank ends what is before it. -/
theorem Lexer.step_of_isSpace {l : Lexer} {before : List Token} {c : Char}
    (flushed : l.flush = some before) (space : isSpace c = true) :
    l.step c = some ⟨before, .between⟩ := by
  obtain ⟨notAlpha, notNumber⟩ := plain_of_isSpace space
  have begins : ∀ ts, start ts c = some ⟨ts, .between⟩ := fun ts => if_pos space
  obtain ⟨ts, mode⟩ := l
  cases mode with
  | between =>
      cases flushed
      exact begins _
  | word seen =>
      rw [step, notAlpha, flushed]
      exact begins before
  | number seen =>
      rw [step, notNumber, flushed]
      exact begins before
  | quoted text => cases flushed
  | escape text => cases flushed
  | unit text missing value => cases flushed

theorem Lexer.exists_foldlM_spaces {l : Lexer} {before : List Token} {cs : List Char}
    (flushed : l.flush = some before) (spaces : ∀ c ∈ cs, isSpace c = true) :
    ∃ after, cs.foldlM step l = some after ∧ after.flush = some before := by
  induction cs generalizing l with
  | nil => exact ⟨l, rfl, flushed⟩
  | cons c rest ih =>
      obtain ⟨first, others⟩ := List.forall_mem_cons.mp spaces
      rw [List.foldlM_cons, step_of_isSpace flushed first]
      exact ih rfl others

theorem Lexer.foldlM_spaces (before : List Token) {cs : List Char}
    (spaces : ∀ c ∈ cs, isSpace c = true) :
    cs.foldlM step ⟨before, .between⟩ = some ⟨before, .between⟩ := by
  induction cs with
  | nil => rfl
  | cons c rest ih =>
      obtain ⟨first, others⟩ := List.forall_mem_cons.mp spaces
      rw [List.foldlM_cons, @step_of_isSpace ⟨before, .between⟩ before c rfl first]
      exact ih others

theorem Lexes.spaced {inner cs : List Char} {tokens : List Token} (lexes : Lexes inner tokens)
    (spaced : IsSpaced inner cs) : Lexes cs tokens := by
  obtain ⟨front, back, spacesBefore, spacesBehind, rfl⟩ := spaced
  intro before
  obtain ⟨l, read, flushed⟩ := lexes before
  obtain ⟨after, reads, flushes⟩ := Lexer.exists_foldlM_spaces flushed spacesBehind
  refine ⟨after, ?_, flushes⟩
  rw [List.foldlM_append, List.foldlM_append, Lexer.foldlM_spaces before spacesBefore]
  dsimp only [bind, Option.bind]
  rw [read]
  exact reads

theorem Writes.spaced {inner cs : List Char} {t : Tree} (writes : Writes inner t)
    (spaced : IsSpaced inner cs) : Writes cs t := by
  obtain ⟨tokens, lexes, assembles⟩ := writes
  exact ⟨tokens, lexes.spaced spaced, assembles⟩

/-! ## Numbers -/

theorem Lexer.foldlM_number (before : List Token) {cs : List Char}
    (inside : ∀ c ∈ cs, isNumberChar c = true) (seen : List Char) :
    cs.foldlM step ⟨before, .number seen⟩ = some ⟨before, .number (cs.reverse ++ seen)⟩ := by
  induction cs generalizing seen with
  | nil => rfl
  | cons c rest ih =>
      obtain ⟨first, others⟩ := List.forall_mem_cons.mp inside
      have taken : step ⟨before, .number seen⟩ c = some ⟨before, .number (c :: seen)⟩ :=
        if_pos first
      rw [List.foldlM_cons, taken, List.reverse_cons, List.append_assoc]
      exact ih others (c :: seen)

/-- A digit begins a number. -/
theorem Lexer.start_of_isDigit (before : List Token) {c : Char} (digit : c.isDigit = true) :
    start before c = some ⟨before, .number [c]⟩ := by
  have other : isSpace c = false ∧ (c == '"') = false := by
    constructor
    · rw [Bool.eq_false_iff]
      intro space
      have notNumber := (plain_of_isSpace space).2
      simp [isNumberChar, digit] at notNumber
    · rw [beq_eq_false_iff_ne]
      rintro rfl
      cases digit
  unfold start
  rw [other.1, other.2, digit]
  rfl

/-- A number in decimal digits is one token. -/
theorem lexes_toDigits (n : Nat) :
    Lexes (Nat.toDigits 10 n) [.number (Literal.decimal n).number?] := by
  have digits : ∀ c ∈ Nat.toDigits 10 n, c.isDigit = true := fun _ =>
    Nat.isDigit_of_mem_toDigits (by decide) (by decide)
  have token : numberToken? (Nat.toDigits 10 n) = some (.number (Literal.decimal n).number?) := by
    rw [numberToken?, Literal.ofChars?_toDigits]
    rfl
  obtain ⟨first, rest, parts⟩ := List.exists_cons_of_ne_nil (Nat.toDigits_ne_nil (n := n) (b := 10))
  rw [parts] at digits token ⊢
  obtain ⟨digit, others⟩ := List.forall_mem_cons.mp digits
  intro before
  refine ⟨⟨before, .number (rest.reverse ++ [first])⟩, ?_, ?_⟩
  · have begun : Lexer.step ⟨before, .between⟩ first = some ⟨before, .number [first]⟩ :=
      Lexer.start_of_isDigit before digit
    rw [List.foldlM_cons, begun]
    exact Lexer.foldlM_number before (fun c member => by simp [isNumberChar, others c member]) _
  · rw [Lexer.flush]
    simp [token]

theorem writes_toDigits (n : Nat) :
    Writes (Nat.toDigits 10 n) (.number (Literal.decimal n).number?) :=
  ⟨_, lexes_toDigits n, fun _ => rfl⟩

/-! ## Texts of lists and objects -/

inductive WritesMember : List Char → Option String × Tree → Prop
  | member {name : Option String} {nameText valueText : List Char} {t : Tree}
      (named : tokens? nameText = some [.text name])
      (value : Tree.parse? (String.ofList valueText) = some t) :
      WritesMember (nameText ++ ':' :: valueText) (name, t)

theorem exists_lexes {α : Type} {Text : List Char → α → Prop} {Assembled : List Token → α → Prop}
    (cut : ∀ cs item, Text cs item → ∃ tokens, Lexes cs tokens ∧ Assembled tokens item)
    {texts : List (List Char)} {items : List α} (each : List.Forall₂ Text texts items) :
    ∃ parts, List.Forall₂ Lexes texts parts ∧ List.Forall₂ Assembled parts items := by
  induction each with
  | nil => exact ⟨[], .nil, .nil⟩
  | cons first _ ih =>
      obtain ⟨tokens, lexes, assembled⟩ := cut _ _ first
      obtain ⟨parts, others, rest⟩ := ih
      exact ⟨tokens :: parts, .cons lexes others, .cons assembled rest⟩

theorem Lexes.closed {first last : Char} {opening closing : Token} {texts : List (List Char)}
    {parts : List (List Token)} (opens : punctuation? first = some opening)
    (closes : punctuation? last = some closing) (each : List.Forall₂ Lexes texts parts) :
    Lexes (first :: ([','].intercalate texts ++ [last]))
      (opening :: ([.comma].intercalate parts ++ [closing])) :=
  nil.append opens ((intercalate each).append closes nil)

theorem writes_list {texts : List (List Char)} {items : List Tree}
    (each : List.Forall₂ Writes texts items) :
    Writes ('[' :: ([','].intercalate texts ++ [']'])) (.list items) := by
  obtain ⟨parts, lexes, assembles⟩ := exists_lexes (fun _ _ writes => writes) each
  exact ⟨_, Lexes.closed rfl rfl lexes, assembles_list assembles⟩

theorem writes_object {texts : List (List Char)} {members : List (Option String × Tree)}
    (each : List.Forall₂ WritesMember texts members) :
    Writes ('\x7b' :: ([','].intercalate texts ++ ['\x7d'])) (.object members) := by
  have cut : ∀ cs member, WritesMember cs member →
      ∃ tokens, Lexes cs tokens ∧ AssemblesMember tokens member := by
    rintro _ _ ⟨named, value⟩
    obtain ⟨tokens, lexes, assembles⟩ := writes_iff.mpr value
    exact ⟨_, (lexes_of_tokens? named).append rfl lexes, .member _ assembles⟩
  obtain ⟨parts, lexes, assembles⟩ := exists_lexes cut each
  exact ⟨_, Lexes.closed rfl rfl lexes, assembles_object assembles⟩

end PartnerRecords.Json
