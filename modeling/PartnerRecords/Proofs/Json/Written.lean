import PartnerRecords.Json.Printer
import PartnerRecords.Proofs.Json.Record

/-!
# Values read back

A value is written as text, the text is cut into tokens, and the tokens are assembled to a tree. A
value without numbers comes out of this as it went in: every character of a text finds back from
its escape, and every list and object is closed where it was opened.
-/

namespace PartnerRecords.Json

/-! ## Cutting -/

/-- Characters that are cut into tokens, whatever tokens are before them. -/
def Lexes (cs : List Char) (tokens : List Token) : Prop :=
  ∀ before, ∃ l, cs.foldlM Lexer.step ⟨before, .between⟩ = some l ∧
    l.flush = some (tokens.reverse ++ before)

/-- Punctuation ends what is before it. -/
theorem Lexer.step_of_punctuation {l : Lexer} {before : List Token} {c : Char} {token : Token}
    (flushed : l.flush = some before) (punctuation : punctuation? c = some token) :
    l.step c = some ⟨token :: before, .between⟩ := by
  have begins : ∀ ts, start ts c = some ⟨token :: ts, .between⟩ ∧ c.isAlpha = false ∧
      isNumberChar c = false := by
    unfold punctuation? at punctuation
    split at punctuation <;> cases punctuation <;> exact fun _ => ⟨rfl, rfl, rfl⟩
  -- Inside a quoted text nothing can be ended.
  obtain ⟨ts, mode⟩ := l
  cases mode with
  | between =>
      cases flushed
      exact (begins _).1
  | word seen =>
      rw [step, (begins ts).2.1, flushed]
      exact (begins before).1
  | number seen =>
      rw [step, (begins ts).2.2, flushed]
      exact (begins before).1
  | quoted text => cases flushed
  | escape text => cases flushed
  | unit text missing value => cases flushed

namespace Lexes

theorem nil : Lexes [] [] :=
  fun before => ⟨⟨before, .between⟩, rfl, rfl⟩

/-- Two parts with punctuation between them are cut where it stands. -/
theorem append {cs others : List Char} {tokens more : List Token} {c : Char} {token : Token}
    (first : Lexes cs tokens) (punctuation : punctuation? c = some token)
    (second : Lexes others more) : Lexes (cs ++ c :: others) (tokens ++ token :: more) := by
  intro before
  obtain ⟨l, read, flushed⟩ := first before
  obtain ⟨after, reads, flushes⟩ := second (token :: (tokens.reverse ++ before))
  refine ⟨after, ?_, ?_⟩
  · rw [List.foldlM_append, read]
    dsimp only [bind, Option.bind]
    rw [List.foldlM_cons, Lexer.step_of_punctuation flushed punctuation]
    exact reads
  · rw [flushes]
    simp

theorem intercalate {texts : List (List Char)} {parts : List (List Token)}
    (each : List.Forall₂ Lexes texts parts) :
    Lexes ([','].intercalate texts) ([.comma].intercalate parts) := by
  induction each with
  | nil => exact nil
  | cons first rest ih =>
      cases rest with
      | nil =>
          rw [List.intercalate_singleton, List.intercalate_singleton]
          exact first
      | cons second rest =>
          rw [List.intercalate_cons_cons, List.intercalate_cons_cons, List.append_assoc,
            List.append_assoc]
          exact first.append rfl ih

theorem enclose {first last : Char} {opening closing : Token} {texts : List String}
    {parts : List (List Token)} (opens : punctuation? first = some opening)
    (closes : punctuation? last = some closing)
    (each : List.Forall₂ (fun text part => Lexes text.toList part) texts parts) :
    Lexes (enclose first last texts).toList
      (opening :: ([.comma].intercalate parts ++ [closing])) := by
  have body := intercalate (List.forall₂_map_left_iff.mpr each)
  have text : (Json.enclose first last texts).toList =
      first :: ([','].intercalate (texts.map String.toList) ++ [last]) := by
    simp [Json.enclose, String.toList_intercalate]
  rw [text]
  exact nil.append opens (body.append closes nil)

end Lexes

/-! ## Quoted texts -/

def Quoted.whole (chars : List Char) : Quoted :=
  { chars }

def Reads (before : List Token) (cs : List Char) (text read : Quoted) : Prop :=
  cs.foldlM Lexer.step ⟨before, .quoted text⟩ = some ⟨before, .quoted read⟩

theorem Reads.append {before : List Token} {cs others : List Char} {text mid read : Quoted}
    (first : Reads before cs text mid) (second : Reads before others mid read) :
    Reads before (cs ++ others) text read := by
  unfold Reads at first ⊢
  rw [List.foldlM_append, first]
  exact second

theorem hexValue?_hexDigit {n : Nat} (small : n < 16) : Text.hexValue? (hexDigit n) = some n := by
  revert n
  decide

section Units

variable {before : List Token} {text : Quoted} {value : Nat} {c : Char} {digit : Nat}
variable (reads : Text.hexValue? c = some digit)

include reads

theorem Lexer.step_unit (missing : Nat) :
    Lexer.step ⟨before, .unit text (missing + 2) value⟩ c =
      some ⟨before, .unit text (missing + 1) (16 * value + digit)⟩ := by
  rw [step, reads]
  rfl

theorem Lexer.step_unit_last :
    Lexer.step ⟨before, .unit text 1 value⟩ c =
      some ⟨before, .quoted (text.pushUnit (16 * value + digit))⟩ := by
  rw [step, reads]
  rfl

end Units

theorem reads_escapeUnit (before : List Token) (text : Quoted) {unit : Nat}
    (small : unit < 0x10000) : Reads before (escapeUnit unit) text (text.pushUnit unit) := by
  have joined : 16 * (16 * (16 * (16 * 0 + unit / 0x1000 % 16) + unit / 0x100 % 16) +
      unit / 0x10 % 16) + unit % 16 = unit := by omega
  have digit (n : Nat) : Text.hexValue? (hexDigit (n % 16)) = some (n % 16) :=
    hexValue?_hexDigit (Nat.mod_lt n (by decide))
  have opened : ['\\', 'u'].foldlM Lexer.step ⟨before, .quoted text⟩ =
      some ⟨before, .unit text 4 0⟩ := rfl
  have parts : escapeUnit unit = ['\\', 'u'] ++ [hexDigit (unit / 0x1000 % 16),
      hexDigit (unit / 0x100 % 16), hexDigit (unit / 0x10 % 16), hexDigit (unit % 16)] := rfl
  rw [Reads, parts, List.foldlM_append, opened]
  simp only [Option.bind_eq_bind, Option.bind_some, List.foldlM_cons, List.foldlM_nil,
    Lexer.step_unit (digit _), Lexer.step_unit_last (digit _), joined]
  rfl

/-- No character is a surrogate. -/
theorem pushUnit_toNat (chars : List Char) (c : Char) :
    (Quoted.whole chars).pushUnit c.toNat = .whole (c :: chars) := by
  have valid : c.toNat < 0xD800 ∨ 0xDFFF < c.toNat ∧ c.toNat < 0x110000 := c.valid
  have notHigh : isHigh c.toNat = false := by
    rw [isHigh, Bool.and_eq_false_iff, decide_eq_false_iff_not, decide_eq_false_iff_not]
    omega
  have notLow : isLow c.toNat = false := by
    rw [isLow, Bool.and_eq_false_iff, decide_eq_false_iff_not, decide_eq_false_iff_not]
    omega
  simp only [Quoted.pushUnit, Quoted.whole, notHigh, notLow, Bool.false_eq_true, if_false,
    Char.ofNat_toNat]

/-- Two surrogates are joined to a character. -/
theorem pushUnit_pushUnit (chars : List Char) {high low : Nat} {c : Char}
    (isHigh : isHigh high = true) (isLow : isLow low = true)
    (joined : 0x10000 + (high - 0xD800) * 0x400 + (low - 0xDC00) = c.toNat) :
    ((Quoted.whole chars).pushUnit high).pushUnit low = .whole (c :: chars) := by
  simp only [Quoted.pushUnit, Quoted.whole, isHigh, isLow, if_true, joinSurrogates, joined,
    Char.ofNat_toNat]

/-- A character beyond those of one unit is two units, and they are surrogates. -/
theorem surrogates {code : Nat} (large : 0x10000 ≤ code) (valid : code < 0x110000) :
    ∃ high low, high = 0xD800 + (code - 0x10000) / 0x400 ∧ low = 0xDC00 + (code - 0x10000) % 0x400 ∧
      isHigh high = true ∧ isLow low = true ∧
      0x10000 + (high - 0xD800) * 0x400 + (low - 0xDC00) = code := by
  refine ⟨_, _, rfl, rfl, ?_, ?_, by omega⟩
  · rw [isHigh, Bool.and_eq_true, decide_eq_true_eq, decide_eq_true_eq]
    omega
  · rw [isLow, Bool.and_eq_true, decide_eq_true_eq, decide_eq_true_eq]
    omega

theorem small_of_isHigh {unit : Nat} (high : isHigh unit = true) : unit < 0x10000 := by
  rw [isHigh, Bool.and_eq_true, decide_eq_true_eq, decide_eq_true_eq] at high
  omega

theorem small_of_isLow {unit : Nat} (low : isLow unit = true) : unit < 0x10000 := by
  rw [isLow, Bool.and_eq_true, decide_eq_true_eq, decide_eq_true_eq] at low
  omega

theorem reads_escapeChar (before : List Token) (chars : List Char) (c : Char) :
    Reads before (escapeChar c) (.whole chars) (.whole (c :: chars)) := by
  unfold escapeChar
  dsimp only
  split
  · next quote =>
      rw [beq_iff_eq.mp quote]
      rfl
  · next notQuote =>
      split
      · next backslash =>
          rw [beq_iff_eq.mp backslash]
          rfl
      · next notBackslash =>
          split
          · next plain =>
              rw [Bool.and_eq_true, decide_eq_true_eq, decide_eq_true_eq] at plain
              rw [Reads, List.foldlM_cons, Lexer.step]
              dsimp only
              rw [if_neg notQuote, if_neg notBackslash, if_neg (Nat.not_lt_of_le plain.1)]
              rfl
          · split
            · next small =>
                rw [← pushUnit_toNat]
                exact reads_escapeUnit before _ small
            · next large =>
                have valid : c.toNat < 0xD800 ∨ 0xDFFF < c.toNat ∧ c.toNat < 0x110000 := c.valid
                obtain ⟨high, low, highEq, lowEq, isHigh, isLow, joined⟩ :=
                  surrogates (Nat.le_of_not_lt large) (by omega)
                rw [← highEq, ← lowEq, ← pushUnit_pushUnit chars isHigh isLow joined]
                exact (reads_escapeUnit before _ (small_of_isHigh isHigh)).append
                  (reads_escapeUnit before _ (small_of_isLow isLow))

theorem reads_escapes (before : List Token) (chars cs : List Char) :
    Reads before (cs.flatMap escapeChar) (.whole chars) (.whole (cs.reverse ++ chars)) := by
  induction cs generalizing chars with
  | nil => rfl
  | cons c rest ih =>
      rw [List.flatMap_cons, List.reverse_cons, List.append_assoc]
      exact (reads_escapeChar before chars c).append (ih (c :: chars))

/-- A text is one token, and the token is the text. -/
theorem lexes_quote (text : String) : Lexes (quote text).toList [.text (some text)] := by
  intro before
  have quoted : (quote text).toList =
      '"' :: (text.toList.flatMap escapeChar ++ ['"']) := by
    rw [quote, String.toList_ofList, List.cons_append]
  have inside := reads_escapes before [] text.toList
  have whole : (Quoted.whole (text.toList.reverse ++ [])).text? = some text := by
    simp [Quoted.whole, Quoted.text?]
  refine ⟨⟨.text (some text) :: before, .between⟩, ?_, rfl⟩
  rw [quoted, List.foldlM_cons]
  change (text.toList.flatMap escapeChar ++ ['"']).foldlM Lexer.step
    ⟨before, .quoted (.whole [])⟩ = _
  rw [List.foldlM_append, inside, ← whole]
  rfl

/-! ## Assembling -/

/-- Tokens that are assembled to a tree, whatever they are a part of. -/
def Assembles (tokens : List Token) (t : Tree) : Prop :=
  ∀ outer, tokens.foldlM Assembly.step (.valueDue outer) = some (.complete t outer)

section Rows

variable {α : Type} {due : List α → Assembly} {read : List α → α → Assembly}
variable {finish : List α → Assembly} {closing : Token}

/-- Parts with commas between them are assembled one after another, until they are closed. -/
theorem assembles_row
    (commas : ∀ done item, (read done item).step .comma = some (due (item :: done)))
    (closes : ∀ done item,
      (read done item).step closing = some (finish (done.reverse ++ [item])))
    {parts : List (List Token)} {items : List α}
    (each : List.Forall₂ (fun part item =>
      ∀ done, part.foldlM Assembly.step (due done) = some (read done item)) parts items)
    (nonempty : parts ≠ []) (done : List α) :
    ([.comma].intercalate parts ++ [closing]).foldlM Assembly.step (due done) =
      some (finish (done.reverse ++ items)) := by
  -- On the parts: each comma takes one item over to those that are done.
  induction each generalizing done with
  | nil => exact absurd rfl nonempty
  | @cons part item parts items first rest ih =>
      cases rest with
      | nil =>
          rw [List.intercalate_singleton, List.foldlM_append, first]
          exact congrArg (Option.bind · _) (closes done item)
      | cons second rest =>
          rw [List.intercalate_cons_cons, List.append_assoc, List.append_assoc,
            List.foldlM_append, first]
          have others := ih (List.cons_ne_nil _ _) (item :: done)
          rw [List.reverse_cons, List.append_assoc] at others
          refine Eq.trans ?_ others
          exact congrArg (Option.bind · _) (commas done item)

end Rows

/-- Where a list may end, a value goes on as where one is due. -/
theorem foldlM_itemOrEnd {tokens : List Token} {outer : List Frame} {reached : Assembly}
    (nonempty : tokens ≠ [])
    (read : tokens.foldlM Assembly.step (.valueDue (.items [] :: outer)) = some reached) :
    tokens.foldlM Assembly.step (.itemOrEnd outer) = some reached := by
  cases tokens with
  | nil => exact absurd rfl nonempty
  | cons token rest =>
      cases token with
      | closeList => cases read
      | _ => exact read

theorem foldlM_nameOrEnd {tokens : List Token} {outer : List Frame} {reached : Assembly}
    (nonempty : tokens ≠ [])
    (read : tokens.foldlM Assembly.step (.nameDue [] outer) = some reached) :
    tokens.foldlM Assembly.step (.nameOrEnd outer) = some reached := by
  cases tokens with
  | nil => exact absurd rfl nonempty
  | cons token rest =>
      cases token with
      | text name => exact read
      | _ => cases read

theorem assembles_list {parts : List (List Token)} {trees : List Tree}
    (each : List.Forall₂ Assembles parts trees) :
    Assembles (.openList :: ([.comma].intercalate parts ++ [.closeList])) (.list trees) := by
  intro outer
  cases each with
  | nil => rfl
  | cons first rest =>
      refine foldlM_itemOrEnd (List.append_ne_nil_of_right_ne_nil _ (List.cons_ne_nil _ _)) ?_
      refine @assembles_row Tree (fun done => .valueDue (.items done :: outer))
        (fun done t => .complete t (.items done :: outer))
        (fun trees => .complete (.list trees) outer) .closeList (fun _ _ => rfl) ?_ _ _
        ((List.Forall₂.cons first rest).imp fun _ _ assembles done => assembles _)
        (List.cons_ne_nil _ _) []
      intro done t
      rw [← List.reverse_cons]
      rfl

inductive AssemblesMember : List Token → Option String × Tree → Prop
  | member (name : Option String) {tokens : List Token} {t : Tree} (value : Assembles tokens t) :
      AssemblesMember (.text name :: .colon :: tokens) (name, t)

theorem assembles_object {parts : List (List Token)} {members : List (Option String × Tree)}
    (each : List.Forall₂ AssemblesMember parts members) :
    Assembles (.openObject :: ([.comma].intercalate parts ++ [.closeObject]))
      (.object members) := by
  intro outer
  cases each with
  | nil => rfl
  | cons first rest =>
      refine foldlM_nameOrEnd (List.append_ne_nil_of_right_ne_nil _ (List.cons_ne_nil _ _)) ?_
      refine @assembles_row (Option String × Tree) (fun done => .nameDue done outer)
        (fun done member => .complete member.2 (.members done member.1 :: outer))
        (fun members => .complete (.object members) outer) .closeObject (fun _ _ => rfl) ?_ _ _
        ((List.Forall₂.cons first rest).imp ?_) (List.cons_ne_nil _ _) []
      · intro done member
        rw [← List.reverse_cons]
        rfl
      · rintro _ _ ⟨name, value⟩ done
        exact value _

/-! ## Values -/

inductive Value.Numberless : Value → Prop
  | null : Numberless .null
  | boolean (value : Bool) : Numberless (.boolean value)
  | text (value : String) : Numberless (.text value)
  | list {items : List Value} (each : ∀ item ∈ items, Numberless item) : Numberless (.list items)
  | object {members : List (String × Value)} (each : ∀ member ∈ members, Numberless member.2) :
      Numberless (.object members)

structure Spells (v : Value) (tokens : List Token) : Prop where
  lexes : Lexes v.render.toList tokens
  assembles : Assembles tokens v.tree

theorem spells_list {items : List Value} {parts : List (List Token)}
    (each : List.Forall₂ Spells items parts) :
    Spells (.list items) (.openList :: ([.comma].intercalate parts ++ [.closeList])) := by
  constructor
  · rw [Value.render, Value.itemTextsAfter_eq, List.reverse_nil, List.nil_append]
    exact Lexes.enclose rfl rfl
      (List.forall₂_map_left_iff.mpr (each.imp fun _ _ spells => spells.lexes))
  · rw [Value.tree_list]
    refine assembles_list (List.forall₂_map_right_iff.mpr (each.flip.imp ?_))
    exact fun _ _ spells => spells.assembles

inductive SpellsMember : String × Value → List Token → Prop
  | member (name : String) {v : Value} {tokens : List Token} (value : Spells v tokens) :
      SpellsMember (name, v) (.text (some name) :: .colon :: tokens)

theorem spells_object {members : List (String × Value)} {parts : List (List Token)}
    (each : List.Forall₂ SpellsMember members parts) :
    Spells (.object members) (.openObject :: ([.comma].intercalate parts ++ [.closeObject])) := by
  constructor
  · rw [Value.render, Value.memberTextsAfter_eq, List.reverse_nil, List.nil_append]
    refine Lexes.enclose rfl rfl (List.forall₂_map_left_iff.mpr (each.imp ?_))
    rintro _ _ ⟨name, value⟩
    rw [String.toList_append, String.toList_append, List.append_assoc]
    exact (lexes_quote name).append rfl value.lexes
  · rw [Value.tree_object]
    refine assembles_object (List.forall₂_map_right_iff.mpr (each.flip.imp ?_))
    rintro _ _ ⟨name, value⟩
    exact .member _ value.assembles

/-- A value without numbers is cut into tokens that are assembled to it. -/
theorem Value.Numberless.exists_spells {v : Value} (numberless : v.Numberless) :
    ∃ tokens, Spells v tokens := by
  -- A word ends only at what comes after it: the state is left inside the word.
  induction numberless with
  | null => exact ⟨[.null], fun before => ⟨⟨before, .word _⟩, rfl, rfl⟩, fun _ => rfl⟩
  | boolean value =>
      cases value with
      | false => exact ⟨[.boolean false], fun before => ⟨⟨before, .word _⟩, rfl, rfl⟩, fun _ => rfl⟩
      | true => exact ⟨[.boolean true], fun before => ⟨⟨before, .word _⟩, rfl, rfl⟩, fun _ => rfl⟩
  | text value => exact ⟨_, lexes_quote value, fun _ => rfl⟩
  | list _ ih =>
      obtain ⟨parts, each⟩ := exists_forall₂ ih
      exact ⟨_, spells_list each⟩
  | object _ ih =>
      have members := fun member present =>
        (ih member present).imp' _ fun _ => SpellsMember.member member.1
      obtain ⟨parts, each⟩ := exists_forall₂ members
      exact ⟨_, spells_object each⟩

/-- What is written of a value without numbers is read as that value. -/
theorem Tree.parse?_render {v : Value} (numberless : v.Numberless) :
    parse? v.render = some v.tree := by
  obtain ⟨tokens, lexes, assembles⟩ := numberless.exists_spells
  obtain ⟨l, read, flushed⟩ := lexes []
  have cut : tokens? v.render.toList = some tokens := by
    rw [tokens?, read]
    dsimp only [Option.bind]
    rw [flushed]
    simp
  rw [parse?, cut]
  dsimp only [Option.bind]
  rw [ofTokens?, assembles []]
  rfl

end PartnerRecords.Json
