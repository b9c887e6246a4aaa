import PartnerRecords.Proofs.Url.Reading

/-!
# Slashes at the end of a URL

Slashes at the end of a text belong to what comes last in it. Of a web URL that is the fragment,
or the query where there is no fragment; only where there is neither, it is the path, which then
ends in as many empty segments.
-/

namespace PartnerRecords

/-! ## Parts of a text -/

namespace Text

variable {test : Char → Bool}

theorem splitBy_append {c : Char} (separates : test c = true) (front rest : List Char) :
    splitBy test (front ++ c :: rest) = splitBy test front ++ splitBy test rest := by
  induction front with
  | nil =>
      obtain ⟨part, parts, split⟩ := List.exists_cons_of_ne_nil (splitBy_ne_nil test rest)
      simp [splitBy, split, separates]
  | cons d front ih =>
      obtain ⟨part, parts, split⟩ := List.exists_cons_of_ne_nil (splitBy_ne_nil test front)
      rw [List.cons_append, splitBy, ih, splitBy, split]
      simp only [List.cons_append]
      split <;> rfl

theorem splitBy_eq_singleton {cs : List Char} (plain : ∀ c ∈ cs, test c = false) :
    splitBy test cs = [cs] := by
  induction cs with
  | nil => rfl
  | cons c rest ih =>
      obtain ⟨head, tail⟩ := List.forall_mem_cons.mp plain
      simp [splitBy, ih tail, head]

/-- Every separator at the end is followed by one more part, which is empty. -/
theorem splitBy_append_replicate {c : Char} (separates : test c = true) (cs : List Char)
    (count : Nat) :
    splitBy test (cs ++ List.replicate count c) = splitBy test cs ++ List.replicate count [] := by
  induction count with
  | zero => rw [List.replicate_zero, List.replicate_zero, List.append_nil, List.append_nil]
  | succ count ih =>
      rw [List.replicate_succ', List.replicate_succ', ← List.append_assoc, ← List.append_assoc,
        splitBy_append separates, ih]
      rfl

end Text

namespace Url

open Text (splitBy)
open Text.Percent (encode pathSet)

def lastPiece (cs : List Char) : List Char :=
  (cs.reverse.takeWhile fun c => !isSlash true c).reverse

theorem mem_of_mem_lastPiece {cs : List Char} {c : Char} (member : c ∈ lastPiece cs) : c ∈ cs :=
  List.mem_reverse.mp ((List.takeWhile_sublist _).mem (List.mem_reverse.mp member))

theorem lastPiece_append {c : Char} (slash : isSlash true c = true) (front rest : List Char) :
    lastPiece (front ++ c :: rest) = lastPiece rest := by
  unfold lastPiece
  rw [List.reverse_append, List.reverse_cons, List.append_assoc]
  obtain ⟨run, behind, parts, plain, ends⟩ :=
    exists_run (fun c => !isSlash true c) rest.reverse
  rw [parts, List.append_assoc, takeWhile_run plain ends, takeWhile_run plain]
  cases behind with
  | nil =>
      rintro _ ⟨⟩
      simp [slash]
  | cons d others =>
      rintro _ ⟨⟩
      exact ends d rfl

/-- The last part between slashes is what stands behind the last one. -/
theorem exists_splitBy_concat (cs : List Char) :
    ∃ init, splitBy (isSlash true) cs = init ++ [lastPiece cs] := by
  obtain ⟨run, behind, parts, plain, ends⟩ := exists_run (fun c => !isSlash true c) cs.reverse
  have piece : lastPiece cs = run.reverse := by
    rw [lastPiece, parts, takeWhile_run plain ends]
  have single : splitBy (isSlash true) run.reverse = [run.reverse] :=
    Text.splitBy_eq_singleton fun c member => by simpa using plain c (List.mem_reverse.mp member)
  have whole : cs = behind.reverse ++ run.reverse := by
    rw [← List.reverse_append, ← parts, List.reverse_reverse]
  rw [piece, whole]
  cases behind with
  | nil => exact ⟨[], by rw [List.reverse_nil, List.nil_append, single, List.nil_append]⟩
  | cons c others =>
      have slash : isSlash true c = true := by simpa using ends c rfl
      refine ⟨splitBy (isSlash true) others.reverse, ?_⟩
      rw [List.reverse_cons, List.append_assoc, List.singleton_append,
        Text.splitBy_append slash, single]

/-! ## Walks that go on -/

def isDots (piece : List Char) : Bool :=
  isDoubleDot (encode pathSet (visible piece)) || isSingleDot (encode pathSet (visible piece))

theorem encode_ne_nil {set : Char → Bool} {cs : List Char} (shown : cs ≠ []) :
    encode set cs ≠ [] := by
  obtain ⟨c, rest, rfl⟩ := List.exists_cons_of_ne_nil shown
  rw [encode, List.flatMap_cons]
  refine List.append_ne_nil_of_left_ne_nil ?_ _
  unfold Text.Percent.encodeChar
  split
  · obtain ⟨byte, bytes, same⟩ := List.exists_cons_of_ne_nil (String.utf8EncodeChar_ne_nil (c := c))
    rw [same, List.flatMap_cons]
    exact List.cons_ne_nil _ _
  · exact List.cons_ne_nil _ _

theorem steps_concat (file : Bool) (set : Char → Bool) (w : Walk) (parts : List (List Char))
    (last : List Char) :
    w.steps file set (parts ++ [last]) =
      (parts.foldl (fun w part => w.step file set false part) w).step file set true last := by
  induction parts generalizing w with
  | nil => rfl
  | cons part rest ih =>
      rw [List.cons_append, Walk.steps, ih]
      · rfl
      · exact List.append_ne_nil_of_right_ne_nil rest (List.cons_ne_nil last [])

/-- A dot segment that ends a path leaves an empty segment behind. -/
theorem step_last (w : Walk) (piece : List Char) :
    w.step false pathSet true piece =
      (w.step false pathSet false piece).settle (isDots piece) := by
  unfold Walk.step isDots
  simp only [Bool.false_and, Bool.false_eq_true, if_false]
  split
  · next up =>
      rw [up]
      rfl
  · next notUp =>
      rw [Bool.eq_false_iff.mpr notUp]
      split
      · next single =>
          rw [single]
          rfl
      · next plain =>
          rw [Bool.eq_false_iff.mpr plain]
          rfl

theorem step_plain (w : Walk) {last : Bool} {piece : List Char} (plain : isDots piece = false) :
    w.step false pathSet last piece = w.push (encoded pathSet (visible piece)) := by
  obtain ⟨notUp, notSingle⟩ := Bool.or_eq_false_iff.mp plain
  unfold Walk.step
  simp only [Bool.false_and, Bool.false_eq_true, if_false, notUp, notSingle]
  rfl

theorem foldl_step_empty (w : Walk) (count : Nat) :
    (List.replicate count []).foldl (fun w part => w.step false pathSet false part) w =
      { w with back := List.replicate count "" ++ w.back } := by
  induction count generalizing w with
  | zero => rfl
  | succ count ih =>
      have pushed : w.step false pathSet false [] = w.push "" := rfl
      rw [List.replicate_succ, List.foldl_cons, pushed, ih, List.replicate_succ', List.append_assoc]
      rfl

/-! ## Paths -/

def IsRooted (path : List Char) : Prop :=
  ∀ c ∈ path.head?, isSlash true c = true

theorem afterSlash_cons {c : Char} (slash : isSlash true c = true) (cs : List Char) :
    afterSlash true (c :: cs) = cs := by
  have notIgnored : isIgnored c = false := by
    simp only [isSlash, Bool.true_and, Bool.or_eq_true, beq_iff_eq] at slash
    rcases slash with rfl | rfl <;> decide
  rw [afterSlash, List.dropWhile_cons_of_neg (by simp [notIgnored])]
  exact if_pos slash

/-- The segments of a path up to its last piece. A dot segment there leaves an empty one behind,
unless slashes follow, which leave as many. -/
structure Reached (scheme : String) (c : Char) (cs : List Char) (reached : List String) : Prop where
  path : readSegments scheme (c :: cs) = reached ++ if isDots (lastPiece cs) then [""] else []
  last : isDots (lastPiece cs) = false →
    reached.getLast? = some (encoded pathSet (visible (lastPiece cs)))
  longer : ∀ count, readSegments scheme (c :: (cs ++ List.replicate (count + 1) '/')) =
    reached ++ List.replicate (count + 1) ""

section Web

variable {scheme : String} (web : IsWeb scheme)

include web

theorem readSegments_web (path : List Char) : readSegments scheme path =
    (Walk.steps false pathSet {} (splitBy (isSlash true) (afterSlash true path))).segments := by
  have notFile : (scheme == "file") = false := by
    rcases web with rfl | rfl <;> decide
  unfold readSegments walk
  rw [web.isSpecialScheme_eq, notFile]
  simp

theorem exists_reached {c : Char} (slash : isSlash true c = true) (cs : List Char) :
    ∃ reached, Reached scheme c cs reached := by
  obtain ⟨init, split⟩ := exists_splitBy_concat cs
  generalize before :
    init.foldl (fun (w : Walk) part => w.step false pathSet false part) {} = w
  refine ⟨(w.step false pathSet false (lastPiece cs)).segments, ?_, fun plain => ?_,
    fun count => ?_⟩
  · rw [readSegments_web web, afterSlash_cons slash, split, steps_concat, before, step_last]
    cases isDots (lastPiece cs) with
    | false => exact (List.append_nil _).symm
    | true => exact List.reverse_cons
  · rw [step_plain w plain, Walk.segments, Walk.push, List.getLast?_reverse]
    rfl
  · -- The last slash ends the path, and the others stand before it.
    rw [readSegments_web web, afterSlash_cons slash, Text.splitBy_append_replicate rfl, split,
      List.replicate_succ', ← List.append_assoc, steps_concat, List.foldl_append, foldl_step_empty,
      List.foldl_append, before, List.foldl_cons, List.foldl_nil]
    have pushed (w : Walk) : w.step false pathSet true [] = w.push "" := rfl
    rw [pushed, Walk.segments, Walk.push, List.reverse_cons, List.reverse_append,
      List.reverse_replicate, List.replicate_succ', List.append_assoc]
    rfl

/-- Slashes behind a path are empty segments behind it, one less if it ends in an empty segment
that no slash stands for. -/
theorem exists_added {path : List Char} (rooted : IsRooted path) (count : Nat) :
    ∃ added, (added = count ∨
        added + 1 = count ∧ (readSegments scheme path).getLast? = some "") ∧
      readSegments scheme (path ++ List.replicate count '/') =
        readSegments scheme path ++ List.replicate added "" := by
  cases count with
  | zero => exact ⟨0, .inl rfl, by simp⟩
  | succ count =>
      cases path with
      | nil =>
          -- Without any text the path is the root, which one slash is as well.
          have root : readSegments scheme [] = [""] ∧ readSegments scheme ['/'] = [""] := by
            rw [readSegments_web web, readSegments_web web]
            exact ⟨rfl, rfl⟩
          refine ⟨count, .inr ⟨rfl, by rw [root.1]; rfl⟩, ?_⟩
          rw [root.1, List.nil_append, List.replicate_succ]
          cases count with
          | zero => exact root.2
          | succ count =>
              have slash : isSlash true '/' = true := rfl
              obtain ⟨reached, path, -, longer⟩ := exists_reached web slash []
              rw [if_neg (by decide), List.append_nil, root.2] at path
              rw [path]
              exact longer count
      | cons c cs =>
          obtain ⟨reached, path, -, longer⟩ := exists_reached web (rooted c rfl) cs
          rw [List.cons_append, longer, path]
          cases isDots (lastPiece cs) with
          | false => exact ⟨count + 1, .inl rfl, by simp⟩
          | true =>
              refine ⟨count, .inr ⟨rfl, List.getLast?_concat⟩, ?_⟩
              rw [List.replicate_succ, List.append_assoc]
              rfl

/-- When a path ends in a slash. -/
theorem getLast?_readSegments {c : Char} (slash : isSlash true c = true) {cs : List Char}
    (shown : ∀ d ∈ cs, isIgnored d = false) :
    (readSegments scheme (c :: cs)).getLast? = some "" ↔
      lastPiece cs = [] ∨ isDots (lastPiece cs) = true := by
  obtain ⟨reached, path, last, -⟩ := exists_reached web slash cs
  rw [path]
  cases dots : isDots (lastPiece cs) with
  | true => exact iff_of_true List.getLast?_concat (.inr rfl)
  | false =>
      have kept : visible (lastPiece cs) = lastPiece cs := by
        refine List.filter_eq_self.mpr fun d member => ?_
        rw [shown d (mem_of_mem_lastPiece member)]
        rfl
      rw [if_neg Bool.false_ne_true, List.append_nil, last dots, kept]
      constructor
      · intro empty
        refine .inl (Classical.byContradiction fun nonempty => ?_)
        exact encode_ne_nil nonempty (String.ofList_inj.mp (Option.some.inj empty))
      · rintro (empty | impossible)
        · rw [empty]
          rfl
        · cases impossible

end Web

/-! ## What comes last -/

def slashes (count : Nat) : String :=
  String.ofList (List.replicate count '/')

/-- A URL that so many slashes more at the end of its text make of another one. In a path that ends
in an empty segment already, the first of them may stand for that segment. -/
inductive Trailed (count : Nat) (u : Url) : Url → Prop
  | fragment {text : String} (last : u.fragment = some text) :
      Trailed count u { u with fragment := some (text ++ slashes count) }
  | query {text : String} (noFragment : u.fragment = none) (last : u.query = some text) :
      Trailed count u { u with query := some (text ++ slashes count) }
  | path {list : List String} {added : Nat} (noFragment : u.fragment = none)
      (noQuery : u.query = none) (last : u.path = .segments list)
      (each : added = count ∨ added + 1 = count ∧ list.getLast? = some "") :
      Trailed count u { u with path := .segments (list ++ List.replicate added "") }

theorem encoded_append_slashes {set : Char → Bool} (kept : set '/' = false) (cs : List Char)
    (count : Nat) :
    encoded set (cs ++ List.replicate count '/') = encoded set cs ++ slashes count := by
  have plain : Text.Percent.encodeChar set '/' = ['/'] := by
    rw [Text.Percent.encodeChar, kept]
    rfl
  rw [encoded, encode, List.flatMap_append, List.flatMap_replicate, plain,
    List.flatten_replicate_singleton, String.ofList_append]
  rfl

theorem readTail_fragment (text : List Char) :
    readTail true ('#' :: text) = (none, some (encoded Text.Percent.fragmentSet text)) :=
  rfl

theorem readTail_query {query : List Char} (plain : ∀ c ∈ query, (c != '#') = true) :
    readTail true ('?' :: query) = (some (encoded Text.Percent.specialQuerySet query), none) := by
  simp only [readTail, List.takeWhile_eq_self_iff.mpr plain, List.dropWhile_eq_nil_iff.mpr plain,
    if_true]

theorem readTail_query_fragment {query : List Char} (plain : ∀ c ∈ query, (c != '#') = true)
    (text : List Char) :
    readTail true ('?' :: (query ++ '#' :: text)) =
      (some (encoded Text.Percent.specialQuerySet query),
        some (encoded Text.Percent.fragmentSet text)) := by
  have ends : ∀ c ∈ ('#' :: text).head?, (c != '#') = false := by
    rintro _ ⟨⟩
    rfl
  simp only [readTail, takeWhile_run plain ends, dropWhile_run plain ends, if_true]

/-- What begins with a mark is a fragment, or a query, or a query and a fragment. -/
theorem tail_cases {cs : List Char} (marked : ∃ c ∈ cs.head?, c = '?' ∨ c = '#') :
    (∃ text, cs = '#' :: text) ∨
      ∃ query, (∀ c ∈ query, (c != '#') = true) ∧
        (cs = '?' :: query ∨ ∃ text, cs = '?' :: (query ++ '#' :: text)) := by
  obtain ⟨c, first, mark⟩ := marked
  cases cs with
  | nil => cases first
  | cons d rest =>
      cases first
      rcases mark with rfl | rfl
      · obtain ⟨query, behind, rfl, plain, ends⟩ := exists_run (· != '#') rest
        refine .inr ⟨query, plain, ?_⟩
        cases behind with
        | nil => exact .inl (by rw [List.append_nil])
        | cons d text =>
            have hash : d = '#' := by simpa using ends d rfl
            exact .inr ⟨text, by rw [hash]⟩
      · exact .inl ⟨rest, rfl⟩

/-- What begins with a mark is not nothing. -/
theorem readTail_marked {cs : List Char} (marked : ∃ c ∈ cs.head?, c = '?' ∨ c = '#') :
    readTail true cs ≠ (none, none) := by
  rcases tail_cases marked with ⟨text, rfl⟩ | ⟨query, plain, rfl | ⟨text, rfl⟩⟩
  · rw [readTail_fragment]
    nofun
  · rw [readTail_query plain]
    nofun
  · rw [readTail_query_fragment plain]
    nofun

/-- Behind a mark, slashes are part of the fragment, or else of the query. -/
theorem trailed_finish {scheme : String} (web : IsWeb scheme) (authority : Option Authority)
    (path : UrlPath) {tail : List Char} (marked : ∃ c ∈ tail.head?, c = '?' ∨ c = '#')
    (count : Nat) :
    Trailed count (finish scheme authority path tail)
      (finish scheme authority path (tail ++ List.replicate count '/')) := by
  unfold finish
  rw [web.isSpecialScheme_eq]
  have inFragment : Text.Percent.fragmentSet '/' = false := by decide
  rcases tail_cases marked with ⟨text, rfl⟩ | ⟨query, plain, rfl | ⟨text, rfl⟩⟩
  · rw [List.cons_append, readTail_fragment, readTail_fragment,
      encoded_append_slashes inFragment]
    exact .fragment rfl
  · have kept : Text.Percent.specialQuerySet '/' = false := by decide
    have plainToo : ∀ c ∈ query ++ List.replicate count '/', (c != '#') = true := by
      intro c member
      rcases List.mem_append.mp member with inQuery | added
      · exact plain c inQuery
      · rw [List.eq_of_mem_replicate added]
        rfl
    rw [List.cons_append, readTail_query plain, readTail_query plainToo,
      encoded_append_slashes kept]
    exact .query rfl rfl
  · rw [List.cons_append, List.append_assoc, List.cons_append, readTail_query_fragment plain,
      readTail_query_fragment plain, encoded_append_slashes inFragment]
    exact .fragment rfl

def isUnmarked (c : Char) : Bool :=
  c != '?' && c != '#'

theorem mark_of_not_isUnmarked {c : Char} (mark : isUnmarked c = false) : c = '?' ∨ c = '#' := by
  simp only [isUnmarked] at mark
  grind

theorem splitTail_append {path tail : List Char} (unmarked : ∀ c ∈ path, isUnmarked c = true)
    (ends : ∀ c ∈ tail.head?, isUnmarked c = false) : splitTail (path ++ tail) = (path, tail) :=
  Prod.ext (takeWhile_run unmarked ends) (dropWhile_run unmarked ends)

theorem Follows.isRooted {path tail : List Char} (follows : Follows (path ++ tail))
    (unmarked : ∀ c ∈ path, isUnmarked c = true) : IsRooted path := by
  intro c first
  have notHost := follows c (by rw [List.head?_append, Option.mem_def.mp first]; rfl)
  have notMark := unmarked c (List.mem_of_mem_head? first)
  simp only [isHostChar, isUnmarked] at notHost notMark
  grind

/-- Slashes at the end of what follows an authority belong to what comes last in it. -/
theorem trailed_ofRest {scheme : String} (web : IsWeb scheme) (authority : Authority)
    {rest : List Char} (follows : Follows rest) (count : Nat) :
    Trailed count (ofRest scheme authority rest)
      (ofRest scheme authority (rest ++ List.replicate count '/')) := by
  obtain ⟨path, tail, rfl, unmarked, ends⟩ := exists_run isUnmarked rest
  have rooted := follows.isRooted unmarked
  unfold ofRest
  cases tail with
  | nil =>
      have unmarkedToo : ∀ c ∈ path ++ List.replicate count '/', isUnmarked c = true := by
        intro c member
        rcases List.mem_append.mp member with inPath | added
        · exact unmarked c inPath
        · rw [List.eq_of_mem_replicate added]
          rfl
      have longer := splitTail_append unmarkedToo ends
      rw [List.append_nil] at longer
      obtain ⟨added, each, segments⟩ := exists_added web rooted count
      rw [splitTail_append unmarked ends, List.append_nil, longer, segments]
      exact .path rfl rfl rfl each
  | cons c behind =>
      have mark := mark_of_not_isUnmarked (ends c rfl)
      have endsToo : ∀ d ∈ (c :: behind ++ List.replicate count '/').head?,
          isUnmarked d = false := by
        rintro _ ⟨⟩
        exact ends c rfl
      rw [List.append_assoc, splitTail_append unmarked ends, splitTail_append unmarked endsToo]
      exact trailed_finish web _ _ ⟨c, rfl, mark⟩ count

theorem Follows.append_slashes {rest : List Char} (follows : Follows rest) (count : Nat) :
    Follows (rest ++ List.replicate count '/') := by
  intro c first
  cases rest with
  | nil =>
      rw [List.eq_of_mem_replicate (List.mem_of_mem_head? first)]
      rfl
  | cons d behind => exact follows c first

/-! ## Whole texts -/

def isOutside (c : Char) : Bool :=
  decide (c.toNat ≤ 0x20)

/-- Apart from tabs and line ends, a text has a space or a control at its end. -/
def IsPadded (text : String) : Prop :=
  ∃ c, (visible text.toList).getLast? = some c ∧ isOutside c = true

theorem visible_append (cs others : List Char) :
    visible (cs ++ others) = visible cs ++ visible others :=
  List.filter_append ..

/-- Nothing but tabs and line ends is taken off the end of a text that is not padded. -/
theorem visible_trimEnds {text : String} (unpadded : ¬ IsPadded text) :
    visible (trimEnds text.toList) = visible (text.toList.dropWhile isOutside) := by
  obtain ⟨padding, core, parts, outside, ends⟩ :=
    exists_run isOutside (text.toList.dropWhile isOutside).reverse
  have trimmed : trimEnds text.toList = core.reverse := by
    change ((text.toList.dropWhile isOutside).reverse.dropWhile isOutside).reverse = _
    rw [parts, dropWhile_run outside ends]
  have whole : text.toList.dropWhile isOutside = core.reverse ++ padding.reverse := by
    rw [← List.reverse_append, ← parts, List.reverse_reverse]
  have nothing : visible padding.reverse = [] := by
    rcases List.eq_nil_or_concat (visible padding.reverse) with nothing | ⟨init, c, ends⟩
    · exact nothing
    · refine absurd ⟨c, ?_, ?_⟩ unpadded
      · rw [← List.takeWhile_append_dropWhile (p := isOutside) (l := text.toList), whole,
          visible_append, visible_append, ends, List.concat_eq_append, ← List.append_assoc,
          ← List.append_assoc, List.getLast?_concat]
      · have member : c ∈ visible padding.reverse := by
          rw [ends, List.concat_eq_append]
          exact List.mem_append_right init List.mem_cons_self
        exact outside c (List.mem_reverse.mp (List.mem_filter.mp member).1)
  rw [trimmed, whole, visible_append, nothing, List.append_nil]

/-- Slashes at the end of a text are all read. -/
theorem visible_trimEnds_append_slashes {cs : List Char} (shown : cs.dropWhile isOutside ≠ [])
    (count : Nat) : visible (trimEnds (cs ++ List.replicate (count + 1) '/')) =
      visible (cs.dropWhile isOutside) ++ List.replicate (count + 1) '/' := by
  obtain ⟨leading, core, rfl, outside, ends⟩ := exists_run isOutside cs
  rw [dropWhile_run outside ends] at shown ⊢
  obtain ⟨c, others, rfl⟩ := List.exists_cons_of_ne_nil shown
  have endsToo : ∀ d ∈ (c :: others ++ List.replicate (count + 1) '/').head?,
      isOutside d = false := by
    rintro _ ⟨⟩
    exact ends c rfl
  have kept : trimEnds (leading ++ c :: others ++ List.replicate (count + 1) '/') =
      c :: others ++ List.replicate (count + 1) '/' := by
    change ((List.dropWhile isOutside _).reverse.dropWhile isOutside).reverse = _
    rw [List.append_assoc, dropWhile_run outside endsToo, List.reverse_append,
      List.reverse_replicate, List.replicate_succ, List.cons_append,
      List.dropWhile_cons_of_neg (by decide), ← List.cons_append, ← List.replicate_succ,
      List.reverse_append, List.reverse_reverse, List.reverse_replicate]
  rw [kept, visible_append]
  exact congrArg _ (List.filter_replicate_of_pos rfl)

theorem visible_trimEnds_ne_nil {text : String} {u : Url} (parsed : parse text = .ok u) :
    visible (trimEnds text.toList) ≠ [] := by
  intro nothing
  obtain ⟨rest, split⟩ := exists_scheme_of_parse parsed
  rw [nothing] at split
  cases split

/-- Slashes at the end of the text of a web URL belong to what comes last in it. -/
theorem exists_trailed {text longer : String} {u : Url} (parsed : parse text = .ok u)
    (web : IsWeb u.scheme) {count : Nat}
    (slashes : longer.toList = text.toList ++ List.replicate count '/')
    (unpadded : IsPadded text → count = 0) :
    ∃ original, parse longer = .ok original ∧ Trailed count u original := by
  obtain ⟨front, authority, rest, isFront, whole, follows, same⟩ := exists_front parsed web
  have wholeToo : visible (trimEnds longer.toList) =
      front ++ (rest ++ List.replicate count '/') := by
    cases count with
    | zero =>
        rw [slashes, List.replicate_zero, List.append_nil, List.append_nil, whole]
    | succ count =>
        have plain := visible_trimEnds fun padded =>
          absurd (unpadded padded) (Nat.succ_ne_zero count)
        have shown : text.toList.dropWhile isOutside ≠ [] := by
          intro nothing
          rw [nothing] at plain
          exact visible_trimEnds_ne_nil parsed plain
        rw [slashes, visible_trimEnds_append_slashes shown, ← plain, whole, List.append_assoc]
  refine ⟨_, isFront.reads longer _ wholeToo (follows.append_slashes count), ?_⟩
  have trailed := trailed_ofRest web authority follows count
  rw [← same] at trailed
  exact trailed

def EndsOpen (text : String) : Prop :=
  let piece := lastPiece (splitTail (visible (trimEnds text.toList))).1
  piece = [] ∨ isDots piece = true

theorem Front.isUnmarked {front way : List Char} {scheme : String} {authority : Authority}
    (is : Front front scheme authority) (unmarked : ∀ c ∈ way, isUnmarked c = true) :
    ∀ c ∈ front ++ way, Url.isUnmarked c = true := by
  intro c member
  rcases List.mem_append.mp member with inFront | inWay
  · obtain ⟨notQuery, notFragment⟩ := is.unmarked c inFront
    simp [Url.isUnmarked, notQuery, notFragment]
  · exact unmarked c inWay

/-- The last segment of a path is empty where nothing is behind the last slash of the text, or a
dot segment, and in a path that is the root. -/
theorem getLast?_path {text : String} {u : Url} {list : List String} (parsed : parse text = .ok u)
    (web : IsWeb u.scheme) (path : u.path = .segments list) :
    list.getLast? = some "" ↔ list = [""] ∨ EndsOpen text := by
  obtain ⟨front, authority, rest, isFront, whole, follows, same⟩ := exists_front parsed web
  obtain ⟨way, tail, rfl, unmarked, ends⟩ := exists_run isUnmarked rest
  have segments : list = readSegments u.scheme way := by
    rw [same, ofRest, splitTail_append unmarked ends] at path
    exact (UrlPath.segments.inj path).symm
  rw [EndsOpen, whole, ← List.append_assoc, splitTail_append (isFront.isUnmarked unmarked) ends]
  dsimp only
  cases way with
  | nil =>
      have root : list = [""] := by
        rw [segments, readSegments_web web]
        rfl
      rw [root]
      exact iff_of_true rfl (.inl rfl)
  | cons c cs =>
      have slash := follows.isRooted unmarked c rfl
      have shown : ∀ d ∈ cs, isIgnored d = false := by
        intro d member
        have inText : d ∈ visible (trimEnds text.toList) := by
          rw [whole]
          exact List.mem_append_right front (List.mem_append_left tail (.tail c member))
        simpa using (List.mem_filter.mp inText).2
      have last := getLast?_readSegments web slash shown
      rw [← segments] at last
      rw [lastPiece_append slash, last]
      refine ⟨.inr, ?_⟩
      rintro (root | endsOpen)
      · exact last.mp (by rw [root]; rfl)
      · exact endsOpen

/-! ## Texts that end in no slash -/

/-- A text ends in a backslash, or in a space or a control, of which none is read at the end. -/
def EndsUnread (text : String) : Prop :=
  ∃ c, text.toList.getLast? = some c ∧ (c = '\\' ∨ isOutside c = true)

/-- Without a query and a fragment, all of the text is read before them. -/
theorem splitTail_plain {text : String} {u : Url} (parsed : parse text = .ok u)
    (web : IsWeb u.scheme) (noQuery : u.query = none) (noFragment : u.fragment = none) :
    (splitTail (visible (trimEnds text.toList))).1 = visible (trimEnds text.toList) := by
  obtain ⟨front, authority, rest, isFront, whole, -, same⟩ := exists_front parsed web
  obtain ⟨way, tail, rfl, unmarked, ends⟩ := exists_run isUnmarked rest
  rw [whole, ← List.append_assoc, splitTail_append (isFront.isUnmarked unmarked) ends]
  cases tail with
  | nil => rw [List.append_nil]
  | cons c behind =>
      have mark := mark_of_not_isUnmarked (ends c rfl)
      have nothing : readTail (isSpecialScheme u.scheme) (c :: behind) = (none, none) := by
        rw [same, ofRest, splitTail_append unmarked ends] at noQuery noFragment
        exact Prod.ext noQuery noFragment
      rw [web.isSpecialScheme_eq] at nothing
      exact absurd nothing (readTail_marked ⟨c, rfl, mark⟩)

theorem getLast?_of_lastPiece_eq_nil {cs : List Char} {c : Char} (last : cs.getLast? = some c)
    (nothing : lastPiece cs = []) : isSlash true c = true := by
  obtain ⟨front, rfl⟩ := List.getLast?_eq_some_iff.mp last
  rw [lastPiece, List.reverse_append, List.reverse_singleton, List.singleton_append,
    List.reverse_eq_nil_iff] at nothing
  by_contra other
  rw [List.takeWhile_cons_of_pos (by simpa using other)] at nothing
  cases nothing

/-- What is read at the end of a text goes on to be there. -/
theorem getLast?_visible_trimEnds {text : String} {c : Char} (last : text.toList.getLast? = some c)
    (inside : isOutside c = false) : (visible (trimEnds text.toList)).getLast? = some c := by
  have shown : isIgnored c = false := by
    rw [Bool.eq_false_iff] at inside ⊢
    intro ignored
    simp only [isIgnored, Bool.or_eq_true, beq_iff_eq] at ignored
    rcases ignored with (rfl | rfl) | rfl <;> exact inside rfl
  obtain ⟨front, whole⟩ := List.getLast?_eq_some_iff.mp last
  have kept (cs : List Char) : (visible (cs ++ [c])).getLast? = some c := by
    have self : visible [c] = [c] := List.filter_eq_self.mpr (by simpa using shown)
    rw [visible_append, self, List.getLast?_concat]
  have unpadded : ¬ IsPadded text := by
    rintro ⟨d, ends, outside⟩
    rw [whole, kept] at ends
    cases ends
    exact absurd outside (by rw [inside]; nofun)
  rw [visible_trimEnds unpadded, whole, List.dropWhile_append]
  split
  · rw [List.dropWhile_cons_of_neg (by rw [inside]; nofun)]
    exact kept []
  · exact kept _

/-- Where no slash ends the text and only the path can be last in it, the path ends in a slash
only because of how the text ends otherwise. -/
theorem cases_of_endsOpen {text : String} {u : Url} (parsed : parse text = .ok u)
    (web : IsWeb u.scheme) (noQuery : u.query = none) (noFragment : u.fragment = none)
    (trimmed : IsTrimmed text) (opens : EndsOpen text) :
    isDots (lastPiece (visible (trimEnds text.toList))) = true ∨ EndsUnread text := by
  rw [EndsOpen, splitTail_plain parsed web noQuery noFragment] at opens
  rcases opens with nothing | dots
  · refine .inr ?_
    cases last : text.toList.getLast? with
    | none =>
        have empty := visible_trimEnds_ne_nil parsed
        rw [List.getLast?_eq_none_iff.mp last] at empty
        exact absurd rfl empty
    | some c =>
        refine ⟨c, last, ?_⟩
        cases outside : isOutside c with
        | true => exact .inr rfl
        | false =>
            have slash :=
              getLast?_of_lastPiece_eq_nil (getLast?_visible_trimEnds last outside) nothing
            simp only [isSlash, Bool.true_and, Bool.or_eq_true, beq_iff_eq] at slash
            rcases slash with rfl | rfl
            · exact absurd last trimmed
            · exact .inl rfl
  · exact .inl dots

end Url

end PartnerRecords
