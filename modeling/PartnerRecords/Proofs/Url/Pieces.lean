import PartnerRecords.Proofs.Rest.Normalized

/-!
# Pieces of extended paths

Texts that are added to a web address change nothing but its path. Each of them is one piece there,
which stands for the text and can be told from the pieces beside it: no character of a piece ends
it, or the path.
-/

namespace PartnerRecords.Url

open Text.Percent

/-! ## Characters of pieces -/

/-- Characters that part pieces, end a path, or stand in no URL as they are. -/
def isBreaking (c : Char) : Bool :=
  controlSet c || c == ' ' || c == '/' || c == '?' || c == '#' || c == '\\'

theorem isBreaking_of_mem_escape {byte : UInt8} {c : Char} (member : c ∈ escape byte) :
    isBreaking c = false := by
  have digit : ∀ n < 16, isBreaking (upperHex n) = false := by decide
  have bound : byte.toNat < 256 := byte.toNat_lt
  simp only [escape, List.mem_cons, List.not_mem_nil, or_false] at member
  rcases member with rfl | rfl | rfl
  · rfl
  · exact digit _ (by omega)
  · exact digit _ (by omega)

theorem isBreaking_of_kept {c : Char} (kept : specialSegmentSet c = false) :
    isBreaking c = false := by
  simp only [specialSegmentSet, segmentSet, pathSet, fragmentSet, Bool.or_eq_false_iff] at kept
  simp only [isBreaking, Bool.or_eq_false_iff]
  tauto

/-- What is written of a text breaks no piece. -/
theorem isBreaking_of_mem_written {text : String} {c : Char} (member : c ∈ (written text).toList) :
    isBreaking c = false := by
  rw [written, encoded, String.toList_ofList, encode, List.mem_flatMap] at member
  obtain ⟨d, -, member⟩ := member
  unfold encodeChar at member
  split at member
  · obtain ⟨byte, -, member⟩ := List.mem_flatMap.mp member
    exact isBreaking_of_mem_escape member
  · next kept =>
      rw [List.mem_singleton.mp member]
      exact isBreaking_of_kept (Bool.eq_false_iff.mpr kept)

/-! ## Parted texts -/

/-- Characters that part nothing go before the first part of what follows them. -/
theorem splitBy_run_append {test : Char → Bool} {run rest : List Char} {parts : List (List Char)}
    (inside : ∀ c ∈ run, test c = false) (behind : Text.splitBy test rest = [] :: parts) :
    Text.splitBy test (run ++ rest) = run :: parts := by
  induction run with
  | nil => exact behind
  | cons c run ih =>
      obtain ⟨first, others⟩ := List.forall_mem_cons.mp inside
      rw [List.cons_append, Text.splitBy, ih others]
      simp [first]

theorem toList_segmentsText_cons (piece : String) (pieces : List String) :
    (segmentsText (piece :: pieces)).toList =
      '/' :: (piece.toList ++ (segmentsText pieces).toList) := by
  simp [segmentsText]

theorem segmentsText_append (segments pieces : List String) :
    segmentsText (segments ++ pieces) = segmentsText segments ++ segmentsText pieces := by
  simp [segmentsText]

/-- Pieces without slashes are found between the slashes of their text. -/
theorem splitOn_segmentsText {pieces : List String}
    (unbroken : ∀ piece ∈ pieces, ∀ c ∈ piece.toList, isBreaking c = false) :
    Text.splitOn '/' (segmentsText pieces).toList = [] :: pieces.map String.toList := by
  induction pieces with
  | nil => rfl
  | cons piece rest ih =>
      obtain ⟨first, others⟩ := List.forall_mem_cons.mp unbroken
      have inside : ∀ c ∈ piece.toList, (c == '/') = false := by
        intro c member
        rw [beq_eq_false_iff_ne]
        rintro rfl
        exact absurd (first '/' member) (by decide)
      have parts := splitBy_run_append inside (ih others)
      rw [toList_segmentsText_cons]
      exact (@Text.splitBy_append (· == '/') '/' rfl [] _).trans (congrArg ([] :: ·) parts)

/-! ## Pieces -/

def isDotText (text : String) : Bool :=
  text == "." || text == ".."

def stripped (text : String) : String :=
  String.ofList (visible text.toList)

/-- A text that is a dot segment only once it is stripped. -/
def IsDisguised (text : String) : Prop :=
  isDotText text = false ∧ isDotText (stripped text) = true

/-- Pieces of a path that stand for texts in their order, and that the added part of the path is
parted into at its slashes. Dot segments are left out. -/
structure Pieces (texts pieces : List String) : Prop where
  stands : pieces.map decodeText? =
    (texts.filter (!isDotText ·)).map fun text => some (stripped text)
  unbroken : ∀ piece ∈ pieces, ∀ c ∈ piece.toList, isBreaking c = false
  parted : ∀ front, ∃ added, segmentsText (front ++ pieces) = segmentsText front ++ added ∧
    Text.splitOn '/' added.toList = [] :: pieces.map String.toList

theorem pieces_written (texts : List String) :
    Pieces texts ((texts.filter (!isDotText ·)).map written) := by
  have unbroken : ∀ piece ∈ (texts.filter (!isDotText ·)).map written, ∀ c ∈ piece.toList,
      isBreaking c = false := by
    intro piece member c inside
    obtain ⟨text, -, rfl⟩ := List.mem_map.mp member
    exact isBreaking_of_mem_written inside
  refine ⟨?_, unbroken, fun front => ⟨_, segmentsText_append front _, ?_⟩⟩
  · rw [List.map_map]
    exact List.map_congr_left fun text _ => decodeText?_written text
  · exact splitOn_segmentsText unbroken

/-! ## Paths that go on -/

theorem visible_ne_of_undisguised {text : String} (other : isDotText text = false)
    (plain : ¬ IsDisguised text) :
    visible text.toList ≠ ['.'] ∧ visible text.toList ≠ ['.', '.'] := by
  constructor
  · intro dot
    exact plain ⟨other, by rw [stripped, dot]; rfl⟩
  · intro dots
    exact plain ⟨other, by rw [stripped, dots]; rfl⟩

theorem written_ne_empty {text : String} (shown : stripped text ≠ "") : written text ≠ "" := by
  intro empty
  have nonempty : visible text.toList ≠ [] := by
    intro nothing
    exact shown (congrArg String.ofList nothing)
  exact encode_ne_nil nonempty (String.ofList_injective empty)

section Web

variable {scheme : String} (web : IsWeb scheme)

include web

theorem pushSegment_dots (front : List String) {text : String} (dots : isDotText text = true) :
    pushSegment scheme front text = front := by
  rw [pushSegment_web web, if_pos (by simpa [isDotText] using dots)]

theorem pushSegment_text (front : List String) {text : String} (other : isDotText text = false)
    (plain : ¬ IsDisguised text) :
    pushSegment scheme front text = opened front ++ [written text] := by
  obtain ⟨notDot, notDots⟩ := visible_ne_of_undisguised other plain
  have pushed := pushed web front text
  generalize pushSegment scheme front text = path at pushed
  cases pushed with
  | skipped dots =>
      have isDot : isDotText text = true := by
        simpa only [isDotText, Bool.or_eq_true, beq_iff_eq] using dots
      rw [isDot] at other
      cases other
  | turned kept _ dots => exact absurd dots (not_or.mpr ⟨notDot, notDots⟩)
  | added _ => rfl

theorem pushSegment_ne_nil {front : List String} (nonempty : front ≠ []) (text : String) :
    pushSegment scheme front text ≠ [] := by
  have pushed := pushed web front text
  generalize pushSegment scheme front text = path at pushed
  cases pushed with
  | skipped _ => exact nonempty
  | turned _ _ _ => exact List.append_ne_nil_of_right_ne_nil _ (List.cons_ne_nil _ _)
  | added _ => exact List.append_ne_nil_of_right_ne_nil _ (List.cons_ne_nil _ _)

theorem foldl_pushSegment_ne_nil {front : List String} (nonempty : front ≠ [])
    (texts : List String) : texts.foldl (pushSegment scheme) front ≠ [] := by
  induction texts generalizing front with
  | nil => exact nonempty
  | cons text rest ih => exact ih (pushSegment_ne_nil web nonempty text)

/-- A path goes on after what gives way in front of it, one piece for each text. An empty piece
gives way itself where it would be the first. -/
theorem opened_foldl_pushSegment {front texts : List String}
    (plain : ∀ text ∈ texts, ¬ IsDisguised text)
    (shown : opened front = [] → ∀ text ∈ texts, stripped text ≠ "") :
    opened (texts.foldl (pushSegment scheme) front) =
      opened front ++ (texts.filter (!isDotText ·)).map written := by
  induction texts generalizing front with
  | nil => exact (List.append_nil _).symm
  | cons text rest ih =>
      obtain ⟨first, others⟩ := List.forall_mem_cons.mp plain
      rw [List.foldl_cons]
      cases dots : isDotText text with
      | true =>
          rw [pushSegment_dots web front dots, List.filter_cons_of_neg (by simp [dots])]
          exact ih others fun empty => (List.forall_mem_cons.mp (shown empty)).2
      | false =>
          have kept : opened (opened front ++ [written text]) = opened front ++ [written text] := by
            refine if_neg fun single => ?_
            obtain ⟨empty, last⟩ :=
              List.append_singleton_inj.mp (single.trans (List.nil_append [""]).symm)
            exact written_ne_empty (shown empty text List.mem_cons_self) last
          have nonempty : opened front ++ [written text] ≠ [] :=
            List.append_ne_nil_of_right_ne_nil _ (List.cons_ne_nil _ _)
          rw [pushSegment_text web front dots first, ih others fun empty => ?_, kept,
            List.filter_cons_of_pos (by simp [dots]), List.map_cons, List.append_assoc,
            List.singleton_append]
          rw [kept] at empty
          exact absurd empty nonempty

end Web

/-- Only the root, and a path of two slashes, gives way as a whole. -/
theorem Trunk.eq_of_nil {list : List String} (left : Trunk list []) (nonempty : list ≠ []) :
    list = [""] ∨ list = ["", ""] := by
  generalize nothing : ([] : List String) = trunk at left
  cases left with
  | whole _ => exact absurd nothing.symm nonempty
  | slash _ => exact .inl (by rw [← nothing]; rfl)
  | slashes => exact .inr rfl

structure IsBase (u : Url) (list : List String) : Prop where
  web : IsWeb u.scheme
  path : u.path = .segments list
  nonempty : list ≠ []

/-- What texts make of a web address: what is left of its path goes on with their pieces, or is the
root again. -/
inductive Extended (base : Url) (list texts : List String) : Url → Prop
  | grown {trunk pieces : List String} (left : Trunk list trunk) (stand : Pieces texts pieces)
      (nonempty : trunk ++ pieces ≠ []) :
      Extended base list texts { base with path := .segments (trunk ++ pieces) }
  | root (left : Trunk list []) (nothing : Pieces texts []) :
      Extended base list texts { base with path := .segments [""] }

theorem dropEmptyLast_ne_nil {list : List String} (nonempty : list ≠ []) :
    dropEmptyLast list ≠ [] := by
  unfold dropEmptyLast
  split
  · next long =>
      refine List.ne_nil_of_length_pos ?_
      rw [List.length_dropLast]
      omega
  · exact nonempty

theorem IsBase.exists_extended {base : Url} {list texts : List String} (isBase : IsBase base list)
    (plain : ∀ text ∈ texts, ¬ IsDisguised text)
    (shown : list = [""] ∨ list = ["", ""] → ∀ text ∈ texts, stripped text ≠ "") :
    ∃ u longer, base.extend? texts = some u ∧ Extended base list texts u ∧ IsBase u longer := by
  obtain ⟨web, path, nonempty⟩ := isBase
  have left := trunk_opened list
  have goes := opened_foldl_pushSegment web plain fun empty =>
    shown ((empty ▸ left).eq_of_nil nonempty)
  have reached := foldl_pushSegment_ne_nil web (dropEmptyLast_ne_nil nonempty) texts
  have stand := pieces_written texts
  have extended : base.extend? texts = some { base with
      path := .segments (texts.foldl (pushSegment base.scheme) (dropEmptyLast list)) } := by
    rw [extend?, path]
  refine ⟨_, _, extended, ?_, web, rfl, reached⟩
  generalize texts.foldl (pushSegment base.scheme) (dropEmptyLast list) = way at goes reached
  generalize (texts.filter (!isDotText ·)).map written = pieces at goes stand
  unfold opened at goes
  split at goes
  · next root =>
      obtain ⟨noTrunk, noPieces⟩ := List.append_eq_nil_iff.mp goes.symm
      rw [root]
      exact .root (noTrunk ▸ left) (noPieces ▸ stand)
  · rw [goes] at reached ⊢
    exact .grown left stand reached

/-- Reading a segment at the end of a path leaves one there. -/
theorem back_step_ne_nil (w : Walk) (piece : List Char) :
    (w.step false pathSet true piece).back ≠ [] := by
  rw [step_last]
  cases dots : isDots piece with
  | true => exact List.cons_ne_nil _ _
  | false =>
      rw [step_plain w dots]
      exact List.cons_ne_nil _ _

/-- Every web URL that is read can be gone on from. -/
theorem exists_isBase_of_parse {text : String} {u : Url} (parsed : parse text = .ok u)
    (web : IsWeb u.scheme) : ∃ list, IsBase u list := by
  obtain ⟨front, authority, rest, -, -, -, same⟩ := exists_front parsed web
  refine ⟨readSegments u.scheme (splitTail rest).1, web, by rw [same]; rfl, ?_⟩
  obtain ⟨init, split⟩ := exists_splitBy_concat (afterSlash true (splitTail rest).1)
  rw [readSegments_web web, split, steps_concat, Walk.segments]
  exact List.reverse_ne_nil_iff.mpr (back_step_ne_nil _ _)

/-- Texts that are added to a web address change nothing but its path, and there each of them is one
piece that it can be read off again. -/
theorem pieces_of_extension :
    (∀ text u, parse text = .ok u → IsWeb u.scheme → ∃ list, IsBase u list) ∧
    ∀ base list texts, IsBase base list → (∀ text ∈ texts, ¬ IsDisguised text) →
      (list = [""] ∨ list = ["", ""] → ∀ text ∈ texts, stripped text ≠ "") →
      ∃ u longer, base.extend? texts = some u ∧ Extended base list texts u ∧ IsBase u longer :=
  ⟨fun _ _ => exists_isBase_of_parse, fun _ _ _ => IsBase.exists_extended⟩

open Settings (loopbackUrl)

/-- A slash, a dot segment and an ignored character are added to a URL with a query. -/
theorem pieces_of_mixed_texts :
    IsBase (loopbackUrl ["a", ""] (some "q")) ["a", ""] ∧
      ∃ u longer, (loopbackUrl ["a", ""] (some "q")).extend? ["x/y", ".", "é\t"] = some u ∧
        Extended (loopbackUrl ["a", ""] (some "q")) ["a", ""] ["x/y", ".", "é\t"] u ∧
        IsBase u longer := by
  have isBase : IsBase (loopbackUrl ["a", ""] (some "q")) ["a", ""] := ⟨.inl rfl, rfl, by decide⟩
  have plain : ∀ text ∈ ["x/y", ".", "é\t"], ¬ IsDisguised text := by
    unfold IsDisguised
    decide
  exact ⟨isBase, pieces_of_extension.2 _ _ _ isBase plain (by decide)⟩

/-- Of a path of two slashes nothing is left: what is added takes the place of both. -/
theorem both_slashes_give_way :
    parse "http://[::1]//" = .ok (loopbackUrl ["", ""] none) ∧
      (loopbackUrl ["", ""] none).extend? ["a"] = some (loopbackUrl ["a"] none) ∧
      ∀ kept : List String, kept ++ [""] = ["", ""] →
        (loopbackUrl ["a"] none).path ≠ .segments (kept ++ ["a"]) := by
  refine ⟨by decide +kernel, by decide +kernel, fun kept one same => ?_⟩
  have shorter : kept = [""] := List.append_cancel_right (one : kept ++ [""] = [""] ++ [""])
  rw [shorter] at same
  exact absurd same (by decide)

end PartnerRecords.Url
