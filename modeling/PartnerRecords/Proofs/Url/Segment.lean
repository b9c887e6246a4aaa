import Mathlib.Data.List.Induction
import PartnerRecords.Url.Extend

/-!
# Added segments

What was encoded decodes to itself. A segment that is added to the path of a web address is
therefore one segment more and stands for the text that was added, unless that text is a dot
segment or holds characters that are ignored in addresses.
-/

namespace PartnerRecords

/-! ## Escapes -/

namespace Text.Percent

theorem hexValue?_upperHex {digit : Nat} (small : digit < 16) :
    hexValue? (upperHex digit) = some digit := by
  revert digit
  decide

theorem escaped?_escape (byte : UInt8) (rest : List Char) :
    escaped? (escape byte ++ rest) = some (byte, rest) := by
  have bound : byte.toNat < 256 := byte.toNat_lt
  have high : hexValue? (upperHex (byte.toNat / 16)) = some (byte.toNat / 16) :=
    hexValue?_upperHex (by omega)
  have low : hexValue? (upperHex (byte.toNat % 16)) = some (byte.toNat % 16) :=
    hexValue?_upperHex (by omega)
  have joined : 16 * (byte.toNat / 16) + byte.toNat % 16 = byte.toNat := by omega
  simp only [escape, List.cons_append, List.nil_append, escaped?, high, low, joined,
    Option.bind_eq_bind, Option.bind_some, Option.pure_def, UInt8.ofNat_toNat]

theorem escaped?_cons {c : Char} (plain : c ≠ '%') (rest : List Char) :
    escaped? (c :: rest) = none := by
  unfold escaped?
  split
  · next same => exact absurd (List.cons.inj same).1 plain
  · rfl

theorem decode_escaped {byte : UInt8} {cs rest : List Char}
    (found : escaped? cs = some (byte, rest)) : decode cs = byte :: decode rest := by
  rw [decode]
  split
  · next other =>
      rw [found] at other
      cases other
      rfl
  · next missing =>
      rw [found] at missing
      cases missing

theorem decode_escape (byte : UInt8) (rest : List Char) :
    decode (escape byte ++ rest) = byte :: decode rest :=
  decode_escaped (escaped?_escape byte rest)

theorem decode_cons {c : Char} (plain : c ≠ '%') (rest : List Char) :
    decode (c :: rest) = String.utf8EncodeChar c ++ decode rest := by
  rw [decode]
  split
  · next found =>
      rw [escaped?_cons plain] at found
      cases found
  · rfl

theorem decode_escapes (bytes : List UInt8) (rest : List Char) :
    decode (bytes.flatMap escape ++ rest) = bytes ++ decode rest := by
  induction bytes with
  | nil => rfl
  | cons byte bytes ih =>
      rw [List.flatMap_cons, List.append_assoc, decode_escape, ih, List.cons_append]

section Encoding

variable {set : Char → Bool} (escapes : set '%' = true)

include escapes

theorem decode_encodeChar (c : Char) (rest : List Char) :
    decode (encodeChar set c ++ rest) = String.utf8EncodeChar c ++ decode rest := by
  unfold encodeChar
  split
  · exact decode_escapes _ rest
  · next kept =>
      refine decode_cons ?_ rest
      rintro rfl
      exact kept escapes

/-- A set that holds the percent sign loses nothing. -/
theorem decode_encode (cs : List Char) :
    decode (encode set cs) = cs.flatMap String.utf8EncodeChar := by
  induction cs with
  | nil => simp [encode, decode, escaped?]
  | cons c rest ih =>
      unfold encode at ih ⊢
      rw [List.flatMap_cons, decode_encodeChar escapes, ih, List.flatMap_cons]

theorem decodeText?_encode (cs : List Char) :
    decodeText? (String.ofList (encode set cs)) = some (String.ofList cs) := by
  have bytes : (⟨(cs.flatMap String.utf8EncodeChar).toArray⟩ : ByteArray) =
      (String.ofList cs).toByteArray := by
    rw [String.toByteArray_ofList, List.utf8Encode, ← List.data_toByteArray]
  unfold decodeText?
  rw [String.toList_ofList, decode_encode escapes, bytes]
  unfold String.fromUTF8?
  rw [dif_pos (String.ofList cs).isValidUTF8]
  rfl

end Encoding

theorem decodeText?_empty : decodeText? "" = some "" :=
  @decodeText?_encode (fun _ => true) rfl []

theorem flatMap_utf8EncodeChar_injective {cs others : List Char}
    (same : cs.flatMap String.utf8EncodeChar = others.flatMap String.utf8EncodeChar) :
    cs = others := by
  have bytes : cs.utf8Encode = others.utf8Encode := congrArg List.toByteArray same
  rw [← String.toByteArray_ofList, ← String.toByteArray_ofList] at bytes
  exact String.ofList_injective (String.toByteArray_inj.mp bytes)

end Text.Percent

namespace Url

open Text.Percent

/-! ## Dot segments -/

/-- A text that reads as dots, with or without escapes, stands for these dots. -/
theorem decode_of_undot {cs : List Char} (dots : ∀ c ∈ undot cs, c = '.') :
    decode cs = (undot cs).flatMap String.utf8EncodeChar := by
  have head : String.utf8EncodeChar '.' = [0x2E] := by decide
  fun_induction undot cs with
  | case1 rest ih =>
      have escape : escaped? ('%' :: '2' :: 'e' :: rest) = some (0x2E, rest) := rfl
      rw [decode_escaped escape, List.flatMap_cons, head,
        ih fun c member => dots c (List.mem_cons_of_mem _ member)]
      rfl
  | case2 rest ih =>
      have escape : escaped? ('%' :: '2' :: 'E' :: rest) = some (0x2E, rest) := rfl
      rw [decode_escaped escape, List.flatMap_cons, head,
        ih fun c member => dots c (List.mem_cons_of_mem _ member)]
      rfl
  | case3 c rest _ _ ih =>
      obtain rfl : c = '.' := dots c List.mem_cons_self
      rw [decode_cons (by decide), List.flatMap_cons,
        ih fun c member => dots c (List.mem_cons_of_mem _ member)]
  | case4 => simp [decode, escaped?]

section Encoded

variable {set : Char → Bool} (escapes : set '%' = true) (plain : set '.' = false)

include escapes

theorem eq_of_undot_encode {cs dots : List Char} (isDots : ∀ c ∈ dots, c = '.')
    (same : undot (encode set cs) = dots) : cs = dots := by
  have decoded : decode (encode set cs) = dots.flatMap String.utf8EncodeChar := by
    rw [← same] at isDots ⊢
    exact decode_of_undot isDots
  rw [decode_encode escapes] at decoded
  exact flatMap_utf8EncodeChar_injective decoded

include plain

theorem isSingleDot_encode (cs : List Char) : isSingleDot (encode set cs) = (cs == ['.']) := by
  rw [Bool.eq_iff_iff, beq_iff_eq]
  unfold isSingleDot
  rw [beq_iff_eq]
  constructor
  · exact eq_of_undot_encode escapes (by simp)
  · rintro rfl
    simp [encode, encodeChar, plain, undot]

theorem isDoubleDot_encode (cs : List Char) :
    isDoubleDot (encode set cs) = (cs == ['.', '.']) := by
  rw [Bool.eq_iff_iff, beq_iff_eq]
  unfold isDoubleDot
  rw [beq_iff_eq]
  constructor
  · exact eq_of_undot_encode escapes (by simp)
  · rintro rfl
    simp [encode, encodeChar, plain, undot]

end Encoded

/-! ## Added segments -/

def IsWeb (scheme : String) : Prop :=
  scheme = "http" ∨ scheme = "https"

theorem IsWeb.isSpecialScheme_eq {scheme : String} (web : IsWeb scheme) :
    isSpecialScheme scheme = true := by
  rcases web with rfl | rfl <;> decide

/-- A text that can be a segment as it is: none of its characters is ignored, and it is no dot
segment. -/
structure IsProper (text : String) : Prop where
  visible : visible text.toList = text.toList
  notDot : text ≠ "."
  notDots : text ≠ ".."

def written (text : String) : String :=
  encoded specialSegmentSet (visible text.toList)

theorem decodeText?_written (text : String) :
    decodeText? (written text) = some (String.ofList (visible text.toList)) :=
  decodeText?_encode (by decide) _

/-- The segments to which one is added: a single empty one gives way. -/
def opened (front : List String) : List String :=
  if front = [""] then [] else front

inductive Pushed (front : List String) (text : String) : List String → Prop
  /-- A dot segment adds nothing. -/
  | skipped (dots : text = "." ∨ text = "..") : Pushed front text front
  /-- A dot segment in disguise leads on the spot or up, and ends in an empty segment. -/
  | turned (kept : List String) (shorter : kept.length ≤ front.length)
      (dots : visible text.toList = ['.'] ∨ visible text.toList = ['.', '.']) :
      Pushed front text (kept ++ [""])
  | added (other : visible text.toList ≠ ['.'] ∧ visible text.toList ≠ ['.', '.']) :
      Pushed front text (opened front ++ [written text])

theorem step_web (w : Walk) (text : String) :
    w.step false specialSegmentSet true text.toList =
      if visible text.toList = ['.', '.'] then w.up.push ""
      else if visible text.toList = ['.'] then w.push ""
      else w.push (written text) := by
  have escapesPercent : specialSegmentSet '%' = true := rfl
  have keepsDot : specialSegmentSet '.' = false := rfl
  unfold Walk.step written encoded
  simp only [Bool.false_and, Bool.false_eq_true, if_false, Walk.settle, if_true,
    isSingleDot_encode escapesPercent keepsDot, isDoubleDot_encode escapesPercent keepsDot,
    beq_iff_eq]

theorem length_up_le (w : Walk) : w.up.back.length ≤ w.back.length := by
  unfold Walk.up
  split
  · exact Nat.le_refl _
  · next last before same =>
      rw [same]
      split
      · exact Nat.le_of_eq (congrArg List.length same)
      · exact Nat.le_succ _

theorem length_opened_le (front : List String) : (opened front).length ≤ front.length := by
  unfold opened
  split
  · exact Nat.zero_le _
  · exact Nat.le_refl _

section Web

variable {scheme : String} (web : IsWeb scheme)

include web

theorem pushSegment_web (front : List String) (text : String) :
    pushSegment scheme front text =
      if text = "." ∨ text = ".." then front
      else (Walk.step false specialSegmentSet true { back := (opened front).reverse }
        text.toList).segments := by
  have noFile : (scheme == "file") = false := by
    obtain rfl | rfl := web <;> decide
  have back : (if front = [""] then [] else front.reverse) = (opened front).reverse := by
    unfold opened
    split <;> rfl
  simp only [pushSegment, web.isSpecialScheme_eq, noFile, back, if_true, Bool.false_eq_true,
    if_false]

/-- How a text is added to the path of a web address. -/
theorem pushed (front : List String) (text : String) :
    Pushed front text (pushSegment scheme front text) := by
  rw [pushSegment_web web, step_web]
  split
  · next dots => exact .skipped dots
  · split
    · next dots =>
        have shorter := length_up_le { back := (opened front).reverse }
        rw [List.length_reverse] at shorter
        rw [Walk.segments, Walk.push, List.reverse_cons]
        refine .turned _ ?_ (.inr dots)
        rw [List.length_reverse]
        exact Nat.le_trans shorter (length_opened_le front)
    · next notDots =>
        split
        · next dot =>
            rw [Walk.segments, Walk.push, List.reverse_cons, List.reverse_reverse]
            exact .turned _ (length_opened_le front) (.inl dot)
        · next notDot =>
            rw [Walk.segments, Walk.push, List.reverse_cons, List.reverse_reverse]
            exact .added ⟨notDot, notDots⟩

/-- No text adds more than one segment. -/
theorem length_pushSegment_le (front : List String) (text : String) :
    (pushSegment scheme front text).length ≤ front.length + 1 := by
  have pushed := pushed web front text
  generalize pushSegment scheme front text = path at pushed
  cases pushed with
  | skipped _ => exact Nat.le_succ _
  | turned kept shorter _ =>
      rw [List.length_append]
      exact Nat.succ_le_succ shorter
  | added _ =>
      rw [List.length_append]
      exact Nat.succ_le_succ (length_opened_le front)

theorem length_foldl_pushSegment_le (front texts : List String) :
    (texts.foldl (pushSegment scheme) front).length ≤ front.length + texts.length := by
  induction texts generalizing front with
  | nil => exact Nat.le_refl _
  | cons text rest ih =>
      have first := length_pushSegment_le web front text
      have others := ih (pushSegment scheme front text)
      rw [List.foldl_cons, List.length_cons]
      omega

theorem IsProper.pushSegment_eq {front : List String} {text : String} (proper : IsProper text) :
    pushSegment scheme front text = opened front ++ [written text] := by
  have pushed := pushed web front text
  generalize pushSegment scheme front text = path at pushed
  cases pushed with
  | skipped dots => exact absurd dots (not_or.mpr ⟨proper.notDot, proper.notDots⟩)
  | turned kept _ dots =>
      rw [proper.visible] at dots
      obtain dot | dots := dots
      · exact absurd (String.toList_inj.mp (by rw [dot]; rfl)) proper.notDot
      · exact absurd (String.toList_inj.mp (by rw [dots]; rfl)) proper.notDots
  | added _ => rfl

end Web

theorem IsProper.decodeText?_written {text : String} (proper : IsProper text) :
    decodeText? (written text) = some text := by
  rw [Url.decodeText?_written, proper.visible, String.ofList_toList]

def Continues (front texts path : List String) : Prop :=
  ∃ added, path = front ++ added ∧ added.map decodeText? = texts.map some

theorem Continues.injective {front texts others path : List String}
    (continues : Continues front texts path) (also : Continues front others path) :
    texts = others := by
  obtain ⟨added, rfl, decoded⟩ := continues
  obtain ⟨again, same, decodes⟩ := also
  obtain rfl := List.append_cancel_left same
  exact (List.map_inj_right fun _ _ => Option.some.inj).mp (decoded.symm.trans decodes)

theorem continues_append_iff {front texts path : List String} {last : String} :
    Continues front (texts ++ [last]) path ↔
      ∃ before segment, path = before ++ [segment] ∧ Continues front texts before ∧
        decodeText? segment = some last := by
  constructor
  · rintro ⟨added, rfl, decoded⟩
    rw [List.map_append] at decoded
    obtain ⟨earlier, final, rfl, decodes, decoded⟩ := List.map_eq_append_iff.mp decoded
    obtain ⟨segment, rest, rfl, stands, nothing⟩ := List.map_eq_cons_iff.mp decoded
    obtain rfl := List.map_eq_nil_iff.mp nothing
    exact ⟨front ++ earlier, segment, (List.append_assoc ..).symm, ⟨earlier, rfl, decodes⟩, stands⟩
  · rintro ⟨before, segment, rfl, ⟨added, rfl, decoded⟩, stands⟩
    refine ⟨added ++ [segment], List.append_assoc .., ?_⟩
    simp only [List.map_append, List.map_cons, List.map_nil, decoded, stands]

theorem Continues.length_eq {front texts path : List String}
    (continues : Continues front texts path) : path.length = front.length + texts.length := by
  obtain ⟨added, rfl, decoded⟩ := continues
  have lengths := congrArg List.length decoded
  rw [List.length_map, List.length_map] at lengths
  rw [List.length_append, lengths]

/-- A path whose front is more than one empty segment does not give way. -/
theorem Continues.opened_eq {front texts path : List String}
    (continues : Continues front texts path) (nonempty : front ≠ []) (shown : front ≠ [""]) :
    opened path = path := by
  obtain ⟨added, rfl, -⟩ := continues
  refine if_neg fun single => ?_
  obtain ⟨rfl, -⟩ | ⟨same, -⟩ := List.append_eq_singleton_iff.mp single
  · exact nonempty rfl
  · exact shown same

theorem Continues.of_opened {front texts path : List String} (nonempty : front ≠ [])
    (continues : Continues front texts (opened path)) : Continues front texts path := by
  unfold opened at continues
  split at continues
  · have length := continues.length_eq
    have := List.length_pos_iff.mpr nonempty
    rw [List.length_nil] at length
    omega
  · exact continues

theorem proper_of_written {text : String} (stands : decodeText? (written text) = some text)
    (other : visible text.toList ≠ ['.'] ∧ visible text.toList ≠ ['.', '.']) :
    IsProper text := by
  rw [Url.decodeText?_written] at stands
  have same : visible text.toList = text.toList := by
    have shown := congrArg String.toList (Option.some.inj stands)
    rwa [String.toList_ofList] at shown
  rw [same] at other
  refine ⟨same, ?_, ?_⟩
  · rintro rfl
    exact other.1 rfl
  · rintro rfl
    exact other.2 rfl

/-- The path goes on with all texts that are added if and only if each of them can be a
segment. -/
theorem continues_iff {scheme : String} (web : IsWeb scheme) {front : List String}
    (nonempty : front ≠ []) (shown : front ≠ [""]) (texts : List String) :
    Continues front texts (texts.foldl (pushSegment scheme) front) ↔
      ∀ text ∈ texts, IsProper text := by
  induction texts using List.reverseRecOn with
  | nil => simp [Continues]
  | append_singleton texts last ih =>
      have bound := length_foldl_pushSegment_le web front texts
      have pushed := pushed web (texts.foldl (pushSegment scheme) front) last
      rw [List.foldl_append, List.foldl_cons, List.foldl_nil, List.forall_mem_append,
        List.forall_mem_singleton, ← ih, continues_append_iff]
      constructor
      · rintro ⟨before, segment, path, continues, stands⟩
        rw [path] at pushed
        have length := continues.length_eq
        generalize texts.foldl (pushSegment scheme) front = reached at bound pushed ⊢
        generalize whole : before ++ [segment] = path at pushed
        cases pushed with
        | skipped dots =>
            rw [← whole, List.length_append, List.length_singleton] at bound
            omega
        | turned kept shorter dots =>
            obtain ⟨-, rfl⟩ := List.append_singleton_inj.mp whole
            obtain rfl : "" = last := Option.some.inj (decodeText?_empty.symm.trans stands)
            obtain dot | dots := dots <;> contradiction
        | added other =>
            obtain ⟨rfl, rfl⟩ := List.append_singleton_inj.mp whole
            exact ⟨continues.of_opened nonempty, proper_of_written stands other⟩
      · rintro ⟨continues, proper⟩
        refine ⟨_, written last, ?_, continues, proper.decodeText?_written⟩
        rw [proper.pushSegment_eq web, continues.opened_eq nonempty shown]

end Url

end PartnerRecords
