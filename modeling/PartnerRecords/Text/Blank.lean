/-!
# Blank characters

The characters with the Unicode property White_Space, and text without them at its ends.
-/

namespace PartnerRecords.Text

def isBlank (c : Char) : Bool :=
  let code := c.toNat
  (0x09 ≤ code && code ≤ 0x0D) || code == 0x20 || code == 0x85 || code == 0xA0 ||
    code == 0x1680 || (0x2000 ≤ code && code ≤ 0x200A) || code == 0x2028 ||
    code == 0x2029 || code == 0x202F || code == 0x205F || code == 0x3000

/-- Removes the blanks at both ends of a list of characters. -/
def strip (cs : List Char) : List Char :=
  ((cs.dropWhile isBlank).reverse.dropWhile isBlank).reverse

def trim (s : String) : String :=
  String.ofList (strip s.toList)

/-- Text of blanks only, the empty text included. -/
def isBlankText (s : String) : Bool :=
  s.toList.all isBlank

theorem dropWhile_isBlank_eq_nil (cs : List Char) :
    cs.dropWhile isBlank = [] ↔ cs.all isBlank = true := by
  induction cs with
  | nil => simp
  | cons c rest ih => cases h : isBlank c <;> simp_all [List.dropWhile]

theorem strip_eq_nil (cs : List Char) : strip cs = [] ↔ cs.all isBlank = true := by
  rw [strip, List.reverse_eq_nil_iff, dropWhile_isBlank_eq_nil, List.all_reverse,
    ← dropWhile_isBlank_eq_nil cs]
  constructor
  · intro h
    cases hd : cs.dropWhile isBlank with
    | nil => rfl
    | cons c rest =>
        have hc := List.head?_dropWhile_not isBlank cs
        simp_all
  · intro h
    simp [h]

end PartnerRecords.Text
