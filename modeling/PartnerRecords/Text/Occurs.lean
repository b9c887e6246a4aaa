/-!
# Text within text
-/

namespace PartnerRecords.Text

/-- Whether a text stands somewhere within another. -/
def occursIn (part : List Char) : List Char → Bool
  | [] => part.isEmpty
  | c :: rest => part.isPrefixOf (c :: rest) || occursIn part rest

def contains (whole part : String) : Bool :=
  occursIn part.toList whole.toList

theorem occursIn_iff (part whole : List Char) :
    occursIn part whole = true ↔ ∃ before behind, whole = before ++ part ++ behind := by
  induction whole with
  | nil => simp [occursIn]
  | cons c rest ih =>
      simp only [occursIn, Bool.or_eq_true, ih]
      constructor
      · rintro (h | ⟨before, behind, rfl⟩)
        · obtain ⟨behind, h⟩ := List.isPrefixOf_iff_prefix.1 h
          exact ⟨[], behind, h.symm⟩
        · exact ⟨c :: before, behind, rfl⟩
      · rintro ⟨before, behind, h⟩
        cases before with
        | nil => exact .inl (List.isPrefixOf_iff_prefix.2 ⟨behind, h.symm⟩)
        | cons d before =>
            simp only [List.cons_append, List.cons.injEq] at h
            exact .inr ⟨before, behind, h.2⟩

end PartnerRecords.Text
