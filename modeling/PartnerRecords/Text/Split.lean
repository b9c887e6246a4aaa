/-!
# Splitting text

Text between separators. There is always one part more than there are separators, and the
parts with the separator between them are the text.
-/

namespace PartnerRecords.Text

/-- The parts of a text between the characters that satisfy a test. -/
def splitBy (test : Char → Bool) : List Char → List (List Char)
  | [] => [[]]
  | c :: rest =>
      match splitBy test rest with
      | [] => [[c]]
      | part :: parts => if test c then [] :: part :: parts else (c :: part) :: parts

def splitOn (separator : Char) (cs : List Char) : List (List Char) :=
  splitBy (· == separator) cs

theorem splitBy_ne_nil (test : Char → Bool) (cs : List Char) : splitBy test cs ≠ [] := by
  induction cs with
  | nil => simp [splitBy]
  | cons c rest ih =>
      simp only [splitBy]
      split <;> (try split) <;> simp

end PartnerRecords.Text
