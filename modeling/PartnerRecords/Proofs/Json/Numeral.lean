import Mathlib.Data.List.TakeWhile
import PartnerRecords.Proofs.Json.Written

/-!
# Numbers in decimal digits

A natural number is written as the text of its digits. What is read of this text is the number
itself as long as it fits 64 bits. From there on it is at best a real number, and no real number is
written in digits alone.
-/

namespace PartnerRecords

/-! ## Digits -/

namespace Text

/-- A run of decimal digits is worth what the standard library makes of it. -/
theorem valueIn_eq_ofDigitChars (radix : Nat) {digits : List Char}
    (decimal : ∀ c ∈ digits, c.isDigit = true) :
    valueIn radix digits = Nat.ofDigitChars radix digits 0 := by
  refine List.foldl_ext _ _ 0 fun value c member => ?_
  rw [appendDigit, hexValue?, if_pos (decimal c member), Option.getD_some]

/-- The digits of a number are worth the number. -/
theorem valueIn_toDigits (n : Nat) : valueIn 10 (Nat.toDigits 10 n) = n := by
  have decimal : ∀ c ∈ Nat.toDigits 10 n, c.isDigit = true := fun _ =>
    Nat.isDigit_of_mem_toDigits (by decide) (by decide)
  rw [valueIn_eq_ofDigitChars 10 decimal, Nat.ofDigitChars_ten_toDigits]

/-- No zero stands before other digits of a number. -/
theorem length_toDigits_of_head?_zero {n : Nat} (zero : (Nat.toDigits 10 n).head? = some '0') :
    (Nat.toDigits 10 n).length = 1 := by
  induction n using Nat.strongRecOn with
  | ind n ih =>
      rw [Nat.toDigits_eq_if (by decide)] at zero
      split at zero
      · next small => rw [Nat.toDigits_of_lt_base small, List.length_singleton]
      · next large =>
          have front : (Nat.toDigits 10 (n / 10)).head? = some '0' := by
            rwa [List.head?_append_of_ne_nil _ Nat.toDigits_ne_nil] at zero
          obtain ⟨digit, single⟩ := List.length_eq_one_iff.mp (ih (n / 10) (by omega) front)
          have worth := valueIn_toDigits (n / 10)
          rw [single] at front worth
          cases front
          have nothing : valueIn 10 ['0'] = 0 := by decide
          omega

end Text

/-! ## Real numbers -/

namespace Decimal

/-- A point or an exponent stands in every decimal. -/
theorem Scientific.exists_mark (d : Scientific) : ∃ c ∈ d.layout, c.isDigit = false := by
  unfold layout
  dsimp only
  split
  · exact ⟨'e', by simp, rfl⟩
  · split
    · exact ⟨'.', by simp, rfl⟩
    · split
      · exact ⟨'.', by simp, rfl⟩
      · exact ⟨'.', by simp, rfl⟩

/-- A real number is not written in digits alone. -/
theorem Binary64.exists_mark (x : Binary64) : ∃ c ∈ x.text.toList, c.isDigit = false := by
  have magnitude : ∃ c ∈ (if x.significand = 0 then ['0', '.', '0'] else x.shortest.layout),
      c.isDigit = false := by
    split
    · exact ⟨'.', by simp, rfl⟩
    · exact x.shortest.exists_mark
  obtain ⟨c, member, mark⟩ := magnitude
  refine ⟨c, ?_, mark⟩
  rw [text, String.toList_ofList]
  split
  · exact List.mem_cons_of_mem _ member
  · exact member

theorem Binary64.text_ne_toString (x : Binary64) (n : Nat) : x.text ≠ toString n := by
  obtain ⟨c, member, mark⟩ := x.exists_mark
  intro same
  rw [same, Nat.toString_eq_ofList_toDigits, String.toList_ofList] at member
  rw [Nat.isDigit_of_mem_toDigits (by decide) (by decide) member] at mark
  cases mark

end Decimal

namespace Json

/-! ## Literals -/

def Literal.decimal (n : Nat) : Literal :=
  ⟨false, Nat.toDigits 10 n, none, none⟩

theorem Literal.ofChars?_digits {cs : List Char} (digits : ∀ c ∈ cs, c.isDigit = true)
    (nonempty : cs ≠ []) (leads : cs.head? = some '0' → cs.length = 1) :
    ofChars? cs = some ⟨false, cs, none, none⟩ := by
  have proper : (cs.isEmpty || (cs.length != 1 && cs.head? == some '0')) = false := by
    rw [Bool.or_eq_false_iff, List.isEmpty_eq_false_iff, Bool.and_eq_false_iff]
    refine ⟨nonempty, ?_⟩
    by_cases zero : cs.head? = some '0'
    · exact .inl (by rw [leads zero]; rfl)
    · exact .inr (beq_eq_false_iff_ne.mpr zero)
  unfold ofChars?
  split
  next negative unsigned split =>
    split at split
    · next rest => exact absurd (digits '-' List.mem_cons_self) (by decide)
    · cases split
      dsimp only
      rw [List.takeWhile_eq_self_iff.mpr digits, List.dropWhile_eq_nil_iff.mpr digits, proper]
      rfl

theorem Literal.ofChars?_toDigits (n : Nat) : ofChars? (Nat.toDigits 10 n) = some (decimal n) :=
  ofChars?_digits (fun _ => Nat.isDigit_of_mem_toDigits (by decide) (by decide))
    Nat.toDigits_ne_nil Text.length_toDigits_of_head?_zero

/-- What a number in decimal digits is read as: itself if it fits 64 bits, else a real number or
nothing. -/
theorem Literal.number?_decimal (n : Nat) : (decimal n).number? =
    if n < Text.wordLimit then some (.whole n) else (decimal n).real? := by
  have value : Text.valueBelow? Text.wordLimit 10 (decimal n).integer =
      if n < Text.wordLimit then some n else none := by
    rw [Text.valueBelow?_eq (by decide) (by decide), decimal, Text.valueIn_toDigits]
  have whole : (decimal n).number? = (Text.valueBelow? Text.wordLimit 10 (decimal n).integer).elim
      (decimal n).real? fun value => some (.whole value) := by
    unfold number?
    cases Text.valueBelow? Text.wordLimit 10 (decimal n).integer <;> rfl
  rw [whole, value]
  split <;> rfl

theorem Literal.exists_real_of_real? {l : Literal} {number : Number}
    (read : l.real? = some number) : ∃ x, number = .real x := by
  obtain ⟨start, -, read⟩ := Option.bind_eq_some_iff.mp read
  obtain ⟨x, -, same⟩ := Option.bind_eq_some_iff.mp read
  exact ⟨x, (Option.some.inj same).symm⟩

/-- The number that is read of decimal digits is written back in the same way exactly if it fits
64 bits. -/
theorem Literal.text_eq_toString_iff {n : Nat} {number : Number}
    (read : (decimal n).number? = some number) :
    number.text = toString n ↔ n < Text.wordLimit := by
  rw [number?_decimal] at read
  split at read
  · next fits =>
      cases read
      exact iff_of_true rfl fits
  · next large =>
      obtain ⟨x, rfl⟩ := exists_real_of_real? read
      exact iff_of_false (x.text_ne_toString n) large

end Json

end PartnerRecords
