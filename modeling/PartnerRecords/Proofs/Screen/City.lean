import PartnerRecords.Proofs.Config.Variable
import PartnerRecords.Proofs.Screen.Ready

/-!
# Cities in addresses

A location is saved if its address shows the city. The address is made of city and country without
the blanks at their ends, but the city is searched for as it was typed, and in the whole line. So
the two agree on a city that has no blanks at its ends. Blanks that are lost with the city may be
found in the country, and a city with blanks at its ends is found only by accident.
-/

namespace PartnerRecords

open Act
open Text (trim isBlankText)

namespace Text

theorem contains_empty (s : String) : contains s "" = true :=
  contains_iff_isInfix.mpr List.nil_infix

theorem contains_append (s behind : String) : contains (s ++ behind) s = true := by
  rw [contains_iff_isInfix, String.toList_append]
  exact (List.prefix_append _ _).isInfix

/-- A text stands within its core only if it is its core. -/
theorem contains_trim_iff (s : String) : contains (trim s) s = true ↔ trim s = s := by
  constructor
  · intro found
    obtain ⟨before, behind, whole, -, -⟩ := (core_strip s.toList).between
    rw [contains_iff_isInfix, trim, String.toList_ofList] at found
    have shorter : (strip s.toList).length ≤ s.toList.length := by
      conv_rhs => rw [whole]
      simp only [List.length_append]
      omega
    have same := found.eq_of_length (Nat.le_antisymm found.length_le shorter)
    rw [trim, ← same, String.ofList_toList]
  · intro same
    rw [same]
    exact contains_self s

end Text

namespace Location

variable {l : Location}

theorem summary_of_blank_city (blank : isBlankText l.city = true) :
    l.summary = trim l.country := by
  have city : trim l.city = "" := (Text.trim_eq_empty_iff l.city).mpr blank
  unfold summary
  by_cases country : trim l.country = "" <;> simp [city, country]

theorem summary_of_blank_country (blank : isBlankText l.country = true) :
    l.summary = trim l.city := by
  have country : trim l.country = "" := (Text.trim_eq_empty_iff l.country).mpr blank
  unfold summary
  by_cases city : trim l.city = "" <;> simp [city, country]

theorem summary_of_visible (city : isBlankText l.city = false)
    (country : isBlankText l.country = false) :
    l.summary = trim l.city ++ ", " ++ trim l.country := by
  have visible : ∀ text, isBlankText text = false → trim text ≠ "" := fun text visible empty => by
    rw [(Text.trim_eq_empty_iff text).mp empty] at visible
    cases visible
  unfold summary
  simp [visible _ city, visible _ country]

/-- The cases in which the address of a location shows the city as it was typed. -/
inductive ShowsCity (l : Location) : Prop
  /-- The city has no blanks at its ends, or is empty. -/
  | whole (same : trim l.city = l.city)
  /-- The city is lost, and the country shows the same blanks. -/
  | blank (blank : isBlankText l.city = true)
      (found : Text.contains (trim l.country) l.city = true)
  /-- The blanks at the ends of the city are lost, and the line happens to show it otherwise. -/
  | padded (city : isBlankText l.city = false) (country : isBlankText l.country = false)
      (found : Text.contains (trim l.city ++ ", " ++ trim l.country) l.city = true)

theorem contains_summary_iff (l : Location) :
    Text.contains l.summary l.city = true ↔ l.ShowsCity := by
  constructor
  · intro found
    cases city : isBlankText l.city with
    | true =>
        rw [summary_of_blank_city city] at found
        exact .blank city found
    | false =>
        cases country : isBlankText l.country with
        | true =>
            rw [summary_of_blank_country country] at found
            exact .whole ((Text.contains_trim_iff l.city).mp found)
        | false =>
            rw [summary_of_visible city country] at found
            exact .padded city country found
  · rintro (same | ⟨blank, found⟩ | ⟨city, country, found⟩)
    · cases city : isBlankText l.city with
      | true =>
          have empty : l.city = "" := same.symm.trans ((Text.trim_eq_empty_iff l.city).mpr city)
          rw [empty]
          exact Text.contains_empty _
      | false =>
          cases country : isBlankText l.country with
          | true =>
              rw [summary_of_blank_country country, same]
              exact Text.contains_self l.city
          | false =>
              rw [summary_of_visible city country, same, String.append_assoc]
              exact Text.contains_append l.city _
    · rw [summary_of_blank_city blank]
      exact found
    · rw [summary_of_visible city country]
      exact found

/-- A blank before the city is taken for the one between city and country. -/
example : ShowsCity { name := "HQ", city := " Luxembourg", country := "Luxembourg" } :=
  .padded (by decide) (by decide) (by decide)

end Location

variable {σ : Type}

/-- On every screen that can be reached, shows a record without a form and offers the country, a
location is entered exactly if its address shows the city as it was typed. Then its row is saved.
Otherwise the address is reported as not rendered, and no row is saved. -/
theorem saved_iff_showsCity (server : Server σ) (options : Dict (List String)) (calls : List Call)
    (rest : σ) (l : Location) (visited : (Screen.callAll { options } calls).visited ≠ none)
    (form : (Screen.callAll { options } calls).form = none)
    (offered : (Screen.callAll { options } calls).offers Field.addressCountry l.country l.country =
      true) :
    let s := Screen.callAll { options } calls
    let run := Entry.location server.desk l (s, rest)
    (run.1 = .ok () ↔ l.ShowsCity) ∧
      (l.ShowsCity → run.2.1.grids = s.grids.push .locations (Item.location l).row) ∧
      (¬ l.ShowsCity → run.1 = .error (.addressNotRendered l.summary l.city) ∧
        run.2.1.grids = s.grids) := by
  intro s run
  have ready : s.Ready := ((Screen.coherent_new options).callAll calls).ready visited form
  have ends : (Entry.location server.desk l).Ends (s, rest) _ _ :=
    Item.enter_ready ready (.location l)
  cases result : run.1 with
  | ok value =>
      obtain ⟨-, shown, entered, -⟩ := ends.of_ok result
      have shows := l.contains_summary_iff.mp shown
      exact ⟨iff_of_true rfl shows, fun _ => entered.grids, fun hides => absurd shows hides⟩
  | error cause =>
      obtain ⟨kept, hindered⟩ := ends.of_error result
      cases hindered with
      | option picks refused =>
          cases picks
          rw [offered] at refused
          cases refused
      | address hidden =>
          have hides : ¬ l.ShowsCity := by
            rw [← l.contains_summary_iff, hidden]
            exact Bool.false_ne_true
          exact ⟨iff_of_false nofun hides, fun shows => absurd shows hides, fun _ => ⟨rfl, kept.1⟩⟩

def Server.silent : Server Unit where
  exchange _ _ := (.unsent, ())
  readOrder _ := .inTurn

/-- The blank between the words of a country passes for a city. -/
theorem saved_for_blank_of_country :
    let s := Screen.callAll {} [.visitWindow 123 ⟨"7"⟩]
    let l : Location := { name := "HQ", city := " ", country := "New Zealand" }
    s.visited ≠ none ∧ s.form = none ∧ s.offers Field.addressCountry l.country l.country = true ∧
      (Entry.location Server.silent.desk l (s, ())).1 = .ok () ∧
      (Entry.location Server.silent.desk l (s, ())).2.1.grids.locations =
        [Dict.ofList [(Field.locationName, "HQ"), (Field.locationAddress, "New Zealand")]] := by
  intro s l
  have shows : l.ShowsCity := .blank (by decide) (by decide)
  obtain ⟨saved, row, -⟩ := saved_iff_showsCity Server.silent [] [.visitWindow 123 ⟨"7"⟩] () l
    nofun rfl rfl
  refine ⟨nofun, rfl, rfl, saved.mpr shows, ?_⟩
  rw [row shows]
  decide

/-- Whether a city is blank is not what decides: a blank and an empty city are saved, and a city
with a blank before it is refused. -/
theorem blank_cities_saved :
    let s := Screen.callAll {} [.visitWindow 123 ⟨"7"⟩]
    let entered := fun city country : String =>
      (Entry.location Server.silent.desk { name := "HQ", city, country } (s, ())).1
    entered " " "New Zealand" = .ok () ∧ entered "" "Germany" = .ok () ∧
      entered " Berlin" "Germany" = .error (.addressNotRendered "Berlin, Germany" " Berlin") := by
  decide

end PartnerRecords
