/-!
# Dictionaries

Finite maps from names to values. The entries stand in strictly increasing order of
their names, so that a dictionary is one list whatever the order of its insertions.
-/

namespace PartnerRecords

abbrev Dict (α : Type) := List (String × α)

namespace Dict

variable {α β : Type}

def get? : Dict α → String → Option α
  | [], _ => none
  | (name, value) :: rest, key => if name = key then some value else get? rest key

/-- Puts a value under a name, in place of any value the name had. -/
def insert : Dict α → String → α → Dict α
  | [], key, value => [(key, value)]
  | (name, old) :: rest, key, value =>
      if key < name then (key, value) :: (name, old) :: rest
      else if name = key then (key, value) :: rest
      else (name, old) :: insert rest key value

def erase (entries : Dict α) (key : String) : Dict α :=
  entries.filter fun entry => entry.1 ≠ key

/-- The last value given for a name is the one that stays. -/
def ofList (entries : List (String × α)) : Dict α :=
  entries.foldl (fun dict entry => dict.insert entry.1 entry.2) []

def map (f : α → β) (entries : Dict α) : Dict β :=
  List.map (fun entry => (entry.1, f entry.2)) entries

theorem get?_insert (entries : Dict α) (key name : String) (value : α) :
    (entries.insert key value).get? name =
      if key = name then some value else entries.get? name := by
  induction entries with
  | nil => simp [insert, get?]
  | cons entry rest ih =>
      obtain ⟨other, old⟩ := entry
      simp only [insert]
      split
      · simp [get?]
      · split <;> grind [get?]

/-- The names of a dictionary stand in order, each once. -/
def Ordered (entries : Dict α) : Prop :=
  entries.Pairwise fun first second => first.1 < second.1

theorem name_of_mem_insert {entries : Dict α} {key : String} {value : α} {entry : String × α}
    (member : entry ∈ entries.insert key value) :
    entry.1 = key ∨ ∃ old ∈ entries, old.1 = entry.1 := by
  induction entries with
  | nil => exact .inl (by rw [List.mem_singleton.mp member])
  | cons head rest ih =>
      simp only [insert] at member
      split at member
      · grind
      · split at member <;> grind

theorem Ordered.insert {entries : Dict α} (ordered : Ordered entries) (key : String)
    (value : α) : Ordered (entries.insert key value) := by
  induction entries with
  | nil => exact List.pairwise_singleton _ _
  | cons head rest ih =>
      obtain ⟨first, tail⟩ := List.pairwise_cons.mp ordered
      simp only [Dict.insert]
      split
      · next before =>
          refine List.pairwise_cons.mpr ⟨fun entry member => ?_, ordered⟩
          rcases List.mem_cons.mp member with rfl | later
          · exact before
          · exact String.lt_trans before (first entry later)
      · next notBefore =>
          split
          · next same =>
              exact List.pairwise_cons.mpr ⟨fun entry member => same ▸ first entry member, tail⟩
          · next other =>
              refine List.pairwise_cons.mpr ⟨fun entry member => ?_, ih tail⟩
              rcases name_of_mem_insert member with rfl | ⟨old, later, same⟩
              · grind
              · exact same ▸ first old later

theorem get?_erase (entries : Dict α) (key name : String) :
    (entries.erase key).get? name = if key = name then none else entries.get? name := by
  induction entries with
  | nil => simp [erase, get?]
  | cons entry rest ih =>
      obtain ⟨other, old⟩ := entry
      simp only [erase] at ih ⊢
      grind [get?]

end Dict

end PartnerRecords
