/-!
# Tables

A table gives values to names. Its entries stand in ascending order of the names, and each name
occurs once.
-/

namespace GuardedSearch

/-- Values under names. -/
abbrev Table (α : Type) := List (String × α)

namespace Table

variable {α : Type}

/-- The value under a name. -/
def value? (name : String) (table : Table α) : Option α :=
  (table.find? (·.1 == name)).map (·.2)

/-- Adds an entry in its place; an entry of that name is replaced. -/
def put (name : String) (value : α) : Table α → Table α
  | [] => [(name, value)]
  | (other, old) :: rest =>
    if name = other then (name, value) :: rest
    else if name < other then (name, value) :: (other, old) :: rest
    else (other, old) :: put name value rest

/-- The table of a list of entries; of several entries of one name the last one counts. -/
def ofList (entries : List (String × α)) : Table α :=
  entries.foldl (fun table entry => put entry.1 entry.2 table) []

theorem value?_put (name key : String) (value : α) (table : Table α) :
    value? key (put name value table) = if name = key then some value else value? key table := by
  induction table with
  | nil => by_cases h : name = key <;> simp [put, value?, h]
  | cons entry rest ih =>
    obtain ⟨other, old⟩ := entry
    simp only [put]
    split
    · rename_i hno
      subst hno
      by_cases h : name = key <;> simp [value?, h]
    · rename_i hno
      split
      · by_cases h : name = key <;> simp [value?, h]
      · simp only [value?, List.find?_cons] at ih ⊢
        by_cases h : other = key
        · subst h; simp [hno]
        · simp only [beq_eq_false_iff_ne.mpr h]
          exact ih

end Table

end GuardedSearch
