/-!
# Tables from names to values

A table lists its entries in ascending order of their names, each name once, so
two tables with the same entries are equal.  Names are compared by code point,
which is also the order of their UTF-8 bytes.  Writing an entry replaces the one
of the same name (`Table.get?_insert`).
-/

namespace CardLimits

/-- Puts an entry into an ascending list; one of the same name gives way. -/
def putEntry {α : Type} (name : String) (value : α) : List (String × α) → List (String × α)
  | [] => [(name, value)]
  | (other, present) :: rest =>
    if name < other then (name, value) :: (other, present) :: rest
    else if name = other then (name, value) :: rest
    else (other, present) :: putEntry name value rest

/-- The names of a list of entries ascend strictly. -/
def Ascending {α : Type} (entries : List (String × α)) : Prop :=
  entries.Pairwise fun earlier later => earlier.1 < later.1

/-- An entry of the changed list is the new one or was there before. -/
theorem mem_putEntry {α : Type} {name : String} {value : α} {entries : List (String × α)}
    {entry : String × α} (member : entry ∈ putEntry name value entries) :
    entry = (name, value) ∨ entry ∈ entries := by
  induction entries with
  | nil => simpa [putEntry] using member
  | cons first rest inductionHypothesis =>
    obtain ⟨other, present⟩ := first
    simp only [putEntry] at member
    split at member
    · simpa using member
    · split at member
      · simp only [List.mem_cons] at member ⊢
        rcases member with equal | present
        · exact .inl equal
        · exact .inr (.inr present)
      · simp only [List.mem_cons] at member ⊢
        rcases member with equal | later
        · exact .inr (.inl equal)
        · rcases inductionHypothesis later with equal | before
          · exact .inl equal
          · exact .inr (.inr before)

/-- Putting an entry keeps the order. -/
theorem Ascending.putEntry {α : Type} {name : String} {value : α}
    {entries : List (String × α)} (ascending : Ascending entries) :
    Ascending (putEntry name value entries) := by
  induction entries with
  | nil => simp [Ascending, CardLimits.putEntry]
  | cons first rest inductionHypothesis =>
    obtain ⟨other, present⟩ := first
    obtain ⟨before, restAscending⟩ := List.pairwise_cons.mp ascending
    simp only [CardLimits.putEntry]
    split
    · rename_i smaller
      refine List.pairwise_cons.mpr ⟨fun entry member => ?_, ascending⟩
      rcases List.mem_cons.mp member with rfl | later
      · exact smaller
      · exact String.lt_trans smaller (before entry later)
    · split
      · rename_i equal
        subst equal
        exact List.pairwise_cons.mpr ⟨before, restAscending⟩
      · rename_i notSmaller notEqual
        refine List.pairwise_cons.mpr ⟨fun entry member => ?_, inductionHypothesis restAscending⟩
        rcases mem_putEntry member with rfl | later
        · exact Std.lt_of_le_of_ne (String.not_lt.mp notSmaller) (Ne.symm notEqual)
        · exact before entry later

/-- A table from names to values. -/
structure Table (α : Type) where
  /-- The entries in ascending order of their names. -/
  entries : List (String × α)
  ascending : Ascending entries

namespace Table

variable {α : Type}

/-- The table without entries. -/
def empty : Table α :=
  ⟨[], List.Pairwise.nil⟩

instance : Inhabited (Table α) := ⟨empty⟩

/-- The value under a name. -/
def get? (table : Table α) (name : String) : Option α :=
  table.entries.lookup name

/-- Whether a name has a value. -/
def contains (table : Table α) (name : String) : Bool :=
  (table.get? name).isSome

/-- Writes a value under a name. -/
def insert (table : Table α) (name : String) (value : α) : Table α :=
  ⟨putEntry name value table.entries, table.ascending.putEntry⟩

/-- The table with all given entries; of two with one name the later wins. -/
def insertAll (table : Table α) (entries : List (String × α)) : Table α :=
  entries.foldl (fun table entry => table.insert entry.1 entry.2) table

/-- The table of a list of entries; of two with one name the later wins. -/
def ofList (entries : List (String × α)) : Table α :=
  empty.insertAll entries

/-- The values in ascending order of their names. -/
def values (table : Table α) : List α :=
  table.entries.map Prod.snd

/-- Tables with the same entries are equal. -/
@[ext]
theorem ext {left right : Table α} (entries : left.entries = right.entries) : left = right := by
  cases left
  cases right
  simpa using entries

@[simp]
theorem get?_empty (name : String) : (empty : Table α).get? name = none := rfl

/-- What a list of entries holds under a name after one was put into it. -/
theorem lookup_putEntry (entries : List (String × α)) (name other : String) (value : α) :
    (putEntry name value entries).lookup other =
      if other = name then some value else entries.lookup other := by
  induction entries with
  | nil =>
    simp only [putEntry, List.lookup_cons, List.lookup_nil]
    split <;> simp_all
  | cons first rest inductionHypothesis =>
    obtain ⟨present, content⟩ := first
    simp only [putEntry]
    split
    · simp only [List.lookup_cons]
      split <;> simp_all
    · split
      · rename_i equal
        subst equal
        simp only [List.lookup_cons]
        split <;> simp_all
      · rename_i notEqual
        simp only [List.lookup_cons, inductionHypothesis]
        split
        · rename_i found
          have equal : other = present := by simpa using found
          subst equal
          simp [Ne.symm notEqual]
        · rfl

/-- The last write under a name is the one that is read. -/
@[simp]
theorem get?_insert (table : Table α) (name other : String) (value : α) :
    (table.insert name value).get? other =
      if other = name then some value else table.get? other :=
  lookup_putEntry table.entries name other value

end Table

end CardLimits
