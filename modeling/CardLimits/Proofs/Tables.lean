import CardLimits.Table
/-!
# What tables hold

`Table.get?_insertAll` says what is under a name after any number of writes: the
last one under that name, or what was there before.  The values of a table are
the ones that can be read under some name (`Table.mem_values_iff`).  A table is made
of its entries in whatever order they are written (`Table.ofList_of_perm`).
-/

namespace CardLimits.Table

variable {α β : Type}

/-- The table with a function applied to its values. -/
def map (change : α → β) (table : Table α) : Table β where
  entries := table.entries.map fun entry => (entry.1, change entry.2)
  ascending := by
    rw [Ascending, List.pairwise_map]
    exact table.ascending

/-- A changed table has the changed value under each name. -/
theorem get?_map (change : α → β) (table : Table α) (name : String) :
    (table.map change).get? name = (table.get? name).map change := by
  obtain ⟨entries, ascending⟩ := table
  change (entries.map fun entry => (entry.1, change entry.2)).lookup name =
    (entries.lookup name).map change
  clear ascending
  induction entries with
  | nil => rfl
  | cons entry rest inductionHypothesis =>
    rw [List.map_cons, List.lookup_cons, List.lookup_cons]
    split
    · rfl
    · exact inductionHypothesis

/-- After many writes a name holds the last value that was written under it, or what
it held before if none was. -/
theorem get?_insertAll (table : Table α) (items : List β) (key : β → String) (value : β → α)
    (name : String) :
    (table.insertAll (items.map fun item => (key item, value item))).get? name =
      ((items.findRev? fun item => key item = name).map value).or (table.get? name) := by
  induction items generalizing table with
  | nil => simp [insertAll]
  | cons item rest inductionHypothesis =>
    have later := inductionHypothesis (table.insert (key item) (value item))
    simp only [insertAll, List.map_cons, List.foldl_cons] at later ⊢
    rw [later, get?_insert, List.findRev?]
    cases rest.findRev? fun item => key item = name with
    | some last => rfl
    | none =>
      by_cases written : key item = name
      · simp [written]
      · simp [written, Ne.symm written]

/-- A table that is made of a list holds the last value under each name. -/
theorem get?_ofList (items : List β) (key : β → String) (value : β → α) (name : String) :
    (ofList (items.map fun item => (key item, value item))).get? name =
      (items.findRev? fun item => key item = name).map value := by
  rw [ofList, get?_insertAll, get?_empty, Option.or_none]

/-- Where no name stands twice, the values under a name are those that are looked up. -/
theorem lookup_eq_some_iff_mem {entries : List (String × α)} {name : String} {value : α}
    (distinct : (entries.map Prod.fst).Nodup) :
    entries.lookup name = some value ↔ (name, value) ∈ entries := by
  induction entries with
  | nil => exact iff_of_false nofun nofun
  | cons first later inductionHypothesis =>
    obtain ⟨alone, laterDistinct⟩ := List.nodup_cons.mp distinct
    obtain ⟨firstName, firstValue⟩ := first
    rw [List.lookup_cons, List.mem_cons, Prod.mk.injEq]
    by_cases same : name = firstName
    · subst same
      have notLater : (name, value) ∉ later :=
        fun member => alone (List.mem_map.mpr ⟨(name, value), member, rfl⟩)
      rw [beq_self_eq_true, or_iff_left notLater, Option.some.injEq, eq_comm]
      exact (and_iff_right rfl).symm
    · rw [beq_eq_false_iff_ne.mpr same, inductionHypothesis laterDistinct,
        or_iff_right fun both => same both.1]

/-- The names of a table are distinct, since they are ascending. -/
theorem distinct_names (table : Table α) : (table.entries.map Prod.fst).Nodup := by
  refine List.pairwise_map.mpr (table.ascending.imp fun {first second} less same => ?_)
  rw [same] at less
  exact String.lt_irrefl second.1 less

/-- The values of a table are those that can be read under some name. -/
theorem mem_values_iff {table : Table α} {value : α} :
    value ∈ table.values ↔ ∃ name, table.get? name = some value := by
  constructor
  · intro member
    obtain ⟨⟨name, present⟩, entry, rfl⟩ := List.mem_map.mp member
    exact ⟨name, (lookup_eq_some_iff_mem table.distinct_names).mpr entry⟩
  · rintro ⟨name, found⟩
    exact List.mem_map.mpr ⟨(name, value),
      (lookup_eq_some_iff_mem table.distinct_names).mp found, rfl⟩

/-- Values under different names are related if any two such values are. -/
theorem pairwise_values {table : Table α} {related : α → α → Prop}
    (apart : ∀ {name other value otherValue}, name ≠ other → table.get? name = some value →
      table.get? other = some otherValue → related value otherValue) :
    table.values.Pairwise related := by
  refine List.pairwise_map.mpr (table.ascending.imp_of_mem ?_)
  intro earlier later earlierEntry laterEntry less
  exact apart (String.ne_of_lt less)
    ((lookup_eq_some_iff_mem table.distinct_names).mpr earlierEntry)
    ((lookup_eq_some_iff_mem table.distinct_names).mpr laterEntry)

/-- An entry under a new name is added to the others. -/
theorem putEntry_perm {entries : List (String × α)} {name : String} {value : α}
    (unknown : name ∉ entries.map Prod.fst) :
    (putEntry name value entries).Perm ((name, value) :: entries) := by
  induction entries with
  | nil => exact .refl _
  | cons first rest inductionHypothesis =>
    obtain ⟨notFirst, notLater⟩ := not_or.mp (mt List.mem_cons.mpr unknown)
    rw [putEntry, if_neg notFirst]
    split
    · exact .refl _
    · exact ((inductionHypothesis notLater).cons first).trans (.swap ..)

/-- Entries under new names, none of them twice, are added to those of a table. -/
theorem entries_insertAll_perm {table : Table α} {entries : List (String × α)}
    (distinct : ((table.entries ++ entries).map Prod.fst).Nodup) :
    (table.insertAll entries).entries.Perm (table.entries ++ entries) := by
  induction entries generalizing table with
  | nil => rw [List.append_nil]; exact .refl _
  | cons entry rest inductionHypothesis =>
    have unknown : entry.1 ∉ table.entries.map Prod.fst := by
      rw [List.map_append, List.map_cons, List.nodup_append] at distinct
      exact fun member => distinct.2.2 _ member _ List.mem_cons_self rfl
    have inserted : (table.insert entry.1 entry.2).entries.Perm (entry :: table.entries) :=
      putEntry_perm unknown
    have reordered : ((table.insert entry.1 entry.2).entries ++ rest).Perm
        (table.entries ++ entry :: rest) :=
      (inserted.append_right rest).trans List.perm_middle.symm
    have later := @inductionHypothesis (table.insert entry.1 entry.2)
      ((reordered.map Prod.fst).nodup_iff.mpr distinct)
    exact later.trans reordered

/-- A table is made of its own entries, in whatever order they are given. -/
theorem ofList_of_perm {table : Table α} {entries : List (String × α)}
    (reordered : entries.Perm table.entries) : ofList entries = table := by
  have distinct : (entries.map Prod.fst).Nodup :=
    (reordered.map Prod.fst).nodup_iff.mpr table.distinct_names
  have same : (ofList entries).entries.Perm table.entries :=
    (@entries_insertAll_perm α empty entries distinct).trans reordered
  refine ext (same.eq_of_pairwise ?_ (ofList entries).ascending table.ascending)
  intro earlier later _ _ less greater
  exact absurd (String.lt_trans less greater) (String.lt_irrefl earlier.1)

/-- A table is made of its own entries. -/
@[simp]
theorem ofList_entries (table : Table α) : ofList table.entries = table :=
  ofList_of_perm (.refl _)

/-- After many writes an entry is one of the written ones or was there before. -/
theorem mem_insertAll {table : Table α} {entries : List (String × α)} {entry : String × α}
    (member : entry ∈ (table.insertAll entries).entries) :
    entry ∈ entries ∨ entry ∈ table.entries := by
  induction entries generalizing table with
  | nil => exact .inr member
  | cons first rest inductionHypothesis =>
    rcases @inductionHypothesis (table.insert first.1 first.2) member with later | before
    · exact .inl (List.mem_cons_of_mem _ later)
    · rcases mem_putEntry before with equal | present
      · exact .inl (equal ▸ List.mem_cons_self ..)
      · exact .inr present

/-- An entry of a table that is made of a list is one of the list. -/
theorem mem_of_mem_ofList {entries : List (String × α)} {entry : String × α}
    (member : entry ∈ (ofList entries).entries) : entry ∈ entries :=
  (mem_insertAll member).resolve_right List.not_mem_nil

end CardLimits.Table
