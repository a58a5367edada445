import CardLimits.Proofs.RecordLaws
/-!
# What the reading of a record depends on

A record that is read from an object is accepted exactly if every field is read from the member
with its name, or may be absent if there is none (`Fields.readFrom`, `Fields.toOption_ofMembers`).
Neither the order of the members nor those under other names count for it.  An array with an item
for every field comes to the same as an object with the items under the names of the fields
(`Fields.toOption_ofItems`).
-/

namespace CardLimits.Json

/-! ## Results without their faults -/

section Results

variable {ε α β : Type}

/-- A value that is computed from two steps, without the faults. -/
theorem toOption_bind (first : Except ε α) (next : α → Except ε β) :
    (first >>= next).toOption = first.toOption.bind fun value => (next value).toOption := by
  cases first with
  | error fault => rfl
  | ok value => rfl

end Results

/-! ## Looking up names -/

section Entries

variable {α : Type} {name : String}

/-- Entries in another order have the same values under every name, if no name stands twice. -/
theorem lookup_eq_of_perm {entries others : List (String × α)} (same : others.Perm entries)
    (distinct : (entries.map Prod.fst).Nodup) (name : String) :
    others.lookup name = entries.lookup name := by
  have otherDistinct := (same.map Prod.fst).nodup_iff.mpr distinct
  refine Option.ext fun value => ?_
  rw [Table.lookup_eq_some_iff_mem otherDistinct, Table.lookup_eq_some_iff_mem distinct,
    same.mem_iff]

/-- Entries under other names do not count for what is looked up. -/
theorem lookup_filter {names : List String} (kept : name ∈ names) (entries : List (String × α)) :
    (entries.filter fun entry => entry.1 ∈ names).lookup name = entries.lookup name := by
  induction entries with
  | nil => rfl
  | cons first later inductionHypothesis =>
    rw [List.filter_cons, List.lookup_cons]
    split
    · rw [List.lookup_cons, inductionHypothesis]
    · rename_i dropped
      have different : (name == first.1) = false :=
        beq_eq_false_iff_ne.mpr fun same => dropped (decide_eq_true (same ▸ kept))
      rw [inductionHypothesis, different]

end Entries

namespace Fields

variable {slots values : Type} {fields : Fields slots values} {source : Source}
  {parts others : List (String × Tree)}

/-- The values that are read from the parts with the names of the fields, where a reader holds
some values already.  Neither may a value be there twice nor may one be missing that has to be
there. -/
def readFrom (source : Source) (parts : List (String × Tree)) :
    {slots values : Type} → Fields slots values → slots → Option values
  | _, _, done, () => some ()
  | _, _, field first rest, (slot, known) => do
    let value ←
      match parts.lookup first.name with
      | some part => if slot.isSome then none else (first.read source part).toOption
      | none => slot.or first.absent
    let values ← rest.readFrom source parts known
    return (value, values)

/-- Only what is looked up under the names of the fields counts. -/
theorem readFrom_congr (same : ∀ name ∈ fields.names, others.lookup name = parts.lookup name)
    (known : slots) : fields.readFrom source others known = fields.readFrom source parts known := by
  induction fields with
  | done => rfl
  | field first rest inductionHypothesis =>
    obtain ⟨sameFirst, sameLater⟩ := List.forall_mem_cons.mp same
    rw [readFrom, readFrom, sameFirst, inductionHypothesis sameLater]

/-- A part under another name than those of the fields does not count. -/
theorem readFrom_cons_of_not_mem {name : String} (unknown : name ∉ fields.names) (part : Tree)
    (known : slots) :
    fields.readFrom source ((name, part) :: parts) known = fields.readFrom source parts known := by
  refine readFrom_congr (fun other isField => ?_) known
  have different : other ≠ name := fun equal => unknown (equal ▸ isField)
  rw [List.lookup_cons, beq_eq_false_iff_ne.mpr different]

/-- When all members are known, what is held counts. -/
theorem toOption_finish (known : slots) :
    (fields.finish known).toOption = fields.readFrom source [] known := by
  induction fields with
  | done => rfl
  | field first rest inductionHypothesis =>
    obtain ⟨slot, later⟩ := known
    rw [finish, readFrom, List.lookup_nil]
    dsimp only
    cases slot.or first.absent with
    | none => rfl
    | some value =>
      dsimp only
      rw [toOption_bind, inductionHypothesis]
      rfl

/-- A member counts as a part, whether it is taken in or passed over. -/
theorem toOption_accept (distinct : fields.names.Nodup) {name : String} {tree : Tree}
    (fresh : name ∈ fields.names → parts.lookup name = none) (passed : tree.skip = .ok ())
    (known : slots) :
    ((fields.accept source name tree known).toOption.bind fun known =>
        fields.readFrom source parts known) =
      fields.readFrom source ((name, tree) :: parts) known := by
  induction fields with
  | done =>
    have taken : done.accept source name tree known = .ok () := congrArg liftFault passed
    rw [taken]
    rfl
  | field first rest inductionHypothesis =>
    obtain ⟨alone, laterDistinct⟩ := List.nodup_cons.mp distinct
    obtain ⟨slot, later⟩ := known
    simp only [accept]
    rw [readFrom, List.lookup_cons]
    by_cases named : first.name = name
    · subst named
      have free := fresh (List.mem_cons_self ..)
      rw [if_pos rfl, beq_self_eq_true, readFrom_cons_of_not_mem alone]
      cases slot with
      | some held => rfl
      | none =>
        dsimp only
        rw [toOption_bind]
        cases first.read source tree with
        | error fault => rfl
        | ok value =>
          dsimp only [Except.toOption, Option.bind_some, pure, Except.pure]
          rw [readFrom, free]
          rfl
    · have laterFresh : name ∈ rest.names → parts.lookup name = none :=
        fun isField => fresh (List.mem_cons_of_mem _ isField)
      rw [if_neg named, beq_eq_false_iff_ne.mpr named, toOption_bind,
        ← inductionHypothesis laterDistinct laterFresh]
      cases rest.accept source name tree later with
      | error fault => cases parts.lookup first.name <;> simp [Except.toOption]
      | ok reached => rfl

/-- Whether every value is read from the part with the name of its field, or is the one for an
absent field if there is no such part. -/
def FoundIn (source : Source) (parts : List (String × Tree)) :
    {slots values : Type} → Fields slots values → values → Prop
  | _, _, done, () => True
  | _, _, field first rest, (value, others) =>
    ((∃ part, parts.lookup first.name = some part ∧ first.read source part = .ok value) ∨
      parts.lookup first.name = none ∧ first.absent = some value) ∧
      rest.FoundIn source parts others

/-- Values that are found in parts are those that come of reading the parts. -/
theorem FoundIn.readFrom_eq_some {held : values} (found : fields.FoundIn source parts held) :
    fields.readFrom source parts fields.blank = some held := by
  induction fields with
  | done => rfl
  | field first rest inductionHypothesis =>
    obtain ⟨value, later⟩ := held
    rw [blank, readFrom, inductionHypothesis found.2]
    obtain ⟨part, present, read⟩ | ⟨missing, absent⟩ := found.1
    · rw [present]
      dsimp only
      rw [read]
      rfl
    · rw [missing, absent]
      rfl

/-- The members of an object as they stand in its tree, given their names. -/
def named (members : List (String × Tree)) : List (Lexeme String × Tree) :=
  members.map fun member => (.value member.1, member.2)

/-- Members that are taken in one after the other count as parts, if no field has two of them. -/
theorem toOption_acceptAll (distinctFields : fields.names.Nodup)
    {members : List (String × Tree)} (passed : ∀ member ∈ members, member.2.skip = .ok ())
    (distinct : ((members.map Prod.fst).filter (· ∈ fields.names)).Nodup) (known : slots) :
    ((fields.acceptAll source known (named members)).toOption.bind fun known =>
        (fields.finish known).toOption) =
      fields.readFrom source members known := by
  induction members generalizing known with
  | nil => exact toOption_finish known
  | cons member later inductionHypothesis =>
    obtain ⟨name, tree⟩ := member
    obtain ⟨passedFirst, passedLater⟩ := List.forall_mem_cons.mp passed
    rw [List.map_cons, List.filter_cons] at distinct
    have distinctLater : ((later.map Prod.fst).filter (· ∈ fields.names)).Nodup := by
      split at distinct
      · exact (List.nodup_cons.mp distinct).2
      · exact distinct
    have fresh (isField : name ∈ fields.names) : later.lookup name = none := by
      rw [if_pos (decide_eq_true isField)] at distinct
      refine List.lookup_eq_none_iff.mpr fun other member => ?_
      refine bne_iff_ne.mpr fun same => (List.nodup_cons.mp distinct).1 ?_
      exact List.mem_filter.mpr
        ⟨List.mem_map.mpr ⟨other, member, same.symm⟩, decide_eq_true isField⟩
    have first : fields.acceptAll source known (named ((name, tree) :: later)) =
        fields.accept source name tree known >>= fun known =>
          fields.acceptAll source known (named later) := rfl
    rw [first, toOption_bind, Option.bind_assoc,
      ← toOption_accept distinctFields fresh passedFirst known]
    exact congrArg _ (funext fun known => inductionHypothesis passedLater distinctLater known)

/-- An object is read like its parts. -/
theorem toOption_ofMembers (distinctFields : fields.names.Nodup)
    {members : List (String × Tree)} (passed : ∀ member ∈ members, member.2.skip = .ok ())
    (distinct : ((members.map Prod.fst).filter (· ∈ fields.names)).Nodup) :
    (fields.ofMembers source (named members) .closed).toOption =
      fields.readFrom source members fields.blank := by
  rw [← toOption_acceptAll distinctFields passed distinct, ofMembers, toOption_bind]
  rfl

/-- An array with an item for every field is read like an object with the items under the names
of the fields. -/
theorem toOption_ofItems (distinctFields : fields.names.Nodup)
    {wrongLength further : Nat → ReadFault} {items : List Tree}
    (complete : items.length = fields.names.length) (position : Nat) :
    (fields.ofItems source wrongLength further position items .closed).toOption =
      fields.readFrom source (fields.names.zip items) fields.blank := by
  induction fields generalizing items position with
  | done =>
    obtain rfl := List.eq_nil_of_length_eq_zero complete
    rfl
  | field first rest inductionHypothesis =>
    obtain ⟨alone, laterDistinct⟩ := List.nodup_cons.mp distinctFields
    cases items with
    | nil => cases complete
    | cons item later =>
      have completeLater : later.length = rest.names.length := Nat.succ.inj complete
      rw [ofItems, toOption_bind, names, List.zip_cons_cons, blank, readFrom, List.lookup_cons,
        beq_self_eq_true, readFrom_cons_of_not_mem alone,
        ← inductionHypothesis laterDistinct completeLater (position + 1)]
      dsimp only
      cases first.read source item with
      | error fault => rfl
      | ok value => exact toOption_bind _ _

end Fields

namespace Record

variable {α : Type} {record : Record α} {source : Source}
  (distinctFields : record.fields.names.Nodup) {members : List (String × Tree)}

include distinctFields

/-- A record is read from an object like from the parts of the object. -/
theorem toOption_read_object (passed : ∀ member ∈ members, member.2.skip = .ok ())
    (distinct : ((members.map Prod.fst).filter (· ∈ record.fields.names)).Nodup) :
    (record.read source (.object (Fields.named members) .closed)).toOption =
      source.enter.toOption.bind fun inside =>
        (record.fields.readFrom inside members record.fields.blank).map record.ofValues := by
  simp only [read, toOption_bind, Fields.toOption_ofMembers distinctFields passed distinct,
    Option.map_eq_bind]
  rfl

/-- A record is read from an array of all its fields like from the parts under their names. -/
theorem toOption_read_array {items : List Tree}
    (complete : items.length = record.fields.names.length) :
    (record.read source (.array items .closed)).toOption =
      source.enter.toOption.bind fun inside =>
        (record.fields.readFrom inside (record.fields.names.zip items)
          record.fields.blank).map record.ofValues := by
  simp only [read, toOption_bind, Fields.toOption_ofItems distinctFields complete,
    Option.map_eq_bind]
  rfl

variable (passed : ∀ member ∈ members, member.2.skip = .ok ())
  (known : ∀ member ∈ members, member.1 ∈ record.fields.names)
  (distinct : (members.map Prod.fst).Nodup)

include passed known distinct

/-- Members in another order, with members under other names between them, are read alike. -/
theorem toOption_read_object_eq {others : List (String × Tree)}
    (othersPassed : ∀ member ∈ others, member.2.skip = .ok ())
    (same : (others.filter fun member => member.1 ∈ record.fields.names).Perm members) :
    (record.read source (.object (Fields.named others) .closed)).toOption =
      (record.read source (.object (Fields.named members) .closed)).toOption := by
  have allFields : (members.map Prod.fst).filter (· ∈ record.fields.names) =
      members.map Prod.fst :=
    List.filter_eq_self.mpr (List.forall_mem_map.mpr fun member isMember =>
      decide_eq_true (known member isMember))
  have someFields : ((others.map Prod.fst).filter (· ∈ record.fields.names)).Nodup := by
    rw [List.filter_map]
    exact (same.map Prod.fst).nodup_iff.mpr distinct
  rw [toOption_read_object distinctFields othersPassed someFields,
    toOption_read_object distinctFields passed (allFields.symm ▸ distinct)]
  have lookups : ∀ name ∈ record.fields.names, others.lookup name = members.lookup name := by
    intro name isField
    rw [← lookup_eq_of_perm same distinct]
    exact (lookup_filter isField others).symm
  simp only [Fields.readFrom_congr lookups]

/-- The values of all members in the order of the fields, in an array, are read like the
members. -/
theorem toOption_read_array_eq {ordered : List (String × Tree)} (same : ordered.Perm members)
    (inOrder : ordered.map Prod.fst = record.fields.names) :
    (record.read source (.array (ordered.map Prod.snd) .closed)).toOption =
      (record.read source (.object (Fields.named members) .closed)).toOption := by
  have complete : (ordered.map Prod.snd).length = record.fields.names.length := by
    rw [← inOrder, List.length_map, List.length_map]
  have parts : record.fields.names.zip (ordered.map Prod.snd) = ordered := by
    rw [← inOrder, List.zip_map']
    exact List.map_id ordered
  have allFields : (ordered.filter fun member => member.1 ∈ record.fields.names).Perm members := by
    rwa [List.filter_eq_self.mpr fun member isMember =>
      decide_eq_true (known member (same.subset isMember))]
  rw [toOption_read_array distinctFields complete, parts,
    ← toOption_read_object_eq distinctFields passed known distinct
      (fun member isMember => passed member (same.subset isMember)) allFields,
    toOption_read_object distinctFields fun member isMember =>
      passed member (same.subset isMember)]
  rw [inOrder, List.filter_eq_self.mpr fun name isField => decide_eq_true isField]
  exact distinctFields

end Record

end CardLimits.Json
