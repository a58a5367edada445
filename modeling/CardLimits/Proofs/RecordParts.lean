import CardLimits.Proofs.RecordLaws
/-!
# The parts that a record is read from

A record is read from the members of an object that have the name of a field, or from the items
of an array, which stand for the fields in order (`Tree.parts`).  Whatever a record is accepted
with, the value of each field was read from such a part or is the one for an absent field
(`Record.exists_drawn`).
-/

namespace CardLimits.Json

/-- The items of an array. -/
def Tree.items : Tree → List Tree
  | .array items _ => items
  | _ => []

/-- The member of an object as a part of a record, if it has the name of a field. -/
def partOfMember? (names : List String) (member : Lexeme String × Tree) : Option (String × Tree) :=
  match member.1 with
  | .value name => if name ∈ names then some (name, member.2) else none
  | _ => none

/-- The trees that fields with some names are read from, each with the name of its field. -/
def Tree.parts (names : List String) : Tree → List (String × Tree)
  | .object members _ => members.filterMap (partOfMember? names)
  | .array items _ => names.zip items
  | _ => []

/-- A member with a name is a part exactly if the name is a field's. -/
@[simp]
theorem partOfMember?_value (names : List String) (name : String) (part : Tree) :
    partOfMember? names (.value name, part) = if name ∈ names then some (name, part) else none :=
  rfl

namespace Fields

/-- Whether every value that a reader holds was read from a part of its field. -/
def Holds (source : Source) (parts : List (String × Tree)) :
    {slots values : Type} → Fields slots values → slots → Prop
  | _, _, done, () => True
  | _, _, field first rest, (slot, others) =>
    (∀ value ∈ slot, ∃ part, (first.name, part) ∈ parts ∧ first.read source part = .ok value) ∧
      rest.Holds source parts others

/-- Whether every value is the one for an absent field or was read from a part of its field. -/
def Drawn (source : Source) (parts : List (String × Tree)) :
    {slots values : Type} → Fields slots values → values → Prop
  | _, _, done, () => True
  | _, _, field first rest, (value, others) =>
    (first.absent = some value ∨
      ∃ part, (first.name, part) ∈ parts ∧ first.read source part = .ok value) ∧
      rest.Drawn source parts others

variable {slots values : Type} {fields : Fields slots values} {source : Source}
  {parts : List (String × Tree)}

/-- At the start nothing is held. -/
theorem holds_blank : fields.Holds source parts fields.blank := by
  induction fields with
  | done => trivial
  | field first rest inductionHypothesis => exact ⟨nofun, inductionHypothesis⟩

/-- A member that is taken in is a part. -/
theorem Holds.accept {known after : slots} (holds : fields.Holds source parts known)
    {name : String} {tree : Tree} (isPart : name ∈ fields.names → (name, tree) ∈ parts)
    (accepted : fields.accept source name tree known = .ok after) :
    fields.Holds source parts after := by
  induction fields with
  | done => trivial
  | field first rest inductionHypothesis =>
    obtain ⟨slot, others⟩ := known
    simp only [Fields.accept] at accepted
    split at accepted
    · rename_i named
      subst named
      cases slot with
      | some held => cases accepted
      | none =>
        obtain ⟨value, read, whole⟩ := exists_of_bind_eq_ok accepted
        cases whole
        refine ⟨fun held isHeld => ?_, holds.2⟩
        cases isHeld
        exact ⟨tree, isPart (List.mem_cons_self ..), read⟩
    · obtain ⟨later, taken, whole⟩ := exists_of_bind_eq_ok accepted
      cases whole
      exact ⟨holds.1, inductionHypothesis holds.2
        (fun member => isPart (List.mem_cons_of_mem _ member)) taken⟩

/-- Members that are taken in are parts. -/
theorem Holds.acceptAll {known after : slots} (holds : fields.Holds source parts known)
    {members : List (Lexeme String × Tree)}
    (areParts : ∀ member ∈ members, ∀ part ∈ partOfMember? fields.names member, part ∈ parts)
    (accepted : fields.acceptAll source known members = .ok after) :
    fields.Holds source parts after := by
  induction members generalizing known with
  | nil =>
    cases accepted
    exact holds
  | cons member later inductionHypothesis =>
    obtain ⟨written, tree⟩ := member
    rw [Fields.acceptAll, List.foldlM_cons] at accepted
    obtain ⟨reached, first, others⟩ := exists_of_bind_eq_ok accepted
    obtain ⟨name, nameRead, taken⟩ := exists_of_bind_eq_ok first
    cases Lexeme.eq_value nameRead
    obtain ⟨firstPart, laterParts⟩ := List.forall_mem_cons.mp areParts
    have holdsFirst := holds.accept (fun isField => firstPart _ (if_pos isField)) taken
    exact inductionHypothesis holdsFirst laterParts others

/-- When all members are known, every value is one that is held or the one for an absent
field. -/
theorem Holds.drawn {known : slots} (holds : fields.Holds source parts known) {held : values}
    (finished : fields.finish known = .ok held) : fields.Drawn source parts held := by
  induction fields with
  | done => trivial
  | field first rest inductionHypothesis =>
    obtain ⟨slot, others⟩ := known
    simp only [finish] at finished
    split at finished
    · cases finished
    · rename_i value chosen
      obtain ⟨later, read, whole⟩ := exists_of_bind_eq_ok finished
      cases whole
      refine ⟨?_, inductionHypothesis holds.2 read⟩
      cases slot with
      | none => exact .inl chosen
      | some content =>
        cases chosen
        exact .inr (holds.1 _ rfl)

/-- Items that are taken in are parts. -/
theorem drawn_of_ofItems {wrongLength further : Nat → ReadFault} {position : Nat}
    {items : List Tree} {ending : Ending} {held : values}
    (areParts : ∀ part ∈ fields.names.zip items, part ∈ parts)
    (accepted : fields.ofItems source wrongLength further position items ending = .ok held) :
    fields.Drawn source parts held := by
  induction fields generalizing position items with
  | done => trivial
  | field first rest inductionHypothesis =>
    cases items with
    | nil =>
      rw [ofItems] at accepted
      obtain ⟨⟨⟩, -, others⟩ := exists_of_bind_eq_ok accepted
      split at others
      · cases others
      · rename_i value absent
        obtain ⟨later, read, whole⟩ := exists_of_bind_eq_ok others
        cases whole
        refine ⟨.inl absent, inductionHypothesis ?_ read⟩
        rw [List.zip_nil_right]
        exact List.forall_mem_nil _
    | cons item later =>
      rw [ofItems] at accepted
      obtain ⟨value, read, others⟩ := exists_of_bind_eq_ok accepted
      obtain ⟨rest, restRead, whole⟩ := exists_of_bind_eq_ok others
      cases whole
      obtain ⟨isPart, laterParts⟩ := List.forall_mem_cons.mp areParts
      exact ⟨.inr ⟨item, isPart, read⟩, inductionHypothesis laterParts restRead⟩

end Fields

/-- A record that is read from a tree has in every field what was read from a part of the tree,
or the value for an absent field. -/
theorem Record.exists_drawn {α : Type} {record : Record α} {source : Source} {tree : Tree}
    {value : α} (accepted : record.read source tree = .ok value) :
    ∃ inside values, source.enter = .ok inside ∧
      record.fields.Drawn inside (tree.parts record.fields.names) values ∧
      value = record.ofValues values := by
  cases tree with
  | object members ending =>
    obtain ⟨inside, entered, behind⟩ := exists_of_bind_eq_ok accepted
    obtain ⟨values, read, whole⟩ := exists_of_bind_eq_ok behind
    obtain ⟨known, taken, ended⟩ := exists_of_bind_eq_ok read
    obtain ⟨⟨⟩, -, finished⟩ := exists_of_bind_eq_ok ended
    cases whole
    have holds := Fields.holds_blank.acceptAll
      (fun member present part isPart => List.mem_filterMap.mpr ⟨member, present, isPart⟩) taken
    exact ⟨inside, values, entered, holds.drawn finished, rfl⟩
  | array items ending =>
    obtain ⟨inside, entered, behind⟩ := exists_of_bind_eq_ok accepted
    obtain ⟨values, read, whole⟩ := exists_of_bind_eq_ok behind
    cases whole
    exact ⟨inside, values, entered, Fields.drawn_of_ofItems (fun _ member => member) read, rfl⟩
  | quoted | bare | missing => exact absurd accepted (Tree.mismatch_ne_ok _ _ _)

end CardLimits.Json
