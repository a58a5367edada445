import CardLimits.Loading
import CardLimits.Proofs.RecordParts
import CardLimits.Proofs.RoundTrips
/-!
# What the free fields of loaded blocks hold

A reader of free values takes an object for the text of another value if the name of its first
member says so (`Free.textName`).  Where no object has a member with that name, whatever is read
is a plain value and is nested no deeper than the text that it was read from
(`Free.plain_of_read`).  So the free fields of blocks that are loaded from such a text can be
written and read again (`fieldsAll_of_loadBlocks`).
-/

namespace CardLimits

namespace Json

/-- A tree in which no object has a member that would announce the text of a value. -/
inductive Tree.Unannounced : Tree → Prop
  | quoted (text : Lexeme String) : Unannounced (.quoted text)
  | bare (content : Lexeme Bare) : Unannounced (.bare content)
  | array (items : List Tree) (ending : Ending) (inside : ∀ item ∈ items, Unannounced item) :
      Unannounced (.array items ending)
  | object (members : List (Lexeme String × Tree)) (ending : Ending)
      (ordinary : ∀ member ∈ members, member.1 ≠ .value Free.textName)
      (inside : ∀ member ∈ members, Unannounced member.2) : Unannounced (.object members ending)
  | missing (fault : Fault) : Unannounced (.missing fault)

namespace Tree

attribute [simp] Unannounced.quoted Unannounced.bare

@[simp]
theorem unannounced_array {items : List Tree} {ending : Ending} :
    (Tree.array items ending).Unannounced ↔ ∀ item ∈ items, item.Unannounced := by
  refine ⟨fun unannounced => ?_, .array items ending⟩
  cases unannounced with
  | array _ _ inside => exact inside

@[simp]
theorem unannounced_object {members : List (Lexeme String × Tree)} {ending : Ending} :
    (Tree.object members ending).Unannounced ↔
      ∀ member ∈ members, member.1 ≠ .value Free.textName ∧ member.2.Unannounced := by
  refine ⟨fun unannounced => ?_, fun each => ?_⟩
  · cases unannounced with
    | object _ _ ordinary inside =>
      exact fun member present => ⟨ordinary member present, inside member present⟩
  · exact .object members ending (fun member present => (each member present).1)
      fun member present => (each member present).2

end Tree

/-- The members of an object. -/
def Tree.members : Tree → List (Lexeme String × Tree)
  | .object members _ => members
  | _ => []

/-! ## Room -/

namespace Source

variable {source inside : Source}

/-- What is inside a source that can be entered admits a scalar. -/
theorem admits_zero_of_enter (entered : source.enter = .ok inside) : inside.Admits 0 := by
  cases source with
  | settled =>
    cases entered
    trivial
  | text room =>
    rw [Source.enter] at entered
    split at entered
    · cases entered
    · cases entered
      simp only [Admits]
      omega

/-- A source that can be entered admits one level more than what is inside. -/
theorem Admits.of_enter (entered : source.enter = .ok inside) {depth : Nat}
    (admits : inside.Admits depth) : source.Admits (depth + 1) := by
  cases source with
  | settled => trivial
  | text room =>
    rw [Source.enter] at entered
    split at entered
    · cases entered
    · cases entered
      simp only [Admits] at admits ⊢
      omega

/-- What admits two depths admits the larger one. -/
theorem Admits.max {first second : Nat} (admitsFirst : source.Admits first)
    (admitsSecond : source.Admits second) : source.Admits (max first second) := by
  rcases Nat.le_total first second with smaller | larger
  · rwa [Nat.max_eq_right smaller]
  · rwa [Nat.max_eq_left larger]

/-- An array is admitted if it can be entered and its items are admitted inside. -/
theorem admits_array (entered : source.enter = .ok inside) {items : List Json}
    (room : ∀ item ∈ items, inside.Admits item.depth) :
    source.Admits (Json.array items).depth := by
  refine .of_enter entered ?_
  induction items with
  | nil => exact admits_zero_of_enter entered
  | cons item later inductionHypothesis =>
    obtain ⟨first, others⟩ := List.forall_mem_cons.mp room
    exact first.max (inductionHypothesis others)

/-- An object is admitted if it can be entered and its values are admitted inside. -/
theorem admits_object (entered : source.enter = .ok inside) {members : List (String × Json)}
    (room : ∀ member ∈ members, inside.Admits member.2.depth) :
    source.Admits (Json.object members).depth := by
  refine .of_enter entered ?_
  induction members with
  | nil => exact admits_zero_of_enter entered
  | cons member later inductionHypothesis =>
    obtain ⟨first, others⟩ := List.forall_mem_cons.mp room
    exact first.max (inductionHypothesis others)

end Source

/-! ## Free values -/

/-- What was read from parts one after the other was read from one of them each. -/
theorem exists_of_mem_mapM {α β ε : Type} {read : β → Except ε α} {parts : List β}
    {values : List α} (accepted : parts.mapM read = .ok values) :
    ∀ value ∈ values, ∃ part ∈ parts, read part = .ok value := by
  induction parts generalizing values with
  | nil =>
    cases accepted
    exact List.forall_mem_nil _
  | cons part later inductionHypothesis =>
    rw [List.mapM_cons] at accepted
    obtain ⟨value, first, others⟩ := exists_of_bind_eq_ok accepted
    obtain ⟨rest, restRead, whole⟩ := exists_of_bind_eq_ok others
    cases whole
    refine List.forall_mem_cons.mpr ⟨⟨part, List.mem_cons_self .., first⟩, fun held member => ?_⟩
    obtain ⟨origin, present, read⟩ := inductionHypothesis restRead held member
    exact ⟨origin, List.mem_cons_of_mem _ present, read⟩

/-- Every entry that is read comes from a member with its name. -/
theorem exists_of_mem_readMembers {α : Type} {read : Tree → Except ReadFault α}
    {members : List (Lexeme String × Tree)} {entries : List (String × α)}
    (accepted : Codec.readMembers read members = .ok entries) :
    ∀ entry ∈ entries, ∃ part, (.value entry.1, part) ∈ members ∧ read part = .ok entry.2 := by
  intro entry present
  obtain ⟨⟨written, part⟩, member, entryRead⟩ := exists_of_mem_mapM accepted entry present
  obtain ⟨name, nameRead, behind⟩ := exists_of_bind_eq_ok entryRead
  obtain ⟨value, valueRead, whole⟩ := exists_of_bind_eq_ok behind
  cases whole
  cases Lexeme.eq_value nameRead
  exact ⟨part, member, valueRead⟩

namespace Free

variable {ofText : String → Except ReadFault Json} {source : Source}

/-- An object of ordinary members with plain values is plain, and it is admitted if its values
are inside. -/
theorem plain_ofTable_ofList {inside : Source} (entered : source.enter = .ok inside)
    {entries : List (String × Json)}
    (each : ∀ entry ∈ entries, entry.1 ≠ textName ∧ entry.2.Plain ∧ inside.Admits entry.2.depth) :
    (ofTable (.ofList entries)).Plain ∧ source.Admits (ofTable (.ofList entries)).depth := by
  have held : ∀ entry ∈ (Table.ofList entries).entries,
      entry.1 ≠ textName ∧ entry.2.Plain ∧ inside.Admits entry.2.depth :=
    fun entry member => each entry (Table.mem_of_mem_ofList member)
  constructor
  · exact .object _ (fun first isFirst => (held first (List.mem_of_mem_head? isFirst)).1)
      fun entry member => (held entry member).2.1
  · exact Source.admits_object entered fun entry member => (held entry member).2.2

/-- What is read from a part of its own is made of what the part stands for. -/
theorem exists_of_liftFault_map {α β : Type} {part : Except Fault α} {build : α → β} {value : β}
    (accepted : liftFault (part.map build) = .ok value) : ∃ content, value = build content := by
  cases part with
  | error fault => cases accepted
  | ok content =>
    cases accepted
    exact ⟨content, rfl⟩

/-- An array is read if its items are inside it, one after the other. -/
theorem exists_of_readWith_array {items : List Tree} {ending : Ending} {value : Json}
    (accepted : readWith ofText source (.array items ending) = .ok value) :
    ∃ inside values, source.enter = .ok inside ∧
      items.mapM (readWith ofText inside) = .ok values ∧ value = .array values := by
  rw [readWith] at accepted
  obtain ⟨inside, entered, behind⟩ := exists_of_bind_eq_ok accepted
  obtain ⟨values, read, ended⟩ := exists_of_bind_eq_ok behind
  obtain ⟨⟨⟩, -, whole⟩ := exists_of_bind_eq_ok ended
  cases whole
  rw [readItems_eq_mapM] at read
  exact ⟨inside, values, entered, read, rfl⟩

/-- An object in which no name announces the text of a value is read if its members are inside it,
the first one like the others. -/
theorem exists_of_readWith_object {members : List (Lexeme String × Tree)} {ending : Ending}
    {value : Json} (ordinary : ∀ member ∈ members, member.1 ≠ .value textName)
    (accepted : readWith ofText source (.object members ending) = .ok value) :
    ∃ inside entries, source.enter = .ok inside ∧
      Codec.readMembers (readWith ofText inside) members = .ok entries ∧
      value = .ofTable (.ofList entries) := by
  cases members with
  | nil =>
    rw [readWith] at accepted
    obtain ⟨inside, entered, behind⟩ := exists_of_bind_eq_ok accepted
    obtain ⟨⟨⟩, -, whole⟩ := exists_of_bind_eq_ok behind
    cases whole
    exact ⟨inside, [], entered, rfl, rfl⟩
  | cons member later =>
    obtain ⟨written, first⟩ := member
    rw [readWith] at accepted
    obtain ⟨inside, entered, behind⟩ := exists_of_bind_eq_ok accepted
    obtain ⟨name, nameRead, meaning⟩ := exists_of_bind_eq_ok behind
    cases Lexeme.eq_value nameRead
    have unannounced : name ≠ textName := fun announced =>
      ordinary _ (List.mem_cons_self ..) (congrArg Lexeme.value announced)
    rw [if_neg unannounced] at meaning
    obtain ⟨held, heldRead, others⟩ := exists_of_bind_eq_ok meaning
    obtain ⟨entries, entriesRead, ended⟩ := exists_of_bind_eq_ok others
    obtain ⟨⟨⟩, -, whole⟩ := exists_of_bind_eq_ok ended
    cases whole
    refine ⟨inside, (name, held) :: entries, entered, ?_, rfl⟩
    rw [readEntries_eq_readMembers] at entriesRead
    rw [Codec.readMembers, List.mapM_cons, ← Codec.readMembers, entriesRead]
    simp only [nameRead, heldRead, bind, Except.bind]
    rfl

/-- A tree without announcements is read as a plain value, which is nested no deeper than the
source admits. -/
theorem plain_of_read {tree : Tree} (unannounced : tree.Unannounced) {value : Json}
    (scalar : source.Admits 0) (accepted : readWith ofText source tree = .ok value) :
    value.Plain ∧ source.Admits value.depth := by
  induction unannounced generalizing source value with
  | quoted text =>
    rw [readWith] at accepted
    obtain ⟨content, rfl⟩ := exists_of_liftFault_map accepted
    exact ⟨.string content, scalar⟩
  | bare content =>
    rw [readWith] at accepted
    obtain ⟨held, rfl⟩ := exists_of_liftFault_map accepted
    cases held with
    | null => exact ⟨.null, scalar⟩
    | bool flag => exact ⟨.bool flag, scalar⟩
    | number value => exact ⟨.number value, scalar⟩
  | missing fault => cases accepted
  | array items ending _ inductionHypothesis =>
    obtain ⟨inside, values, entered, read, rfl⟩ := exists_of_readWith_array accepted
    have each : ∀ held ∈ values, held.Plain ∧ inside.Admits held.depth := by
      intro held present
      obtain ⟨item, member, itemRead⟩ := exists_of_mem_mapM read held present
      exact inductionHypothesis item member (Source.admits_zero_of_enter entered) itemRead
    exact ⟨.array _ fun held present => (each held present).1,
      Source.admits_array entered fun held present => (each held present).2⟩
  | object members ending ordinary _ inductionHypothesis =>
    obtain ⟨inside, entries, entered, read, rfl⟩ := exists_of_readWith_object ordinary accepted
    refine plain_ofTable_ofList entered fun entry present => ?_
    obtain ⟨part, member, partRead⟩ := exists_of_mem_readMembers read entry present
    exact ⟨fun announced => ordinary _ member (congrArg Lexeme.value announced),
      inductionHypothesis _ member (Source.admits_zero_of_enter entered) partRead⟩

end Free

/-- A table of free values without announcements holds plain values, which are admitted with the
object around them. -/
theorem Codec.plain_of_table {source : Source} {part : Tree} {values : Table Json}
    (unannounced : ∀ member ∈ part.members, member.2.Unannounced)
    (accepted : (Codec.table .free).read source part = .ok values) :
    ∀ entry ∈ values.entries, entry.2.Plain ∧ source.Admits (entry.2.depth + 1) := by
  cases part with
  | object members ending =>
    obtain ⟨inside, entered, behind⟩ := exists_of_bind_eq_ok accepted
    obtain ⟨entries, read, ended⟩ := exists_of_bind_eq_ok behind
    obtain ⟨⟨⟩, -, whole⟩ := exists_of_bind_eq_ok ended
    cases whole
    intro entry present
    obtain ⟨part, member, partRead⟩ :=
      exists_of_mem_readMembers read entry (Table.mem_of_mem_ofList present)
    obtain ⟨plain, room⟩ := Free.plain_of_read (unannounced _ member)
      (Source.admits_zero_of_enter entered) partRead
    exact ⟨plain, .of_enter entered room⟩
  | quoted | bare | array | missing => exact absurd accepted (Tree.mismatch_ne_ok _ _ _)

/-- Every value of a list that is read comes from an item of the array. -/
theorem Codec.exists_of_mem_list {α : Type} {codec : Codec α} {source : Source} {tree : Tree}
    {values : List α} (accepted : codec.list.read source tree = .ok values) :
    ∃ inside, source.enter = .ok inside ∧
      ∀ value ∈ values, ∃ item ∈ tree.items, codec.read inside item = .ok value := by
  cases tree with
  | array items ending =>
    obtain ⟨inside, entered, behind⟩ := exists_of_bind_eq_ok accepted
    obtain ⟨held, read, ended⟩ := exists_of_bind_eq_ok behind
    obtain ⟨⟨⟩, -, whole⟩ := exists_of_bind_eq_ok ended
    cases whole
    exact ⟨inside, entered, exists_of_mem_mapM read⟩
  | quoted | bare | object | missing => exact absurd accepted (Tree.mismatch_ne_ok _ _ _)

/-- A value that may be absent and is there was read as itself. -/
theorem Codec.read_of_optional {α : Type} {codec : Codec α} {source : Source} {tree : Tree}
    {value : α} (accepted : codec.optional.read source tree = .ok (some value)) :
    codec.read source tree = .ok value := by
  simp only [Codec.optional] at accepted
  split at accepted
  · cases accepted
  · cases read : codec.read source tree with
    | error fault =>
      rw [read] at accepted
      cases accepted
    | ok held =>
      rw [read] at accepted
      cases accepted
      rfl

end Json

/-! ## Blocks -/

open Json

namespace Block

/-- Whether something holds of every free field of a block. -/
def FieldsAll (block : Block) (holds : Json → Prop) : Prop :=
  ∀ fields ∈ block.fields, ∀ entry ∈ fields.entries, holds entry.2

/-- Whether no object within the free fields announces the text of a value, in a tree that a
block is read from. -/
def FieldsUnannounced (tree : Tree) : Prop :=
  ∀ part, ("fields", part) ∈ tree.parts record.fields.names →
    ∀ member ∈ part.members, member.2.Unannounced

/-- Free fields without announcements are read as plain values, which leave room for the block
and the object around them. -/
theorem fieldsAll_of_read {room : Nat} {tree : Tree} {block : Block}
    (unannounced : FieldsUnannounced tree) (accepted : codec.read (.text room) tree = .ok block) :
    block.FieldsAll fun value => value.Plain ∧ value.depth + 2 < room := by
  obtain ⟨inside, values, entered, drawn, rfl⟩ := Record.exists_drawn accepted
  cases Source.enter_text entered
  intro fields isHeld entry member
  have held : values.2.2.2.2.2.2.2.2.1 = some fields := isHeld
  rcases drawn.2.2.2.2.2.2.2.2.1 with absent | ⟨part, isPart, read⟩
  · rw [held] at absent
    cases absent
  · rw [held] at read
    obtain ⟨plain, room⟩ := Codec.plain_of_table (unannounced part isPart)
      (Codec.read_of_optional read) entry member
    simp only [Source.Admits] at room
    exact ⟨plain, by omega⟩

end Block

/-- A value is loaded from a file with a text exactly if the text is read as it. -/
theorem load_eq_ok_iff {α : Type} {what : String} {codec : Codec α} {files : Files}
    {path text : String} {value : α} (found : files path = .ok text) :
    load what codec files path = .ok value ↔ codec.readText text = .ok value := by
  cases read : codec.readText text <;> simp [load, found, read]

/-- A file whose text is refused is not loaded. -/
theorem load_eq_error {α : Type} {what : String} {codec : Codec α} {files : Files}
    {path text : String} {fault : ReadFault} (found : files path = .ok text)
    (refused : codec.readText text = .error fault) :
    load what codec files path = .error ⟨what, path, .content fault⟩ := by
  simp only [load, found, refused]

/-- Blocks that are loaded from a text without announcements in their free fields hold plain
values there, nested at most 124 levels. -/
theorem fieldsAll_of_loadBlocks {files : Files} {path text : String} {blocks : List Block}
    (found : files path = .ok text) (loads : loadBlocks files path = .ok blocks)
    (unannounced : ∀ item ∈ (Tree.ofText text).items, Block.FieldsUnannounced item) :
    ∀ block ∈ blocks, block.FieldsAll fun value => value.Plain ∧ value.depth ≤ 124 := by
  obtain ⟨read, -⟩ := of_readWhole ((load_eq_ok_iff found).mp loads)
  obtain ⟨inside, entered, each⟩ := Codec.exists_of_mem_list read
  cases Source.enter_text entered
  intro block member fields isHeld entry present
  obtain ⟨item, isItem, blockRead⟩ := each block member
  obtain ⟨plain, shallow⟩ := Block.fieldsAll_of_read (unannounced item isItem) blockRead fields
    isHeld entry present
  exact ⟨plain, by omega⟩

end CardLimits
