import CardLimits.Proofs.LoadedBlocks
import CardLimits.Proofs.RecordReadings
/-!
# Rows of the table of blocks

A row of the table of blocks holds what the JSON object with its columns says
(`BlockRow.reads_like_its_columns`): the object is read as the block of the row, in whatever order
its members stand, and the block is restored from what is written for it.  The free fields must
not hold an object that announces the text of a value (`announcing_row_is_refused`).
-/

namespace CardLimits

open Json

namespace BlockRow

variable (row : BlockRow)

/-- The columns of a row as members of an object; the kind is the text in the row. -/
def columns : List (String × Json) :=
  [("id", Codec.string.write row.id), ("workspaceId", Codec.string.write row.workspaceId),
    ("parentId", Codec.string.write row.parentId), ("rootId", Codec.string.write row.rootId),
    ("createdBy", Codec.string.write row.createdBy),
    ("modifiedBy", Codec.string.write row.modifiedBy), ("schema", Codec.int64.write row.schema),
    ("type", Codec.string.write row.kind), ("title", Codec.string.write row.title),
    ("fields", (Codec.table .free).optional.write row.fields),
    ("createAt", Codec.int64.write row.createAt), ("updateAt", Codec.int64.write row.updateAt),
    ("deleteAt", Codec.int64.write row.deleteAt)]

/-- Whether members are the columns of a row in some order.  Free fields that are absent are
`null` or left out. -/
def HasMembers (members : List (String × Json)) : Prop :=
  members.Perm row.columns ∨
    row.fields = none ∧ members.Perm (row.columns.filter fun column => column.1 ≠ "fields")

/-- Whether the free fields are nested less deeply than the object with the columns may be. -/
def FieldsShallow : Prop :=
  ∀ fields ∈ row.fields, ((Codec.table .free).write fields).depth ≤ 126

variable {row}

/-- No two columns have one name. -/
theorem HasMembers.distinct {members : List (String × Json)} (has : row.HasMembers members) :
    (members.map Prod.fst).Nodup := by
  have distinct : (row.columns.map Prod.fst).Nodup := by
    simp only [columns, List.map_cons, List.map_nil]
    decide
  obtain same | ⟨-, same⟩ := has
  · exact (same.map Prod.fst).nodup_iff.mpr distinct
  · refine (same.map Prod.fst).nodup_iff.mpr (distinct.sublist ?_)
    exact List.Sublist.map _ List.filter_sublist

/-- Every member is a column. -/
theorem HasMembers.subset {members : List (String × Json)} (has : row.HasMembers members) :
    ∀ member ∈ members, member ∈ row.columns := by
  intro member isMember
  obtain same | ⟨-, same⟩ := has
  · exact same.mem_iff.mp isMember
  · exact (List.mem_filter.mp (same.mem_iff.mp isMember)).1

/-- Every column but that of the free fields is a member. -/
theorem HasMembers.mem {members : List (String × Json)} (has : row.HasMembers members)
    {column : String × Json} (isColumn : column ∈ row.columns) (different : column.1 ≠ "fields") :
    column ∈ members := by
  obtain same | ⟨-, same⟩ := has
  · exact same.mem_iff.mpr isColumn
  · exact same.mem_iff.mpr (List.mem_filter.mpr ⟨isColumn, decide_eq_true different⟩)

/-- The free fields are a member, or are absent and left out. -/
theorem HasMembers.fields {members : List (String × Json)} (has : row.HasMembers members) :
    ("fields", (Codec.table .free).optional.write row.fields) ∈ members ∨
      row.fields = none ∧ ∀ member ∈ members, member.1 ≠ "fields" := by
  obtain same | ⟨absent, same⟩ := has
  · exact .inl (same.mem_iff.mpr (by simp [columns]))
  · refine .inr ⟨absent, fun member isMember => ?_⟩
    exact of_decide_eq_true (List.mem_filter.mp (same.mem_iff.mp isMember)).2

/-- The free fields of a row are kept, or are absent. -/
theorem keeps_fields (exact : row.toBlock.FieldsExact) (plain : row.toBlock.FieldsPlain) :
    (Codec.table .free).optional.Keeps row.fields :=
  .optional fun fields held =>
    ⟨.table fun entry member =>
      .free (exact fields held entry member) (plain fields held entry member), nofun⟩

/-- Free fields that are absent are not nested at all. -/
theorem FieldsShallow.depth_le (shallow : row.FieldsShallow) :
    ((Codec.table .free).optional.write row.fields).depth ≤ 126 := by
  cases held : row.fields with
  | none => exact Nat.zero_le _
  | some fields => exact shallow fields held

/-! ## The members that are found -/

/-- The trees of members, under their names. -/
def trees (members : List (String × Json)) : List (String × Tree) :=
  members.map fun member => (member.1, member.2.asTree)

/-- The tree of an object has the trees of its members. -/
theorem asTree_object_trees (members : List (String × Json)) :
    (Json.object members).asTree = .object (Fields.named (trees members)) .closed := by
  rw [asTree_object, trees, Fields.named, List.map_map]
  rfl

section Members

variable {members : List (String × Json)} (has : row.HasMembers members)

include has

/-- No two trees have one name. -/
theorem HasMembers.distinct_trees : ((trees members).map Prod.fst).Nodup := by
  rw [trees, List.map_map]
  exact has.distinct

/-- A member is found under its name. -/
theorem HasMembers.lookup {name : String} {value : Json} (isMember : (name, value) ∈ members) :
    (trees members).lookup name = some value.asTree :=
  (Table.lookup_eq_some_iff_mem has.distinct_trees).mpr (List.mem_map_of_mem isMember)

/-- A name that no column has is not found. -/
theorem HasMembers.lookup_eq_none {name : String}
    (noColumn : ∀ column ∈ row.columns, column.1 ≠ name) : (trees members).lookup name = none := by
  refine List.lookup_eq_none_iff.mpr (List.forall_mem_map.mpr fun member isMember => ?_)
  exact bne_iff_ne.mpr (noColumn member (has.subset member isMember)).symm

/-- A column of texts is found and read as its text. -/
theorem HasMembers.text (name value : String)
    (isColumn : (name, Codec.string.write value) ∈ row.columns) (different : name ≠ "fields") :
    ∃ part, (trees members).lookup name = some part ∧
      Codec.string.read (.text 127) part = .ok value :=
  ⟨_, has.lookup (has.mem isColumn different), rfl⟩

/-- A column of numbers is found and read as its number. -/
theorem HasMembers.number (name : String) (value : Int64)
    (isColumn : (name, Codec.int64.write value) ∈ row.columns) (different : name ≠ "fields") :
    ∃ part, (trees members).lookup name = some part ∧
      Codec.int64.read (.text 127) part = .ok value :=
  ⟨_, has.lookup (has.mem isColumn different),
    (Codec.Keeps.int64 value).read (.text 127) (Nat.succ_pos 126)⟩

/-- The kind is found and read as what its text names, although it is not written by the codec of
kinds. -/
theorem HasMembers.kind :
    ∃ part, (trees members).lookup "type" = some part ∧
      BlockKind.codec.read (.text 127) part = .ok (.ofName row.kind) := by
  have isColumn : ("type", Codec.string.write row.kind) ∈ row.columns := by simp [columns]
  exact ⟨_, has.lookup (has.mem isColumn (by decide : "type" ≠ "fields")), rfl⟩

/-- The free fields are found and read as they are, or they are absent and not found. -/
theorem HasMembers.freeFields (exact : row.toBlock.FieldsExact)
    (plain : row.toBlock.FieldsPlain) (shallow : row.FieldsShallow) :
    (∃ part, (trees members).lookup "fields" = some part ∧
        (Codec.table .free).optional.read (.text 127) part = .ok row.fields) ∨
      (trees members).lookup "fields" = none ∧ some none = some row.fields := by
  obtain isMember | ⟨absent, leftOut⟩ := has.fields
  · exact .inl ⟨_, has.lookup isMember,
      (keeps_fields exact plain).read (.text 127) (Nat.lt_succ_of_le shallow.depth_le)⟩
  · refine .inr ⟨List.lookup_eq_none_iff.mpr ?_, absent ▸ rfl⟩
    exact List.forall_mem_map.mpr fun member isMember =>
      bne_iff_ne.mpr (leftOut member isMember).symm

/-- Every field of a block is found among the columns, but the mark of limited blocks, which is
not set then. -/
theorem HasMembers.foundIn (exact : row.toBlock.FieldsExact) (plain : row.toBlock.FieldsPlain)
    (shallow : row.FieldsShallow) :
    Block.record.fields.FoundIn (.text 127) (trees members)
      (Block.record.toValues row.toBlock) := by
  have unmarked : (trees members).lookup "limited" = none :=
    has.lookup_eq_none (by simp [columns])
  refine ⟨.inl (has.text "id" row.id ?_ ?_), .inl (has.text "parentId" row.parentId ?_ ?_),
    .inl (has.text "rootId" row.rootId ?_ ?_), .inl (has.text "createdBy" row.createdBy ?_ ?_),
    .inl (has.text "modifiedBy" row.modifiedBy ?_ ?_),
    .inl (has.number "schema" row.schema ?_ ?_), .inl has.kind,
    .inl (has.text "title" row.title ?_ ?_), has.freeFields exact plain shallow,
    .inl (has.number "createAt" row.createAt ?_ ?_),
    .inl (has.number "updateAt" row.updateAt ?_ ?_),
    .inl (has.number "deleteAt" row.deleteAt ?_ ?_),
    .inl (has.text "workspaceId" row.workspaceId ?_ ?_), .inr ⟨unmarked, rfl⟩, trivial⟩
  all_goals first | decide | simp [columns]

/-- An object with the columns of a row is read as the block of the row. -/
theorem HasMembers.read (exact : row.toBlock.FieldsExact) (plain : row.toBlock.FieldsPlain)
    (shallow : row.FieldsShallow) :
    Block.codec.read .whole (Json.object members).asTree = .ok row.toBlock := by
  have distinctFields : Block.record.fields.names.Nodup := by decide
  have passed : ∀ part ∈ trees members, part.2.skip = .ok () :=
    List.forall_mem_map.mpr fun member _ => skip_asTree member.2
  rw [asTree_object_trees, ← Text.toOption_eq_some_iff]
  refine (Record.toOption_read_object distinctFields passed
    (has.distinct_trees.sublist List.filter_sublist)).trans ?_
  exact congrArg (Option.map Block.record.ofValues)
    (has.foundIn exact plain shallow).readFrom_eq_some

end Members

/-! ## Rows and texts -/

/-- The columns of a row have exact numbers if its free fields do. -/
theorem exact_columns (exact : row.toBlock.FieldsExact) :
    ∀ column ∈ row.columns, column.2.Exact := by
  have text (value : String) : (Codec.string.write value).Exact := .string value
  have number (value : Int64) : (Codec.int64.write value).Exact := (Codec.Keeps.int64 value).exact
  have fields : ((Codec.table .free).optional.write row.fields).Exact := by
    cases held : row.fields with
    | none => exact .null
    | some fields => exact Codec.exact_table (exact fields held)
  simp only [columns, List.forall_mem_cons]
  exact ⟨text _, text _, text _, text _, text _, text _, number _, text _, text _, fields,
    number _, number _, number _, List.forall_mem_nil _⟩

/-- The block of a row is nested no deeper than a whole text may be. -/
theorem depth_toBlock (shallow : row.FieldsShallow) :
    (Block.codec.write row.toBlock).depth ≤ 127 := by
  have entered : Source.whole.enter = .ok (.text 127) := rfl
  have admits : Source.whole.Admits (Block.codec.write row.toBlock).depth := by
    refine Source.admits_object entered (Block.forall_mem_members ?_ fun fields held _ => ?_)
    · intro name value _ scalar
      exact Nat.lt_of_le_of_lt (Nat.le_of_eq scalar) (by decide)
    · exact Nat.lt_succ_of_le (shallow fields held)
  exact Nat.le_of_lt_succ admits

/-- A row and the object with its columns hold the same block, whatever the text in the column of
the kind is: every text with the tokens of the object is read as it, the two texts that are written
for the object among them, and so are the texts that are written for the block itself. -/
theorem reads_like_its_columns (exact : row.toBlock.FieldsExact)
    (plain : row.toBlock.FieldsPlain) (shallow : row.FieldsShallow) :
    (∀ members, row.HasMembers members →
      (∀ text : String, tokens text.toList = (Json.object members).asTokens →
        Block.codec.readText text = .ok row.toBlock) ∧
      Block.codec.readText (Json.object members).toCompactString = .ok row.toBlock ∧
      Block.codec.readText (Json.object members).toSpreadString = .ok row.toBlock) ∧
    Block.codec.Restores row.toBlock := by
  refine ⟨fun members has => ?_, (Block.codec_keeps exact plain).restores (depth_toBlock shallow)⟩
  have read (text : String) (cut : tokens text.toList = (Json.object members).asTokens) :
      Block.codec.readText text = .ok row.toBlock :=
    (readWhole_of_forms Block.codec.read (cut ▸ forms_asTokens _)).trans
      (has.read exact plain shallow)
  have exactMembers : (Json.object members).Exact :=
    .object _ fun member isMember => exact_columns exact member (has.subset member isMember)
  exact ⟨read, read _ (tokens_of_spells (spells_compact exactMembers)),
    read _ (tokens_of_spells (spells_spread exactMembers 0))⟩

end BlockRow

/-- A row with free fields of all kinds, whose kind no block has. -/
def mixedRow : BlockRow where
  id := "\"\\\x07"
  workspaceId := "0"
  parentId := ""
  rootId := "board"
  createdBy := ""
  modifiedBy := ""
  schema := 1
  kind := "Card "
  title := "𝄞\t"
  fields := some mixedFields
  createAt := Int64.minValue
  updateAt := Int64.maxValue
  deleteAt := 0

/-- The row and its columns the other way round hold the same block. -/
theorem mixedRow_reads_like_its_columns :
    mixedRow.toBlock.FieldsExact ∧ mixedRow.toBlock.FieldsPlain ∧ mixedRow.FieldsShallow ∧
      mixedRow.HasMembers mixedRow.columns.reverse ∧ mixedRow.toBlock.kind = .unknown ∧
      Block.codec.readText (Json.object mixedRow.columns.reverse).toCompactString =
        .ok mixedRow.toBlock ∧
      Block.codec.Restores mixedRow.toBlock := by
  have exact : mixedRow.toBlock.FieldsExact := mixedBlock_fieldsExact
  have plain : mixedRow.toBlock.FieldsPlain := mixedBlock_fieldsPlain
  have shallow : mixedRow.FieldsShallow := by
    rintro fields ⟨⟩
    exact Nat.le_of_ble_eq_true rfl
  have has : mixedRow.HasMembers mixedRow.columns.reverse := .inl (List.reverse_perm _)
  obtain ⟨fromColumns, restored⟩ := BlockRow.reads_like_its_columns exact plain shallow
  exact ⟨exact, plain, shallow, has, rfl, (fromColumns _ has).2.1, restored⟩

/-- A row with an object among its free fields that announces the text of a value. -/
def announcingRow : BlockRow where
  id := "b"
  workspaceId := ""
  parentId := ""
  rootId := ""
  createdBy := ""
  modifiedBy := ""
  schema := 0
  kind := "card"
  title := ""
  fields := announcingBlock.fields
  createAt := 0
  updateAt := 0
  deleteAt := 0

/-- A row holds a block though the object with its columns is refused, when an object within the
free fields announces the text of a value. -/
theorem announcing_row_is_refused :
    announcingRow.toBlock.FieldsExact ∧ announcingRow.FieldsShallow ∧
      announcingRow.HasMembers announcingRow.columns ∧
      Block.codec.readText (Json.object announcingRow.columns).toCompactString =
        .error (.mismatch .null .valueText) := by
  have exact : announcingRow.toBlock.FieldsExact := announcingBlock_fieldsExact
  refine ⟨exact, ?_, .inl (.refl _), ?_⟩
  · rintro fields ⟨⟩
    exact Nat.le_of_ble_eq_true rfl
  · have spelled := spells_compact (.object _ (BlockRow.exact_columns exact))
    exact (readWhole_of_spells Block.codec.read spelled).trans rfl

end CardLimits
