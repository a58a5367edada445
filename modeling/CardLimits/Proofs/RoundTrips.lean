import CardLimits.Model.Block
import CardLimits.Model.License
import CardLimits.Model.User
import CardLimits.Proofs.RecordLaws
/-!
# Reading undoes writing

Every model is restored from the texts that are written for it
(`reading_undoes_writing`).  Only a block can fail to be: its free fields may be nested
too deeply, may hold a double, or may hold an object that announces the text of a value
(`announced_text_is_not_restored`).
-/

namespace CardLimits

open Json

theorem BlockKind.codec_keeps (kind : BlockKind) : BlockKind.codec.Keeps kind :=
  ⟨.string kind.name, fun _ _ => congrArg Except.ok (ofName_name kind)⟩

/-- All numbers in the free fields of a block are integers of 64 bits. -/
def Block.FieldsExact (block : Block) : Prop :=
  ∀ fields ∈ block.fields, ∀ entry ∈ fields.entries, entry.2.Exact

/-- No object within the free fields of a block announces the text of a value. -/
def Block.FieldsPlain (block : Block) : Prop :=
  ∀ fields ∈ block.fields, ∀ entry ∈ fields.entries, entry.2.Plain

/-- What a block is written with: scalars with exact numbers, and its free fields. -/
theorem Block.forall_mem_members {block : Block} {holds : String × Json → Prop}
    (scalar : ∀ name value, value.Exact → value.depth = 0 → holds (name, value))
    (table : ∀ fields ∈ block.fields, ∀ name, holds (name, (Codec.table .free).write fields)) :
    ∀ member ∈ record.fields.members (record.toValues block), holds member := by
  have text (name value : String) : holds (name, .string value) := scalar _ _ (.string _) rfl
  have number (name : String) (value : Int64) : holds (name, Codec.int64.write value) :=
    scalar _ _ (Codec.Keeps.int64 value).exact rfl
  have flag (name : String) (value : Bool) : holds (name, .bool value) := scalar _ _ (.bool _) rfl
  cases held : block.fields with
  | none =>
    simp only [record, held, Fields.members, Field.required, Field.withDefault, Field.leftOut,
      Option.map, List.forall_mem_cons]
    exact ⟨text _ _, text _ _, text _ _, text _ _, text _ _, number _ _, text _ _, text _ _,
      number _ _, number _ _, number _ _, text _ _, flag _ _, List.forall_mem_nil _⟩
  | some fields =>
    simp only [record, held, Fields.members, Field.required, Field.withDefault, Field.leftOut,
      Option.map, List.forall_mem_cons]
    exact ⟨text _ _, text _ _, text _ _, text _ _, text _ _, number _ _, text _ _, text _ _,
      table fields held _, number _ _, number _ _, number _ _, text _ _, flag _ _,
      List.forall_mem_nil _⟩

/-- A table of free values is written with exact numbers if those in it are. -/
theorem Json.Codec.exact_table {fields : Table Json}
    (exact : ∀ entry ∈ fields.entries, entry.2.Exact) :
    ((Codec.table .free).write fields).Exact :=
  .object _ (List.forall_mem_map.mpr exact)

/-- A block is written with exact numbers if those in its free fields are. -/
theorem Block.exact_write {block : Block} (exact : block.FieldsExact) :
    (codec.write block).Exact :=
  .object _ <| forall_mem_members (fun _ _ scalar _ => scalar) fun fields held _ =>
    Codec.exact_table (exact fields held)

/-- A block whose free fields are plain and have exact numbers is kept. -/
theorem Block.codec_keeps {block : Block} (exact : block.FieldsExact)
    (plain : block.FieldsPlain) : Block.codec.Keeps block :=
  Block.record.codec_keeps
    ⟨.required (.string _), .withDefault (.string _), .withDefault (.string _),
      .withDefault (.string _), .withDefault (.string _), .withDefault (.int64 _),
      .required (BlockKind.codec_keeps _), .withDefault (.string _),
      .leftOut fun fields held =>
        ⟨.table fun entry member =>
          .free (exact fields held entry member) (plain fields held entry member), nofun⟩,
      .withDefault (.int64 _), .withDefault (.int64 _), .withDefault (.int64 _),
      .withDefault (.string _), .withDefault (.boolean _), trivial⟩
    (by decide) rfl

theorem Container.codec_keeps (container : Container) : Container.record.codec.Keeps container :=
  Container.record.codec_keeps ⟨.required (.string _), trivial⟩ (by decide) rfl

theorem User.codec_keeps (user : User) : User.codec.Keeps user :=
  User.record.codec_keeps
    ⟨.required (.string _), .required (.string _), .withDefault (.string _),
      .withDefault (.string _), .withDefault (.int64 _), trivial⟩
    (by decide) rfl

theorem Team.codec_keeps (team : Team) : Team.codec.Keeps team :=
  Team.record.codec_keeps ⟨.required (.string _), .required (.string _), trivial⟩ (by decide) rfl

theorem UserQuery.codec_keeps (query : UserQuery) : UserQuery.codec.Keeps query :=
  UserQuery.record.codec_keeps
    ⟨.required (.boolean _), .required (.string _), .required (.size _), .required (.size _),
      trivial⟩
    (by decide) rfl

theorem Features.codec_keeps (features : Features) : Features.record.codec.Keeps features :=
  Features.record.codec_keeps
    ⟨.withDefault (.optional fun _ _ => ⟨.boolean _, nofun⟩), trivial⟩ (by decide) rfl

theorem License.codec_keeps (license : License) : License.codec.Keeps license :=
  License.record.codec_keeps
    ⟨.withDefault (.optional fun _ _ => ⟨Features.codec_keeps _, nofun⟩), trivial⟩
    (by decide) rfl

theorem BoardsLimits.codec_keeps (limits : BoardsLimits) :
    BoardsLimits.record.codec.Keeps limits :=
  BoardsLimits.record.codec_keeps
    ⟨.withDefault (.optional fun _ _ => ⟨.int32 _, nofun⟩),
      .withDefault (.optional fun _ _ => ⟨.int32 _, nofun⟩), trivial⟩
    (by decide) rfl

theorem ProductLimits.codec_keeps (limits : ProductLimits) : ProductLimits.codec.Keeps limits :=
  ProductLimits.record.codec_keeps
    ⟨.withDefault (.optional fun _ _ => ⟨BoardsLimits.codec_keeps _, nofun⟩), trivial⟩
    (by decide) rfl

theorem Usage.codec_keeps (usage : Usage) : Usage.codec.Keeps usage :=
  Usage.record.codec_keeps
    ⟨.required (.int32 _), .required (.int64 _), .required (.int64 _), .required (.int32 _),
      trivial⟩
    (by decide) rfl

theorem License.restores (license : License) : License.codec.Restores license := by
  refine (License.codec_keeps license).restores ?_
  rcases license with ⟨_ | ⟨_ | cloud⟩⟩ <;> exact Nat.le_of_ble_eq_true rfl

theorem Block.restores_without_fields (block : Block) :
    Block.codec.Restores { block with fields := none } := by
  refine (Block.codec_keeps ?_ ?_).restores (Nat.le_of_ble_eq_true rfl)
  · rintro fields ⟨⟩
  · rintro fields ⟨⟩

theorem Block.restores_empty_fields (block : Block) :
    Block.codec.Restores { block with fields := some .empty } := by
  refine (Block.codec_keeps ?_ ?_).restores (Nat.le_of_ble_eq_true rfl)
  · rintro fields ⟨⟩
    exact List.forall_mem_nil _
  · rintro fields ⟨⟩
    exact List.forall_mem_nil _

/-- Reading undoes writing for every model.  A block without free fields stays apart from
one whose free fields are none, and an absent feature from one that is switched off. -/
theorem reading_undoes_writing :
    (∀ block : Block, block.FieldsExact → block.FieldsPlain →
      (Block.codec.write block).depth ≤ 127 → Block.codec.Restores block) ∧
    (∀ container, Container.record.codec.Restores container) ∧
    (∀ user, User.codec.Restores user) ∧
    (∀ team, Team.codec.Restores team) ∧
    (∀ query, UserQuery.codec.Restores query) ∧
    (∀ license, License.codec.Restores license) ∧
    (∀ features, Features.record.codec.Restores features) ∧
    (∀ limits, ProductLimits.codec.Restores limits) ∧
    (∀ limits, BoardsLimits.record.codec.Restores limits) ∧
    (∀ usage, Usage.codec.Restores usage) ∧
    (∀ block : Block, Block.codec.readText (Block.codec.writeText { block with fields := none }) ≠
      Block.codec.readText (Block.codec.writeText { block with fields := some .empty })) ∧
    License.codec.readText (License.codec.writeText { features := some { cloud := none } }) ≠
      License.codec.readText
        (License.codec.writeText { features := some { cloud := some false } }) := by
  refine ⟨?_, ?_, ?_, ?_, ?_, ?_, ?_, ?_, ?_, ?_, ?_, ?_⟩
  · intro block exact plain shallow
    exact (Block.codec_keeps exact plain).restores shallow
  · intro container
    exact (Container.codec_keeps container).restores (Nat.le_of_ble_eq_true rfl)
  · intro user
    exact (User.codec_keeps user).restores (Nat.le_of_ble_eq_true rfl)
  · intro team
    exact (Team.codec_keeps team).restores (Nat.le_of_ble_eq_true rfl)
  · intro query
    exact (UserQuery.codec_keeps query).restores (Nat.le_of_ble_eq_true rfl)
  · intro license
    exact license.restores
  · intro features
    refine (Features.codec_keeps features).restores ?_
    rcases features with ⟨_ | cloud⟩ <;> exact Nat.le_of_ble_eq_true rfl
  · intro limits
    refine (ProductLimits.codec_keeps limits).restores ?_
    rcases limits with ⟨_ | ⟨_ | cards, _ | views⟩⟩ <;> exact Nat.le_of_ble_eq_true rfl
  · intro limits
    refine (BoardsLimits.codec_keeps limits).restores ?_
    rcases limits with ⟨_ | cards, _ | views⟩ <;> exact Nat.le_of_ble_eq_true rfl
  · intro usage
    exact (Usage.codec_keeps usage).restores (Nat.le_of_ble_eq_true rfl)
  · intro block equal
    rw [block.restores_without_fields.1, block.restores_empty_fields.1] at equal
    cases equal
  · intro equal
    rw [(License.restores _).1, (License.restores _).1] at equal
    cases equal

/-- An object within the free fields of a block. -/
def nestedTable : Table Json where
  entries := [("", .ofTable .empty), ("\\", .string "\x1f\""),
    ("icon", .integer (-9223372036854775808))]
  ascending := by unfold Ascending; decide

/-- Free fields with extreme integers, escapes and nested values. -/
def mixedFields : Table Json where
  entries := [("\n", .array [.null, .bool true, .integer 18446744073709551615]),
    ("𝄞", .array [.ofTable nestedTable])]
  ascending := by unfold Ascending; decide

/-- A block with free fields of all kinds, extreme times and texts to be escaped. -/
def mixedBlock : Block where
  id := "\"\\\x07"
  kind := .unknown
  title := "𝄞\t"
  fields := some mixedFields
  createAt := Int64.minValue
  updateAt := Int64.maxValue
  limited := true

theorem nestedTable_exact : (Json.ofTable nestedTable).Exact := by
  refine .object _ ?_
  simp only [nestedTable, List.forall_mem_cons]
  exact ⟨.object _ (List.forall_mem_nil _), .string _, .integer _ (by decide) (by decide),
    List.forall_mem_nil _⟩

theorem nestedTable_plain : (Json.ofTable nestedTable).Plain := by
  refine .object _ (by rintro first ⟨⟩; decide) ?_
  simp only [nestedTable, List.forall_mem_cons]
  exact ⟨.object _ (fun first member => absurd member (Option.not_mem_none first))
    (List.forall_mem_nil _), .string _, .number _, List.forall_mem_nil _⟩

theorem mixedBlock_fieldsExact : mixedBlock.FieldsExact := by
  rintro fields ⟨⟩
  simp only [mixedFields, List.forall_mem_cons]
  refine ⟨.array _ ?_, .array _ ?_, List.forall_mem_nil _⟩
  · simp only [List.forall_mem_cons]
    exact ⟨.null, .bool true, .integer _ (by decide) (by decide), List.forall_mem_nil _⟩
  · simp only [List.forall_mem_singleton]
    exact nestedTable_exact

theorem mixedBlock_fieldsPlain : mixedBlock.FieldsPlain := by
  rintro fields ⟨⟩
  simp only [mixedFields, List.forall_mem_cons]
  refine ⟨.array _ ?_, .array _ ?_, List.forall_mem_nil _⟩
  · simp only [List.forall_mem_cons]
    exact ⟨.null, .bool true, .number _, List.forall_mem_nil _⟩
  · simp only [List.forall_mem_singleton]
    exact nestedTable_plain

/-- The block with free fields of all kinds, which are nested up to its fifth level, is
restored. -/
theorem reading_undoes_writing_mixedBlock :
    mixedBlock.FieldsExact ∧ mixedBlock.FieldsPlain ∧
      (Block.codec.write mixedBlock).depth = 5 ∧ Block.codec.Restores mixedBlock :=
  ⟨mixedBlock_fieldsExact, mixedBlock_fieldsPlain, rfl,
    reading_undoes_writing.1 mixedBlock mixedBlock_fieldsExact mixedBlock_fieldsPlain
      (Nat.le_of_ble_eq_true rfl)⟩

/-- A block with an object among its free fields that announces the text of a value. -/
def announcingBlock : Block where
  id := "b"
  kind := .card
  fields := some {
    entries := [("a", .object [(Free.textName, .null)])]
    ascending := by unfold Ascending; decide }

theorem announcingBlock_fieldsExact : announcingBlock.FieldsExact := by
  rintro fields ⟨⟩
  exact List.forall_mem_singleton.mpr (.object _ (List.forall_mem_singleton.mpr .null))

/-- A block is not restored when an object within its free fields announces the text of a
value: what stands there is taken for that text. -/
theorem announced_text_is_not_restored :
    announcingBlock.FieldsExact ∧ (Block.codec.write announcingBlock).depth ≤ 127 ∧
    Block.codec.readText (Block.codec.writeText announcingBlock) =
      .error (.mismatch .null .valueText) := by
  refine ⟨announcingBlock_fieldsExact, Nat.le_of_ble_eq_true rfl, ?_⟩
  have spelled := spells_compact (Block.exact_write announcingBlock_fieldsExact)
  exact (readWhole_of_spells Block.codec.read spelled).trans rfl

end CardLimits
