import CardLimits.Proofs.FixtureRoundTrips
import CardLimits.Proofs.SetAside
/-!
# The two readers of a fixture

The reader of a fixture sets the members of the store aside and reads them afterwards; the
reader of a store's start reads the same members as part of the text.  They agree on every text
that the first one accepts, but for one point: a kind that is given under its name by an empty
object, where only `null` is meant to stand, passes afterwards and is refused as part of the text
(`fixture_readers_agree`).
-/

namespace CardLimits

open Json

/-- The failure of an empty object where `null` has to stand. -/
def hollowFault : ReadFault :=
  .mismatch .map .unit

namespace BlockKind

/-- Whether a kind is given by an object with the name of the kind and an empty object. -/
def isHollow : Tree → Bool
  | .object [(_, .object [] _)] _ => true
  | _ => false

/-- What is taken for `null` afterwards is `null` or an empty object. -/
theorem readUnit_settled {tree : Tree} (settled : readUnit .settled tree = .ok ()) :
    tree = .bare (.value .null) ∨ ∃ ending, tree = .object [] ending := by
  rw [readUnit.eq_def] at settled
  split at settled
  · exact .inl rfl
  · exact .inr ⟨_, rfl⟩
  · exact absurd settled (Tree.mismatch_ne_ok _ _ _)

/-- A kind is refused as part of the text if an empty object stands for `null` in it. -/
theorem agreesBut : AgreesBut hollowFault isHollow codec.read := by
  intro room tree kind aside settled
  cases tree with
  | quoted written => exact settled
  | object members ending =>
    obtain ⟨entered, -, rfl⟩ := Free.of_setAside_object aside
    obtain ⟨inside, ⟨⟩, named⟩ := exists_of_bind_eq_ok settled
    match members with
    | [] => cases named
    | _ :: _ :: _ => cases named
    | [(written, value)] =>
      obtain ⟨name, nameRead, entry⟩ := exists_of_bind_eq_ok named
      obtain ⟨⟨⟩, unit, whole⟩ := exists_of_bind_eq_ok entry
      cases whole
      cases Lexeme.eq_value nameRead
      change readEntry (.text room) [(.value name, value)] .closed = _
      rw [readEntry.eq_def, entered]
      rcases readUnit_settled unit with rfl | ⟨valueEnding, rfl⟩ <;> rfl
  | bare | array => exact absurd settled (Tree.mismatch_ne_ok _ _ _)
  | missing fault => cases settled

end BlockKind

/-! ## The models of a fixture -/

theorem Features.agreesBut : AgreesBut hollowFault never Features.record.codec.read :=
  .record_never ⟨.optional (.of_same fun _ _ => rfl), trivial⟩

theorem License.agreesBut : AgreesBut hollowFault never License.codec.read :=
  .record_never ⟨.optional Features.agreesBut, trivial⟩

theorem Team.agreesBut : AgreesBut hollowFault never Team.codec.read :=
  .record_never ⟨.of_same fun _ _ => rfl, .of_same fun _ _ => rfl, trivial⟩

/-- Whether a block is given with such a kind. -/
def Block.hasHollowKind : Tree → Bool :=
  Tree.anyPart Block.record.fields.names (onlyField "type" BlockKind.isHollow)

/-- A block is refused as part of the text if it is given with such a kind. -/
theorem Block.agreesBut : AgreesBut hollowFault Block.hasHollowKind Block.codec.read := by
  have plain {name : String} (other : name ≠ "type") {α : Type}
      {read : Source → Tree → Except ReadFault α}
      (same : ∀ room tree, read (.text room) tree = read .settled tree) :
      AgreesBut hollowFault (onlyField "type" BlockKind.isHollow name) read :=
    .otherField other (.of_same same)
  refine .record ⟨plain ?_ ?_, plain ?_ ?_, plain ?_ ?_, plain ?_ ?_, plain ?_ ?_, plain ?_ ?_,
    .sameField BlockKind.agreesBut, plain ?_ ?_, .otherField ?_ (.optional (.table .free)),
    plain ?_ ?_, plain ?_ ?_, plain ?_ ?_, plain ?_ ?_, plain ?_ ?_, trivial⟩
  all_goals first | exact fun _ _ => rfl | decide

/-- Whether a fixture is given with a block with such a kind. -/
def Fixture.hasHollowKind : Tree → Bool :=
  Tree.anyPart StoreSeed.record.fields.names
    (onlyField "blocks" fun blocks => blocks.items.any Block.hasHollowKind)

/-- The members of the store are refused as part of the text if a block among them is given with
such a kind. -/
theorem StoreSeed.fields_agreeBut :
    StoreSeed.record.fields.AgreeBut hollowFault
      (onlyField "blocks" fun blocks => blocks.items.any Block.hasHollowKind) :=
  ⟨.otherField (by decide) (.optional License.agreesBut),
    .otherField (by decide) (.of_same fun _ _ => rfl),
    .sameField (.list Block.agreesBut),
    .otherField (by decide) (.table Team.agreesBut), trivial⟩

/-! ## Main statement -/

/-- In the first pass every member but the users is set aside. -/
theorem Fixture.setAside_of_acceptMember {source : Source}
    {members : List (Lexeme String × Tree)} {users after : Option (List User)}
    (accepted : members.foldlM (acceptMember source) users = .ok after) :
    ∀ member ∈ members, ∀ name, member.1 = .value name → name ≠ usersField →
      Free.setAside source member.2 = .ok () := by
  induction members generalizing users with
  | nil => exact List.forall_mem_nil _
  | cons member later inductionHypothesis =>
    rw [List.foldlM_cons] at accepted
    obtain ⟨reached, first, others⟩ := exists_of_bind_eq_ok accepted
    refine List.forall_mem_cons.mpr ⟨fun name named other => ?_, inductionHypothesis others⟩
    obtain ⟨read, nameRead, taken⟩ := exists_of_bind_eq_ok first
    rw [named] at nameRead
    cases nameRead
    rw [if_neg other] at taken
    obtain ⟨⟨⟩, aside, -⟩ := exists_of_bind_eq_ok taken
    exact aside

/-- If a tree is accepted as a fixture, its store is read from the text in one pass unless a block
is given with such a kind. -/
theorem Fixture.read_store_of_read {room : Nat} {tree : Tree} {fixture : Fixture}
    (accepted : Fixture.read (.text room) tree = .ok fixture) :
    StoreSeed.codec.read (.text room) tree =
      if hasHollowKind tree then .error hollowFault else .ok fixture.store := by
  cases tree with
  | object members ending =>
    obtain ⟨inside, entered, behind⟩ := exists_of_bind_eq_ok accepted
    obtain ⟨users, firstPass, afterUsers⟩ := exists_of_bind_eq_ok behind
    obtain ⟨⟨⟩, -, store⟩ := exists_of_bind_eq_ok afterUsers
    obtain ⟨values, secondPass, whole⟩ := exists_of_bind_eq_ok store
    cases whole
    cases Source.enter_text entered
    have text := Fields.ofMembers_text StoreSeed.fields_agreeBut
      (fun member present name isField named => setAside_of_acceptMember firstPass member present
        name named fun users => usersField_not_mem_names (users ▸ isField)) secondPass
    change StoreSeed.record.read (.text room) (.object members ending) = _
    rw [Record.read, entered]
    change StoreSeed.record.fields.ofMembers (.text (room - 1)) members ending >>= _ = _
    rw [text]
    exact bind_refused_of_ok rfl
  | quoted | bare | array | missing => exact absurd accepted (Tree.mismatch_ne_ok _ _ _)

/-- Whatever text is accepted as a fixture, the reader of a store's start reads the same store
from it, unless a block is given with a kind that has an empty object for `null`; then it refuses
the text because of that object. -/
theorem fixture_readers_agree (text : String) (fixture : Fixture)
    (accepted : Fixture.codec.readText text = .ok fixture) :
    StoreSeed.codec.readText text =
      if Fixture.hasHollowKind (Tree.ofText text) then .error (.mismatch .map .unit)
      else .ok fixture.store := by
  obtain ⟨read, ended⟩ := of_readWhole accepted
  have store : StoreSeed.codec.read .whole (Tree.ofText text) = _ :=
    Fixture.read_store_of_read read
  rw [Codec.readText, readWhole_eq, store]
  exact bind_refused_of_ok (if_pos ended)

/-- A fixture in the forms that are never written: members in any order and unknown ones, a
team key that comes twice, a kind as an object, and a block, a user, a team, a license and its
features as arrays. -/
def looseFixture : Json :=
  .object
    [("users", .array [.array [.string "u", .string "michael"]]),
      ("teams", .object
        [("0", .array [.string "first", .string "First"]),
          ("0", .object [("displayName", .string "Team"), ("id", .string "team"),
            ("unknown", .object [("id", .null)])])]),
      ("unknown", .array [.null, .object [("type", .object [])]]),
      ("blocks", .array
        [.array [.string "b", .string "", .string "b", .string "", .string "", .integer 1,
            .object [("board", .null)]],
          .object [("type", .object [("card", .null)]), ("type ", .null), ("fields", .null),
            ("id", .string "c"), ("rootId", .string "b")]]),
      ("cardLimitTimestamp", .integer (-1)),
      ("license", .array [.array [.bool true]])]

/-- What the reader of a fixture makes of it. -/
def looseFixtureRead : Fixture where
  store := {
    license := some .cloud
    cutoff := -1
    blocks := [.fresh "b" .board "" "b", { id := "c", kind := .card, rootId := "b" }]
    teams := Table.ofList [("0", ⟨"team", "Team"⟩)] }
  users := [{ id := "u", username := "michael" }]

theorem looseFixture_exact : looseFixture.Exact := by
  simp [looseFixture]

/-- The fixture is accepted in these forms, and both readers read the same store from it. -/
theorem fixture_readers_agree_looseFixture :
    Fixture.codec.readText looseFixture.toCompactString = .ok looseFixtureRead ∧
      Fixture.hasHollowKind (Json.Tree.ofText looseFixture.toCompactString) = false ∧
      StoreSeed.codec.readText looseFixture.toCompactString = .ok looseFixtureRead.store := by
  have spelled := spells_compact looseFixture_exact
  have accepted : Fixture.codec.readText looseFixture.toCompactString = .ok looseFixtureRead :=
    (readWhole_of_spells Fixture.codec.read spelled).trans rfl
  have plain : Fixture.hasHollowKind (Json.Tree.ofText looseFixture.toCompactString) = false := by
    rw [Json.Tree.ofText, Json.toCompactString, ofTokens_of_spells spelled]
    rfl
  have agree := fixture_readers_agree _ _ accepted
  rw [plain] at agree
  exact ⟨accepted, plain, agree⟩

/-- A fixture with a block whose kind is given by an empty object. -/
def hollowFixture : Json :=
  .object [("blocks", .array
    [.object [("id", .string "a"), ("type", .object [("card", .object [])])]])]

/-- The reader of a fixture takes the empty object for `null`; the reader of a store's start
refuses it. -/
theorem hollow_kind_is_read_one_way :
    Fixture.codec.readText hollowFixture.toCompactString =
        .ok { store := { blocks := [{ id := "a", kind := .card }] } } ∧
      StoreSeed.codec.readText hollowFixture.toCompactString = .error (.mismatch .map .unit) := by
  have spelled : Spells hollowFixture.compact hollowFixture :=
    spells_compact (by simp [hollowFixture])
  constructor
  · exact (readWhole_of_spells Fixture.codec.read spelled).trans rfl
  · exact (readWhole_of_spells StoreSeed.codec.read spelled).trans rfl

end CardLimits
