import CardLimits.Model.Fixture
import CardLimits.Proofs.RoundTrips
/-!
# Fixtures survive writing and reading

A fixture is read in two passes: the first takes in the users and sets the store's
members aside, the second takes in the store's members and passes over the users.  Both
undo the writer, in whatever order it writes the teams, and so does the reader of the
store's part alone (`fixture_survives_writing`).
-/

namespace CardLimits

open Json

section Orders

variable {arrange : List (String × Team) → List (String × Team)}
  (permutes : ∀ teams, (arrange teams).Perm teams)

/-- The members of a store's start have different names. -/
theorem StoreSeed.distinct_names : (StoreSeed.recordArranged arrange).fields.names.Nodup := by
  change StoreSeed.record.fields.names.Nodup
  decide

include permutes in
/-- The members of a store's start are kept if its blocks are. -/
theorem StoreSeed.fields_keep {seed : StoreSeed}
    (blocks : ∀ block ∈ seed.blocks, Block.codec.Keeps block) :
    (StoreSeed.recordArranged arrange).fields.Keep
      ((StoreSeed.recordArranged arrange).toValues seed) :=
  ⟨.withDefault (.optional fun _ _ => ⟨License.codec_keeps _, nofun⟩),
    .withDefault (.int64 _), .withDefault (.list blocks),
    .withDefault (.tableArranged (permutes _) fun _ _ => Team.codec_keeps _), trivial⟩

namespace Fixture

theorem usersCodec_keeps (users : List User) : usersCodec.Keeps users :=
  .list fun user _ => user.codec_keeps

/-- The members of a fixture that belong to its store, with the teams in some order. -/
def storeMembers (arrange : List (String × Team) → List (String × Team)) (fixture : Fixture) :
    List (String × Json) :=
  (StoreSeed.recordArranged arrange).fields.members
    ((StoreSeed.recordArranged arrange).toValues fixture.store)

/-- The member of a fixture with its users. -/
def usersMember (fixture : Fixture) : String × Json :=
  (usersField, usersCodec.write fixture.users)

/-- The users are no member of the store. -/
theorem usersField_not_mem_names : usersField ∉ StoreSeed.record.fields.names := by
  decide

/-- A member of the store is set aside in the first pass. -/
theorem acceptMember_memberTree {member : String × Json} (other : member.1 ≠ usersField)
    {source : Source} (admits : source.Admits member.2.depth) (users : Option (List User)) :
    acceptMember source users (memberTree member) = .ok users := by
  have aside := Free.setAside_asTree member.2 admits
  simp only [acceptMember, memberTree, Lexeme.read, liftFault, other, aside, bind, Except.bind,
    if_false]
  rfl

/-- The first pass sets all members but the users aside. -/
theorem foldlM_aside {members : List (String × Json)} {source : Source}
    (others : ∀ member ∈ members, member.1 ≠ usersField)
    (admits : ∀ member ∈ members, source.Admits member.2.depth) (users : Option (List User)) :
    (members.map memberTree).foldlM (acceptMember source) users = .ok users := by
  induction members with
  | nil => rfl
  | cons member later inductionHypothesis =>
    obtain ⟨other, laterOthers⟩ := List.forall_mem_cons.mp others
    obtain ⟨room, laterRoom⟩ := List.forall_mem_cons.mp admits
    rw [List.map_cons, List.foldlM_cons, acceptMember_memberTree other room]
    exact inductionHypothesis laterOthers laterRoom

/-- The first pass takes in the users of a fixture and nothing else. -/
theorem foldlM_acceptMember (fixture : Fixture) {source : Source}
    (admits : ∀ member ∈ fixture.storeMembers arrange ++ [fixture.usersMember],
      source.Admits member.2.depth) :
    ((fixture.storeMembers arrange ++ [fixture.usersMember]).map memberTree).foldlM
      (acceptMember source) none = .ok (some fixture.users) := by
  obtain ⟨storeRoom, usersRoom⟩ := List.forall_mem_append.mp admits
  have others : ∀ member ∈ fixture.storeMembers arrange, member.1 ≠ usersField := by
    intro member written equal
    exact usersField_not_mem_names
      (equal ▸ (StoreSeed.recordArranged arrange).fields.mem_names written)
  have users := (usersCodec_keeps fixture.users).read source
    (usersRoom _ (List.mem_singleton_self _))
  rw [List.map_append, List.foldlM_append, foldlM_aside others storeRoom]
  show [memberTree fixture.usersMember].foldlM (acceptMember source) none = _
  simp only [List.foldlM_cons, List.foldlM_nil, acceptMember, memberTree, usersMember, Lexeme.read,
    liftFault, users, bind, Except.bind, if_true]
  rfl

include permutes

/-- The store's members are read from the object of a fixture, whether it is read for the
first time or was read before, and in whatever order the teams were written. -/
theorem ofMembers_storeMembers {fixture : Fixture}
    (blocks : ∀ block ∈ fixture.store.blocks, Block.codec.Keeps block) {source : Source}
    (admits : ∀ member ∈ fixture.storeMembers arrange, source.Admits member.2.depth) :
    StoreSeed.record.fields.ofMembers source
        ((fixture.storeMembers arrange ++ [fixture.usersMember]).map memberTree) .closed =
      .ok (StoreSeed.record.toValues fixture.store) :=
  (StoreSeed.recordArranged arrange).fields.ofMembers_members
    (StoreSeed.fields_keep permutes blocks) StoreSeed.distinct_names
    (List.forall_mem_singleton.mpr usersField_not_mem_names) admits

/-- A fixture whose blocks are kept is kept, in whatever order its teams are written. -/
theorem codec_keeps {fixture : Fixture}
    (blocks : ∀ block ∈ fixture.store.blocks, Block.codec.Keeps block) :
    (Fixture.codecArranged arrange).Keeps fixture where
  exact := .object _ (List.forall_mem_append.mpr
    ⟨(StoreSeed.recordArranged arrange).fields.exact_of_mem
        (StoreSeed.fields_keep permutes blocks),
      List.forall_mem_singleton.mpr (usersCodec_keeps fixture.users).exact⟩)
  read source admits := by
    obtain ⟨inside, entered, room⟩ := Source.Admits.enterObject admits
    have users := fixture.foldlM_acceptMember room
    have store := @ofMembers_storeMembers arrange permutes fixture blocks .settled
      fun _ _ => trivial
    have written : (Fixture.codecArranged arrange).write fixture =
        .object (fixture.storeMembers arrange ++ [fixture.usersMember]) := rfl
    rw [written, asTree_object]
    simp only [codecArranged, read, entered, users, store, bind, Except.bind]
    rfl

/-- The store's part of a fixture is read from the object of the fixture, in whatever order
its teams were written. -/
theorem read_store {fixture : Fixture}
    (blocks : ∀ block ∈ fixture.store.blocks, Block.codec.Keeps block) {source : Source}
    (admits : source.Admits ((Fixture.codecArranged arrange).write fixture).depth) :
    StoreSeed.codec.read source ((Fixture.codecArranged arrange).write fixture).asTree =
      .ok fixture.store :=
  (StoreSeed.recordArranged arrange).read_members (StoreSeed.fields_keep permutes blocks)
    StoreSeed.distinct_names rfl (List.forall_mem_singleton.mpr usersField_not_mem_names) admits

end Fixture

end Orders

/-- A fixture is restored from the texts that are written for it, and its store's part is
read from them, in whatever order the teams are written, if it is not nested too deeply and
the free fields of its blocks hold no double and announce no text of a value. -/
theorem fixture_survives_writing (arrange : List (String × Team) → List (String × Team))
    (permutes : ∀ teams, (arrange teams).Perm teams) (fixture : Fixture)
    (exact : ∀ block ∈ fixture.store.blocks, block.FieldsExact)
    (plain : ∀ block ∈ fixture.store.blocks, block.FieldsPlain)
    (shallow : ((Fixture.codecArranged arrange).write fixture).depth ≤ 127) :
    let written := (Fixture.codecArranged arrange).write fixture
    Fixture.codec.readText written.toCompactString = .ok fixture ∧
    Fixture.codec.readText written.toSpreadString = .ok fixture ∧
    StoreSeed.codec.readText written.toCompactString = .ok fixture.store ∧
    StoreSeed.codec.readText written.toSpreadString = .ok fixture.store := by
  intro written
  have blocks : ∀ block ∈ fixture.store.blocks, Block.codec.Keeps block := fun block member =>
    Block.codec_keeps (exact block member) (plain block member)
  have keeps := Fixture.codec_keeps permutes blocks
  have store : StoreSeed.codec.read .whole written.asTree = .ok fixture.store :=
    Fixture.read_store permutes blocks (Nat.lt_succ_of_le shallow)
  obtain ⟨compact, spread⟩ := keeps.restores shallow
  refine ⟨compact, spread, ?_, ?_⟩
  · exact (readWhole_of_spells StoreSeed.codec.read (spells_compact keeps.exact)).trans store
  · exact (readWhole_of_spells StoreSeed.codec.read (spells_spread keeps.exact 0)).trans store

/-- A fixture with every member, an empty level of its license among them. -/
def mixedFixture : Fixture where
  store := {
    license := some { features := none }
    cutoff := Int64.minValue
    blocks := [mixedBlock, .fresh "c" .card "b" "b"]
    teams := Table.ofList [("0", ⟨"team", "Scranton"⟩), ("", ⟨"", "\"\\"⟩)] }
  users := [{ id := "u", username := "michael", deleteAt := Int64.maxValue }]

/-- The fixture with every member survives, also with its teams in descending order. -/
theorem fixture_survives_writing_mixedFixture :
    (∀ teams : List (String × Team), teams.reverse.Perm teams) ∧
    (∀ block ∈ mixedFixture.store.blocks, block.FieldsExact) ∧
    (∀ block ∈ mixedFixture.store.blocks, block.FieldsPlain) ∧
    (Fixture.codec.write mixedFixture).depth = 7 ∧
    mixedFixture.store.teams.entries.map Prod.fst = ["", "0"] ∧
    Fixture.codec.Restores mixedFixture ∧
    (Fixture.codecArranged List.reverse).Restores mixedFixture ∧
    StoreSeed.codec.readText (Fixture.codec.writeText mixedFixture) = .ok mixedFixture.store := by
  have exact : ∀ block ∈ mixedFixture.store.blocks, block.FieldsExact :=
    List.forall_mem_cons.mpr ⟨mixedBlock_fieldsExact,
      List.forall_mem_singleton.mpr (by rintro fields ⟨⟩)⟩
  have plain : ∀ block ∈ mixedFixture.store.blocks, block.FieldsPlain :=
    List.forall_mem_cons.mpr ⟨mixedBlock_fieldsPlain,
      List.forall_mem_singleton.mpr (by rintro fields ⟨⟩)⟩
  obtain ⟨compact, spread, store, -⟩ :=
    fixture_survives_writing id (fun teams => .refl teams) mixedFixture exact plain
      (Nat.le_of_ble_eq_true rfl)
  obtain ⟨compactReversed, spreadReversed, -⟩ :=
    fixture_survives_writing List.reverse List.reverse_perm mixedFixture exact plain
      (Nat.le_of_ble_eq_true rfl)
  exact ⟨List.reverse_perm, exact, plain, rfl, rfl, ⟨compact, spread⟩,
    ⟨compactReversed, spreadReversed⟩, store⟩

/-- A fixture with the block whose free fields announce the text of a value. -/
def announcingFixture : Fixture where
  store := { blocks := [announcingBlock] }

/-- A fixture does not survive when the free fields of a block announce the text of a
value, whichever way it is read. -/
theorem announcing_fixture_does_not_survive :
    (∀ block ∈ announcingFixture.store.blocks, block.FieldsExact) ∧
    (Fixture.codec.write announcingFixture).depth ≤ 127 ∧
    Fixture.codec.readText (Fixture.codec.writeText announcingFixture) =
      .error (.mismatch .null .valueText) ∧
    StoreSeed.codec.readText (Fixture.codec.writeText announcingFixture) =
      .error (.mismatch .null .valueText) := by
  have exact : (Fixture.codec.write announcingFixture).Exact := by
    refine .object _ (List.forall_mem_append.mpr ⟨?_, List.forall_mem_singleton.mpr ?_⟩)
    · simp only [announcingFixture, StoreSeed.recordArranged, Fields.members,
        Field.withDefault, List.forall_mem_cons]
      exact ⟨.null, (Codec.Keeps.int64 0).exact,
        .array _ (List.forall_mem_singleton.mpr (Block.exact_write announcingBlock_fieldsExact)),
        .object _ (List.forall_mem_nil _), List.forall_mem_nil _⟩
    · exact .array _ (List.forall_mem_nil _)
  have spelled := spells_compact exact
  refine ⟨List.forall_mem_singleton.mpr announcingBlock_fieldsExact,
    Nat.le_of_ble_eq_true rfl, ?_, ?_⟩
  · exact (readWhole_of_spells Fixture.codec.read spelled).trans rfl
  · exact (readWhole_of_spells StoreSeed.codec.read spelled).trans rfl

end CardLimits
