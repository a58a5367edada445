import CardLimits.Proofs.FixtureRuns
import CardLimits.Proofs.LimitedViews
import CardLimits.Proofs.LoadedBlocks
/-!
# Applying the limits to what they printed

A run that applies the limits prints the blocks as they are served.  Run again on its own output
it loads the same blocks, serves them as they are and prints them once more, as long as they can
be written and read at all: no object within their free fields may announce the text of a value,
and they may not be nested too deeply (`apply_settles`).  Blocks from a text without
announcements always can.
-/

namespace CardLimits

open Json

/-! ## Reading a printed line -/

/-- White space behind the text of a value makes no difference. -/
theorem Json.Spells.append_blank {text blank : List Char} {value : Json}
    (spelled : Spells text value) (white : ∀ character ∈ blank, isSpace character) :
    Spells (text ++ blank) value := by
  intro rest ends
  rw [List.append_assoc, spelled (blank ++ rest) (endsNumeral_blank white ends),
    tokens_blank white]

/-- The line that is printed for a value with exact numbers is read like the tree of the value. -/
theorem Json.readWhole_line {α : Type} (read : Source → Tree → Except ReadFault α) {value : Json}
    (exact : value.Exact) :
    readWhole read (value.toSpreadString ++ "\n") = read .whole value.asTree := by
  have line : value.toSpreadString ++ "\n" = String.ofList (value.spread 0 ++ ['\n']) := by
    rw [String.ofList_append]
    rfl
  rw [line]
  exact readWhole_of_spells read
    ((spells_spread exact 0).append_blank (List.forall_mem_singleton.mpr rfl))

/-- A value that is kept is read from the line that is printed for it. -/
theorem Json.Codec.Keeps.readText_line {α : Type} {codec : Codec α} {value : α}
    (keeps : codec.Keeps value) (shallow : (codec.write value).depth ≤ 127) :
    codec.readText ((codec.write value).toSpreadString ++ "\n") = .ok value :=
  (readWhole_line codec.read keeps.exact).trans (keeps.read .whole (Nat.lt_succ_of_le shallow))

/-! ## What is served -/

namespace Block

/-- What holds of every text holds of the icon that a limited view keeps, so serving a block does
not add free fields of another kind. -/
theorem FieldsAll.served {holds : Json → Prop} (texts : ∀ text, holds (.string text))
    {block : Block} (all : block.FieldsAll holds) (templates : Table Bool) (cutoff : Int64) :
    (block.served templates cutoff).FieldsAll holds := by
  rw [Block.served]
  split
  · intro fields isHeld entry member
    obtain ⟨icon, -, rfl⟩ := Option.mem_map.mp isHeld
    rw [List.mem_singleton.mp (Table.mem_of_mem_ofList member)]
    exact texts icon
  · exact all

/-- A block is nested two levels deeper than its free fields. -/
theorem depth_write_le {block : Block} (shallow : block.FieldsAll fun value => value.depth ≤ 124) :
    (codec.write block).depth ≤ 126 := by
  have inBlock : (Source.text 127).enter = .ok (.text 126) := rfl
  have inFields : (Source.text 126).enter = .ok (.text 125) := rfl
  refine Nat.le_of_lt_succ (Source.admits_object inBlock ?_)
  refine forall_mem_members (fun name value _ scalar => ?_) fun fields held name => ?_
  · rw [scalar]
    exact Nat.succ_pos _
  · refine Source.admits_object inFields fun written member => ?_
    obtain ⟨entry, present, rfl⟩ := List.mem_map.mp member
    exact Nat.lt_succ_of_le (shallow fields held entry present)

end Block

/-- What holds of the free fields of all blocks, and of every text, holds of those that are
served. -/
theorem fieldsAll_of_answer_applyLimits {holds : Json → Prop}
    (texts : ∀ text, holds (.string text)) {container : Container}
    {blocks served : List Block} {server : Server MemoryStore}
    (all : ∀ block ∈ blocks, block.FieldsAll holds)
    (returned : (outcome (Server.applyLimits container blocks) server).1 = .ok served) :
    ∀ block ∈ served, block.FieldsAll holds := by
  rcases of_answer_applyLimits returned with ⟨-, rfl⟩ | ⟨-, fetched, -, rfl⟩
  · exact all
  · intro view member
    obtain ⟨block, present, rfl⟩ := List.mem_map.mp member
    exact (all block present).served texts _ _

/-- A list of blocks is nested three levels deeper than their free fields. -/
theorem depth_write_blocks_le {blocks : List Block}
    (shallow : ∀ block ∈ blocks, block.FieldsAll fun value => value.depth ≤ 124) :
    (blocksCodec.write blocks).depth ≤ 127 := by
  have inList : (Source.text 128).enter = .ok (.text 127) := rfl
  refine Nat.le_of_lt_succ (Source.admits_array inList ?_)
  intro item member
  obtain ⟨block, present, rfl⟩ := List.mem_map.mp member
  exact Nat.lt_succ_of_le (Block.depth_write_le (shallow block present))

namespace CommandLine

/-! ## Runs -/

variable {files : Files} {environment : Environment} {arguments : List String}
  {path blocksPath workspaceId output : String}

/-- A run over a fixture that prints had a configuration and a fixture, and its command came to
what was printed. -/
theorem of_run_overFixture {command : Command}
    (parsed : parse? arguments = some { fixture := some path, command })
    (printed : run files environment arguments = .printed output) :
    ∃ config fixture value, Config.ofEnvironment environment = .ok config ∧
      loadFixture files path = .ok fixture ∧
      command.perform files (.ofFixture fixture config) = .ok value ∧
      output = value.toSpreadString ++ "\n" := by
  cases configured : Config.ofEnvironment environment with
  | error fault =>
    simp only [run, parsed, Invocation.perform, configured] at printed
    cases printed
  | ok config =>
    cases loads : loadFixture files path with
    | error fault =>
      simp only [run, parsed, Invocation.perform, configured, loads, loaded] at printed
      cases printed
    | ok fixture =>
      rw [run_overFixture parsed configured loads] at printed
      cases performed : command.perform files (.ofFixture fixture config) with
      | error failure =>
        rw [performed] at printed
        cases printed
      | ok value =>
        rw [performed] at printed
        cases printed
        exact ⟨config, fixture, value, rfl, rfl, performed, rfl⟩

/-- Applying the limits prints a value exactly if the blocks load and are served, and then the
blocks as they are served. -/
theorem perform_apply_eq_ok_iff {server : Server MemoryStore} {value : Json} :
    (Command.apply blocksPath workspaceId).perform files server = .ok value ↔
      ∃ blocks served, loadBlocks files blocksPath = .ok blocks ∧
        (outcome (Server.applyLimits ⟨workspaceId⟩ blocks) server).1 = .ok served ∧
        value = blocksCodec.write served := by
  simp only [Command.perform]
  cases loadBlocks files blocksPath with
  | error failure => simp [loaded, Except.mapError, bind, Except.bind]
  | ok blocks =>
    cases ran : (Server.applyLimits ⟨workspaceId⟩ blocks).run server with
    | error failure reached =>
      simp [loaded, Except.mapError, reported, outcome, ran, bind, Except.bind]
    | ok served reached =>
      simp [loaded, Except.mapError, reported, outcome, ran, bind, Except.bind, pure, Except.pure,
        eq_comm]

/-- If the blocks do not load, applying the limits fails as loading does. -/
theorem perform_apply_of_error {server : Server MemoryStore} {failure : LoadFailure}
    (refused : loadBlocks files blocksPath = .error failure) :
    (Command.apply blocksPath workspaceId).perform files server = .error failure.toFailure := by
  simp only [Command.perform, refused]
  rfl

/-! ## Main statement -/

/-- Applying the limits settles.  If a run prints blocks with their limits applied, and the
numbers in the free fields of the blocks that it loaded are integers, it printed the blocks that
the server served, in the spread form.  Now let a second run find its fixture unchanged and in
the file of blocks what the first one printed.  If no object within the free fields of the served
blocks announces the text of a value, and they are nested no deeper than a text may be, the second
run loads exactly the blocks that were served, and prints exactly the same.  This is so whenever
no object within the free fields of the first file has a member that announces such a text. -/
theorem apply_settles {files later : Files} {environment : Environment}
    {arguments : List String} {path blocksPath workspaceId text output : String}
    (parsed : parse? arguments =
      some { fixture := some path, command := .apply blocksPath workspaceId })
    (found : files blocksPath = .ok text)
    (integers : ∀ blocks, loadBlocks files blocksPath = .ok blocks →
      ∀ block ∈ blocks, block.FieldsExact)
    (printed : run files environment arguments = .printed output)
    (sameFixture : later path = files path) (replaced : later blocksPath = .ok output) :
    ∃ config fixture blocks served,
      Config.ofEnvironment environment = .ok config ∧
      loadFixture files path = .ok fixture ∧
      loadBlocks files blocksPath = .ok blocks ∧
      (outcome (Server.applyLimits ⟨workspaceId⟩ blocks) (.ofFixture fixture config)).1 =
        .ok served ∧
      output = (blocksCodec.write served).toSpreadString ++ "\n" ∧
      ((∀ block ∈ served, block.FieldsPlain) → (blocksCodec.write served).depth ≤ 127 →
        loadBlocks later blocksPath = .ok served ∧
        run later environment arguments = .printed output) ∧
      ((∀ item ∈ (Tree.ofText text).items, Block.FieldsUnannounced item) →
        (∀ block ∈ served, block.FieldsPlain) ∧ (blocksCodec.write served).depth ≤ 127) := by
  obtain ⟨config, fixture, value, configured, started, performed, rfl⟩ :=
    of_run_overFixture parsed printed
  obtain ⟨blocks, served, loads, returned, rfl⟩ := perform_apply_eq_ok_iff.mp performed
  refine ⟨config, fixture, blocks, served, configured, started, loads, returned, rfl, ?_, ?_⟩
  · intro plain shallow
    have exact : ∀ block ∈ served, block.FieldsExact :=
      fieldsAll_of_answer_applyLimits .string (integers blocks loads) returned
    have keeps : blocksCodec.Keeps served := .list fun block member =>
      Block.codec_keeps (exact block member) (plain block member)
    have loadsLater : loadBlocks later blocksPath = .ok served :=
      (load_eq_ok_iff replaced).mpr (keeps.readText_line shallow)
    have startedLater : loadFixture later path = .ok fixture := by
      rw [loadFixture, load, sameFixture]
      exact started
    have again := congrArg Prod.fst (outcome_applyLimits_served returned)
    refine ⟨loadsLater, ?_⟩
    rw [run_overFixture parsed configured startedLater,
      perform_apply_eq_ok_iff.mpr ⟨served, served, loadsLater, again, rfl⟩]
  · intro unannounced
    have each := fieldsAll_of_answer_applyLimits
      (fun icon => ⟨Plain.string icon, Nat.zero_le 124⟩)
      (fieldsAll_of_loadBlocks found loads unannounced) returned
    exact ⟨fun block member fields isHeld entry present =>
        (each block member fields isHeld entry present).1,
      depth_write_blocks_le fun block member fields isHeld entry present =>
        (each block member fields isHeld entry present).2⟩

/-! ## Two runs -/

/-- A fixture of a limited server. -/
def limitedFixture : Json :=
  .object [("cardLimitTimestamp", .integer 150),
    ("license", .object [("features", .object [("cloud", .bool true)])])]

/-- The files of a run: the fixture, and a text with blocks. -/
def filesWith (blocks : String) : Files := fun path =>
  if path = "fixture.json" then .ok limitedFixture.toCompactString
  else if path = "blocks.json" then .ok blocks
  else .error .notFound

/-- An environment with a card limit. -/
def limitedEnvironment : Environment where
  process := [("BOARDS_CARD_LIMIT", "1")]

/-- The arguments of a run that applies the limits. -/
def applyArguments : List String :=
  ["--fixture", "fixture.json", "apply", "--blocks", "blocks.json"]

/-- What the fixture is loaded as. -/
def limitedStart : Fixture where
  store := { license := some .cloud, cutoff := 150 }

/-- The server that such a run starts. -/
def limitedServer : Server MemoryStore :=
  .ofFixture limitedStart { cardLimit := some 1 }

theorem limitedConfigured : Config.ofEnvironment limitedEnvironment = .ok { cardLimit := some 1 } :=
  rfl

theorem parse?_applyArguments :
    parse? applyArguments =
      some { fixture := some "fixture.json", command := .apply "blocks.json" "0" } := by
  decide +kernel

theorem filesWith_fixture (text : String) :
    filesWith text "fixture.json" = .ok limitedFixture.toCompactString := rfl

theorem filesWith_blocks (text : String) : filesWith text "blocks.json" = .ok text := rfl

theorem loadFixture_filesWith (text : String) :
    loadFixture (filesWith text) "fixture.json" = .ok limitedStart := by
  have spelled : Spells limitedFixture.compact limitedFixture :=
    spells_compact (by simp [limitedFixture])
  exact (load_eq_ok_iff (filesWith_fixture text)).mpr
    ((readWhole_of_spells Fixture.codec.read spelled).trans rfl)

/-- Such a run comes to what applying the limits comes to on the limited server. -/
theorem run_filesWith (text : String) :
    run (filesWith text) limitedEnvironment applyArguments =
      match (Command.apply "blocks.json" "0").perform (filesWith text) limitedServer with
      | .ok value => .printed (value.toSpreadString ++ "\n")
      | .error failure => .failed failure :=
  run_overFixture parse?_applyArguments limitedConfigured
    (loadFixture_filesWith text)

/-- If the text is read as blocks, the run prints them as they are served. -/
theorem run_filesWith_of_read {text : String} {blocks served : List Block}
    (read : blocksCodec.readText text = .ok blocks)
    (returned : (outcome (Server.applyLimits ⟨"0"⟩ blocks) limitedServer).1 = .ok served) :
    run (filesWith text) limitedEnvironment applyArguments =
      .printed ((blocksCodec.write served).toSpreadString ++ "\n") := by
  have loads : loadBlocks (filesWith text) "blocks.json" = .ok blocks :=
    (load_eq_ok_iff (filesWith_blocks text)).mpr read
  rw [run_filesWith, perform_apply_eq_ok_iff.mpr ⟨blocks, served, loads, returned, rfl⟩]

/-- Two blocks in forms that are never printed: a card given by its fields in order, with its kind
as an object and a name that comes twice in a free field, and a text with unknown members. -/
def looseBlocks : Json :=
  .array
    [.array [.string "card", .string "board", .string "board", .string "", .string "",
        .integer 1, .object [("card", .null)], .string "Old",
        .object [("note", .object [("b", .null), ("b", .integer 2)]), ("icon", .string "x")],
        .integer 0, .integer 100],
      .object [("unknown", .array []), ("type", .string "text"), ("id", .string "text"),
        ("fields", .object [("value", .object [("b", .integer (-1)), ("a", .array [])])]),
        ("parentId", .string "card"), ("rootId", .string "board")]]

/-- The card as it is loaded. -/
def loadedCard : Block where
  id := "card"
  parentId := "board"
  rootId := "board"
  schema := 1
  kind := .card
  title := "Old"
  fields := some (Table.ofList
    [("icon", .string "x"), ("note", .ofTable (Table.ofList [("b", .integer 2)]))])
  updateAt := 100

/-- The text as it is loaded. -/
def loadedText : Block where
  id := "text"
  parentId := "card"
  rootId := "board"
  kind := .text
  fields := some (Table.ofList
    [("value", .ofTable (Table.ofList [("a", .array []), ("b", .integer (-1))]))])

/-- What is printed of the two blocks. -/
def looseOutput : String :=
  (blocksCodec.write [loadedCard.limitedView, loadedText]).toSpreadString ++ "\n"

theorem looseBlocks_spelled : Spells looseBlocks.compact looseBlocks :=
  spells_compact (by simp [looseBlocks])

theorem readText_looseBlocks :
    blocksCodec.readText looseBlocks.toCompactString = .ok [loadedCard, loadedText] :=
  (readWhole_of_spells blocksCodec.read looseBlocks_spelled).trans (by cbv)

/-- A table of exact values holds exact values. -/
theorem exact_ofList {entries : List (String × Json)} (exact : ∀ entry ∈ entries, entry.2.Exact) :
    ∀ entry ∈ (Table.ofList entries).entries, entry.2.Exact :=
  fun entry member => exact entry (Table.mem_of_mem_ofList member)

theorem fieldsExact_loaded : ∀ block ∈ [loadedCard, loadedText], block.FieldsExact := by
  refine List.forall_mem_cons.mpr ⟨?_, List.forall_mem_singleton.mpr ?_⟩
  · rintro fields ⟨⟩
    refine exact_ofList (List.forall_mem_cons.mpr ⟨.string _, List.forall_mem_singleton.mpr ?_⟩)
    exact .object _ (exact_ofList (by simp))
  · rintro fields ⟨⟩
    refine exact_ofList (List.forall_mem_singleton.mpr ?_)
    exact .object _ (exact_ofList (by simp))

theorem fieldsUnannounced_looseBlocks :
    ∀ item ∈ (Tree.ofText looseBlocks.toCompactString).items, Block.FieldsUnannounced item := by
  rw [toCompactString, Tree.ofText, ofTokens_of_spells looseBlocks_spelled]
  simp [looseBlocks, Tree.items, Block.FieldsUnannounced, Tree.parts, Tree.members, Block.record,
    Fields.names, Field.required, Field.withDefault, Field.leftOut, memberTree, integer,
    Free.textName, or_imp, forall_and]

/-- Run over the loose blocks and then over what it printed, with the card limited, the command
prints the same. -/
theorem apply_settles_looseBlocks :
    parse? applyArguments =
        some { fixture := some "fixture.json", command := .apply "blocks.json" "0" } ∧
      (∀ block ∈ [loadedCard, loadedText], block.FieldsExact) ∧
      (∀ item ∈ (Tree.ofText looseBlocks.toCompactString).items, Block.FieldsUnannounced item) ∧
      run (filesWith looseBlocks.toCompactString) limitedEnvironment applyArguments =
        .printed looseOutput ∧
      loadBlocks (filesWith looseOutput) "blocks.json" =
        .ok [loadedCard.limitedView, loadedText] ∧
      run (filesWith looseOutput) limitedEnvironment applyArguments = .printed looseOutput := by
  have loads : loadBlocks (filesWith looseBlocks.toCompactString) "blocks.json" =
      .ok [loadedCard, loadedText] := (load_eq_ok_iff (filesWith_blocks _)).mpr readText_looseBlocks
  have returned : (outcome (Server.applyLimits ⟨"0"⟩ [loadedCard, loadedText]) limitedServer).1 =
      .ok [loadedCard.limitedView, loadedText] := by
    rfl
  have printed : run (filesWith looseBlocks.toCompactString) limitedEnvironment applyArguments =
      .printed looseOutput := run_filesWith_of_read readText_looseBlocks returned
  have sameFixture : filesWith looseOutput "fixture.json" =
      filesWith looseBlocks.toCompactString "fixture.json" :=
    (filesWith_fixture _).trans (filesWith_fixture _).symm
  obtain ⟨config, fixture, blocks, served, configured, started, loaded, answered, -, settles,
      unannounced⟩ :=
    apply_settles parse?_applyArguments (filesWith_blocks _)
      (fun blocks loaded => by
        rw [loads] at loaded
        cases loaded
        exact fieldsExact_loaded) printed sameFixture (filesWith_blocks looseOutput)
  obtain ⟨plain, shallow⟩ := unannounced fieldsUnannounced_looseBlocks
  obtain ⟨loadedAgain, printedAgain⟩ := settles plain shallow
  rw [limitedConfigured] at configured
  cases configured
  rw [loadFixture_filesWith] at started
  cases started
  rw [loads] at loaded
  cases loaded
  cases returned.symm.trans answered
  exact ⟨parse?_applyArguments, fieldsExact_loaded, fieldsUnannounced_looseBlocks, printed,
    loadedAgain, printedAgain⟩

/-- A text block with an object within its free fields whose members are not in order: in order the
first of them would announce the text of a value. -/
def disorderedBlocks : Json :=
  .array
    [.object [("id", .string "b"), ("type", .string "text"),
      ("fields", .object [("a", .object [("z", .integer 1), (Free.textName, .null)])])]]

/-- The block as it is loaded, with the members in order. -/
def disorderedBlock : Block where
  id := "b"
  kind := .text
  fields := some (Table.ofList
    [("a", .ofTable (Table.ofList [("z", .integer 1), (Free.textName, .null)]))])

/-- What is printed of the block. -/
def disorderedOutput : String :=
  (blocksCodec.write [disorderedBlock]).toSpreadString ++ "\n"

theorem fieldsExact_disorderedBlock : disorderedBlock.FieldsExact := by
  rintro fields ⟨⟩
  refine exact_ofList (List.forall_mem_singleton.mpr ?_)
  exact .object _ (exact_ofList (by simp))

theorem readText_disorderedBlocks :
    blocksCodec.readText disorderedBlocks.toCompactString = .ok [disorderedBlock] :=
  (readWhole_of_spells blocksCodec.read (spells_compact (by simp [disorderedBlocks]))).trans
    (by cbv)

theorem readText_disorderedOutput :
    blocksCodec.readText disorderedOutput = .error (.mismatch .null .valueText) := by
  have exact : (blocksCodec.write [disorderedBlock]).Exact :=
    .array _ (List.forall_mem_singleton.mpr (Block.exact_write fieldsExact_disorderedBlock))
  exact (readWhole_line blocksCodec.read exact).trans rfl

/-- What is printed of the block is not loaded any more: with the members in order, the first one
announces the text of a value, and there is none. -/
theorem apply_does_not_settle :
    parse? applyArguments =
        some { fixture := some "fixture.json", command := .apply "blocks.json" "0" } ∧
      loadBlocks (filesWith disorderedBlocks.toCompactString) "blocks.json" =
        .ok [disorderedBlock] ∧
      disorderedBlock.FieldsExact ∧
      run (filesWith disorderedBlocks.toCompactString) limitedEnvironment applyArguments =
        .printed disorderedOutput ∧
      run (filesWith disorderedOutput) limitedEnvironment applyArguments =
        .failed ⟨"Failed to parse blocks in blocks.json",
          ["invalid type: null, expected raw value"]⟩ := by
  refine ⟨parse?_applyArguments, ?_, fieldsExact_disorderedBlock, ?_, ?_⟩
  · exact (load_eq_ok_iff (filesWith_blocks _)).mpr readText_disorderedBlocks
  · exact run_filesWith_of_read readText_disorderedBlocks rfl
  · have refused : loadBlocks (filesWith disorderedOutput) "blocks.json" = .error _ :=
      load_eq_error (filesWith_blocks disorderedOutput) readText_disorderedOutput
    rw [run_filesWith, perform_apply_of_error refused]
    rfl

end CommandLine

end CardLimits
