import CardLimits.Proofs.Lookalikes
import CardLimits.Proofs.LimitHistory
import CardLimits.Proofs.Steps
/-!
# Workspaces are apart

A block is written under a workspace and an id, the blocks of a fixture under the workspace that
they name and inserted ones under the one they are put into.  No request writes blocks
(`keepsBlocks`), so after any run a workspace holds under each id the block that was written last
under both (`find?_after`).  What a server fetches for a workspace depends on the blocks of that
workspace only, and so does everything that it finds out by fetching
(`workspaces_are_isolated`).
-/

namespace CardLimits

/-! ## What is written -/

/-- The block that was written last under a workspace and an id. -/
def lastWritten? (written : List Block) (workspaceId id : String) : Option Block :=
  written.findRev? fun block => block.workspaceId = workspaceId && block.id = id

namespace Operation

/-- The blocks that an operation writes, each with the workspace that it goes under. -/
def written : Operation → List Block
  | insertBlocks container blocks =>
    blocks.map fun block => { block with workspaceId := container.workspaceId }
  | _ => []

/-- Whether an operation makes all later fetches fail. -/
def failsFetching : Operation → Bool
  | failFetches _ => true
  | _ => false

end Operation

/-- The first of some blocks counts only if no later one has its place. -/
theorem lastWritten?_cons (block : Block) (rest : List Block) (workspaceId id : String) :
    lastWritten? (block :: rest) workspaceId id =
      (lastWritten? rest workspaceId id).or
        (if block.workspaceId = workspaceId ∧ block.id = id then some block else none) := by
  rw [lastWritten?, lastWritten?, List.findRev?]
  cases rest.findRev? fun block => block.workspaceId = workspaceId && block.id = id with
  | some last => rfl
  | none =>
    by_cases here : block.workspaceId = workspaceId ∧ block.id = id
    · simp [here]
    · simp [here]

/-- The block that was written last under a workspace and an id names both as its own. -/
theorem place_of_lastWritten? {written : List Block} {workspaceId id : String} {block : Block}
    (last : lastWritten? written workspaceId id = some block) :
    block.workspaceId = workspaceId ∧ block.id = id := by
  rw [lastWritten?, List.findRev?_eq_find?_reverse] at last
  simpa using List.find?_some last

/-- After blocks were put into a table the last one under a workspace and an id is found, or
else what was there before. -/
theorem BlockTable.find?_putAll (table : BlockTable) (blocks : List Block)
    (workspaceId id : String) :
    (table.putAll blocks).find? workspaceId id =
      (lastWritten? blocks workspaceId id).or (table.find? workspaceId id) := by
  induction blocks generalizing table with
  | nil => rfl
  | cons block rest inductionHypothesis =>
    have putFirst : table.putAll (block :: rest) = (table.put block).putAll rest := rfl
    rw [putFirst, inductionHypothesis, find?_put, lastWritten?_cons, Option.or_assoc]
    split
    · rfl
    · rfl

/-- Blocks are put into a table one after the other. -/
theorem BlockTable.putAll_append (table : BlockTable) (blocks others : List Block) :
    table.putAll (blocks ++ others) = (table.putAll blocks).putAll others :=
  List.foldl_append

/-! ## Requests write no blocks -/

/-- Whether an action leaves the blocks of the store as they are, and whether fetches fail. -/
def KeepsBlocks (α : Type) (action : Action (Server MemoryStore) α) : Prop :=
  ∀ server, (outcome action server).2.store.blocks = server.store.blocks ∧
    (outcome action server).2.store.fetchFailure = server.store.fetchFailure

/-- Two actions that keep the blocks do so one after the other; if the first fails there is no
second. -/
theorem KeepsBlocks.bind {α β : Type} {action : Action (Server MemoryStore) α}
    {next : α → Action (Server MemoryStore) β} (first : KeepsBlocks α action)
    (second : ∀ value, KeepsBlocks β (next value)) : KeepsBlocks β (action >>= next) := by
  intro server
  have kept := first server
  rw [outcome_bind]
  rcases ran : outcome action server with ⟨error | value, reached⟩
  all_goals rw [ran] at kept
  · exact kept
  · obtain ⟨blocks, failure⟩ := second value reached
    exact ⟨blocks.trans kept.1, failure.trans kept.2⟩

/-- A reading keeps the blocks. -/
theorem OnlyReads.keepsBlocks {α : Type} {action : Action (Server MemoryStore) α}
    (reads : OnlyReads action) : KeepsBlocks α action := by
  intro server
  obtain ⟨licenseReads, fetches, reached⟩ := reads server
  rw [reached]
  exact ⟨rfl, rfl⟩

/-- Sending a message keeps the blocks, also if it fails. -/
theorem keepsBlocks_send (message : Message) :
    KeepsBlocks _ (Server.onStore (Store.send message)) := by
  intro server
  rw [outcome_onStore, MemoryStore.outcome_send]
  cases server.store.sendFailure with
  | none => exact ⟨rfl, rfl⟩
  | some text => exact ⟨rfl, rfl⟩

/-- What the host is asked for does not touch the store. -/
theorem keepsBlocks_onDirectory {α : Type} (action : Action Directory α) :
    KeepsBlocks α (Server.onDirectory action) := by
  intro server
  cases hosted : server.directory with
  | none =>
    rw [outcome_onDirectory_of_none action hosted]
    exact ⟨rfl, rfl⟩
  | some directory =>
    rw [outcome_onDirectory action hosted]
    exact ⟨rfl, rfl⟩

/-- No step of a request writes blocks. -/
theorem keepsBlocks : StepLaw KeepsBlocks where
  pure _ _ := ⟨rfl, rfl⟩
  throw _ _ := ⟨rfl, rfl⟩
  bind := KeepsBlocks.bind
  look _ next := OnlyReads.get.keepsBlocks.bind next
  license := OnlyReads.license.keepsBlocks
  cutoff := OnlyReads.cutoff.keepsBlocks
  updateCutoff _ _ := ⟨rfl, rfl⟩
  usedCards := OnlyReads.usedCards.keepsBlocks
  blocksByIds container ids := (OnlyReads.blocksByIds container ids).keepsBlocks
  team workspaceId := (OnlyReads.team workspaceId).keepsBlocks
  send := keepsBlocks_send
  ask query := keepsBlocks_onDirectory (Directory.ask query)
  setCardLimit _ _ := ⟨rfl, rfl⟩
  setViewLimit _ _ := ⟨rfl, rfl⟩
  changeCardLimit _ _ := ⟨rfl, rfl⟩

/-! ## Whole runs -/

/-- An operation puts the blocks that it writes into the store, and changes nothing else about
the blocks. -/
theorem blocks_of_operation (operation : Operation) (server : Server MemoryStore) :
    (outcome operation.perform server).2.store.blocks =
      server.store.blocks.putAll operation.written := by
  cases operation with
  | request asked => exact (keepsBlocks.perform asked server).1
  | insertBlocks container blocks =>
    exact server.store.blocks.putAllUnder_eq container.workspaceId blocks
  | setLicense | setCutoff | insertTeam | failFetches | failSending => rfl

/-- Only one operation makes fetches fail. -/
theorem fetchFailure_of_operation {operation : Operation} (fine : operation.failsFetching = false)
    (server : Server MemoryStore) :
    (outcome operation.perform server).2.store.fetchFailure = server.store.fetchFailure := by
  cases operation with
  | request asked => exact (keepsBlocks.perform asked server).2
  | failFetches text => cases fine
  | insertBlocks | setLicense | setCutoff | insertTeam | failSending => rfl

/-- A run puts the blocks of its operations into the store, one operation after the other. -/
theorem blocks_after (operations : List Operation) (server : Server MemoryStore) :
    (server.after operations).store.blocks =
      server.store.blocks.putAll (operations.flatMap Operation.written) := by
  induction operations generalizing server with
  | nil => rfl
  | cons operation rest inductionHypothesis =>
    rw [Server.after_cons, inductionHypothesis, blocks_of_operation, List.flatMap_cons,
      BlockTable.putAll_append]

/-- Fetches do not fail after a run unless they did before or an operation made them fail. -/
theorem fetchFailure_after {operations : List Operation}
    (fine : ∀ operation ∈ operations, operation.failsFetching = false)
    (server : Server MemoryStore) :
    (server.after operations).store.fetchFailure = server.store.fetchFailure := by
  induction operations generalizing server with
  | nil => rfl
  | cons operation rest inductionHypothesis =>
    obtain ⟨first, others⟩ := List.forall_mem_cons.mp fine
    rw [Server.after_cons, inductionHypothesis others, fetchFailure_of_operation first]

/-- After a run on what a fixture holds, a workspace has under each id the block that was written
last under both, by the fixture or by an operation. -/
theorem find?_after {server : Server MemoryStore} {seed : StoreSeed}
    (started : server.store = .ofSeed seed) (operations : List Operation)
    (workspaceId id : String) :
    (server.after operations).store.blocks.find? workspaceId id =
      lastWritten? (seed.blocks ++ operations.flatMap Operation.written) workspaceId id := by
  have empty : BlockTable.empty.find? workspaceId id = none := rfl
  rw [blocks_after, started, MemoryStore.ofSeed, ← BlockTable.putAll_append,
    BlockTable.find?_putAll, empty, Option.or_none]

/-! ## Two stores that agree on a workspace -/

/-- Whether two stores agree in the license, the cutoff and whether fetches fail, and on the
blocks of a workspace. -/
structure MemoryStore.AgreesOn (workspaceId : String) (store other : MemoryStore) : Prop where
  license : store.license = other.license
  cutoff : store.cutoff = other.cutoff
  fetchFailure : store.fetchFailure = other.fetchFailure
  blocks : store.blocks.find? workspaceId = other.blocks.find? workspaceId

/-- What an action answers or fails with, and the ids that it fetches. -/
def answerAndFetches {α : Type} (action : Action (Server MemoryStore) α)
    (server : Server MemoryStore) : Except AppError α × List (List String) :=
  ((outcome action server).1,
    (outcome action server).2.store.fetches.drop server.store.fetches.length)

/-- The fetches that a server makes for some ids: one, or none for no ids. -/
def fetchesOf (ids : List String) : List (List String) :=
  if ids.isEmpty then [] else [ids]

/-- A store records the fetches that are made. -/
theorem MemoryStore.recordFetch_fetches (ids : List String) (store : MemoryStore) :
    (store.recordFetch ids).fetches = store.fetches ++ fetchesOf ids := by
  rw [recordFetch, fetchesOf]
  split
  · exact (List.append_nil _).symm
  · rfl

/-- An action fetches what stands in the record behind the earlier fetches. -/
theorem answerAndFetches_eq {α : Type} {action : Action (Server MemoryStore) α}
    {server after : Server MemoryStore} {answer : Except AppError α}
    {fetches : List (List String)} (ran : outcome action server = (answer, after))
    (recorded : after.store.fetches = server.store.fetches ++ fetches) :
    answerAndFetches action server = (answer, fetches) := by
  rw [answerAndFetches, ran, recorded, List.drop_left]

namespace Server

variable (server : Server MemoryStore) (container : Container) (blocks : List Block)

/-- Templates are looked up with one fetch. -/
theorem answerAndFetches_templates :
    answerAndFetches (templates container blocks) server =
      ((server.store.lookUp container (missingRoots blocks)).map (templatesFrom blocks),
        fetchesOf (missingRoots blocks)) :=
  answerAndFetches_eq (outcome_templates container blocks server)
    (MemoryStore.recordFetch_fetches _ _)

/-- Serving takes one fetch if a limit applies, and none otherwise. -/
theorem answerAndFetches_applyLimits :
    answerAndFetches (applyLimits container blocks) server =
      if server.limitApplies then
        ((server.store.lookUp container (missingRoots blocks)).map fun fetched =>
            blocks.map (Block.served (templatesFrom blocks fetched) server.store.cutoff),
          fetchesOf (missingRoots blocks))
      else (.ok blocks, []) := by
  have ran := outcome_applyLimits container blocks server
  split
  · rename_i applies
    rw [if_pos applies] at ran
    refine answerAndFetches_eq ran ?_
    rw [recordFetch_store, MemoryStore.recordFetch_fetches, afterLimitCheck_fetches]
  · rename_i unlimited
    rw [if_neg unlimited] at ran
    refine answerAndFetches_eq ran ?_
    rw [afterLimitCheck_fetches, List.append_nil]

end Server

namespace MemoryStore.AgreesOn

variable {container : Container} {store other : MemoryStore}
  (agree : store.AgreesOn container.workspaceId other)

include agree

/-- The same is found in the workspace. -/
theorem lookUp : store.lookUp container = other.lookUp container := by
  funext ids
  rw [MemoryStore.lookUp, MemoryStore.lookUp, agree.fetchFailure, agree.blocks]

/-- The same cards are known for a list of the workspace. -/
theorem cardsOf (blocks : List Block) :
    store.blocks.cardsOf container blocks = other.blocks.cardsOf container blocks := by
  rw [BlockTable.cardsOf, BlockTable.cardsOf, agree.blocks]

/-- The same blocks of a list of the workspace are withheld. -/
theorem withholds (blocks : List Block) :
    store.blocks.withholds container blocks = other.blocks.withholds container blocks :=
  withholds_of_same_templates (fun id => by rw [agree.blocks]) blocks

/-- Blocks of a list of the workspace belong to the same cards. -/
theorem cardOf? (blocks : List Block) :
    store.blocks.cardOf? container blocks = other.blocks.cardOf? container blocks := by
  funext block
  rw [BlockTable.cardOf?.eq_def, BlockTable.cardOf?.eq_def, agree.blocks]

/-- A list of the workspace holds withheld blocks in both stores or in neither. -/
theorem holdsWithheld (blocks : List Block) (cutoff : Int64) :
    store.blocks.holdsWithheld container blocks cutoff =
      other.blocks.holdsWithheld container blocks cutoff := by
  rw [BlockTable.holdsWithheld, BlockTable.holdsWithheld, agree.cardOf?, agree.withholds]

end MemoryStore.AgreesOn

namespace Server

variable {container : Container} {server : Server MemoryStore} {other : MemoryStore}
  (agree : server.store.AgreesOn container.workspaceId other) (blocks : List Block)

include agree

/-- The same templates are looked up over both stores. -/
theorem answerAndFetches_templates_of_agree :
    answerAndFetches (templates container blocks) server =
      answerAndFetches (templates container blocks) { server with store := other } := by
  rw [answerAndFetches_templates, answerAndFetches_templates, agree.lookUp]

/-- The same is served over both stores. -/
theorem answerAndFetches_applyLimits_of_agree :
    answerAndFetches (applyLimits container blocks) server =
      answerAndFetches (applyLimits container blocks) { server with store := other } := by
  have sameLimit : server.limitApplies = limitApplies { server with store := other } := by
    rw [limitApplies, limitApplies, agree.license]
  rw [answerAndFetches_applyLimits, answerAndFetches_applyLimits, ← sameLimit, agree.lookUp,
    agree.cutoff]

/-- The check comes to the same over both stores, after a fetch of the same cards and one of the
same roots, these up to their order. -/
theorem outcome_holdsLimitedArranged_of_agree {arrange arrangeOther : List Block → List Block}
    (permutes : ∀ cards, (arrange cards).Perm cards)
    (permutesOther : ∀ cards, (arrangeOther cards).Perm cards) :
    ∃ answer cards roots otherRoots,
      outcome (holdsLimitedArranged arrange container blocks) server =
        (answer, (server.recordFetch cards).recordFetch roots) ∧
      outcome (holdsLimitedArranged arrangeOther container blocks) { server with store := other } =
        (answer, (recordFetch cards { server with store := other }).recordFetch otherRoots) ∧
      roots.Perm otherRoots := by
  by_cases noCutoff : server.store.cutoff = 0
  · have noOtherCutoff : other.cutoff = 0 := agree.cutoff.symm.trans noCutoff
    rw [outcome_holdsLimitedArranged, outcome_holdsLimitedArranged, if_pos noCutoff,
      if_pos noOtherCutoff]
    exact ⟨.ok false, [], [], [], rfl, rfl, .nil⟩
  · have otherCutoff : other.cutoff ≠ 0 := fun none => noCutoff (agree.cutoff.trans none)
    have sameBlocks : List.Forall₂ Block.Alike blocks blocks :=
      List.forall₂_same.mpr fun block _ => Block.Alike.refl block
    have sameRoots :=
      missingRoots_perm_of_alike sameBlocks other.blocks container permutes permutesOther
    rw [outcome_holdsLimitedArranged_of_cutoff permutes noCutoff,
      outcome_holdsLimitedArranged_of_cutoff permutesOther otherCutoff, agree.lookUp,
      agree.cardsOf, agree.holdsWithheld, agree.cutoff]
    dsimp only
    cases other.lookUp container (missingCards blocks) with
    | error error => exact ⟨.error error, missingCards blocks, [], [], rfl, rfl, .nil⟩
    | ok fetched =>
      refine ⟨_, missingCards blocks, _, _, rfl, Prod.ext ?_ rfl, sameRoots⟩
      exact (MemoryStore.map_lookUp_of_perm other container sameRoots _).symm

end Server

/-- Two fetches are recorded one behind the other. -/
theorem answerAndFetches_recordFetch {α : Type} {action : Action (Server MemoryStore) α}
    {server : Server MemoryStore} {answer : Except AppError α} {first second : List String}
    (ran : outcome action server = (answer, (server.recordFetch first).recordFetch second)) :
    answerAndFetches action server = (answer, fetchesOf first ++ fetchesOf second) := by
  refine answerAndFetches_eq ran ?_
  rw [Server.recordFetch_store, Server.recordFetch_store, MemoryStore.recordFetch_fetches,
    MemoryStore.recordFetch_fetches, List.append_assoc]

/-! ## Main statement -/

/-- Workspaces are apart.  After any run on what a fixture holds, a workspace has under each id
the block that was written last under both, and that block names the workspace and the id as its
own.  So the store answers a request for ids in a workspace with exactly these blocks, in the
order of the ids, unless the run made fetches fail.  And over two stores that agree in the
license, the cutoff, the failure of fetches and the blocks of one workspace, whatever else they
hold, a server looks up the same templates in that workspace, serves the same blocks, and comes
to the same answer whether it holds limited ones; each of them succeeds or fails alike after the
same fetches, where the ids of the second fetch of the check may come in another order. -/
theorem workspaces_are_isolated :
    (∀ (server : Server MemoryStore) (seed : StoreSeed) (operations : List Operation),
      server.store = .ofSeed seed →
      let stored := (server.after operations).store
      let written := seed.blocks ++ operations.flatMap Operation.written
      (∀ workspaceId id,
        stored.blocks.find? workspaceId id = lastWritten? written workspaceId id ∧
        ∀ block, stored.blocks.find? workspaceId id = some block →
          block.workspaceId = workspaceId ∧ block.id = id) ∧
      ∀ container ids, (∀ operation ∈ operations, operation.failsFetching = false) →
        (outcome (Store.blocksByIds container ids) stored).1 =
          .ok (ids.filterMap (lastWritten? written container.workspaceId))) ∧
    ∀ (container : Container) (server : Server MemoryStore) (other : MemoryStore),
      server.store.AgreesOn container.workspaceId other → ∀ blocks,
      let second := { server with store := other }
      answerAndFetches (Server.templates container blocks) server =
        answerAndFetches (Server.templates container blocks) second ∧
      answerAndFetches (Server.applyLimits container blocks) server =
        answerAndFetches (Server.applyLimits container blocks) second ∧
      ∀ arrange arrangeSecond : List Block → List Block,
        (∀ cards, (arrange cards).Perm cards) → (∀ cards, (arrangeSecond cards).Perm cards) →
        ∃ answer cards roots rootsSecond,
          answerAndFetches (Server.holdsLimitedArranged arrange container blocks) server =
            (answer, fetchesOf cards ++ fetchesOf roots) ∧
          answerAndFetches (Server.holdsLimitedArranged arrangeSecond container blocks) second =
            (answer, fetchesOf cards ++ fetchesOf rootsSecond) ∧
          roots.Perm rootsSecond := by
  constructor
  · intro server seed operations started stored written
    have found := find?_after started operations
    refine ⟨fun workspaceId id => ⟨found workspaceId id, ?_⟩, fun container ids fine => ?_⟩
    · intro block present
      rw [found] at present
      exact place_of_lastWritten? present
    · have answers : stored.fetchFailure = none := by
        rw [fetchFailure_after fine, started]
        rfl
      have sameBlocks : stored.blocks.find? container.workspaceId =
          lastWritten? written container.workspaceId := funext (found container.workspaceId)
      rw [MemoryStore.outcome_blocksByIds, answers, sameBlocks]
  · intro container server other agree blocks second
    refine ⟨Server.answerAndFetches_templates_of_agree agree blocks,
      Server.answerAndFetches_applyLimits_of_agree agree blocks, ?_⟩
    intro arrange arrangeSecond permutes permutesSecond
    obtain ⟨answer, cards, roots, rootsSecond, ran, ranSecond, sameRoots⟩ :=
      Server.outcome_holdsLimitedArranged_of_agree agree blocks permutes permutesSecond
    exact ⟨answer, cards, roots, rootsSecond, answerAndFetches_recordFetch ran,
      answerAndFetches_recordFetch ranSecond, sameRoots⟩

/-- A fixture with a plain board in two workspaces, under the same id. -/
def pairedSeed : StoreSeed where
  license := some .cloud
  cutoff := 150
  blocks :=
    [{ Block.fresh "board" .board "board" "board" with workspaceId := "0" },
      { Block.fresh "board" .board "board" "board" with workspaceId := "1" }]

/-- A limited server over both workspaces. -/
def pairedServer : Server MemoryStore where
  store := .ofSeed pairedSeed
  cardLimit := 1

/-- A run that makes the board of one workspace a template, by a block that names the other
workspace as its own. -/
def pairedRun : List Operation :=
  [.insertBlocks ⟨"1"⟩
    [{ (Block.fresh "board" .board "board" "board").withField Block.templateField (.bool true) with
      workspaceId := "0" }]]

/-- The run replaces the board of the one workspace, and in the other one a server withholds the
same card as before and finds the same limited content. -/
theorem workspaces_are_isolated_pairedServer :
    pairedServer.store = .ofSeed pairedSeed ∧
      (∀ operation ∈ pairedRun, operation.failsFetching = false) ∧
      (outcome (Store.blocksByIds ⟨"1"⟩ ["board", "missing"])
          (pairedServer.after pairedRun).store).1 =
        .ok [{ (Block.fresh "board" .board "board" "board").withField Block.templateField
          (.bool true) with workspaceId := "1" }] ∧
      pairedServer.store.AgreesOn "0" (pairedServer.after pairedRun).store ∧
      (answerAndFetches (Server.applyLimits ⟨"0"⟩ [oldCard "card" "board"])
          { pairedServer with store := (pairedServer.after pairedRun).store }) =
        (.ok [(oldCard "card" "board").limitedView], [["board"]]) ∧
      (∀ cards : List Block, cards.reverse.Perm cards) ∧
      (answerAndFetches (Server.holdsLimitedArranged List.reverse ⟨"0"⟩ [oldCard "card" "board"])
          { pairedServer with store := (pairedServer.after pairedRun).store }).1 =
        (answerAndFetches (Server.holdsLimitedArranged id ⟨"0"⟩ [oldCard "card" "board"])
          pairedServer).1 := by
  have fine : ∀ operation ∈ pairedRun, operation.failsFetching = false := by
    simp [pairedRun, Operation.failsFetching]
  have elsewhere : ∀ id, lastWritten? (pairedRun.flatMap Operation.written) "0" id = none := by
    simp [lastWritten?, pairedRun, Operation.written]
  have agree : pairedServer.store.AgreesOn "0" (pairedServer.after pairedRun).store :=
    { license := rfl
      cutoff := rfl
      fetchFailure := rfl
      blocks := by
        funext id
        rw [blocks_after, BlockTable.find?_putAll, elsewhere, Option.none_or] }
  obtain ⟨-, answered⟩ := workspaces_are_isolated.1 pairedServer pairedSeed pairedRun rfl
  obtain ⟨-, served, checked⟩ := workspaces_are_isolated.2 ⟨"0"⟩ pairedServer
    (pairedServer.after pairedRun).store agree [oldCard "card" "board"]
  obtain ⟨answer, cards, roots, rootsSecond, ran, ranSecond, -⟩ :=
    checked id List.reverse (fun cards => .refl cards) List.reverse_perm
  refine ⟨rfl, fine, (answered ⟨"1"⟩ _ fine).trans ?_, agree, served.symm.trans ?_,
    List.reverse_perm, ?_⟩
  · rfl
  · rfl
  · rw [ran, ranSecond]

end CardLimits
