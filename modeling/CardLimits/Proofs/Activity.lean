import CardLimits.Proofs.RaisedLimit
import CardLimits.Proofs.StoredBlocks
/-!
# Activity on other cards

Once there is a cutoff for a limit, new cards and cards that are worked on push it forward,
never back.  Activity leaves every stored block where it is and touches nothing but its
update time, which does not go back; and what it adds is no template
(`BlockTable.Follows`).  This holds after one block
(`BlockTable.Follows.putUnder`) and so after a batch (`BlockTable.Follows.putAllUnder`),
also if the batch names an id twice.  So the cards that count still count, none of them
with an older time, and the card in the place that the limit names is not an older one
(`BlockTable.Follows.cutoffFor_le`).  No root becomes a template or stops being one, and so
whatever is withheld before the activity is withheld after it (`activity_frees_no_card`).
-/

namespace CardLimits

namespace BlockTable

/-- Whether it is activity to put a block into a workspace.  It is new there and no template,
or it differs from the stored block in nothing but an update time that is not older.  It may
be of any kind, deleted or not, and what it says about its own workspace is overwritten. -/
inductive IsActivity (table : BlockTable) (container : Container) (block : Block) : Prop
  /-- A block under a new id. -/
  | fresh (unknown : table.find? container.workspaceId block.id = none)
      (plain : block.isTemplate = false)
  /-- A stored block with an update time that is not older. -/
  | touched {stored : Block} (known : table.find? container.workspaceId block.id = some stored)
      (notOlder : stored.updateAt ≤ block.updateAt)
      (same : { block with workspaceId := container.workspaceId } =
        stored.withUpdateAt block.updateAt)

/-- Whether a table may come from another one by activity: what was stored is stored, with an
update time that is not older, and what is new is no template. -/
structure Follows (after before : BlockTable) : Prop where
  kept : ∀ {workspaceId id stored}, before.find? workspaceId id = some stored →
    ∃ time, stored.updateAt ≤ time ∧
      after.find? workspaceId id = some (stored.withUpdateAt time)
  plain : ∀ {workspaceId id added}, before.find? workspaceId id = none →
    after.find? workspaceId id = some added → added.isTemplate = false

variable {before after : BlockTable} {container : Container}

/-- Without activity a table is as it was. -/
theorem Follows.refl (table : BlockTable) : table.Follows table where
  kept found := ⟨_, Int64.le_refl _, found⟩
  plain absent found := by
    rw [absent] at found
    cases found

/-- More activity, as seen from the first table, is activity all in all.  It need not be
activity on what the table has become: a time may go back to one that is not older than the
first. -/
theorem Follows.putUnder (follows : after.Follows before) {block : Block}
    (activity : before.IsActivity container block) :
    (after.putUnder container.workspaceId block).Follows before where
  kept {workspaceId id stored} found := by
    rw [find?_putUnder]
    split
    · rename_i here
      obtain ⟨rfl, rfl⟩ := here
      cases activity with
      | fresh unknown plain =>
        rw [unknown] at found
        cases found
      | @touched present known notOlder same =>
        rw [found, Option.some.injEq] at known
        subst known
        exact ⟨block.updateAt, notOlder, congrArg some same⟩
    · exact follows.kept found
  plain {workspaceId id added} absent found := by
    rw [find?_putUnder] at found
    split at found
    · rename_i here
      obtain ⟨rfl, rfl⟩ := here
      cases found
      cases activity with
      | fresh unknown plain => exact plain
      | touched known notOlder same =>
        rw [absent] at known
        cases known
    · exact follows.plain absent found

/-- A batch of activity is activity all in all. -/
theorem Follows.putAllUnder (follows : after.Follows before) {batch : List Block}
    (activity : ∀ block ∈ batch, before.IsActivity container block) :
    (after.putAllUnder container.workspaceId batch).Follows before := by
  induction batch generalizing after with
  | nil => exact follows
  | cons block rest inductionHypothesis =>
    obtain ⟨first, others⟩ := List.forall_mem_cons.mp activity
    exact inductionHypothesis (follows.putUnder first) others

namespace Follows

variable (follows : after.Follows before)

include follows

/-- Activity makes no template and undoes none. -/
theorem any_isTemplate (workspaceId id : String) :
    (after.find? workspaceId id).any Block.isTemplate =
      (before.find? workspaceId id).any Block.isTemplate := by
  cases absent : before.find? workspaceId id with
  | some stored =>
    obtain ⟨time, -, found⟩ := follows.kept absent
    rw [found]
    rfl
  | none =>
    cases found : after.find? workspaceId id with
    | some added => exact follows.plain absent found
    | none => rfl

/-- A cutoff withholds the same blocks of a list after the activity as before. -/
theorem withholds (blocks : List Block) :
    after.withholds container blocks = before.withholds container blocks :=
  withholds_of_same_templates (follows.any_isTemplate container.workspaceId) blocks

/-- With one cutoff a block of a list is served after the activity as before. -/
theorem view (blocks : List Block) (cutoff : Int64) :
    after.view container blocks cutoff = before.view container blocks cutoff := by
  funext block
  rw [BlockTable.view, BlockTable.view, follows.withholds]

/-- A card that counts still does when its time has changed. -/
theorem counts (block : Block) (time : Int64) :
    after.counts (block.withUpdateAt time) = before.counts block := by
  rw [BlockTable.counts, BlockTable.counts]
  exact congrArg (block.isCard && block.deleteAt = 0 && !·) (follows.any_isTemplate _ _)

/-- After the activity there are not fewer cards as new as a bound. -/
theorem countP_reaching_le (bound : Int64) :
    before.countedCards.countP (fun card => bound ≤ card.updateAt) ≤
      after.countedCards.countP (fun card => bound ≤ card.updateAt) := by
  rw [countedCards_eq, countedCards_eq, List.countP_filter, List.countP_filter]
  refine countP_le_of_places fun card stored passes => ?_
  obtain ⟨reaches, counted⟩ := Bool.and_eq_true_iff.mp passes
  obtain ⟨time, notOlder, found⟩ := follows.kept (find?_eq_some_iff.mpr ⟨stored, rfl, rfl⟩)
  refine ⟨_, (find?_eq_some_iff.mp found).1, Bool.and_eq_true_iff.mpr ⟨?_, ?_⟩, rfl, rfl⟩
  · exact decide_eq_true (Int64.le_trans (of_decide_eq_true reaches) notOlder)
  · rw [follows.counts]
    exact counted

/-- Activity does not put a cutoff back. -/
theorem cutoffFor_le {limit : Int32} (positive : 0 < limit)
    (reached : before.cutoffFor limit ≠ 0) : before.cutoffFor limit ≤ after.cutoffFor limit :=
  le_cutoffFor positive
    (Nat.le_trans (le_countP_reaching positive reached) (follows.countP_reaching_le _))

end Follows

end BlockTable

/-! ## Main statement -/

/-- Activity frees no other card.  Take a server in the cloud that gets the cutoff for a limit,
then stores new blocks that are no templates and stored ones with later update times, and
gets the cutoff for the limit anew.  If it serves a list at first, and it does unless fetching
blocks fails, it serves it afterwards.  Whatever block of the list was withheld then is
withheld now, so every place of the list that showed a limited view still does. -/
theorem activity_frees_no_card (server : Server MemoryStore)
    (cloud : server.store.license.any License.isCloud = true) (limit : Int32)
    (positive : 1 ≤ limit) (workspace : Container) (batch : List Block)
    (activity : ∀ block ∈ batch, server.store.blocks.IsActivity workspace block)
    {earlier later : Server MemoryStore} (adopted : server.Adopts limit earlier)
    (renewed : Server.Adopts limit
      { earlier with store := earlier.store.insertBlocks workspace batch } later)
    (container : Container) (blocks : List Block) :
    (server.store.fetchFailure = none → ∃ served,
      (outcome (Server.applyLimits container blocks) earlier).1 = .ok served) ∧
    ∀ servedEarlier,
      (outcome (Server.applyLimits container blocks) earlier).1 = .ok servedEarlier →
      ∃ servedLater,
        (outcome (Server.applyLimits container blocks) later).1 = .ok servedLater ∧
        servedEarlier = blocks.map (fun block =>
          if earlier.store.blocks.withholds container blocks earlier.store.cutoff block then
            block.limitedView
          else block) ∧
        servedLater = blocks.map (fun block =>
          if later.store.blocks.withholds container blocks later.store.cutoff block then
            block.limitedView
          else block) ∧
        (∀ block,
          earlier.store.blocks.withholds container blocks earlier.store.cutoff block = true →
          later.store.blocks.withholds container blocks later.store.cutoff block = true) ∧
        ∀ (place : Nat) (block : Block), blocks[place]? = some block →
          servedEarlier[place]? = some block.limitedView →
          servedLater[place]? = some block.limitedView := by
  have aboveZero : 0 < limit := Int32.lt_of_lt_of_le (by decide) positive
  have limited : limit ≠ 0 := (Int32.ne_of_lt aboveZero).symm
  have inForce := adopted.inForce cloud limited
  have stillCloud : earlier.store.license.any License.isCloud = true :=
    (Server.limitApplies_iff.mp inForce.applies).2
  have inForceAgain := renewed.inForce stillCloud limited
  have follows : later.store.blocks.Follows earlier.store.blocks := by
    rw [inForceAgain.blocks]
    refine (BlockTable.Follows.refl _).putAllUnder ?_
    rw [inForce.blocks]
    exact activity
  have notBack (reached : 0 < earlier.store.cutoff) :
      earlier.store.cutoff ≤ later.store.cutoff := by
    have notZero := (Int64.ne_of_lt reached).symm
    rw [inForce.cutoff_of_stored] at notZero
    rw [inForce.cutoff_of_stored, inForceAgain.cutoff_of_stored]
    exact follows.cutoffFor_le aboveZero notZero
  have weaker (block : Block)
      (withheld : earlier.store.blocks.withholds container blocks earlier.store.cutoff block =
        true) :
      later.store.blocks.withholds container blocks later.store.cutoff block = true := by
    rw [follows.withholds]
    exact withholds_of_le notBack withheld
  constructor
  · intro noFailure
    have answers : earlier.store.fetchFailure = none := inForce.fetchFailure.trans noFailure
    exact ⟨_, Server.answer_applyLimits answers inForce.applies container blocks⟩
  · intro servedEarlier returned
    obtain ⟨answers, shape⟩ := (Server.answer_applyLimits_eq_ok_iff inForce.applies).mp returned
    -- What the list misses is the same, and fetching fails as it did.
    have answersAgain : missingRoots blocks = [] ∨ later.store.fetchFailure = none := by
      rw [inForceAgain.fetchFailure]
      exact answers
    refine ⟨_, (Server.answer_applyLimits_eq_ok_iff inForceAgain.applies).mpr
      ⟨answersAgain, rfl⟩, shape, rfl, weaker, ?_⟩
    intro place block here replaced
    rw [shape, List.getElem?_map, here, Option.map_some, Option.some.injEq] at replaced
    rw [List.getElem?_map, here, Option.map_some, Option.some.injEq, follows.view]
    refine view_eq_limitedView_of_withholds (fun withheld => ?_) replaced
    exact withholds_of_le notBack withheld

/-- On the sample server with room for two, a new card and a change to the newer one leave the
older one withheld. -/
theorem activity_frees_no_card_sampleServer :
    ∃ batch earlier later card,
      sampleServer.store.license.any License.isCloud = true ∧ (1 : Int32) ≤ 2 ∧
      batch.map Block.id = ["third", "newer"] ∧
      (∀ block ∈ batch, sampleServer.store.blocks.IsActivity ⟨"0"⟩ block) ∧
      sampleServer.Adopts 2 earlier ∧
      Server.Adopts 2 { earlier with store := earlier.store.insertBlocks ⟨"0"⟩ batch } later ∧
      sampleServer.store.blocks.find? "0" "stored" = some card ∧
      (outcome (Server.applyLimits ⟨"0"⟩ [card]) earlier).1 = .ok [card.limitedView] ∧
      (outcome (Server.applyLimits ⟨"0"⟩ [card]) later).1 = .ok [card.limitedView] := by
  let batch : List Block := [(Block.fresh "third" .card "board" "board").withUpdateAt 200,
    (Block.fresh "newer" .card "board" "board").withUpdateAt 400]
  let earlier := sampleServer.pushed (some (.withCards 2))
  let active : Server MemoryStore :=
    { earlier with store := earlier.store.insertBlocks ⟨"0"⟩ batch }
  obtain ⟨card, stored⟩ : ∃ card, sampleServer.store.blocks.find? "0" "stored" = some card :=
    ⟨_, rfl⟩
  have activity : ∀ block ∈ batch, sampleServer.store.blocks.IsActivity ⟨"0"⟩ block := by
    refine List.forall_mem_cons.mpr ⟨.fresh rfl rfl, List.forall_mem_singleton.mpr ?_⟩
    exact .touched rfl (by decide) rfl
  have pushed : sampleServer.Adopts 2 earlier :=
    .push rfl (by decide) (Server.outcome_setLimits _ _)
  have refreshed : active.Adopts 2 active.refreshed :=
    .refresh ((outcome_bind_ok rfl).trans (Server.outcome_refreshCutoff _))
  have cutoff : earlier.store.cutoff = 100 := cutoffFor_two_sampleServer
  have servedFirst : (outcome (Server.applyLimits ⟨"0"⟩ [card]) earlier).1 =
      .ok [card.limitedView] := by
    rw [Server.answer_applyLimits rfl rfl, cutoff]
    cases stored
    rfl
  obtain ⟨served, serve, -, shape, -, same⟩ := (activity_frees_no_card sampleServer rfl 2
    (by decide) ⟨"0"⟩ batch activity pushed refreshed ⟨"0"⟩ [card]).2 _ servedFirst
  have first := same 0 card rfl rfl
  rw [shape] at first
  have servedAgain : served = [card.limitedView] := by
    rw [shape]
    exact congrArg (fun served => [served]) (Option.some.inj first)
  exact ⟨batch, earlier, _, card, rfl, by decide, rfl, activity, pushed, refreshed, stored,
    servedFirst, servedAgain ▸ serve⟩

end CardLimits
