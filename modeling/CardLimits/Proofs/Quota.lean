import CardLimits.Proofs.Cutoff
import CardLimits.Proofs.Serving
import Mathlib
/-!
# From a pushed limit to what is served

The store ranks the cards that count over all workspaces, a push makes the cutoff of
that ranking, and every workspace is served with the templates that its own blocks
name.  Served as a whole, a workspace has the same templates as the ranking
(`isTemplateRoot_listed`), so what is withheld is what the ranking left out, and fewer
cards than the limit stay as they are (`served_within_pushed_limit`).
-/

namespace CardLimits

/-- Serves lists of blocks one after the other, each for its workspace. -/
def Server.applyEach {σ : Type} [Store σ] (listings : List (Container × List Block)) :
    Action (Server σ) (List (List Block)) :=
  listings.mapM fun listing => applyLimits listing.1 listing.2

/-- Some workspaces of a table, each once, with all of their blocks in any order. -/
structure BlockTable.Listed (table : BlockTable) (listings : List (Container × List Block)) :
    Prop where
  distinct : (listings.map Prod.fst).Nodup
  complete : ∀ listing ∈ listings, listing.2.Perm
    (table.blocks.filter fun block => block.workspaceId = listing.1.workspaceId)

variable {table : BlockTable} {container : Container} {listing : List Block}

section Whole

variable (complete : listing.Perm
  (table.blocks.filter fun block => block.workspaceId = container.workspaceId))

include complete

/-! ## Templates of a workspace that is served as a whole -/

/-- The last block of a whole workspace with a kind and an id is the stored one. -/
theorem lastOfKind?_listed (kind : BlockKind) (id : String) :
    lastOfKind? kind listing id =
      (table.find? container.workspaceId id).filter fun block => block.kind = kind := by
  cases last : lastOfKind? kind listing id with
  | some block =>
    obtain ⟨listed, ofKind, named⟩ := of_lastOfKind? last
    obtain ⟨stored, here⟩ := List.mem_filter.mp (complete.mem_iff.mp listed)
    have found := BlockTable.find?_eq_some_iff.mpr ⟨stored, of_decide_eq_true here, named⟩
    rw [found, Option.filter_some, if_pos (decide_eq_true ofKind)]
  | none =>
    refine (Option.filter_eq_none_iff.mpr fun block found ofKind => ?_).symm
    obtain ⟨stored, here, named⟩ := BlockTable.find?_eq_some_iff.mp found
    have listed := complete.mem_iff.mpr (List.mem_filter.mpr ⟨stored, decide_eq_true here⟩)
    exact lastOfKind?_eq_none_iff.mp last block listed (of_decide_eq_true ofKind) named

/-- In a whole workspace a root is a template exactly if the stored block is one, unless
the root is empty. -/
theorem isTemplateRoot_listed {root : String} (named : root ≠ "") :
    table.isTemplateRoot container listing root =
      (table.find? container.workspaceId root).any Block.isTemplate := by
  rw [BlockTable.isTemplateRoot, lastOfKind?_listed complete]
  cases table.find? container.workspaceId root with
  | none => simp
  | some block =>
    by_cases board : block.kind = .board
    · simp [Option.filter_some, board]
    · simp [Option.filter_some, board, named]

/-- In a whole workspace no root is a template without the stored block being one, not
even the empty one. -/
theorem any_isTemplate_of_isTemplateRoot {root : String}
    (template : table.isTemplateRoot container listing root = true) :
    (table.find? container.workspaceId root).any Block.isTemplate = true := by
  by_cases named : root = ""
  · subst named
    rw [BlockTable.isTemplateRoot, lastOfKind?_listed complete] at template
    cases found : table.find? container.workspaceId "" with
    | none => simp [found] at template
    | some block =>
      by_cases board : block.kind = .board
      · simpa [found, Option.filter_some, board] using template
      · simp [found, Option.filter_some, board] at template
  · rwa [isTemplateRoot_listed complete named] at template

/-! ## What is withheld of the cards that count -/

/-- A live card with a root is withheld exactly if it counts and is as old as the
cutoff. -/
theorem withholds_iff_counted {cutoff : Int64} {card : Block} (listed : card ∈ listing)
    (isCard : card.isCard = true) (live : card.deleteAt = 0) (named : card.rootId ≠ "") :
    table.withholds container listing cutoff card = true ↔
      card ∈ table.countedCards ∧ 0 < cutoff ∧ card.updateAt ≤ cutoff := by
  obtain ⟨stored, here⟩ := List.mem_filter.mp (complete.mem_iff.mp listed)
  have place : card.workspaceId = container.workspaceId := of_decide_eq_true here
  rw [BlockTable.mem_countedCards_iff, BlockTable.withholds, BlockTable.counts,
    isTemplateRoot_listed complete named, place]
  simp only [isCard, live, stored, decide_true, Bool.true_and, Bool.and_eq_true,
    decide_eq_true_eq, true_and]
  constructor
  · rintro ⟨⟨positive, old⟩, noTemplate⟩
    exact ⟨noTemplate, positive, old⟩
  · rintro ⟨noTemplate, positive, old⟩
    exact ⟨⟨positive, old⟩, noTemplate⟩

/-- A card that counts and is not withheld although there is a cutoff is newer than the
cutoff. -/
theorem newer_of_not_withholds {cutoff : Int64} (positive : 0 < cutoff) {card : Block}
    (listed : card ∈ listing) (counts : table.counts card = true)
    (shown : table.withholds container listing cutoff card = false) :
    cutoff < card.updateAt := by
  obtain ⟨-, here⟩ := List.mem_filter.mp (complete.mem_iff.mp listed)
  have place : card.workspaceId = container.workspaceId := of_decide_eq_true here
  rw [BlockTable.counts, place] at counts
  simp only [Bool.and_eq_true, Bool.not_eq_true', decide_eq_true_eq] at counts
  obtain ⟨⟨isCard, -⟩, noTemplate⟩ := counts
  have noTemplateRoot : table.isTemplateRoot container listing card.rootId = false := by
    rw [Bool.eq_false_iff]
    intro template
    rw [any_isTemplate_of_isTemplateRoot complete template] at noTemplate
    cases noTemplate
  rw [BlockTable.withholds, isCard, noTemplateRoot] at shown
  simpa [positive] using shown

end Whole

/-- Counting in each of several workspaces counts no block twice. -/
theorem sum_countP_le (containers : List Container) (distinct : containers.Nodup)
    (counted : Block → Bool) (blocks : List Block) :
    (containers.map fun container =>
        (blocks.filter fun block => block.workspaceId = container.workspaceId).countP
          counted).sum ≤
      blocks.countP counted := by
  induction containers generalizing blocks with
  | nil => exact Nat.zero_le _
  | cons first rest inductionHypothesis =>
    obtain ⟨apart, restDistinct⟩ := List.nodup_cons.mp distinct
    -- The other workspaces lose nothing when the blocks of the first one are taken away.
    let others := blocks.filter fun block => ¬ block.workspaceId = first.workspaceId
    have sameRest : (rest.map fun container =>
          (blocks.filter fun block => block.workspaceId = container.workspaceId).countP counted) =
        rest.map fun container =>
          (others.filter fun block => block.workspaceId = container.workspaceId).countP
            counted := by
      refine List.map_congr_left fun container member => ?_
      have different : container.workspaceId ≠ first.workspaceId := by
        intro equal
        cases container
        cases first
        cases equal
        exact apart member
      rw [List.filter_filter]
      congr 1
      refine List.filter_congr fun block _ => ?_
      by_cases here : block.workspaceId = container.workspaceId
      · simp [here, different]
      · simp [here]
    have parts : blocks.countP counted =
        (blocks.filter fun block => block.workspaceId = first.workspaceId).countP counted +
          others.countP counted := by
      have split := List.filter_append_perm
        (fun block : Block => block.workspaceId = first.workspaceId) blocks
      rw [← split.countP_eq counted, List.countP_append]
      simp [others]
    rw [List.map_cons, List.sum_cons, sameRest, parts]
    exact Nat.add_le_add_left (inductionHypothesis restDistinct others) _

/-- With a positive cutoff for a limit, fewer cards that count than the limit are shown,
over all whole workspaces together. -/
theorem BlockTable.sum_shown_lt {limit : Int32} (positive : 0 < limit)
    (reached : 0 < table.cutoffFor limit) {listings : List (Container × List Block)}
    (listed : table.Listed listings) :
    (listings.map fun listing => listing.2.countP fun card =>
      table.counts card &&
        !table.withholds listing.1 listing.2 (table.cutoffFor limit) card).sum <
      limit.toInt.toNat := by
  let newer : Block → Bool := fun card =>
    table.cutoffFor limit < card.updateAt && table.counts card
  have shownAreNewer : ∀ listing ∈ listings,
      (listing.2.countP fun card => table.counts card &&
          !table.withholds listing.1 listing.2 (table.cutoffFor limit) card) ≤
        (table.blocks.filter fun block =>
          block.workspaceId = listing.1.workspaceId).countP newer := by
    intro listing member
    have complete := listed.complete listing member
    rw [← complete.countP_eq]
    refine List.countP_mono_left fun card inListing shown => ?_
    simp only [newer, Bool.and_eq_true, Bool.not_eq_true', decide_eq_true_eq] at shown ⊢
    exact ⟨newer_of_not_withholds complete reached inListing shown.1 shown.2, shown.1⟩
  have once := sum_countP_le (listings.map Prod.fst) listed.distinct newer table.blocks
  rw [List.map_map] at once
  have exists_cutoff : table.cutoffFor limit ≠ 0 := fun zero =>
    Int64.lt_irrefl (zero ▸ reached)
  have inside := countP_newer_lt positive exists_cutoff
  rw [countedCards_eq, List.countP_filter] at inside
  calc (listings.map fun listing => listing.2.countP fun card => table.counts card &&
          !table.withholds listing.1 listing.2 (table.cutoffFor limit) card).sum
      ≤ (listings.map fun listing => (table.blocks.filter fun block =>
          block.workspaceId = listing.1.workspaceId).countP newer).sum :=
        List.sum_le_sum shownAreNewer
    _ ≤ table.blocks.countP newer := once
    _ < limit.toInt.toNat := inside

/-! ## One workspace after the other -/

/-- Serving one list leaves everything that serving the next one depends on. -/
theorem Server.outcome_applyEach {server : Server MemoryStore}
    (noFailure : server.store.fetchFailure = none) (applies : server.limitApplies = true)
    (listings : List (Container × List Block)) :
    ∃ after, outcome (applyEach listings) server =
      (.ok (listings.map fun listing => listing.2.map
        (server.store.blocks.view listing.1 listing.2 server.store.cutoff)), after) := by
  induction listings generalizing server with
  | nil => exact ⟨server, rfl⟩
  | cons first rest inductionHypothesis =>
    let next := server.afterLimitCheck.recordFetch (missingRoots first.2)
    have sameBlocks : next.store.blocks = server.store.blocks := by simp [next]
    have sameCutoff : next.store.cutoff = server.store.cutoff := by simp [next]
    have stillNoFailure : next.store.fetchFailure = none := by simp [next, noFailure]
    have stillApplies : next.limitApplies = true := by
      rw [← applies]
      simp [next, limitApplies]
    have firstServed : outcome (applyLimits first.1 first.2) server =
        (.ok (first.2.map (server.store.blocks.view first.1 first.2 server.store.cutoff)),
          next) := by
      rw [← answer_applyLimits noFailure applies, outcome_applyLimits, if_pos applies]
    obtain ⟨after, restServed⟩ := inductionHypothesis stillNoFailure stillApplies
    rw [applyEach] at restServed
    refine ⟨after, ?_⟩
    rw [applyEach, List.mapM_cons, outcome_bind_ok firstServed, outcome_bind_ok restServed,
      sameBlocks, sameCutoff]
    rfl

/-! ## Main statement -/

/-- After a push of a new card limit the whole workspaces are served within it: a live
card with a root is withheld exactly if it counts and is as old as the new cutoff; if
there is a cutoff, fewer cards that count than the limit are left as they are, over all
workspaces together; and without one everything is. -/
theorem served_within_pushed_limit (server : Server MemoryStore)
    (noFailure : server.store.fetchFailure = none)
    (cloud : server.store.license.any License.isCloud = true) (limit : Int32)
    (positive : 1 ≤ limit) (changed : limit ≠ server.cardLimit)
    (listings : List (Container × List Block)) (listed : server.store.blocks.Listed listings) :
    ∃ pushed after served,
      outcome (Server.setLimits (some (.withCards limit))) server = (.ok (), pushed) ∧
      outcome (Server.applyEach listings) pushed = (.ok served, after) ∧
      served = (listings.map fun listing => listing.2.map fun block =>
        if server.store.blocks.withholds listing.1 listing.2 pushed.store.cutoff block then
          block.limitedView
        else block) ∧
      (∀ listing ∈ listings, ∀ card ∈ listing.2,
        card.isCard = true → card.deleteAt = 0 → card.rootId ≠ "" →
        (server.store.blocks.withholds listing.1 listing.2 pushed.store.cutoff card = true ↔
          card ∈ server.store.blocks.countedCards ∧ 0 < pushed.store.cutoff ∧
            card.updateAt ≤ pushed.store.cutoff)) ∧
      (0 < pushed.store.cutoff →
        (listings.map fun listing => listing.2.countP fun card =>
          server.store.blocks.counts card &&
            !server.store.blocks.withholds listing.1 listing.2 pushed.store.cutoff card).sum <
          limit.toInt.toNat) ∧
      (pushed.store.cutoff ≤ 0 → served = listings.map Prod.snd) := by
  have atLeastOne : 1 ≤ limit.toInt := by simpa using Int32.le_iff_toInt_le.mp positive
  have aboveZero : 0 < limit := by
    rw [Int32.lt_iff_toInt_lt, Int32.toInt_zero]
    omega
  have notZero : limit ≠ 0 := fun zero => by simp [zero] at atLeastOne
  let pushed := server.pushed (some (.withCards limit))
  have pushedLimit : (ProductLimits.withCards limit).cardLimit = limit := rfl
  have cutoff : pushed.store.cutoff = server.store.blocks.cutoffFor limit := by
    simp [pushed, pushedLimit, Ne.symm changed]
  have stillNoFailure : pushed.store.fetchFailure = none := by simp [pushed, noFailure]
  have applies : pushed.limitApplies = true := by
    simp [pushed, Server.limitApplies, pushedLimit, notZero, cloud]
  obtain ⟨after, served⟩ := Server.outcome_applyEach stillNoFailure applies listings
  have sameBlocks : pushed.store.blocks = server.store.blocks := by simp [pushed]
  rw [sameBlocks] at served
  refine ⟨pushed, after, _, Server.outcome_setLimits _ server, served, rfl, ?_, ?_, ?_⟩
  · intro listing member card inListing isCard live named
    exact withholds_iff_counted (listed.complete listing member) inListing isCard live named
  · intro reached
    rw [cutoff] at reached ⊢
    exact BlockTable.sum_shown_lt aboveZero reached listed
  · intro nothing
    refine List.map_congr_left fun listing _ => ?_
    exact (congrArg (fun view => listing.2.map view) (view_of_not_positive nothing)).trans
      (List.map_id _)

/-- All blocks of the sample server, the last one first. -/
theorem listed_sampleServer :
    sampleServer.store.blocks.Listed [(⟨"0"⟩, sampleServer.store.blocks.blocks.reverse)] where
  distinct := List.pairwise_singleton _ _
  complete listing member := by
    rw [List.mem_singleton.mp member]
    exact List.reverse_perm _

/-- With room for two of its cards, the sample server withholds the older one. -/
theorem served_within_pushed_limit_sampleServer :
    sampleServer.store.fetchFailure = none ∧
      sampleServer.store.license.any License.isCloud = true ∧ (1 : Int32) ≤ 2 ∧
      (2 : Int32) ≠ sampleServer.cardLimit ∧
      sampleServer.store.blocks.Listed [(⟨"0"⟩, sampleServer.store.blocks.blocks.reverse)] ∧
      ∃ pushed after,
        outcome (Server.setLimits (some (.withCards 2))) sampleServer = (.ok (), pushed) ∧
        outcome (Server.applyEach [(⟨"0"⟩, sampleServer.store.blocks.blocks.reverse)]) pushed =
          (.ok [sampleServer.store.blocks.blocks.reverse.map fun block =>
            if block.id = "stored" then block.limitedView else block], after) := by
  refine ⟨rfl, rfl, by decide, by decide, listed_sampleServer, ?_⟩
  obtain ⟨pushed, after, served, push, serve, shape, -⟩ :=
    served_within_pushed_limit sampleServer rfl rfl 2 (by decide) (by decide) _
      listed_sampleServer
  have state : pushed = sampleServer.pushed (some (.withCards 2)) :=
    congrArg Prod.snd (push.symm.trans (Server.outcome_setLimits _ _))
  have cutoff : pushed.store.cutoff = 100 := by
    rw [state]
    exact cutoffFor_two_sampleServer
  refine ⟨pushed, after, push, ?_⟩
  rw [serve, shape, cutoff]
  rfl

end CardLimits
