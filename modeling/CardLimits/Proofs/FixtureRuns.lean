import CardLimits.CommandLine.Run
import CardLimits.Proofs.Cutoff
import CardLimits.Proofs.Limits
import CardLimits.Proofs.Serving
import Mathlib
/-!
# Runs over a fixture

A run over a fixture starts with the card limit of its configuration and with the
cutoff that the fixture has, whether or not the one belongs to the other.  Setting
the limits has the cutoff computed only if the card limit becomes another one
(`run_setLimits`), so a run that sets the limit that it started with prints the cutoff
of the fixture, even an outdated one (`run_setLimits_keeps_outdated`).
-/

namespace CardLimits

namespace CommandLine

/-- Any flag sets the card limit, to zero if it is not named. -/
@[simp]
theorem cardLimit_pushedLimits (cards views : Option Int32) :
    ((pushedLimits cards views).getD {}).cardLimit = cards.getD 0 := by
  cases cards <;> cases views <;> rfl

/-- Any flag sets the view limit, to zero if it is not named. -/
@[simp]
theorem viewLimit_pushedLimits (cards views : Option Int32) :
    ((pushedLimits cards views).getD {}).viewLimit = views.getD 0 := by
  cases cards <;> cases views <;> rfl

/-- An action that returns is reported with its value and the state that it left. -/
theorem reported_ok {σ α : Type} {action : Action σ α} {state reached : σ} {value : α}
    (returned : outcome action state = (.ok value, reached)) :
    reported (action.run state) = .ok (value, reached) := by
  simp only [outcome] at returned
  cases run : action.run state with
  | ok first second =>
    rw [run] at returned
    cases returned
    rfl
  | error first second =>
    rw [run] at returned
    cases returned

/-- Setting limits prints the usage after the push. -/
theorem perform_setLimits (files : Files) (server : Server MemoryStore)
    (cards views : Option Int32) :
    (Command.setLimits cards views).perform files server =
      .ok (Usage.codec.write (server.pushed (pushedLimits cards views)).usageNow) := by
  have pushed := reported_ok (Server.outcome_setLimits (pushedLimits cards views) server)
  have asked := reported_ok (Server.outcome_usage (server.pushed (pushedLimits cards views)))
  simp only [Command.perform, pushed, asked, bind, Except.bind]
  rfl

section Run

variable {files : Files} {environment : Environment} {arguments : List String}
  {path : String} {config : Config} {fixture : Fixture}

/-- A run with arguments that fit, a configuration that is accepted and a fixture that
loads comes to what its command comes to over the fixture. -/
theorem run_overFixture {command : Command}
    (parsed : parse? arguments = some { fixture := some path, command })
    (configured : Config.ofEnvironment environment = .ok config)
    (loads : loadFixture files path = .ok fixture) :
    run files environment arguments =
      match command.perform files (.ofFixture fixture config) with
      | .ok value => .printed (value.toSpreadString ++ "\n")
      | .error failure => .failed failure := by
  have started : loaded (loadFixture files path) = .ok fixture := by rw [loads]; rfl
  simp only [run, parsed, Invocation.perform, configured, started, bind, Except.bind]
  cases command.perform files (.ofFixture fixture config) <;> rfl

/-- Setting the limits over a fixture always prints the usage: with the cutoff for the
new card limit if the run started with another one, and with the cutoff of the fixture
otherwise.  So taking a configured limit away leaves no cutoff, and nothing on that store
is limited any more. -/
theorem run_setLimits {cards views : Option Int32}
    (parsed : parse? arguments =
      some { fixture := some path, command := .setLimits cards views })
    (configured : Config.ofEnvironment environment = .ok config)
    (loads : loadFixture files path = .ok fixture) :
    ∃ after,
      outcome (Server.setLimits (pushedLimits cards views)) (.ofFixture fixture config) =
        (.ok (), after) ∧
      run files environment arguments =
        .printed ((Usage.codec.write
          { cards := cards.getD 0
            usedCards := .ofNat (MemoryStore.ofSeed fixture.store).blocks.countedCards.length
            cutoff := after.store.cutoff
            views := views.getD 0 }).toSpreadString ++ "\n") ∧
      after.store.cutoff =
        (if cards.getD 0 = config.cardLimit.getD 0 then fixture.store.cutoff
        else (MemoryStore.ofSeed fixture.store).blocks.cutoffFor (cards.getD 0)) ∧
      (cards.getD 0 = 0 → config.cardLimit.getD 0 ≠ 0 →
        after.store.cutoff = 0 ∧
        ∀ later : Server MemoryStore, later.store = after.store →
          ∀ container blocks,
            outcome (Server.holdsLimited container blocks) later = (.ok false, later)) := by
  let server := Server.ofFixture fixture config
  let after := server.pushed (pushedLimits cards views)
  have cutoff : after.store.cutoff =
      (if cards.getD 0 = config.cardLimit.getD 0 then fixture.store.cutoff
      else (MemoryStore.ofSeed fixture.store).blocks.cutoffFor (cards.getD 0)) := by
    simp only [after, Server.pushed_cutoff, cardLimit_pushedLimits, eq_comm (a := cards.getD 0)]
    rfl
  have usage : after.usageNow =
      { cards := cards.getD 0
        usedCards := .ofNat (MemoryStore.ofSeed fixture.store).blocks.countedCards.length
        cutoff := after.store.cutoff
        views := views.getD 0 } := by
    simp only [Server.usageNow, after, Server.pushed_cardLimit, Server.pushed_viewLimit,
      Server.pushed_blocks, cardLimit_pushedLimits, viewLimit_pushedLimits]
    rfl
  refine ⟨after, Server.outcome_setLimits _ server, ?_, cutoff, ?_⟩
  · rw [run_overFixture parsed configured loads, perform_setLimits, ← usage]
  · intro cleared limited
    have noCutoff : after.store.cutoff = 0 := by
      rw [cutoff, cleared, if_neg (Ne.symm limited),
        BlockTable.cutoffFor_of_not_positive (by decide)]
    refine ⟨noCutoff, fun later same container blocks => ?_⟩
    exact Server.outcome_holdsLimited_of_no_cutoff (same ▸ noCutoff) container blocks

end Run

/-- A fixture without blocks that still has a cutoff. -/
def outdatedFiles : Files := fun path =>
  if path = "fixture.json" then .ok "\x7b\"cardLimitTimestamp\":150\x7d" else .error .notFound

/-- Over the outdated fixture, taking away a configured limit takes the cutoff away. -/
theorem run_setLimits_clears_outdated :
    ∃ config fixture,
      parse? ["--fixture", "fixture.json", "limits", "set"] =
        some { fixture := some "fixture.json", command := .setLimits none none } ∧
      Config.ofEnvironment { process := [("BOARDS_CARD_LIMIT", "2")] } = .ok config ∧
      loadFixture outdatedFiles "fixture.json" = .ok fixture ∧
      fixture.store.cutoff = 150 ∧
      run outdatedFiles { process := [("BOARDS_CARD_LIMIT", "2")] }
          ["--fixture", "fixture.json", "limits", "set"] =
        .printed ("\x7b\n  \"cards\": 0,\n  \"usedCards\": 0,\n" ++
          "  \"cardLimitTimestamp\": 0,\n  \"views\": 0\n\x7d\n") := by
  have parsed : parse? ["--fixture", "fixture.json", "limits", "set"] =
      some { fixture := some "fixture.json", command := .setLimits none none } := by
    decide +kernel
  obtain ⟨config, configured, limit⟩ : ∃ config,
      Config.ofEnvironment { process := [("BOARDS_CARD_LIMIT", "2")] } = .ok config ∧
        config.cardLimit = some 2 := ⟨_, rfl, rfl⟩
  have loads : loadFixture outdatedFiles "fixture.json" =
      .ok { store := { cutoff := 150 } } := by cbv
  refine ⟨config, _, parsed, configured, loads, rfl, ?_⟩
  obtain ⟨after, -, printed, -, cleared⟩ := run_setLimits parsed configured loads
  obtain ⟨noCutoff, -⟩ := cleared rfl (by rw [limit]; decide)
  rw [printed, noCutoff]
  decide +kernel

/-- Over the outdated fixture, a run without a configured limit that takes the limit away
keeps the cutoff, although the cutoff without a limit is zero. -/
theorem run_setLimits_keeps_outdated :
    loadFixture outdatedFiles "fixture.json" = .ok { store := { cutoff := 150 } } ∧
      (∃ config, Config.ofEnvironment {} = .ok config ∧ config.cardLimit = none) ∧
      (MemoryStore.ofSeed { cutoff := 150 }).blocks.cutoffFor 0 = 0 ∧
      run outdatedFiles {} ["--fixture", "fixture.json", "limits", "set"] =
        .printed ("\x7b\n  \"cards\": 0,\n  \"usedCards\": 0,\n" ++
          "  \"cardLimitTimestamp\": 150,\n  \"views\": 0\n\x7d\n") := by
  refine ⟨by cbv, ⟨_, rfl, rfl⟩, rfl, ?_⟩
  decide +kernel

end CommandLine

end CardLimits
