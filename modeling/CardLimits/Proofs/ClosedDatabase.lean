import CardLimits.Proofs.Fetches
import CardLimits.Proofs.Pushes
/-!
# What fails over a closed database

Over a closed database a call of a server fails exactly if it needs a statement, and then with the
error of the database (`AnswersClosed`).  Which calls need one depends on the limit in place, the
license and the blocks at hand.  A session changes little of that: the license stays, and the limit
in place is the last one that was asked for, also if the push of it failed (`closedStep`).  So the
same holds after every session (`closed_database_fails_as_needed`).
-/

namespace CardLimits

/-- The card limit that a request puts in place, whether or not it fails.  A push asks for the
number of cards of its limits for boards, and for zero if it has none. -/
def Request.cardLimit? : Request → Option Int32
  | setCardLimit limit => some limit
  | setLimits limits => some (((limits.bind ProductLimits.boards).bind BoardsLimits.cards).getD 0)
  | _ => none

/-- The server after requests one after the other, whether or not they fail. -/
def Server.afterRequests {σ : Type} [Store σ] (requests : List Request) (server : Server σ) :
    Server σ :=
  requests.foldl (fun reached asked => (outcome asked.perform reached).2) server

/-! ## One call -/

/-- What the calls of a server come to over a closed database.  All of them leave the server as it
is but for a push, which puts its limits in place even if it fails. -/
structure AnswersClosed (server : Server ClosedDatabase) : Prop where
  /-- A push fails exactly if it changes the card limit.  The limits of a push are those of its
  limits for boards, and zero where it has none. -/
  push : ∀ limits : Option ProductLimits,
    let cardLimit := ((limits.bind ProductLimits.boards).bind BoardsLimits.cards).getD 0
    let viewLimit := ((limits.bind ProductLimits.boards).bind BoardsLimits.views).getD 0
    outcome (Server.setLimits limits) server =
      (if server.cardLimit = cardLimit then .ok () else .error (.database .poolClosed),
        { server with cardLimit, viewLimit })
  /-- A refresh fails exactly if a card limit applies: there is one, and there is a license whose
  features include the cloud. -/
  refresh : outcome Server.refreshCutoff server =
    (if server.cardLimit ≠ 0 ∧
          (server.store.license.bind License.features).bind Features.cloud = some true then
        .error (.database .poolClosed)
      else .ok (), server)
  /-- Serving fails exactly if a card limit applies, and otherwise serves the blocks as they are. -/
  serve : ∀ container blocks, outcome (Server.applyLimits container blocks) server =
    (if server.cardLimit ≠ 0 ∧
          (server.store.license.bind License.features).bind Features.cloud = some true then
        .error (.database .poolClosed)
      else .ok blocks, server)
  /-- The check always fails. -/
  check : ∀ arrange container blocks,
    outcome (Server.holdsLimitedArranged arrange container blocks) server =
      (.error (.database .poolClosed), server)
  /-- Telling the usage always fails. -/
  usage : outcome Server.usage server = (.error (.database .poolClosed), server)
  /-- Looking up templates fails exactly if some block that is no board names a root that is not
  empty and no board at hand.  Otherwise the boards at hand are what is known. -/
  templates : ∀ container blocks, ∃ known : Table Bool,
    (∀ id, known.get? id = (lastOfKind? .board blocks id).map Block.isTemplate) ∧
      outcome (Server.templates container blocks) server =
        (if ∃ block ∈ blocks, block.isBoard = false ∧ block.rootId ≠ "" ∧
              block.rootId ∉ boardIds blocks then
            .error (.database .poolClosed)
          else .ok known, server)
  /-- A request for an upgrade always fails, and the host is not asked for anything. -/
  upgrade : ∀ workspaceId, outcome (Server.requestUpgrade workspaceId) server =
    (.error (if server.directory.isNone then .noHostApi else .database .poolClosed), server)

namespace Server

variable (server : Server ClosedDatabase)

/-- The license is known without a statement. -/
theorem outcome_isLimited_closed :
    outcome isLimited server =
      (.ok (server.cardLimit ≠ 0 && server.store.license.any License.isCloud), server) := by
  rw [isLimited, outcome_bind_ok (outcome_get server)]
  by_cases unlimited : server.cardLimit = 0
  · simp [unlimited]
  · simp only [unlimited, if_false, ne_eq, not_false_eq_true, decide_true, Bool.true_and]
    rfl

/-- A call that is made if a card limit applies, and is not made otherwise. -/
theorem outcome_ifLimited_closed {α : Type} (positive negative : Action (Server ClosedDatabase) α) :
    outcome (do if ← isLimited then positive else negative) server =
      if server.cardLimit ≠ 0 ∧
          (server.store.license.bind License.features).bind Features.cloud = some true then
        outcome positive server
      else outcome negative server := by
  rw [outcome_bind_ok (outcome_isLimited_closed server), outcome_ite]
  simp [License.any_isCloud_iff]

/-- Asking for no blocks needs no statement. -/
theorem outcome_fetch_closed (container : Container) (ids : List String) :
    outcome (fetch container ids) server =
      (if ids = [] then .ok [] else .error (.database .poolClosed), server) := by
  cases ids <;> rfl

/-- Templates are looked up with a statement unless no root is missing. -/
theorem outcome_templates_closed (container : Container) (blocks : List Block) :
    outcome (templates container blocks) server =
      (if missingRoots blocks = [] then .ok (ownTemplates blocks)
        else .error (.database .poolClosed), server) := by
  rw [templates, outcome_bind_pure, outcome_fetch_closed]
  split <;> rfl

/-- Every call of a server fails over a closed database exactly if it needs a statement. -/
theorem answersClosed : AnswersClosed server where
  push limits := by
    intro cardLimit viewLimit
    have cards : (limits.getD {}).cardLimit = cardLimit := ProductLimits.cardLimit_getD limits
    have views : (limits.getD {}).viewLimit = viewLimit := ProductLimits.viewLimit_getD limits
    rw [outcome_setLimits_withLimits, withLimits, cards, views]
    split <;> rfl
  refresh := by
    rw [refreshCutoff, outcome_ifLimited_closed]
    split <;> rfl
  serve container blocks := by
    rw [applyLimits, outcome_ifLimited_closed]
    split <;> rfl
  check arrange container blocks := rfl
  usage := rfl
  templates container blocks := by
    refine ⟨ownTemplates blocks, get?_ownTemplates blocks, ?_⟩
    rw [outcome_templates_closed]
    simp only [← missingRoots_ne_nil_iff, ne_eq, ite_not]
  upgrade workspaceId := by
    rw [requestUpgrade, outcome_bind_ok (outcome_get server)]
    cases server.directory <;> rfl

end Server

/-! ## Whole sessions -/

/-- What a request changes of a server over a closed database, whether or not it fails. -/
structure ClosedStep (asked : Request) (before after : Server ClosedDatabase) : Prop where
  store : after.store = before.store
  pageSize : after.pageSize = before.pageSize
  hosted : after.directory.isNone = before.directory.isNone
  cardLimit : after.cardLimit = asked.cardLimit?.getD before.cardLimit

/-- A request that leaves the server as it is puts no card limit in place. -/
theorem ClosedStep.of_unchanged {asked : Request} {before after : Server ClosedDatabase}
    (noLimit : asked.cardLimit? = none) (same : after = before) :
    ClosedStep asked before after where
  store := by rw [same]
  pageSize := by rw [same]
  hosted := by rw [same]
  cardLimit := by rw [same, noLimit, Option.getD_none]

/-- Asking the host for users changes what is recorded of the host. -/
theorem closedStep_askUsers (query : UserQuery) (server : Server ClosedDatabase) :
    ClosedStep (.askUsers query) server
      (outcome (Request.askUsers query).perform server).2 := by
  rw [Request.perform, outcome_bind_pure]
  cases hosted : server.directory with
  | none =>
    rw [outcome_onDirectory_of_none _ hosted]
    exact .of_unchanged rfl rfl
  | some directory =>
    rw [outcome_onDirectory _ hosted]
    exact ⟨rfl, rfl, by rw [hosted]; rfl, rfl⟩

/-- What every request changes. -/
theorem closedStep (asked : Request) (server : Server ClosedDatabase) :
    ClosedStep asked server (outcome asked.perform server).2 := by
  have answers := server.answersClosed
  cases asked with
  | askUsers query => exact closedStep_askUsers query server
  | setLimits limits =>
    rw [Request.perform, outcome_bind_pure, answers.push]
    exact ⟨rfl, rfl, rfl, rfl⟩
  | setCardLimit limit => exact ⟨rfl, rfl, rfl, rfl⟩
  | isLimited =>
    rw [Request.perform, outcome_bind_pure, Server.outcome_isLimited_closed]
    exact .of_unchanged rfl rfl
  | refreshCutoff =>
    rw [Request.perform, outcome_bind_pure, answers.refresh]
    exact .of_unchanged rfl rfl
  | templates container blocks =>
    rw [Request.perform, outcome_bind_pure, Server.outcome_templates_closed]
    exact .of_unchanged rfl rfl
  | applyLimits container blocks =>
    rw [Request.perform, outcome_bind_pure, answers.serve]
    exact .of_unchanged rfl rfl
  | requestUpgrade workspaceId =>
    rw [Request.perform, outcome_bind_pure, answers.upgrade]
    exact .of_unchanged rfl rfl
  | blocksByIds container ids => cases ids <;> exact .of_unchanged rfl rfl
  | isCloud | usage | holdsLimited | license | cutoff | usedCards | updateCutoff | team | send =>
    exact .of_unchanged rfl rfl

/-- What a session changes: of its requests for card limits the last one counts. -/
theorem afterRequests_closed (session : List Request) (server : Server ClosedDatabase) :
    let reached := server.afterRequests session
    reached.store = server.store ∧ reached.pageSize = server.pageSize ∧
      reached.directory.isNone = server.directory.isNone ∧
      reached.cardLimit =
        ((session.filterMap Request.cardLimit?).getLast?).getD server.cardLimit := by
  induction session generalizing server with
  | nil => exact ⟨rfl, rfl, rfl, rfl⟩
  | cons asked rest inductionHypothesis =>
    have step := closedStep asked server
    obtain ⟨store, pageSize, hosted, cardLimit⟩ :=
      inductionHypothesis (outcome asked.perform server).2
    refine ⟨store.trans step.store, pageSize.trans step.pageSize, hosted.trans step.hosted, ?_⟩
    refine cardLimit.trans ?_
    rw [step.cardLimit, List.filterMap_cons]
    cases asked.cardLimit? with
    | none => rfl
    | some limit =>
      rw [List.getLast?_cons]
      cases (rest.filterMap Request.cardLimit?).getLast? <;> rfl

/-! ## Main statement -/

/-- After every session over a closed database each call of the server fails exactly if it needs a
statement.  The license, the size of pages and whether there is a host are what they were, and the
card limit in place is the last one that the session asked for, whether or not the push of it
failed.  A push fails exactly if it asks for another card limit, a refresh and serving exactly if
there is a card limit and the license is one for the cloud, the check and telling the usage always,
and looking up templates exactly if some root would have to be fetched.  Every such failure is the
error of the closed database.  A request for an upgrade fails with it as well, before the host is
asked for anything, unless there is no host, which is an error of its own. -/
theorem closed_database_fails_as_needed (start : Server ClosedDatabase) (session : List Request) :
    let server := start.afterRequests session
    (server.store = start.store ∧ server.pageSize = start.pageSize ∧
      server.directory.isNone = start.directory.isNone ∧
      server.cardLimit =
        ((session.filterMap Request.cardLimit?).getLast?).getD start.cardLimit) ∧
      AnswersClosed server :=
  ⟨afterRequests_closed session start, Server.answersClosed _⟩

end CardLimits
