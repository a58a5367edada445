import CardLimits.Proofs.Reading
/-!
# The steps of a request

A request over a store in memory is made of few kinds of steps, one after the other: it looks
at the server, asks the store or the host for something, or overwrites a limit.  Looking at the
server it sees nothing of the traces that readings leave.  So a property of actions that every
step has, and that goes over from steps to what is made of them (`StepLaw`), is one of every
request (`StepLaw.perform`), whether it returns or fails.
-/

namespace CardLimits

/-- What has to be known about a property of actions for it to hold of every request. -/
structure StepLaw (holds : (α : Type) → Action (Server MemoryStore) α → Prop) : Prop where
  pure : ∀ {α : Type} (value : α), holds α (Pure.pure value)
  throw : ∀ {α : Type} (error : AppError), holds α (MonadExcept.throw error)
  bind : ∀ {α β : Type} {action : Action (Server MemoryStore) α}
    {next : α → Action (Server MemoryStore) β}, holds α action →
    (∀ value, holds β (next value)) → holds β (action >>= next)
  /-- What is done after a look at the server does not depend on traces of reading. -/
  look : ∀ {α : Type} {next : Server MemoryStore → Action (Server MemoryStore) α},
    (∀ server licenseReads fetches, next (server.withTraces licenseReads fetches) = next server) →
    (∀ server, holds α (next server)) → holds α (MonadState.get >>= next)
  license : holds _ (Server.onStore Store.license)
  cutoff : holds _ (Server.onStore Store.cutoff)
  updateCutoff : ∀ limit, holds _ (Server.onStore (Store.updateCutoff limit))
  usedCards : holds _ (Server.onStore Store.usedCards)
  blocksByIds : ∀ container ids, holds _ (Server.onStore (Store.blocksByIds container ids))
  team : ∀ workspaceId, holds _ (Server.onStore (Store.team workspaceId))
  send : ∀ message, holds _ (Server.onStore (Store.send message))
  ask : ∀ query, holds _ (Server.onDirectory (Directory.ask query))
  setCardLimit : ∀ limit, holds _ (Server.setCardLimit limit)
  setViewLimit : ∀ limit, holds _ (Server.setViewLimit limit)
  changeCardLimit : ∀ limit, holds _ (Server.changeCardLimit limit)

namespace StepLaw

variable {holds : (α : Type) → Action (Server MemoryStore) α → Prop}

/-- Whichever of two actions is chosen, it has the property if both have it. -/
theorem choice {α : Type} {condition : Prop} [Decidable condition]
    {positive negative : Action (Server MemoryStore) α} (first : holds α positive)
    (second : holds α negative) : holds α (if condition then positive else negative) := by
  split
  · exact first
  · exact second

variable (law : StepLaw holds)

include law

theorem isCloud : holds _ Server.isCloud :=
  law.bind law.license fun _ => law.pure _

theorem isLimited : holds _ Server.isLimited := by
  refine law.look (fun _ _ _ => rfl) fun server => ?_
  exact choice (law.pure _) law.isCloud

theorem recompute (limit : Int32) : holds _ (Server.updateCutoff limit) :=
  law.bind (law.updateCutoff limit) fun _ => law.pure _

theorem setLimits (limits : Option ProductLimits) : holds _ (Server.setLimits limits) := by
  refine law.bind (law.setViewLimit _) fun _ => ?_
  refine law.bind (law.changeCardLimit _) fun _ => ?_
  exact choice (law.recompute _) (law.pure _)

theorem refreshCutoff : holds _ Server.refreshCutoff := by
  refine law.bind law.isLimited fun _ => ?_
  refine choice ?_ (law.pure _)
  exact law.look (fun _ _ _ => rfl) fun server => law.recompute server.cardLimit

theorem usage : holds _ Server.usage := by
  refine law.bind law.usedCards fun _ => ?_
  refine law.bind law.cutoff fun _ => ?_
  exact law.look (fun _ _ _ => rfl) fun _ => law.pure _

theorem fetch (container : Container) (ids : List String) :
    holds _ (Server.fetch container ids) :=
  choice (law.pure _) (law.blocksByIds container ids)

theorem templates (container : Container) (blocks : List Block) :
    holds _ (Server.templates container blocks) :=
  law.bind (law.fetch container _) fun _ => law.pure _

theorem cards (container : Container) (blocks : List Block) :
    holds _ (Server.cards container blocks) :=
  law.bind (law.fetch container _) fun _ => law.pure _

theorem applyLimits (container : Container) (blocks : List Block) :
    holds _ (Server.applyLimits container blocks) := by
  refine law.bind law.isLimited fun _ => ?_
  refine choice ?_ (law.pure _)
  refine law.bind law.cutoff fun _ => ?_
  exact law.bind (law.templates container blocks) fun _ => law.pure _

theorem holdsLimited (container : Container) (blocks : List Block) :
    holds _ (Server.holdsLimited container blocks) := by
  refine law.bind law.cutoff fun _ => ?_
  refine choice (law.pure _) ?_
  refine law.bind (law.cards container blocks) fun _ => ?_
  exact law.bind (law.templates container _) fun _ => law.pure _

/-- All pages from one on, by induction on their bound: a page is asked for and written to, and
the pages behind it are left. -/
theorem notifyFrom (team : Option Team) (pages : Nat) (query : UserQuery) :
    holds _ (Server.notifyFrom team pages query) := by
  induction pages generalizing query with
  | zero => exact law.pure _
  | succ pages inductionHypothesis =>
    refine law.bind (law.ask query) fun admins => ?_
    refine choice (law.pure _) ?_
    exact law.bind (law.send _) fun _ => inductionHypothesis _

theorem requestUpgrade (workspaceId : String) : holds _ (Server.requestUpgrade workspaceId) := by
  refine law.look (fun _ _ _ => rfl) fun server => ?_
  split
  · exact law.throw _
  · exact law.bind (law.team workspaceId) fun _ => law.notifyFrom _ _ _

/-- A property that all steps have is one of every request. -/
theorem perform (asked : Request) : holds _ asked.perform := by
  cases asked with
  | isCloud => exact law.bind law.isCloud fun _ => law.pure _
  | isLimited => exact law.bind law.isLimited fun _ => law.pure _
  | setCardLimit limit => exact law.bind (law.setCardLimit limit) fun _ => law.pure _
  | setLimits limits => exact law.bind (law.setLimits limits) fun _ => law.pure _
  | refreshCutoff => exact law.bind law.refreshCutoff fun _ => law.pure _
  | usage => exact law.bind law.usage fun _ => law.pure _
  | templates container blocks =>
    exact law.bind (law.templates container blocks) fun _ => law.pure _
  | applyLimits container blocks =>
    exact law.bind (law.applyLimits container blocks) fun _ => law.pure _
  | holdsLimited container blocks =>
    exact law.bind (law.holdsLimited container blocks) fun _ => law.pure _
  | requestUpgrade workspaceId =>
    exact law.bind (law.requestUpgrade workspaceId) fun _ => law.pure _
  | askUsers query => exact law.bind (law.ask query) fun _ => law.pure _
  | license => exact law.bind law.license fun _ => law.pure _
  | cutoff => exact law.bind law.cutoff fun _ => law.pure _
  | usedCards => exact law.bind law.usedCards fun _ => law.pure _
  | updateCutoff limit => exact law.bind (law.updateCutoff limit) fun _ => law.pure _
  | blocksByIds container ids =>
    exact law.bind (law.blocksByIds container ids) fun _ => law.pure _
  | team workspaceId => exact law.bind (law.team workspaceId) fun _ => law.pure _
  | send message => exact law.bind (law.send message) fun _ => law.pure _

end StepLaw

end CardLimits
