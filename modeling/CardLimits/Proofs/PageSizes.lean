import CardLimits.Proofs.LimitHistory
import CardLimits.Proofs.Steps
/-!
# The sizes of the pages that are asked for

A request for an upgrade asks the host for pages of one size only, that of the server
(`queries_of_requestUpgrade`, by induction on the number of pages).  Nothing that happens in a
session changes it (`pageSize_after`), so it is the size of the pages that are asked for after any
session (`queries_of_requestUpgrade_after`).
-/

namespace CardLimits

/-- The queries that the host of a server was asked, the oldest first. -/
def Server.queries {σ : Type} (server : Server σ) : List UserQuery :=
  (server.directory.map Directory.requests).getD []

/-! ## Pages of one size -/

section OneSize

variable {σ α β : Type} {size : UInt64}

/-- Whether an action asks the host for pages of one size only. -/
def AsksFor (size : UInt64) (action : Action (Server σ) α) : Prop :=
  ∀ server, ∃ queries, (outcome action server).2.queries = server.queries ++ queries ∧
    ∀ query ∈ queries, query.perPage = size

namespace AsksFor

/-- What does not touch the host asks it for nothing. -/
theorem of_directory {action : Action (Server σ) α}
    (kept : ∀ server, (outcome action server).2.directory = server.directory) :
    AsksFor size action := by
  intro server
  refine ⟨[], ?_, List.forall_mem_nil _⟩
  rw [List.append_nil, Server.queries, kept, Server.queries]

/-- The store is not the host. -/
theorem onStore (action : Action σ α) : AsksFor size (Server.onStore action) :=
  of_directory fun server => by rw [outcome_onStore]

/-- A page of the size is asked for. -/
theorem ask {query : UserQuery} (sized : query.perPage = size) :
    AsksFor size (Server.onDirectory (σ := σ) (Directory.ask query)) := by
  intro server
  cases hosted : server.directory with
  | none =>
    refine ⟨[], ?_, List.forall_mem_nil _⟩
    rw [outcome_onDirectory_of_none _ hosted, List.append_nil]
  | some directory =>
    refine ⟨[query], ?_, List.forall_mem_singleton.mpr sized⟩
    rw [outcome_onDirectory _ hosted, Directory.outcome_ask, Server.queries, Server.queries,
      hosted]
    rfl

/-- Actions that ask for pages of the size do so one after the other; if the first fails there is
no second. -/
theorem bind {action : Action (Server σ) α} {next : α → Action (Server σ) β}
    (first : AsksFor size action) (second : ∀ value, AsksFor size (next value)) :
    AsksFor size (action >>= next) := by
  intro server
  obtain ⟨queries, asked, sized⟩ := first server
  rw [outcome_bind]
  rcases ran : outcome action server with ⟨error | value, reached⟩
  all_goals rw [ran] at asked
  · exact ⟨queries, asked, sized⟩
  · obtain ⟨others, askedLater, sizedLater⟩ := second value reached
    refine ⟨queries ++ others, ?_, List.forall_mem_append.mpr ⟨sized, sizedLater⟩⟩
    dsimp only at asked ⊢
    rw [askedLater, asked, List.append_assoc]

variable [Store σ]

/-- All pages from one on have its size, by induction on their bound. -/
theorem notifyFrom (team : Option Team) (pages : Nat) {query : UserQuery}
    (sized : query.perPage = size) :
    AsksFor size (Server.notifyFrom (σ := σ) team pages query) := by
  induction pages generalizing query with
  | zero => exact of_directory fun _ => rfl
  | succ pages inductionHypothesis =>
    refine (ask sized).bind fun admins => ?_
    split
    · exact of_directory fun _ => rfl
    · exact (onStore _).bind fun _ => inductionHypothesis sized

end AsksFor

/-- A request for an upgrade asks for pages of the server's size only. -/
theorem queries_of_requestUpgrade [Store σ] (workspaceId : String) (server : Server σ) :
    ∃ queries,
      (outcome (Server.requestUpgrade workspaceId) server).2.queries = server.queries ++ queries ∧
        ∀ query ∈ queries, query.perPage = server.pageSize := by
  rw [Server.requestUpgrade, outcome_bind, outcome_get]
  dsimp only
  cases server.directory with
  | none => exact AsksFor.of_directory (fun _ => rfl) server
  | some directory =>
    exact ((AsksFor.onStore _).bind fun team => AsksFor.notifyFrom team _ rfl) server

end OneSize

/-! ## The size of a server -/

/-- Whether an action leaves the size of the pages as it is. -/
def KeepsPageSize (α : Type) (action : Action (Server MemoryStore) α) : Prop :=
  ∀ server, (outcome action server).2.pageSize = server.pageSize

/-- Two actions that keep the size do so one after the other; if the first fails there is no
second. -/
theorem KeepsPageSize.bind {α β : Type} {action : Action (Server MemoryStore) α}
    {next : α → Action (Server MemoryStore) β} (first : KeepsPageSize α action)
    (second : ∀ value, KeepsPageSize β (next value)) : KeepsPageSize β (action >>= next) := by
  intro server
  have kept := first server
  rw [outcome_bind]
  rcases ran : outcome action server with ⟨error | value, reached⟩
  all_goals rw [ran] at kept
  · exact kept
  · exact (second value reached).trans kept

/-- The store does not hold the size. -/
theorem KeepsPageSize.onStore {α : Type} (action : Action MemoryStore α) :
    KeepsPageSize α (Server.onStore action) := by
  intro server
  rw [outcome_onStore]

/-- The host does not hold the size. -/
theorem KeepsPageSize.onDirectory {α : Type} (action : Action Directory α) :
    KeepsPageSize α (Server.onDirectory action) := by
  intro server
  cases hosted : server.directory with
  | none => rw [outcome_onDirectory_of_none action hosted]
  | some directory => rw [outcome_onDirectory action hosted]

/-- No step of a request changes the size. -/
theorem keepsPageSize : StepLaw KeepsPageSize where
  pure _ _ := rfl
  throw _ _ := rfl
  bind := KeepsPageSize.bind
  look _ next := KeepsPageSize.bind (fun _ => rfl) next
  license := .onStore _
  cutoff := .onStore _
  updateCutoff _ := .onStore _
  usedCards := .onStore _
  blocksByIds _ _ := .onStore _
  team _ := .onStore _
  send _ := .onStore _
  ask _ := .onDirectory _
  setCardLimit _ _ := rfl
  setViewLimit _ _ := rfl
  changeCardLimit _ _ := rfl

/-- A session does not change the size. -/
theorem pageSize_after (operations : List Operation) (server : Server MemoryStore) :
    (server.after operations).pageSize = server.pageSize := by
  induction operations generalizing server with
  | nil => rfl
  | cons operation rest inductionHypothesis =>
    rw [Server.after_cons, inductionHypothesis]
    cases operation with
    | request asked => exact keepsPageSize.perform asked server
    | setLicense | setCutoff | insertBlocks | insertTeam | failFetches | failSending => rfl

/-- Whatever happened before, a request for an upgrade asks for pages of the size that the server
started with. -/
theorem queries_of_requestUpgrade_after (workspaceId : String) (operations : List Operation)
    (server : Server MemoryStore) :
    ∃ queries,
      (outcome (Server.requestUpgrade workspaceId) (server.after operations)).2.queries =
          (server.after operations).queries ++ queries ∧
        ∀ query ∈ queries, query.perPage = server.pageSize := by
  have asked := queries_of_requestUpgrade workspaceId (server.after operations)
  rwa [pageSize_after] at asked

end CardLimits
