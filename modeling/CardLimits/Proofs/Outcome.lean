import CardLimits.Session
/-!
# Outcomes of composed actions

`outcome` runs an action from a state.  The laws here say what the outcome of an
action is from the outcomes of its parts, so that a call of a server is followed
step by step without opening the monad again: `outcome_bind` is the only place
where the state goes from one step to the next, and an error ends the run in the
state that was reached.  The requests that a store in memory can refuse, a fetch and a
message, have their laws here as well.
-/

namespace CardLimits

variable {σ α β : Type}

@[simp]
theorem outcome_pure (value : α) (state : σ) :
    outcome (pure value : Action σ α) state = (.ok value, state) := rfl

@[simp]
theorem outcome_throw (error : AppError) (state : σ) :
    outcome (throw error : Action σ α) state = (.error error, state) := rfl

@[simp]
theorem outcome_get (state : σ) : outcome (get : Action σ σ) state = (.ok state, state) := rfl

@[simp]
theorem outcome_modify (change : σ → σ) (state : σ) :
    outcome (modify change : Action σ Unit) state = (.ok (), change state) := rfl

@[simp]
theorem outcome_modifyGet (change : σ → α × σ) (state : σ) :
    outcome (modifyGet change : Action σ α) state =
      (.ok (change state).1, (change state).2) := rfl

/-- The second action starts from the state that the first one leaves; an error of
the first is the error of the whole. -/
theorem outcome_bind (action : Action σ α) (next : α → Action σ β) (state : σ) :
    outcome (action >>= next) state =
      match outcome action state with
      | (.ok value, reached) => outcome (next value) reached
      | (.error error, reached) => (.error error, reached) := by
  simp only [outcome, EStateM.run, bind, EStateM.bind]
  cases action state <;> rfl

/-- A first step that returns hands its value and its state on. -/
theorem outcome_bind_ok {action : Action σ α} {next : α → Action σ β} {state reached : σ}
    {value : α} (first : outcome action state = (.ok value, reached)) :
    outcome (action >>= next) state = outcome (next value) reached := by
  rw [outcome_bind, first]

/-- A last step that only computes changes the answer and nothing else. -/
theorem outcome_bind_pure (action : Action σ α) (finish : α → β) (state : σ) :
    outcome (action >>= fun value => pure (finish value)) state =
      ((outcome action state).1.map finish, (outcome action state).2) := by
  rw [outcome_bind]
  rcases outcome action state with ⟨error | value, reached⟩ <;> rfl

/-- The answer is computed from that of the step before. -/
theorem answer_bind_pure (action : Action σ α) (finish : α → β) (state : σ) :
    (outcome (action >>= fun value => pure (finish value)) state).1 =
      (outcome action state).1.map finish := by
  rw [outcome_bind_pure]

/-- Which of two actions is run is settled before either of them runs. -/
theorem outcome_ite (condition : Prop) [Decidable condition] (positive negative : Action σ α)
    (state : σ) :
    outcome (if condition then positive else negative) state =
      if condition then outcome positive state else outcome negative state := by
  split <;> rfl

/-- An action on the store leaves the rest of the server as it is. -/
theorem outcome_onStore (action : Action σ α) (server : Server σ) :
    outcome (Server.onStore action) server =
      ((outcome action server.store).1,
        { server with store := (outcome action server.store).2 }) := by
  simp only [outcome, Server.onStore, EStateM.run]
  cases action server.store <;> rfl

/-- An action on the users of the host leaves the rest of the server as it is. -/
theorem outcome_onDirectory (action : Action Directory α) {server : Server σ}
    {directory : Directory} (hosted : server.directory = some directory) :
    outcome (Server.onDirectory action) server =
      ((outcome action directory).1,
        { server with directory := some (outcome action directory).2 }) := by
  simp only [outcome, Server.onDirectory, EStateM.run, hosted]
  cases action directory <;> rfl

/-- Without a host an action on its users is refused and changes nothing. -/
theorem outcome_onDirectory_of_none (action : Action Directory α) {server : Server σ}
    (unhosted : server.directory = none) :
    outcome (Server.onDirectory action) server = (.error .noHostApi, server) := by
  simp only [outcome, Server.onDirectory, EStateM.run, unhosted]

/-- The host refuses a page without room and answers every other query; it records both. -/
theorem Directory.outcome_ask (query : UserQuery) (directory : Directory) :
    outcome (Directory.ask query) directory =
      (if query.perPage = 0 then .error (.hostApi "per_page must be positive")
        else .ok (directory.answer query),
        { directory with requests := directory.requests ++ [query] }) := by
  simp only [Directory.ask, outcome_bind, outcome_modify, outcome_get, outcome_ite,
    outcome_pure, outcome_throw]
  split <;> rfl

/-- What the store answers when blocks are fetched, which it records in any case. -/
theorem MemoryStore.outcome_blocksByIds (container : Container) (ids : List String)
    (store : MemoryStore) :
    outcome (Store.blocksByIds container ids) store =
      (match store.fetchFailure with
        | some text => .error (.internal text)
        | none => .ok (ids.filterMap (store.blocks.find? container.workspaceId)),
        { store with fetches := store.fetches ++ [ids] }) := by
  simp only [Store.blocksByIds, MemoryStore.blocksByIds, outcome_bind, outcome_modify, outcome_get]
  cases store.fetchFailure with
  | some text => simp only [outcome_throw]
  | none => simp only [outcome_pure]

/-- What becomes of a message, which is recorded if it is sent. -/
theorem MemoryStore.outcome_send (message : Message) (store : MemoryStore) :
    outcome (Store.send message) store =
      match store.sendFailure with
      | some text => (.error (.internal text), store)
      | none => (.ok (), { store with sent := store.sent ++ [message] }) := by
  simp only [Store.send, MemoryStore.send, outcome_bind, outcome_get]
  cases sends : store.sendFailure with
  | some text => simp only [outcome_throw]
  | none => simp only [outcome_modify, sends]

end CardLimits
