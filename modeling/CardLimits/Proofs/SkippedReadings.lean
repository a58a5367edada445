import CardLimits.Proofs.Serving
import CardLimits.Proofs.Steps
/-!
# Readings that are left out

Reading leaves traces, and nothing ever looks at them: from two servers that differ in the traces
only, every request comes to the same answer, or to the same failure, and to servers that again
differ in the traces only (`ignoresTraces`).  So a session may as well be performed without some
of its readings.  What the other operations come to, and everything in the state but the traces,
is the same (`session_without_readings`, by induction on the session: an operation that stays
keeps the two servers together, and a reading that is left out moves them apart by its traces).
-/

namespace CardLimits

/-- Other traces replace the ones that were there. -/
@[simp]
theorem Server.withTraces_withTraces (server : Server MemoryStore) (licenseReads laterReads : Nat)
    (fetches laterFetches : List (List String)) :
    (server.withTraces licenseReads fetches).withTraces laterReads laterFetches =
      server.withTraces laterReads laterFetches := rfl

/-- Whether traces of reading make no difference to an action: it answers or fails alike, and
the state that it reaches is the same up to the traces. -/
def IgnoresTraces (α : Type) (action : Action (Server MemoryStore) α) : Prop :=
  ∀ server licenseReads fetches, ∃ laterReads laterFetches,
    outcome action (server.withTraces licenseReads fetches) =
      ((outcome action server).1,
        (outcome action server).2.withTraces laterReads laterFetches)

namespace IgnoresTraces

variable {α β : Type}

/-- Two actions that ignore the traces do so one after the other. -/
theorem bind {action : Action (Server MemoryStore) α}
    {next : α → Action (Server MemoryStore) β} (first : IgnoresTraces α action)
    (second : ∀ value, IgnoresTraces β (next value)) : IgnoresTraces β (action >>= next) := by
  intro server licenseReads fetches
  obtain ⟨reads, fetched, ran⟩ := first server licenseReads fetches
  rw [outcome_bind, outcome_bind, ran]
  rcases outcome action server with ⟨error | value, reached⟩
  · exact ⟨reads, fetched, rfl⟩
  · exact second value reached reads fetched

/-- An action on the store ignores the traces if it does so on every store. -/
theorem onStore {action : Action MemoryStore α}
    (ignores : ∀ (store : MemoryStore) licenseReads fetches, ∃ laterReads laterFetches,
      outcome action (store.withTraces licenseReads fetches) =
        ((outcome action store).1,
          (outcome action store).2.withTraces laterReads laterFetches)) :
    IgnoresTraces α (Server.onStore action) := by
  intro server licenseReads fetches
  obtain ⟨laterReads, laterFetches, ran⟩ := ignores server.store licenseReads fetches
  have traced : (server.withTraces licenseReads fetches).store =
      server.store.withTraces licenseReads fetches := rfl
  refine ⟨laterReads, laterFetches, ?_⟩
  rw [outcome_onStore, outcome_onStore, traced, ran]
  rfl

/-- What the host answers does not depend on the store. -/
theorem onDirectory (action : Action Directory α) :
    IgnoresTraces α (Server.onDirectory action) := by
  intro server licenseReads fetches
  refine ⟨licenseReads, fetches, ?_⟩
  cases hosted : server.directory with
  | none =>
    have alsoNone : (server.withTraces licenseReads fetches).directory = none := hosted
    rw [outcome_onDirectory_of_none action hosted, outcome_onDirectory_of_none action alsoNone]
  | some directory =>
    have alsoHosted : (server.withTraces licenseReads fetches).directory = some directory := hosted
    rw [outcome_onDirectory action hosted, outcome_onDirectory action alsoHosted]
    rfl

/-- A fetch adds to the traces. -/
theorem blocksByIds (container : Container) (ids : List String) :
    IgnoresTraces _ (Server.onStore (Store.blocksByIds container ids)) := by
  refine onStore fun store licenseReads fetches => ⟨licenseReads, fetches ++ [ids], ?_⟩
  rw [MemoryStore.outcome_blocksByIds, MemoryStore.outcome_blocksByIds]
  rfl

/-- Whether a message can be sent does not depend on the traces. -/
theorem send (message : Message) : IgnoresTraces _ (Server.onStore (Store.send message)) := by
  refine onStore fun store licenseReads fetches => ⟨licenseReads, fetches, ?_⟩
  have sameFailure : (store.withTraces licenseReads fetches).sendFailure = store.sendFailure := rfl
  rw [MemoryStore.outcome_send, MemoryStore.outcome_send, sameFailure]
  cases store.sendFailure with
  | none => rfl
  | some text => rfl

end IgnoresTraces

/-- No step of a request looks at the traces. -/
theorem ignoresTraces : StepLaw IgnoresTraces where
  pure _ _ licenseReads fetches := ⟨licenseReads, fetches, rfl⟩
  throw _ _ licenseReads fetches := ⟨licenseReads, fetches, rfl⟩
  bind := IgnoresTraces.bind
  look blind next server licenseReads fetches := by
    rw [outcome_bind, outcome_bind, outcome_get, outcome_get]
    dsimp only
    rw [blind server licenseReads fetches]
    exact next server server licenseReads fetches
  license := .onStore fun _ licenseReads fetches => ⟨licenseReads + 1, fetches, rfl⟩
  cutoff := .onStore fun _ licenseReads fetches => ⟨licenseReads, fetches, rfl⟩
  updateCutoff _ := .onStore fun _ licenseReads fetches => ⟨licenseReads, fetches, rfl⟩
  usedCards := .onStore fun _ licenseReads fetches => ⟨licenseReads, fetches, rfl⟩
  blocksByIds := .blocksByIds
  team _ := .onStore fun _ licenseReads fetches => ⟨licenseReads, fetches, rfl⟩
  send := .send
  ask query := .onDirectory (Directory.ask query)
  setCardLimit _ _ licenseReads fetches := ⟨licenseReads, fetches, rfl⟩
  setViewLimit _ _ licenseReads fetches := ⟨licenseReads, fetches, rfl⟩
  changeCardLimit _ _ licenseReads fetches := ⟨licenseReads, fetches, rfl⟩

namespace Operation

/-- Whether an operation only reads what the server and its store have. -/
def isReading : Operation → Bool
  | request asked => asked.isReading
  | _ => false

/-- An operation comes to the same from servers that differ in the traces only. -/
theorem ignoresTraces_perform (operation : Operation) :
    IgnoresTraces Answer operation.perform := by
  cases operation with
  | request asked => exact ignoresTraces.perform asked
  | setLicense | setCutoff | insertBlocks | insertTeam | failFetches | failSending =>
    exact fun _ licenseReads fetches => ⟨licenseReads, fetches, rfl⟩

/-- A reading leaves traces only. -/
theorem onlyReads_perform {operation : Operation} (reading : operation.isReading = true) :
    OnlyReads operation.perform := by
  cases operation with
  | request asked => exact asked.onlyReads_perform reading
  | setLicense | setCutoff | insertBlocks | insertTeam | failFetches | failSending => cases reading

end Operation

/-- The items of a list that are marked to stay. -/
def staying {α : Type} (marks : List Bool) (items : List α) : List α :=
  (items.zip marks).filterMap fun entry => if entry.2 then some entry.1 else none

/-- An item stays in front of the others that stay, if it is marked to. -/
theorem staying_cons {α : Type} (mark : Bool) (marks : List Bool) (item : α) (rest : List α) :
    staying (mark :: marks) (item :: rest) =
      if mark then item :: staying marks rest else staying marks rest := by
  cases mark with
  | true => rfl
  | false => rfl

/-- The first operation of a session is answered first, and the rest goes on from the state that
it reached. -/
theorem performAll_cons (operation : Operation) (rest : List Operation)
    (server : Server MemoryStore) :
    performAll (operation :: rest) server =
      ((outcome operation.perform server).1 ::
          (performAll rest (outcome operation.perform server).2).1,
        (performAll rest (outcome operation.perform server).2).2) := rfl

/-- A session without some of its readings, from a server that may differ in the traces. -/
theorem performAll_staying {session : List (Operation × Bool)}
    (onlyReadingsGo : ∀ entry ∈ session, entry.2 = false → entry.1.isReading = true)
    (server : Server MemoryStore) (licenseReads : Nat) (fetches : List (List String)) :
    ∃ laterReads laterFetches,
      performAll (staying (session.map Prod.snd) (session.map Prod.fst))
          (server.withTraces licenseReads fetches) =
        (staying (session.map Prod.snd) (performAll (session.map Prod.fst) server).1,
          (performAll (session.map Prod.fst) server).2.withTraces laterReads laterFetches) := by
  induction session generalizing server licenseReads fetches with
  | nil => exact ⟨licenseReads, fetches, rfl⟩
  | cons entry rest inductionHypothesis =>
    obtain ⟨operation, stays⟩ := entry
    obtain ⟨first, others⟩ := List.forall_mem_cons.mp onlyReadingsGo
    simp only [List.map_cons, staying_cons, performAll_cons]
    cases stays with
    | true =>
      obtain ⟨reads, fetched, same⟩ :=
        operation.ignoresTraces_perform server licenseReads fetches
      obtain ⟨laterReads, laterFetches, run⟩ :=
        inductionHypothesis others (outcome operation.perform server).2 reads fetched
      refine ⟨laterReads, laterFetches, ?_⟩
      rw [if_pos rfl, if_pos rfl, performAll_cons, same, run]
    | false =>
      obtain ⟨reads, fetched, traces⟩ := Operation.onlyReads_perform (first rfl) server
      obtain ⟨laterReads, laterFetches, run⟩ :=
        inductionHypothesis others (outcome operation.perform server).2 licenseReads fetches
      refine ⟨laterReads, laterFetches, ?_⟩
      rw [if_neg Bool.false_ne_true, if_neg Bool.false_ne_true, ← run, traces,
        Server.withTraces_withTraces]

/-- A session may be performed without any of its readings.  Each operation is marked to stay or
to be left out, and only readings are left out.  Every operation that stays then comes to what it
comes to in the whole session, be it an answer or a failure, and the server ends in the same
state: the same limits, the same cutoff, blocks, teams, messages and computations of the cutoff
in the store, the same failures that were brought about, and the same queries to the host.  Only
the traces of reading may be others. -/
theorem session_without_readings (server : Server MemoryStore)
    (session : List (Operation × Bool))
    (onlyReadingsGo : ∀ entry ∈ session, entry.2 = false → entry.1.isReading = true) :
    let operations := session.map Prod.fst
    let marks := session.map Prod.snd
    (performAll (staying marks operations) server).1 =
        staying marks (performAll operations server).1 ∧
      ∃ licenseReads fetches,
        (performAll (staying marks operations) server).2 =
          (performAll operations server).2.withTraces licenseReads fetches := by
  intro operations marks
  obtain ⟨licenseReads, fetches, run⟩ := performAll_staying onlyReadingsGo server
    server.store.licenseReads server.store.fetches
  have untouched : server.withTraces server.store.licenseReads server.store.fetches = server := rfl
  rw [untouched] at run
  exact ⟨congrArg Prod.fst run, licenseReads, fetches, congrArg Prod.snd run⟩

/-- A session on the sample server with readings that return, a reading that fails, and a push
and a refresh behind them; the readings marked with `false` are left out. -/
def sampleSession : List (Operation × Bool) :=
  [(.request .isCloud, false),
    (.request (.applyLimits ⟨"0"⟩ [oldCard "first" "board"]), false),
    (.request (.applyLimits ⟨"0"⟩ [oldCard "second" "template"]), true),
    (.failFetches "down", true),
    (.request (.holdsLimited ⟨"0"⟩ [oldCard "first" "board"]), false),
    (.request (.templates ⟨"0"⟩ [oldCard "first" "board"]), true),
    (.request (.setLimits (some (.withCards 2))), true),
    (.request .refreshCutoff, true)]

/-- Without three of its readings the sample session has five answers, of which one is a failure,
and the cutoff is computed twice. -/
theorem session_without_readings_sampleSession :
    (∀ entry ∈ sampleSession, entry.2 = false → entry.1.isReading = true) ∧
      (performAll (staying (sampleSession.map Prod.snd) (sampleSession.map Prod.fst))
          sampleServer).1 =
        [.ok (.blocks [oldCard "second" "template"]), .ok .done, .error (.internal "down"),
          .ok .done, .ok .done] ∧
      (performAll (staying (sampleSession.map Prod.snd) (sampleSession.map Prod.fst))
          sampleServer).2.store.cutoffUpdates = [2, 2] := by
  have onlyReadingsGo : ∀ entry ∈ sampleSession, entry.2 = false → entry.1.isReading = true := by
    simp [sampleSession, Operation.isReading, Request.isReading]
  obtain ⟨answers, licenseReads, fetches, reached⟩ :=
    session_without_readings sampleServer sampleSession onlyReadingsGo
  refine ⟨onlyReadingsGo, answers.trans ?_, ?_⟩
  · rfl
  · rw [reached]
    rfl

end CardLimits
