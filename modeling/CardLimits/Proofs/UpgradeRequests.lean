import CardLimits.Proofs.Outcome
import Mathlib.Algebra.Order.Floor.Div
/-!
# Every administrator is asked once

A request for an upgrade goes through the pages of administrators up to the first empty
one.  One page means one query and, unless it is empty, one message (`outcome_askPage`,
`outcome_send`).  From a page on the run therefore asks for all pages that are left and the
empty one behind them, and writes to each of the former (`outcome_notifyFrom`, by induction on
the number of pages left).  As the pages are a division of the list of administrators
(`flatMap_pageOf_ceilDiv`), everybody is written to exactly once
(`requestUpgrade_reaches_administrators`).
-/

namespace CardLimits

/-! ## Pages -/

namespace Directory

/-- The system administrators whose accounts are not deleted, in the order of the users. -/
def administrators (directory : Directory) : List User :=
  directory.users.filter fun user => user.isActive && user.hasRole UserQuery.systemAdminRole

variable {α : Type} {perPage : Nat}

/-- No page has more items than there is room on it. -/
theorem length_pageOf_le (perPage page : Nat) (items : List α) :
    (pageOf perPage page items).length ≤ perPage :=
  List.length_take_le _ _

/-- A page is empty exactly if the pages before it have room for all items. -/
theorem pageOf_eq_nil_iff (room : 0 < perPage) {page : Nat} {items : List α} :
    pageOf perPage page items = [] ↔ items.length ≤ page * perPage := by
  rw [pageOf, List.take_eq_nil_iff, List.drop_eq_nil_iff, or_iff_right room.ne']

/-- The first pages one behind the other are the first items. -/
theorem flatMap_pageOf (perPage pages : Nat) (items : List α) :
    ((List.range pages).flatMap fun page => pageOf perPage page items) =
      items.take (pages * perPage) := by
  induction pages with
  | zero => simp
  | succ pages inductionHypothesis =>
    rw [List.range_succ, List.flatMap_append, inductionHypothesis, List.flatMap_singleton, pageOf,
      Nat.succ_mul, List.take_add]

/-- All pages one behind the other are all items. -/
theorem flatMap_pageOf_ceilDiv (room : 0 < perPage) (items : List α) :
    ((List.range (items.length ⌈/⌉ perPage)).flatMap fun page => pageOf perPage page items) =
      items := by
  rw [flatMap_pageOf, List.take_of_length_le]
  exact (ceilDiv_le_iff_le_mul room).mp (Nat.le_refl _) |>.trans_eq (Nat.mul_comm _ _)

/-- The number of pages with administrators. -/
def adminPages (directory : Directory) (perPage : Nat) : Nat :=
  directory.administrators.length ⌈/⌉ perPage

/-- The empty pages are those behind the pages with administrators. -/
theorem pageOf_administrators_eq_nil_iff (room : 0 < perPage) {page : Nat}
    {directory : Directory} :
    pageOf perPage page directory.administrators = [] ↔ directory.adminPages perPage ≤ page := by
  rw [pageOf_eq_nil_iff room, adminPages, ceilDiv_le_iff_le_mul room, Nat.mul_comm]

/-- There are no more pages with administrators than users. -/
theorem adminPages_le (room : 0 < perPage) (directory : Directory) :
    directory.adminPages perPage ≤ directory.users.length := by
  have everyPageFull : directory.adminPages perPage ≤ directory.administrators.length :=
    (ceilDiv_le_iff_le_mul room).mpr (Nat.le_mul_of_pos_left _ room)
  exact everyPageFull.trans (List.length_filter_le _ _)

end Directory

/-- A page size that is not zero is room for somebody. -/
theorem toNat_pos_of_ne_zero {perPage : UInt64} (room : perPage ≠ 0) : 0 < perPage.toNat :=
  UInt64.lt_iff_toNat_lt.mp (UInt64.pos_iff_ne_zero.mpr room)

/-- The query for a page of administrators. -/
def adminPage (perPage : UInt64) (page : Nat) : UserQuery :=
  { UserQuery.systemAdmins perPage with page := .ofNat page }

/-- The query for the page behind another one. -/
theorem adminPage_next (perPage : UInt64) (page : Nat) :
    { adminPage perPage page with page := (adminPage perPage page).page + 1 } =
      adminPage perPage (page + 1) := by
  simp [adminPage, UInt64.ofNat_add]

/-- A page is asked for by its own number, as long as the number fits. -/
theorem toNat_page_adminPage (perPage : UInt64) {page : Nat} (fits : page < UInt64.size) :
    (adminPage perPage page).page.toNat = page :=
  UInt64.toNat_ofNat_of_lt' fits

/-- The first pages are asked for one behind the other, as long as their numbers fit. -/
theorem pages_adminPages (perPage : UInt64) {count : Nat} (fits : count ≤ UInt64.size) :
    ((List.range count).map (adminPage perPage)).map (fun request => request.page.toNat) =
      List.range count := by
  rw [List.map_map]
  refine (List.map_congr_left fun page member => ?_).trans (List.map_id _)
  exact toNat_page_adminPage perPage (Nat.lt_of_lt_of_le (List.mem_range.mp member) fits)

/-- The answer is the page of that number among the administrators. -/
theorem answer_adminPage (directory : Directory) (perPage : UInt64) {page : Nat}
    (fits : page < UInt64.size) :
    directory.answer (adminPage perPage page) =
      Directory.pageOf perPage.toNat page directory.administrators := by
  have selects (user : User) : (adminPage perPage page).selects user =
      (user.isActive && user.hasRole UserQuery.systemAdminRole) := by
    have named : UserQuery.systemAdminRole.isEmpty = false := by decide
    simp [adminPage, UserQuery.systemAdmins, UserQuery.selects, named]
  rw [Directory.answer, toNat_page_adminPage perPage fits, Directory.administrators,
    List.filter_congr fun user _ => selects user]
  rfl

/-- A page with room for somebody is answered for and recorded, if its number fits. -/
theorem Directory.outcome_ask_adminPage (directory : Directory) {perPage : UInt64}
    (room : perPage ≠ 0) {page : Nat} (fits : page < UInt64.size) :
    outcome (ask (adminPage perPage page)) directory =
      (.ok (pageOf perPage.toNat page directory.administrators),
        { directory with requests := directory.requests ++ [adminPage perPage page] }) := by
  have hasRoom : (adminPage perPage page).perPage ≠ 0 := room
  rw [outcome_ask, if_neg hasRoom, answer_adminPage directory perPage fits]

/-- The message for the administrators on a page. -/
def pageMessage (directory : Directory) (team : Option Team) (perPage : UInt64) (page : Nat) :
    Message :=
  upgradeMessage team (Directory.pageOf perPage.toNat page directory.administrators)

/-! ## One step -/

namespace Server

/-- The server after queries to its host and messages that were sent. -/
def notified (requests : List UserQuery) (messages : List Message) (server : Server MemoryStore) :
    Server MemoryStore :=
  { server with
    directory := server.directory.map fun directory =>
      { directory with requests := directory.requests ++ requests }
    store := { server.store with sent := server.store.sent ++ messages } }

/-- Queries and messages are recorded behind the earlier ones. -/
@[simp]
theorem notified_notified (requests laterRequests : List UserQuery)
    (messages laterMessages : List Message) (server : Server MemoryStore) :
    (server.notified requests messages).notified laterRequests laterMessages =
      server.notified (requests ++ laterRequests) (messages ++ laterMessages) := by
  cases server.directory <;> simp [notified, Function.comp_def]

variable {server : Server MemoryStore} {directory : Directory}

/-- The host refuses a page without room and answers every other query; it records both. -/
theorem outcome_ask (query : UserQuery) (hosted : server.directory = some directory) :
    outcome (onDirectory (Directory.ask query)) server =
      (if query.perPage = 0 then .error (.hostApi "per_page must be positive")
        else .ok (directory.answer query), server.notified [query] []) := by
  rw [outcome_onDirectory _ hosted, Directory.outcome_ask]
  simp [notified, hosted]

/-- A store that sends records the message. -/
theorem outcome_send (message : Message) (sends : server.store.sendFailure = none) :
    outcome (onStore (Store.send message)) server = (.ok (), server.notified [] [message]) := by
  rw [outcome_onStore, MemoryStore.outcome_send, sends]
  simp [notified, sends]

/-- A store that does not send is left as it is, and the error is its own. -/
theorem outcome_send_of_failure (message : Message) {text : String}
    (fails : server.store.sendFailure = some text) :
    outcome (onStore (Store.send message)) server = (.error (.internal text), server) := by
  rw [outcome_onStore, MemoryStore.outcome_send, fails]

/-- Asking for a page of administrators, if the page has room and its number fits. -/
theorem outcome_askPage {perPage : UInt64} (room : perPage ≠ 0) {page : Nat}
    (fits : page < UInt64.size) (hosted : server.directory = some directory) :
    outcome (onDirectory (Directory.ask (adminPage perPage page))) server =
      (.ok (Directory.pageOf perPage.toNat page directory.administrators),
        server.notified [adminPage perPage page] []) := by
  rw [outcome_onDirectory _ hosted, directory.outcome_ask_adminPage room fits]
  simp [notified, hosted]

/-! ## All pages from one on -/

/-- Pages without room are refused when the first of them is asked for. -/
theorem outcome_notifyFrom_of_noRoom (team : Option Team) (bound : Nat) {query : UserQuery}
    (noRoom : query.perPage = 0) (hosted : server.directory = some directory) :
    outcome (notifyFrom team (bound + 1) query) server =
      (.error (.hostApi "per_page must be positive"), server.notified [query] []) := by
  rw [notifyFrom, outcome_bind, outcome_ask query hosted, if_pos noRoom]

section Pages

variable (team : Option Team) {perPage : UInt64} (room : perPage ≠ 0)

include room

/-- The first page without administrators is asked for, and ends the run. -/
theorem outcome_notifyFrom_of_empty (bound : Nat) {page : Nat} (fits : page < UInt64.size)
    (hosted : server.directory = some directory)
    (empty : Directory.pageOf perPage.toNat page directory.administrators = []) :
    outcome (notifyFrom team (bound + 1) (adminPage perPage page)) server =
      (.ok (), server.notified [adminPage perPage page] []) := by
  rw [notifyFrom, outcome_bind_ok (outcome_askPage room fits hosted), empty]
  rfl

/-- A page with administrators is asked for and written to, and the run goes on with the page
behind it. -/
theorem outcome_notifyFrom_of_page (bound : Nat) {page : Nat} (fits : page < UInt64.size)
    (hosted : server.directory = some directory) (sends : server.store.sendFailure = none)
    (notEmpty : Directory.pageOf perPage.toNat page directory.administrators ≠ []) :
    outcome (notifyFrom team (bound + 1) (adminPage perPage page)) server =
      outcome (notifyFrom team bound (adminPage perPage (page + 1)))
        (server.notified [adminPage perPage page]
          [pageMessage directory team perPage page]) := by
  have stillSends : (server.notified [adminPage perPage page] []).store.sendFailure = none := sends
  rw [notifyFrom, outcome_bind_ok (outcome_askPage room fits hosted), outcome_ite,
    if_neg (by simpa using notEmpty), outcome_bind_ok (outcome_send _ stillSends),
    notified_notified, adminPage_next]
  rfl

/-- A page with administrators is asked for, and if the store does not send, its error ends
the run. -/
theorem outcome_notifyFrom_of_failure (bound : Nat) {page : Nat} (fits : page < UInt64.size)
    (hosted : server.directory = some directory) {text : String}
    (fails : server.store.sendFailure = some text)
    (notEmpty : Directory.pageOf perPage.toNat page directory.administrators ≠ []) :
    outcome (notifyFrom team (bound + 1) (adminPage perPage page)) server =
      (.error (.internal text), server.notified [adminPage perPage page] []) := by
  have stillFails : (server.notified [adminPage perPage page] []).store.sendFailure = some text :=
    fails
  rw [notifyFrom, outcome_bind_ok (outcome_askPage room fits hosted), outcome_ite,
    if_neg (by simpa using notEmpty), outcome_bind, outcome_send_of_failure _ stillFails]

/-- From a page on, as many pages are written to as are left, and these are asked for together
with the empty page behind them.  Whatever bound is larger than the number of pages left, the
run ends at the empty page.  If no page is left, it does not matter whether the store sends. -/
theorem outcome_notifyFrom {left : Nat} {bound page : Nat} (enough : left < bound)
    (hosted : server.directory = some directory)
    (sends : left ≠ 0 → server.store.sendFailure = none)
    (last : page + left = directory.adminPages perPage.toNat)
    (fits : page + left < UInt64.size) :
    outcome (notifyFrom team bound (adminPage perPage page)) server =
      (.ok (), server.notified ((List.range' page (left + 1)).map (adminPage perPage))
        ((List.range' page left).map (pageMessage directory team perPage))) := by
  have hasRoom := toNat_pos_of_ne_zero room
  induction left generalizing bound page server directory with
  | zero =>
    obtain ⟨bound, rfl⟩ : ∃ smaller, bound = smaller + 1 := ⟨bound - 1, by omega⟩
    have empty := (Directory.pageOf_administrators_eq_nil_iff hasRoom).mpr (Nat.le_of_eq last.symm)
    exact outcome_notifyFrom_of_empty team room bound (by omega) hosted empty
  | succ left inductionHypothesis =>
    obtain ⟨bound, rfl⟩ : ∃ smaller, bound = smaller + 1 := ⟨bound - 1, by omega⟩
    have notEmpty : Directory.pageOf perPage.toNat page directory.administrators ≠ [] := by
      rw [Ne, Directory.pageOf_administrators_eq_nil_iff hasRoom]
      omega
    -- The users of the host stay the same; only what was asked is recorded.
    let asked : Directory :=
      { directory with requests := directory.requests ++ [adminPage perPage page] }
    have stillHosted : (server.notified [adminPage perPage page]
        [pageMessage directory team perPage page]).directory = some asked := by
      simp [notified, hosted, asked]
    have lastAsked : page + 1 + left = asked.adminPages perPage.toNat :=
      (by omega : page + 1 + left = page + (left + 1)).trans last
    have sendsNow := sends (Nat.succ_ne_zero left)
    have rest := inductionHypothesis (Nat.lt_of_succ_lt_succ enough) stillHosted
      (fun _ => sendsNow) lastAsked (by omega)
    rw [outcome_notifyFrom_of_page team room bound (by omega) hosted sendsNow notEmpty, rest,
      notified_notified]
    rfl

end Pages

/-- With access to a host, a request looks up the team and writes to the pages from the first
one on. -/
theorem outcome_requestUpgrade (workspaceId : String)
    (hosted : server.directory = some directory) :
    outcome (requestUpgrade workspaceId) server =
      outcome (notifyFrom (server.store.teams.get? workspaceId) (directory.users.length + 1)
        (adminPage server.pageSize 0)) server := by
  have looksUp : outcome (onStore (Store.team workspaceId)) server =
      (.ok (server.store.teams.get? workspaceId), server) := rfl
  rw [requestUpgrade, outcome_bind_ok (outcome_get server), hosted]
  exact outcome_bind_ok looksUp

end Server

/-! ## What is asked and sent -/

/-- A request for an upgrade names the team, or the organization if there is no team. -/
theorem upgradeText_eq (team : Option Team) :
    upgradeText team = "A member of " ++ team.elim "your organization" Team.displayName ++
      " has notified you to upgrade this workspace before the trial ends." := by
  cases team <;> rfl

/-- Queries and messages that together reach every administrator once: the queries go through
the pages up to the first empty one, and there is one message for the people on each of the
others. -/
structure ReachesAdministrators (directory : Directory) (team : Option Team) (perPage : UInt64)
    (requests : List UserQuery) (messages : List Message) : Prop where
  /-- The pages are asked for in their order, and none twice. -/
  pages : requests.map (fun request => request.page.toNat) =
    List.range (directory.adminPages perPage.toNat + 1)
  /-- Every query is for administrators that are not deleted. -/
  queries : ∀ request ∈ requests, request.active = true ∧
    request.role = "system_admin" ∧ request.perPage = perPage
  /-- Only the last page that is asked for is empty. -/
  lastEmpty : ∀ request ∈ requests,
    directory.answer request = [] ↔ request.page.toNat = directory.adminPages perPage.toNat
  /-- There is one message for each page that is not empty. -/
  oneEach : messages.length = directory.adminPages perPage.toNat
  /-- All messages have the same text, on behalf of the team by its name or, without a team, of
  the organization, and they are requests for an upgrade. -/
  texts : ∀ message ∈ messages,
    message.message =
        "A member of " ++ team.elim "your organization" Team.displayName ++
          " has notified you to upgrade this workspace before the trial ends." ∧
      message.postType = "custom_cloud_upgrade_nudge"
  /-- Every message is for somebody, and for no more people than there are on a page. -/
  sizes : ∀ message ∈ messages,
    message.recipients ≠ [] ∧ message.recipients.length ≤ perPage.toNat
  /-- The messages are for the administrators, in their order, each of them once. -/
  everybody : messages.flatMap Message.recipients = directory.administrators.map User.id

/-- The queries for all pages of administrators and for the one behind them, and a message for
each page, reach everybody. -/
theorem reachesAdministrators (directory : Directory) (team : Option Team) {perPage : UInt64}
    (room : 0 < perPage.toNat) (fits : directory.adminPages perPage.toNat < UInt64.size) :
    ReachesAdministrators directory team perPage
      ((List.range (directory.adminPages perPage.toNat + 1)).map (adminPage perPage))
      ((List.range (directory.adminPages perPage.toNat)).map
        (pageMessage directory team perPage)) where
  pages := pages_adminPages perPage fits
  queries := by
    intro request member
    obtain ⟨page, -, rfl⟩ := List.mem_map.mp member
    exact ⟨rfl, rfl, rfl⟩
  lastEmpty := by
    intro request member
    obtain ⟨page, inRange, rfl⟩ := List.mem_map.mp member
    have notBehind := List.mem_range.mp inRange
    have pageFits : page < UInt64.size := by omega
    rw [answer_adminPage directory perPage pageFits, toNat_page_adminPage perPage pageFits,
      Directory.pageOf_administrators_eq_nil_iff room]
    omega
  oneEach := by rw [List.length_map, List.length_range]
  texts := by
    intro message member
    obtain ⟨page, -, rfl⟩ := List.mem_map.mp member
    exact ⟨upgradeText_eq team, rfl⟩
  sizes := by
    intro message member
    obtain ⟨page, inRange, rfl⟩ := List.mem_map.mp member
    have before : ¬ directory.adminPages perPage.toNat ≤ page := by
      have := List.mem_range.mp inRange
      omega
    constructor
    · rw [pageMessage, upgradeMessage, Ne, List.map_eq_nil_iff,
        Directory.pageOf_administrators_eq_nil_iff room]
      exact before
    · rw [pageMessage, upgradeMessage, List.length_map]
      exact Directory.length_pageOf_le _ _ _
  everybody := by
    calc ((List.range (directory.adminPages perPage.toNat)).map
          (pageMessage directory team perPage)).flatMap Message.recipients
        = (List.range (directory.adminPages perPage.toNat)).flatMap (fun page =>
            (Directory.pageOf perPage.toNat page directory.administrators).map User.id) :=
          List.flatMap_map ..
      _ = ((List.range (directory.adminPages perPage.toNat)).flatMap fun page =>
            Directory.pageOf perPage.toNat page directory.administrators).map User.id :=
          List.map_flatMap.symm
      _ = directory.administrators.map User.id := by
          rw [Directory.adminPages, Directory.flatMap_pageOf_ceilDiv room]

/-! ## Main statement -/

/-- A request for an upgrade reaches every system administrator whose account is not deleted,
in the order of the users and as often as the list of users has them; a list in memory is
shorter than the largest word.  The run ends without an error, unless pages have no room,
which the host refuses at once, or there is somebody to write to and the store does not send,
which ends the run with the store's own error.  In these two cases one page was asked for and
nothing was sent. -/
theorem requestUpgrade_reaches_administrators (server : Server MemoryStore)
    (directory : Directory) (hosted : server.directory = some directory)
    (countable : directory.users.length < UInt64.size) (workspaceId : String) :
    (server.pageSize ≠ 0 →
      (server.store.sendFailure = none ∨ directory.administrators = []) →
      ∃ requests messages,
        outcome (Server.requestUpgrade workspaceId) server =
          (.ok (), server.notified requests messages) ∧
        ReachesAdministrators directory (server.store.teams.get? workspaceId)
          server.pageSize requests messages) ∧
    (server.pageSize = 0 →
      outcome (Server.requestUpgrade workspaceId) server =
        (.error (.hostApi "per_page must be positive"),
          server.notified [.systemAdmins server.pageSize] [])) ∧
    ∀ text, server.pageSize ≠ 0 → server.store.sendFailure = some text →
      directory.administrators ≠ [] →
      outcome (Server.requestUpgrade workspaceId) server =
        (.error (.internal text), server.notified [.systemAdmins server.pageSize] []) := by
  rw [Server.outcome_requestUpgrade workspaceId hosted]
  refine ⟨fun room sendsOrNobody => ?_, fun noRoom => ?_, fun text room fails somebody => ?_⟩
  · have hasRoom : 0 < server.pageSize.toNat := toNat_pos_of_ne_zero room
    have fewPages := directory.adminPages_le hasRoom
    have sends (pagesLeft : directory.adminPages server.pageSize.toNat ≠ 0) :
        server.store.sendFailure = none := by
      refine sendsOrNobody.resolve_right fun nobody => pagesLeft ?_
      rw [Directory.adminPages, nobody, List.length_nil, zero_ceilDiv]
    refine ⟨_, _, Server.outcome_notifyFrom _ room (by omega) hosted sends ?_ (by omega), ?_⟩
    · exact Nat.zero_add _
    · rw [← List.range_eq_range', ← List.range_eq_range']
      exact reachesAdministrators directory _ hasRoom (by omega)
  · exact Server.outcome_notifyFrom_of_noRoom _ _ noRoom hosted
  · refine Server.outcome_notifyFrom_of_failure _ room _ (by decide) hosted fails fun empty => ?_
    rw [Directory.pageOf_eq_nil_iff (toNat_pos_of_ne_zero room), Nat.zero_mul] at empty
    exact somebody (List.length_eq_zero_iff.mp (Nat.le_zero.mp empty))

/-- Two administrators, one of them listed twice, a user who is none and one whose account is
deleted. -/
def sampleDirectory : Directory where
  users :=
    [{ id := "first", username := "first", roles := "system_user system_admin" },
      { id := "member", username := "member", roles := "system_user" },
      { id := "gone", username := "gone", roles := "system_admin", deleteAt := 42 },
      { id := "second", username := "second", roles := "system_admin" },
      { id := "first", username := "first", roles := "system_user system_admin" }]

/-- A server with two users on a page that knows the team of one workspace. -/
def sampleHost : Server MemoryStore where
  store := { teams := Table.empty.insert "0" { id := "crew", displayName := "Crew" } }
  directory := some sampleDirectory
  pageSize := 2

/-- The sample host writes two messages on behalf of the crew, to reach three administrators.
For a workspace without a team they are on behalf of the organization. -/
theorem requestUpgrade_reaches_administrators_sampleHost :
    sampleHost.directory = some sampleDirectory ∧
      sampleDirectory.users.length < UInt64.size ∧
      ∃ requests messages,
        outcome (Server.requestUpgrade "0") sampleHost =
          (.ok (), sampleHost.notified requests messages) ∧
        requests.map (fun request => request.page.toNat) = [0, 1, 2] ∧
        messages.length = 2 ∧
        (∀ message ∈ messages, message.message =
          "A member of Crew has notified you to upgrade this workspace before the trial ends.") ∧
        messages.flatMap Message.recipients = ["first", "second", "first"] ∧
        ∃ otherRequests others,
          outcome (Server.requestUpgrade "1") sampleHost =
            (.ok (), sampleHost.notified otherRequests others) ∧
          others.length = 2 ∧
          ∀ message ∈ others, message.message =
            "A member of your organization has notified you to upgrade this workspace " ++
              "before the trial ends." := by
  obtain ⟨requests, messages, run, reaches⟩ :=
    (requestUpgrade_reaches_administrators sampleHost sampleDirectory rfl (by decide) "0").1
      (by decide) (.inl rfl)
  have administrators : sampleDirectory.administrators.map User.id =
      ["first", "second", "first"] := by decide
  obtain ⟨otherRequests, others, otherRun, otherReaches⟩ :=
    (requestUpgrade_reaches_administrators sampleHost sampleDirectory rfl (by decide) "1").1
      (by decide) (.inl rfl)
  have pages : sampleDirectory.adminPages sampleHost.pageSize.toNat = 2 := by decide
  refine ⟨rfl, by decide, requests, messages, run, ?_, reaches.oneEach.trans pages, ?_,
    reaches.everybody.trans administrators, otherRequests, others, otherRun,
    otherReaches.oneEach.trans pages, ?_⟩
  · rw [reaches.pages, pages]
    rfl
  · intro message member
    exact (reaches.texts message member).1.trans (by decide)
  · intro message member
    exact (otherReaches.texts message member).1.trans (by decide)

end CardLimits
