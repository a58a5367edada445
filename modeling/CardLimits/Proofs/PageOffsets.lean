import CardLimits.Proofs.UpgradeRequests
/-!
# Places of pages in words

The place of a page in the list of users is its number times its size.  A host that computes it
with words finds another place if the product does not fit (`Directory.answerInWords`), and the
number of the page is counted up in a word as well.  A request for an upgrade asks for no page
behind the first empty one, and up to there both fit (`Directory.mul_lt_of_le_adminPages`).  So the
request comes to the same over a host that computes with words, whatever store the server has
(`requestUpgrade_fits_in_words`).
-/

namespace CardLimits

/-! ## Places -/

namespace Directory

/-- The users on the page that a query asks for, if its place is computed with words and wraps
around. -/
def answerInWords (directory : Directory) (query : UserQuery) : List User :=
  ((directory.users.filter query.selects).drop (query.page * query.perPage).toNat).take
    query.perPage.toNat

/-- Asks for a page of users, whose place is computed with words. -/
def askInWords (query : UserQuery) : Action Directory (List User) := do
  modify fun directory => { directory with requests := directory.requests ++ [query] }
  if query.perPage = 0 then throw (.hostApi "per_page must be positive")
  return (← get).answerInWords query

/-- A place that fits is found. -/
theorem answerInWords_eq_answer (directory : Directory) {query : UserQuery}
    (fits : query.page.toNat * query.perPage.toNat < UInt64.size) :
    directory.answerInWords query = directory.answer query := by
  rw [answerInWords, UInt64.toNat_mul, Nat.mod_eq_of_lt fits]
  rfl

/-- A host that computes with words refuses a page without room and answers every other query;
it records both. -/
theorem outcome_askInWords (query : UserQuery) (directory : Directory) :
    outcome (askInWords query) directory =
      (if query.perPage = 0 then .error (.hostApi "per_page must be positive")
        else .ok (directory.answerInWords query),
        { directory with requests := directory.requests ++ [query] }) := by
  simp only [askInWords, outcome_bind, outcome_modify, outcome_get, outcome_ite, outcome_pure,
    outcome_throw]
  split <;> rfl

/-- A page whose place fits is asked for as if there were no words. -/
theorem outcome_askInWords_of_fits (directory : Directory) {query : UserQuery}
    (fits : query.page.toNat * query.perPage.toNat < UInt64.size) :
    outcome (askInWords query) directory = outcome (ask query) directory := by
  rw [outcome_askInWords, outcome_ask, answerInWords_eq_answer directory fits]

variable {directory : Directory} {perPage : UInt64} {page : Nat}

/-- Of fewer users than half of the words no page up to the first empty one is at a place that
does not fit. -/
theorem mul_lt_of_le_adminPages (room : perPage ≠ 0)
    (countable : directory.users.length < UInt64.size / 2)
    (reached : page ≤ directory.adminPages perPage.toNat) :
    page * perPage.toNat < UInt64.size := by
  have hasRoom := toNat_pos_of_ne_zero room
  have wordSized : perPage.toNat < UInt64.size := perPage.toNat_lt_size
  cases page with
  | zero =>
    rw [Nat.zero_mul]
    exact Nat.zero_lt_of_lt wordSized
  | succ before =>
    -- The page before is not empty, so it begins in front of the last administrator.
    have notEmpty : ¬ directory.adminPages perPage.toNat ≤ before := Nat.not_le_of_lt reached
    rw [← pageOf_administrators_eq_nil_iff hasRoom, pageOf_eq_nil_iff hasRoom] at notEmpty
    have few : directory.administrators.length ≤ directory.users.length :=
      List.length_filter_le _ _
    rw [Nat.succ_mul]
    rcases Nat.eq_zero_or_pos before with rfl | positive
    · rwa [Nat.zero_mul, Nat.zero_add]
    · -- Then a page is not longer than all administrators either.
      have short : perPage.toNat ≤ before * perPage.toNat := Nat.le_mul_of_pos_left _ positive
      omega

/-- No more pages have administrators than there are users, so their number can be counted up. -/
theorem succ_lt_of_le_adminPages (room : perPage ≠ 0)
    (countable : directory.users.length < UInt64.size / 2)
    (reached : page ≤ directory.adminPages perPage.toNat) : page + 1 < UInt64.size := by
  have fewPages := directory.adminPages_le (toNat_pos_of_ne_zero room)
  omega

/-- The place of a page up to the first empty one fits. -/
theorem place_adminPage_lt (room : perPage ≠ 0)
    (countable : directory.users.length < UInt64.size / 2)
    (reached : page ≤ directory.adminPages perPage.toNat) :
    (adminPage perPage page).page.toNat * (adminPage perPage page).perPage.toNat <
      UInt64.size := by
  have fits := succ_lt_of_le_adminPages room countable reached
  rw [toNat_page_adminPage perPage (Nat.lt_of_succ_lt fits)]
  exact mul_lt_of_le_adminPages room countable reached

end Directory

/-! ## Runs over a host that is asked in some way -/

/-- Whether asking in some way for a page of administrators, up to the first empty one, gives the
users on that page and is recorded. -/
def AnswersPages (ask : UserQuery → Action Directory (List User)) (perPage : UInt64)
    (users : List User) : Prop :=
  ∀ directory : Directory, directory.users = users →
    ∀ page ≤ directory.adminPages perPage.toNat,
      outcome (ask (adminPage perPage page)) directory =
        (.ok (Directory.pageOf perPage.toNat page directory.administrators),
          { directory with requests := directory.requests ++ [adminPage perPage page] })

section Hosts

variable {perPage : UInt64} (room : perPage ≠ 0) {users : List User}
  (countable : users.length < UInt64.size / 2)

include room countable

/-- The host answers for every page. -/
theorem answersPages_ask : AnswersPages Directory.ask perPage users := by
  rintro directory rfl page reached
  have fits := Directory.succ_lt_of_le_adminPages room countable reached
  exact directory.outcome_ask_adminPage room (Nat.lt_of_succ_lt fits)

/-- So does a host that computes with words. -/
theorem answersPages_askInWords : AnswersPages Directory.askInWords perPage users := by
  rintro directory rfl page reached
  rw [Directory.outcome_askInWords_of_fits directory
    (Directory.place_adminPage_lt room countable reached)]
  exact answersPages_ask room countable directory rfl page reached

end Hosts

namespace Server

variable {σ : Type}

/-- The server after queries to its host. -/
def asked (queries : List UserQuery) (server : Server σ) : Server σ :=
  { server with
    directory := server.directory.map fun directory =>
      { directory with requests := directory.requests ++ queries } }

variable [Store σ]

/-- Writes to the users on every page from a query on, up to the first empty page, if the host is
asked in some way.  `pages` bounds the number of pages. -/
def notifyFromBy (ask : UserQuery → Action Directory (List User)) (team : Option Team) :
    (pages : Nat) → UserQuery → Action (Server σ) Unit
  | 0, _ => return ()
  | pages + 1, query => do
    let admins ← onDirectory (ask query)
    if admins.isEmpty then return ()
    onStore (Store.send (upgradeMessage team admins))
    notifyFromBy ask team pages { query with page := query.page + 1 }

/-- Asks every active system administrator to upgrade a workspace, if the host is asked in some
way. -/
def requestUpgradeBy (ask : UserQuery → Action Directory (List User)) (workspaceId : String) :
    Action (Server σ) Unit := do
  let server ← get
  match server.directory with
  | none => throw .noHostApi
  | some directory =>
    let team ← onStore (Store.team workspaceId)
    notifyFromBy ask team (directory.users.length + 1) (.systemAdmins server.pageSize)

/-- Going through the pages as they are is going through them with the host as it is. -/
theorem notifyFrom_eq_notifyFromBy (team : Option Team) (pages : Nat) (query : UserQuery) :
    (notifyFrom team pages query : Action (Server σ) Unit) =
      notifyFromBy Directory.ask team pages query := by
  induction pages generalizing query with
  | zero => rfl
  | succ pages inductionHypothesis =>
    simp only [notifyFrom, notifyFromBy, inductionHypothesis]

/-- A request for an upgrade is one that asks the host as it is. -/
theorem requestUpgrade_eq_requestUpgradeBy (workspaceId : String) :
    (requestUpgrade workspaceId : Action (Server σ) Unit) =
      requestUpgradeBy Directory.ask workspaceId := by
  rw [requestUpgrade, requestUpgradeBy]
  refine bind_congr fun server => ?_
  cases server.directory with
  | none => rfl
  | some directory => exact bind_congr fun team => notifyFrom_eq_notifyFromBy team _ _

section Run

variable {ask askOther : UserQuery → Action Directory (List User)} {perPage : UInt64}
  {directory : Directory} {server : Server σ} (team : Option Team) (bound : Nat) {page : Nat}

/-- A page is asked for.  If it is empty the run ends there, and otherwise its users are written
to, and the run goes on with the page behind it. -/
theorem outcome_notifyFromBy_succ (answers : AnswersPages ask perPage directory.users)
    (hosted : server.directory = some directory)
    (reached : page ≤ directory.adminPages perPage.toNat) :
    outcome (notifyFromBy ask team (bound + 1) (adminPage perPage page)) server =
      if Directory.pageOf perPage.toNat page directory.administrators = [] then
        (.ok (), server.asked [adminPage perPage page])
      else
        outcome
          (onStore (Store.send (pageMessage directory team perPage page)) >>= fun _ =>
            notifyFromBy ask team bound (adminPage perPage (page + 1)))
          (server.asked [adminPage perPage page]) := by
  have answered := answers directory rfl page reached
  have stepped : outcome (onDirectory (ask (adminPage perPage page))) server =
      (.ok (Directory.pageOf perPage.toNat page directory.administrators),
        server.asked [adminPage perPage page]) := by
    rw [outcome_onDirectory _ hosted, answered]
    simp [asked, hosted]
  rw [notifyFromBy, outcome_bind_ok stepped, outcome_ite, adminPage_next]
  simp only [List.isEmpty_iff]
  rfl

/-- From a page up to the first empty one on, a run asks for consecutive pages and for none behind
the first empty one, whatever becomes of the messages.  A host that is asked in another way, and
answers for these pages as well, makes no difference.  By induction on the bound: a page that is
not empty has another one behind it that is not behind the first empty one. -/
theorem exists_pages_asked (room : perPage ≠ 0)
    (answers : AnswersPages ask perPage directory.users)
    (answersOther : AnswersPages askOther perPage directory.users)
    (hosted : server.directory = some directory)
    (reached : page ≤ directory.adminPages perPage.toNat) :
    ∃ count, page + count ≤ directory.adminPages perPage.toNat + 1 ∧
      (outcome (notifyFromBy ask team bound (adminPage perPage page)) server).2.directory =
        some { directory with
          requests := directory.requests ++ (List.range' page count).map (adminPage perPage) } ∧
      outcome (notifyFromBy askOther team bound (adminPage perPage page)) server =
        outcome (notifyFromBy ask team bound (adminPage perPage page)) server := by
  induction bound generalizing page directory server with
  | zero => exact ⟨0, Nat.le_succ_of_le reached, by simpa [notifyFromBy] using hosted, rfl⟩
  | succ bound inductionHypothesis =>
    let recorded : Directory :=
      { directory with
        requests := directory.requests ++ (List.range' page 1).map (adminPage perPage) }
    have stillHosted : (server.asked [adminPage perPage page]).directory = some recorded := by
      simp [asked, hosted, recorded]
    rw [outcome_notifyFromBy_succ team bound answers hosted reached,
      outcome_notifyFromBy_succ team bound answersOther hosted reached]
    split
    · exact ⟨1, Nat.succ_le_succ reached, stillHosted, rfl⟩
    · rename_i notEmpty
      rw [Directory.pageOf_administrators_eq_nil_iff (toNat_pos_of_ne_zero room)] at notEmpty
      rw [outcome_bind, outcome_bind, outcome_onStore]
      rcases outcome (Store.send (pageMessage directory team perPage page))
        (server.asked [adminPage perPage page]).store with ⟨error | sent, store⟩
      · exact ⟨1, Nat.succ_le_succ reached, stillHosted, rfl⟩
      · -- The store is another one now, and the host has recorded the query.
        let behind : Server σ := { server.asked [adminPage perPage page] with store }
        have nextReached : page + 1 ≤ directory.adminPages perPage.toNat :=
          Nat.lt_of_not_le notEmpty
        obtain ⟨count, inside, requests, same⟩ :=
          @inductionHypothesis recorded behind (page + 1) answers answersOther stillHosted
            nextReached
        have samePages : recorded.adminPages perPage.toNat =
          directory.adminPages perPage.toNat := rfl
        refine ⟨count + 1, by omega, requests.trans ?_, same⟩
        simp [recorded, List.range'_succ]

end Run

/-- With access to a host, a request looks up the team, and if that succeeds it writes to the
pages from the first one on. -/
theorem outcome_requestUpgradeBy (ask : UserQuery → Action Directory (List User))
    {server : Server σ} {directory : Directory} (hosted : server.directory = some directory)
    (workspaceId : String) :
    outcome (requestUpgradeBy ask workspaceId) server =
      outcome (onStore (Store.team workspaceId) >>= fun team =>
        notifyFromBy ask team (directory.users.length + 1) (adminPage server.pageSize 0))
        server := by
  rw [requestUpgradeBy, outcome_bind_ok (outcome_get server), hosted]
  rfl

end Server

/-! ## Main statement -/

/-- Queries for consecutive pages whose places and numbers all fit into words. -/
structure FitsInWords (directory : Directory) (perPage : UInt64) (requests : List UserQuery) :
    Prop where
  /-- The pages are asked for one behind the other, from the first one on. -/
  pages : requests.map (fun request => request.page.toNat) = List.range requests.length
  /-- All pages have the same size. -/
  sizes : ∀ request ∈ requests, request.perPage = perPage
  /-- The product that is the place of a page does not wrap around. -/
  places : ∀ request ∈ requests, request.page.toNat * request.perPage.toNat < UInt64.size
  /-- Nor does the number of a page when it is counted up. -/
  numbers : ∀ request ∈ requests, request.page.toNat + 1 < UInt64.size
  /-- So a host that computes with words finds the page that is asked for. -/
  answers : ∀ request ∈ requests, directory.answerInWords request = directory.answer request

/-- The queries for the first pages fit, if none of these is behind the first empty one. -/
theorem fitsInWords_adminPages {directory : Directory} {perPage : UInt64} (room : perPage ≠ 0)
    (countable : directory.users.length < UInt64.size / 2) {count : Nat}
    (inside : count ≤ directory.adminPages perPage.toNat + 1) :
    FitsInWords directory perPage ((List.range count).map (adminPage perPage)) := by
  have reached {page : Nat} (asked : page < count) :
      page ≤ directory.adminPages perPage.toNat :=
    Nat.le_of_lt_succ (Nat.lt_of_lt_of_le asked inside)
  have nextFits {page : Nat} (asked : page < count) : page + 1 < UInt64.size :=
    Directory.succ_lt_of_le_adminPages room countable (reached asked)
  have allFit : count ≤ UInt64.size :=
    inside.trans (Directory.succ_lt_of_le_adminPages room countable (Nat.le_refl _)).le
  refine { pages := ?_, sizes := ?_, places := ?_, numbers := ?_, answers := ?_ }
  · rw [List.length_map, List.length_range]
    exact pages_adminPages perPage allFit
  all_goals
    intro request member
    obtain ⟨page, inRange, rfl⟩ := List.mem_map.mp member
    have asked := List.mem_range.mp inRange
  · rfl
  · exact Directory.place_adminPage_lt room countable (reached asked)
  · rw [toNat_page_adminPage perPage (Nat.lt_of_succ_lt (nextFits asked))]
    exact nextFits asked
  · exact directory.answerInWords_eq_answer
      (Directory.place_adminPage_lt room countable (reached asked))

/-- A request for an upgrade, to a host with fewer users than half of the words and with room for
somebody on a page, asks for pages whose places and numbers fit into words.  So it comes to the
same over a host that computes the places with words, whatever store the server has and however
the request ends. -/
theorem requestUpgrade_fits_in_words {σ : Type} [Store σ] (server : Server σ)
    (directory : Directory) (hosted : server.directory = some directory)
    (countable : directory.users.length < UInt64.size / 2) (room : server.pageSize ≠ 0)
    (workspaceId : String) :
    (∃ requests,
      (outcome (Server.requestUpgrade workspaceId) server).2.directory =
        some { directory with requests := directory.requests ++ requests } ∧
      FitsInWords directory server.pageSize requests) ∧
    outcome (Server.requestUpgradeBy Directory.askInWords workspaceId) server =
      outcome (Server.requestUpgrade workspaceId) server := by
  rw [Server.requestUpgrade_eq_requestUpgradeBy, Server.outcome_requestUpgradeBy _ hosted,
    Server.outcome_requestUpgradeBy _ hosted, outcome_bind, outcome_bind, outcome_onStore]
  rcases outcome (Store.team workspaceId) server.store with ⟨error | team, store⟩
  · -- Without an answer about the team nothing is asked.
    refine ⟨⟨[], by simpa using hosted, ?_⟩, rfl⟩
    exact fitsInWords_adminPages room countable (Nat.zero_le _)
  · obtain ⟨count, inside, recorded, same⟩ :=
      @Server.exists_pages_asked σ _ Directory.ask Directory.askInWords server.pageSize directory
        { server with store } team (directory.users.length + 1) 0 room
        (answersPages_ask room countable) (answersPages_askInWords room countable) hosted
        (Nat.zero_le _)
    rw [← List.range_eq_range'] at recorded
    rw [Nat.zero_add] at inside
    exact ⟨⟨_, recorded, fitsInWords_adminPages room countable inside⟩, same⟩

/-- The sample host with the largest pages there are. -/
def widestHost : Server MemoryStore :=
  { sampleHost with pageSize := .ofNat (UInt64.size - 1) }

/-- The first of the largest pages has room for all administrators of the sample host.  The page
behind it is asked for as well, and it is at the last place that fits. -/
theorem requestUpgrade_fits_in_words_widestHost :
    widestHost.directory = some sampleDirectory ∧
      sampleDirectory.users.length < UInt64.size / 2 ∧ widestHost.pageSize ≠ 0 ∧
      (∃ requests,
        (outcome (Server.requestUpgrade "0") widestHost).2.directory =
          some { sampleDirectory with requests } ∧
        FitsInWords sampleDirectory widestHost.pageSize requests ∧
        requests.map (fun request => (request.page * request.perPage).toNat) =
          [0, UInt64.size - 1]) ∧
      outcome (Server.requestUpgradeBy Directory.askInWords "0") widestHost =
        outcome (Server.requestUpgrade "0") widestHost := by
  obtain ⟨⟨requests, recorded, fits⟩, same⟩ :=
    requestUpgrade_fits_in_words widestHost sampleDirectory rfl (by decide) (by decide) "0"
  have asked : (outcome (Server.requestUpgrade "0") widestHost).2.directory =
      some { sampleDirectory with
        requests := [adminPage widestHost.pageSize 0, adminPage widestHost.pageSize 1] } := by
    decide
  obtain rfl : requests = [adminPage widestHost.pageSize 0, adminPage widestHost.pageSize 1] := by
    simpa [sampleDirectory] using recorded.symm.trans asked
  exact ⟨rfl, by decide, by decide, ⟨_, asked, fits, by decide⟩, same⟩

end CardLimits
