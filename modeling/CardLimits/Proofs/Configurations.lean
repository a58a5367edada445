import CardLimits.Proofs.PageSizes
import CardLimits.Proofs.PlainSettings
import CardLimits.Server.Start
/-!
# Usable configurations

What can be wrong with the variables of a run is said of their values alone
(`ConfigFault.Found`), and so is the configuration that they stand for (`Config.Follows`): a
number, a path and an address that are there count, and everything else is the default.
Reading the configuration fails exactly if something is wrong, with the first of the faults, and
otherwise returns the configuration of the values, over which no page without room is ever asked
for (`ofEnvironment_fails_exactly`).
-/

namespace CardLimits

/-! ## Values of variables -/

/-- Whether a variable is absent or empty. -/
def Unset (valueOf : String → Option String) (name : String) : Prop :=
  valueOf name = none ∨ valueOf name = some ""

/-- A variable that is not unset has a value that is not empty. -/
theorem exists_of_not_unset {valueOf : String → Option String} {name : String}
    (set : ¬Unset valueOf name) : ∃ text, valueOf name = some text ∧ text ≠ "" := by
  obtain ⟨present, nonempty⟩ := not_or.mp set
  obtain ⟨text, given⟩ := Option.ne_none_iff_exists'.mp present
  exact ⟨text, given, fun empty => nonempty (empty ▸ given)⟩

/-- Whether a setting is taken from a variable: it is what the value of the variable denotes, and
the default if the variable is unset or its value denotes nothing. -/
structure TakenFrom {α : Type} (valueOf : String → Option String) (name : String)
    (Denotes : String → α → Prop) (default setting : α) : Prop where
  denoted : ∀ text value, valueOf name = some text → Denotes text value → setting = value
  undenoted : (∀ text, valueOf name = some text → ∀ value, ¬Denotes text value) →
    setting = default
  unset : Unset valueOf name → setting = default

/-- A setting that is not the default is denoted by its variable. -/
theorem TakenFrom.eq_iff {α : Type} {valueOf : String → Option String} {name : String}
    {Denotes : String → α → Prop} {default setting value : α}
    (taken : TakenFrom valueOf name Denotes default setting) (special : value ≠ default) :
    setting = value ↔ ∃ text, valueOf name = some text ∧ Denotes text value := by
  constructor
  · rintro rfl
    by_contra none
    refine special (taken.undenoted fun text given other denotes => ?_)
    obtain rfl := taken.denoted text other given denotes
    exact none ⟨text, given, denotes⟩
  · rintro ⟨text, given, denotes⟩
    exact taken.denoted text value given denotes

/-- A setting that is read from the value of a variable is taken from the variable. -/
theorem takenFrom_bind {α : Type} {valueOf : String → Option String} {name : String}
    {Denotes : String → α → Prop} {read : String → Option α}
    (reads : ∀ text value, read text = some value ↔ Denotes text value)
    (noneEmpty : ∀ value, ¬Denotes "" value) (default : α) :
    TakenFrom valueOf name Denotes default (((valueOf name).bind read).getD default) := by
  refine ⟨fun text value given denotes => ?_, fun undenoted => ?_, fun unset => ?_⟩
  · rw [given, Option.bind_some, (reads text value).mpr denotes, Option.getD_some]
  · cases given : valueOf name with
    | none => rfl
    | some text =>
      cases result : read text with
      | none => rw [Option.bind_some, result, Option.getD_none]
      | some value => exact absurd ((reads text value).mp result) (undenoted text given value)
  · obtain absent | empty := unset
    · rw [absent, Option.bind_none, Option.getD_none]
    · cases result : read "" with
      | none => rw [empty, Option.bind_some, result, Option.getD_none]
      | some value => exact absurd ((reads "" value).mp result) (noneEmpty value)

/-- Whether a text denotes a value of a setting that need not be there. -/
def Optionally {α : Type} (Denotes : String → α → Prop) (text : String) (value : Option α) : Prop :=
  ∃ found, Denotes text found ∧ value = some found

/-- A setting that need not be there is taken from the variable that it is read from. -/
theorem takenFrom_optionally {α : Type} {valueOf : String → Option String} {name : String}
    {Denotes : String → α → Prop} {read : String → Option α}
    (reads : ∀ text value, read text = some value ↔ Denotes text value)
    (noneEmpty : ∀ value, ¬Denotes "" value) :
    TakenFrom valueOf name (Optionally Denotes) none ((valueOf name).bind read) := by
  have readsSome (text : String) (value : Option α) :
      (read text).map some = some value ↔ Optionally Denotes text value := by
    simp only [Option.map_eq_some_iff, Optionally, reads, eq_comm]
  have noneFound (value : Option α) : ¬Optionally Denotes "" value := by
    rintro ⟨found, denotes, -⟩
    exact noneEmpty found denotes
  have flat : ((valueOf name).bind fun text => (read text).map some).getD none =
      (valueOf name).bind read := by
    cases valueOf name with
    | none => rfl
    | some text => cases found : read text <;> simp [found]
  exact flat ▸ takenFrom_bind readsSome noneFound none

/-! ## What texts denote -/

/-- Whether a text is a card limit: a number of 32 bits, perhaps with blanks around it. -/
def DenotesCardLimit (text : String) (limit : Int32) : Prop :=
  ∃ literal, Text.Padded text.toList literal ∧ Text.IntLiteral literal limit.toInt

/-- Whether a text denotes itself, which an empty text does not. -/
def DenotesItself (text value : String) : Prop :=
  text ≠ "" ∧ value = text

/-- Whether a text denotes a number of 32 bits without a sign. -/
def DenotesUInt32 (text : String) (number : UInt32) : Prop :=
  Text.NatLiteral text.toList number.toNat

/-- Whether a text denotes a number of 64 bits without a sign. -/
def DenotesUInt64 (text : String) (number : UInt64) : Prop :=
  Text.NatLiteral text.toList number.toNat

/-- A text is read as a card limit exactly if it denotes one. -/
theorem cardLimit_read_iff (text : String) (limit : Int32) :
    Text.int32Literal? (String.ofList (Text.trim text.toList)) = some limit ↔
      DenotesCardLimit text limit := by
  rw [Text.int32Literal?_eq_some_iff, String.toList_ofList, Text.intLiteral_trim_iff,
    DenotesCardLimit]

/-- A text that is not empty is read as it is. -/
theorem itself_read_iff (text value : String) :
    (some text).filter (fun text => !text.isEmpty) = some value ↔ DenotesItself text value := by
  rw [Option.filter_eq_some_iff, DenotesItself, Option.some.injEq, Bool.not_eq_true',
    String.isEmpty_eq_false_iff]
  constructor
  · rintro ⟨rfl, nonempty⟩
    exact ⟨nonempty, rfl⟩
  · rintro ⟨nonempty, rfl⟩
    exact ⟨rfl, nonempty⟩

/-- A text is read as a number of 32 bits without a sign exactly if it denotes it. -/
theorem uint32_read_iff (text : String) (number : UInt32) :
    Text.uint32Literal? text = some number ↔ DenotesUInt32 text number :=
  Text.uint32Literal?_eq_some_iff

/-- A text is read as a number of 64 bits without a sign exactly if it denotes it. -/
theorem uint64_read_iff (text : String) (number : UInt64) :
    Text.uint64Literal? text = some number ↔ DenotesUInt64 text number :=
  Text.uint64Literal?_eq_some_iff

/-- An empty text denotes no number of 32 bits. -/
theorem not_denotesUInt32_empty (number : UInt32) : ¬DenotesUInt32 "" number := by
  rintro ⟨digits⟩
  exact digits.nonempty rfl

/-- An empty text denotes no number of 64 bits. -/
theorem not_denotesUInt64_empty (number : UInt64) : ¬DenotesUInt64 "" number := by
  rintro ⟨digits⟩
  exact digits.nonempty rfl

/-- An empty text denotes no card limit. -/
theorem not_denotesCardLimit_empty (limit : Int32) : ¬DenotesCardLimit "" limit := by
  rw [← cardLimit_read_iff]
  exact nofun

/-! ## Faults and settings -/

namespace ConfigFault

/-- Whether something is wrong with the values of the variables. -/
inductive Found (valueOf : String → Option String) : ConfigFault → Prop
  | cardLimitNotNumber {text : String} (given : valueOf "BOARDS_CARD_LIMIT" = some text)
      (nonempty : text ≠ "") (noNumber : ∀ limit, ¬DenotesCardLimit text limit) :
      Found valueOf (.cardLimitNotNumber text)
  | databaseUrlScheme {url : String} (given : valueOf "DATABASE_URL" = some url)
      (nonempty : url ≠ "") (noPostgres : ¬"postgres://".toList <+: url.toList)
      (noPostgresql : ¬"postgresql://".toList <+: url.toList) :
      Found valueOf .databaseUrlScheme
  | adminPageSizeZero {text : String} (given : valueOf "BOARDS_ADMIN_PAGE_SIZE" = some text)
      (zero : DenotesUInt64 text 0) : Found valueOf .adminPageSizeZero
  | cardLimitNegative {text : String} {limit : Int32}
      (given : valueOf "BOARDS_CARD_LIMIT" = some text) (number : DenotesCardLimit text limit)
      (negative : limit < 0) : Found valueOf .cardLimitNegative

/-- The place of a fault in the order in which faults are looked for. -/
def rank : ConfigFault → Nat
  | cardLimitNotNumber _ => 0
  | databaseUrlScheme => 1
  | adminPageSizeZero => 2
  | cardLimitNegative => 3

/-- Whether a fault is the first of those that are there. -/
def IsFirst (valueOf : String → Option String) (fault : ConfigFault) : Prop :=
  fault.Found valueOf ∧ ∀ other : ConfigFault, other.Found valueOf → fault.rank ≤ other.rank

/-- There is no more than one first fault. -/
theorem IsFirst.eq {valueOf : String → Option String} {fault other : ConfigFault}
    (first : fault.IsFirst valueOf) (otherFirst : other.IsFirst valueOf) : fault = other := by
  have sameRank : fault.rank = other.rank :=
    Nat.le_antisymm (first.2 other otherFirst.1) (otherFirst.2 fault first.1)
  obtain ⟨given, -, -⟩ | - | - | - := first.1
  · obtain ⟨givenOther, -, -⟩ | - | - | - := otherFirst.1
    · rw [given, Option.some.injEq] at givenOther
      rw [givenOther]
    · cases sameRank
    · cases sameRank
    · cases sameRank
  all_goals
    obtain - | - | - | - := otherFirst.1
    all_goals first | rfl | cases sameRank

end ConfigFault

/-- Whether a configuration is that of the values of the variables.  The name of the environment
is taken as it is, also an empty one. -/
structure Config.Follows (valueOf : String → Option String) (config : Config) : Prop where
  environment : config.environment =
    ((valueOf "ENVIRONMENT").or (valueOf "APP_ENV")).getD "development"
  databaseUrl :
    TakenFrom valueOf "DATABASE_URL" (Optionally DenotesItself) none config.databaseUrl
  dbMaxConnections : TakenFrom valueOf "DB_MAX_CONNECTIONS" DenotesUInt32 5 config.dbMaxConnections
  dbTimeoutSeconds :
    TakenFrom valueOf "DB_TIMEOUT_SECONDS" DenotesUInt64 30 config.dbTimeoutSeconds
  licensePath :
    TakenFrom valueOf "BOARDS_LICENSE_PATH" (Optionally DenotesItself) none config.licensePath
  cardLimit :
    TakenFrom valueOf "BOARDS_CARD_LIMIT" (Optionally DenotesCardLimit) none config.cardLimit
  adminPageSize : TakenFrom valueOf "BOARDS_ADMIN_PAGE_SIZE" DenotesUInt64 50 config.adminPageSize

namespace Config

/-! ## Faults of a configuration -/

/-- A configuration has no fault if its address, its page size and its card limit have none. -/
theorem fault?_eq_none_iff {config : Config} :
    config.fault? = none ↔
      ¬config.databaseUrl.any (fun url => !isDatabaseUrl url) = true ∧
        config.adminPageSize ≠ 0 ∧ ¬config.cardLimit.any (fun limit => limit < 0) = true := by
  unfold fault?
  split
  · rename_i invalidUrl
    exact iff_of_false nofun fun fine => fine.1 invalidUrl
  split
  · rename_i noRoom
    exact iff_of_false nofun fun fine => fine.2.1 noRoom
  split
  · rename_i negative
    exact iff_of_false nofun fun fine => fine.2.2 negative
  · rename_i validUrl hasRoom notNegative
    exact iff_of_true rfl ⟨validUrl, hasRoom, notNegative⟩

section Faults

variable {valueOf : String → Option String} {config : Config} (follows : config.Follows valueOf)

include follows

/-- The address of the database is at fault exactly if its variable is. -/
theorem Follows.databaseUrl_iff :
    config.databaseUrl.any (fun url => !isDatabaseUrl url) = true ↔
      ConfigFault.databaseUrlScheme.Found valueOf := by
  simp only [Option.any_eq_true, follows.databaseUrl.eq_iff (Option.some_ne_none _),
    Optionally, Option.some.injEq, DenotesItself, isDatabaseUrl, databaseSchemes,
    Bool.not_eq_true', List.any_cons, List.any_nil, Bool.or_false, Bool.or_eq_false_iff]
  constructor
  · rintro ⟨url, ⟨text, given, found, ⟨nonempty, rfl⟩, rfl⟩, noPostgres, noPostgresql⟩
    refine .databaseUrlScheme given nonempty ?_ ?_
    · rwa [← List.isPrefixOf_iff_prefix, Bool.not_eq_true]
    · rwa [← List.isPrefixOf_iff_prefix, Bool.not_eq_true]
  · intro found
    cases found with
    | @databaseUrlScheme url given nonempty noPostgres noPostgresql =>
      rw [← List.isPrefixOf_iff_prefix, Bool.not_eq_true] at noPostgres noPostgresql
      exact ⟨url, ⟨url, given, url, ⟨nonempty, rfl⟩, rfl⟩, noPostgres, noPostgresql⟩

/-- The page size is at fault exactly if its variable is. -/
theorem Follows.adminPageSize_iff :
    config.adminPageSize = 0 ↔ ConfigFault.adminPageSizeZero.Found valueOf := by
  rw [follows.adminPageSize.eq_iff (by decide)]
  constructor
  · rintro ⟨text, given, zero⟩
    exact .adminPageSizeZero given zero
  · intro found
    cases found with
    | @adminPageSizeZero text given zero => exact ⟨text, given, zero⟩

/-- The sign of the card limit is at fault exactly if its variable is. -/
theorem Follows.cardLimit_iff :
    config.cardLimit.any (fun limit => limit < 0) = true ↔
      ConfigFault.cardLimitNegative.Found valueOf := by
  simp only [Option.any_eq_true, follows.cardLimit.eq_iff (Option.some_ne_none _),
    Optionally, Option.some.injEq, decide_eq_true_eq]
  constructor
  · rintro ⟨limit, ⟨text, given, found, number, rfl⟩, negative⟩
    exact .cardLimitNegative given number negative
  · intro found
    cases found with
    | @cardLimitNegative text limit given number negative =>
      exact ⟨limit, ⟨text, given, limit, number, rfl⟩, negative⟩

variable (isNumber : ∀ text, ¬(ConfigFault.cardLimitNotNumber text).Found valueOf)

include isNumber

/-- The fault of a configuration is the first of its variables, if the card limit is a number. -/
theorem Follows.isFirst_of_fault? {fault : ConfigFault} (faulty : config.fault? = some fault) :
    fault.IsFirst valueOf := by
  unfold fault? at faulty
  split at faulty
  · rename_i invalidUrl
    cases faulty
    refine ⟨follows.databaseUrl_iff.mp invalidUrl, fun other found => ?_⟩
    cases other with
    | cardLimitNotNumber text => exact absurd found (isNumber text)
    | databaseUrlScheme | adminPageSizeZero | cardLimitNegative => simp [ConfigFault.rank]
  rename_i validUrl
  have noUrlFault := follows.databaseUrl_iff.not.mp validUrl
  split at faulty
  · rename_i noRoom
    cases faulty
    refine ⟨follows.adminPageSize_iff.mp noRoom, fun other found => ?_⟩
    cases other with
    | cardLimitNotNumber text => exact absurd found (isNumber text)
    | databaseUrlScheme => exact absurd found noUrlFault
    | adminPageSizeZero | cardLimitNegative => simp [ConfigFault.rank]
  rename_i hasRoom
  have noSizeFault := follows.adminPageSize_iff.not.mp hasRoom
  split at faulty
  · rename_i negative
    cases faulty
    refine ⟨follows.cardLimit_iff.mp negative, fun other found => ?_⟩
    cases other with
    | cardLimitNotNumber text => exact absurd found (isNumber text)
    | databaseUrlScheme => exact absurd found noUrlFault
    | adminPageSizeZero => exact absurd found noSizeFault
    | cardLimitNegative => simp [ConfigFault.rank]
  · cases faulty

/-- Without a fault of the configuration there is none of its variables, if the card limit is a
number. -/
theorem Follows.not_found_of_fault? (fine : config.fault? = none) (fault : ConfigFault) :
    ¬fault.Found valueOf := by
  intro found
  obtain ⟨validUrl, hasRoom, notNegative⟩ := fault?_eq_none_iff.mp fine
  cases fault with
  | cardLimitNotNumber text => exact isNumber text found
  | databaseUrlScheme => exact validUrl (follows.databaseUrl_iff.mpr found)
  | adminPageSizeZero => exact hasRoom (follows.adminPageSize_iff.mpr found)
  | cardLimitNegative => exact notNegative (follows.cardLimit_iff.mpr found)

end Faults

/-! ## Reading a configuration -/

/-- A configuration is read as a draft that is looked at for faults, if there is a draft. -/
theorem ofEnvironment_eq (environment : Environment) :
    ofEnvironment environment =
      cardLimitOf environment >>= fun cardLimit => (draft environment cardLimit).validate := rfl

variable {environment : Environment}

/-- A configuration without faults is itself what comes of looking for them. -/
theorem validate_eq_ok_iff {config result : Config} :
    config.validate = .ok result ↔ config.fault? = none ∧ config = result := by
  unfold validate
  split
  · rename_i fault faulty
    simp [faulty]
  · rename_i fine
    simp [fine]

/-- A configuration with a fault comes to the fault. -/
theorem validate_eq_error_iff {config : Config} {fault : ConfigFault} :
    config.validate = .error fault ↔ config.fault? = some fault := by
  unfold validate
  split
  · rename_i other faulty
    simp [faulty]
  · rename_i fine
    simp [fine]

/-- A value that counts unless it is empty is taken from its variable. -/
theorem takenFrom_nonempty (name : String) :
    TakenFrom environment.get? name (Optionally DenotesItself) none
      (environment.nonempty? name) := by
  have looked : environment.nonempty? name =
      (environment.get? name).bind fun text =>
        (some text).filter fun text => !text.isEmpty := by
    rw [Environment.nonempty?]
    cases environment.get? name with
    | none => rfl
    | some text => rfl
  rw [looked]
  exact takenFrom_optionally itself_read_iff fun value denotes => denotes.1 rfl

/-- Without a value that is not empty there is no card limit. -/
theorem cardLimitOf_of_unset (unset : Unset environment.get? "BOARDS_CARD_LIMIT") :
    cardLimitOf environment = .ok none := by
  rw [cardLimitOf, (takenFrom_nonempty "BOARDS_CARD_LIMIT").unset unset]

/-- A value that is not empty has to be a card limit. -/
theorem cardLimitOf_of_set {text : String}
    (given : environment.get? "BOARDS_CARD_LIMIT" = some text) (nonempty : text ≠ "") :
    cardLimitOf environment =
      match Text.int32Literal? (String.ofList (Text.trim text.toList)) with
      | some limit => .ok (some limit)
      | none => .error (.cardLimitNotNumber text) := by
  have itself := (takenFrom_nonempty "BOARDS_CARD_LIMIT").denoted text (some text) given
    ⟨text, ⟨nonempty, rfl⟩, rfl⟩
  cases number : Text.int32Literal? (String.ofList (Text.trim text.toList)) with
  | none => simp only [cardLimitOf, itself, number]
  | some limit => simp only [cardLimitOf, itself, number]

/-- A card limit that cannot be read is no number. -/
theorem found_of_cardLimitOf_eq_error {fault : ConfigFault}
    (faulty : cardLimitOf environment = .error fault) :
    ∃ text, fault = .cardLimitNotNumber text ∧ fault.Found environment.get? := by
  by_cases unset : Unset environment.get? "BOARDS_CARD_LIMIT"
  · rw [cardLimitOf_of_unset unset] at faulty
    cases faulty
  · obtain ⟨text, given, nonempty⟩ := exists_of_not_unset unset
    rw [cardLimitOf_of_set given nonempty] at faulty
    split at faulty
    · cases faulty
    · rename_i unread
      cases faulty
      refine ⟨text, rfl, .cardLimitNotNumber given nonempty fun limit denotes => ?_⟩
      rw [(cardLimit_read_iff text limit).mpr denotes] at unread
      cases unread

/-- A card limit that can be read is taken from its variable, whose value is a number unless it
is empty. -/
theorem cardLimitOf_eq_ok {cardLimit : Option Int32}
    (read : cardLimitOf environment = .ok cardLimit) :
    TakenFrom environment.get? "BOARDS_CARD_LIMIT" (Optionally DenotesCardLimit) none cardLimit ∧
      ∀ text, ¬(ConfigFault.cardLimitNotNumber text).Found environment.get? := by
  have taken : TakenFrom environment.get? "BOARDS_CARD_LIMIT" (Optionally DenotesCardLimit) none
      ((environment.get? "BOARDS_CARD_LIMIT").bind fun text =>
        Text.int32Literal? (String.ofList (Text.trim text.toList))) :=
    takenFrom_optionally cardLimit_read_iff not_denotesCardLimit_empty
  by_cases unset : Unset environment.get? "BOARDS_CARD_LIMIT"
  · rw [cardLimitOf_of_unset unset] at read
    cases read
    refine ⟨taken.unset unset ▸ taken, fun text found => ?_⟩
    cases found with
    | cardLimitNotNumber given nonempty noNumber =>
      exact unset.elim (fun absent => nomatch absent.symm.trans given)
        fun empty => nonempty (Option.some.inj (given.symm.trans empty))
  · obtain ⟨text, given, nonempty⟩ := exists_of_not_unset unset
    rw [cardLimitOf_of_set given nonempty] at read
    split at read
    · rename_i limit number
      cases read
      have denotes := (cardLimit_read_iff text limit).mp number
      have found := taken.denoted text (some limit) given ⟨limit, denotes, rfl⟩
      refine ⟨found ▸ taken, fun other otherFound => ?_⟩
      cases otherFound with
      | cardLimitNotNumber givenOther _ noNumber =>
        obtain rfl := Option.some.inj (given.symm.trans givenOther)
        exact noNumber limit denotes
    · cases read

/-- A draft is the configuration of the values of the variables. -/
theorem draft_follows {cardLimit : Option Int32}
    (taken : TakenFrom environment.get? "BOARDS_CARD_LIMIT" (Optionally DenotesCardLimit) none
      cardLimit) : (draft environment cardLimit).Follows environment.get? where
  environment := rfl
  databaseUrl := takenFrom_nonempty _
  dbMaxConnections :=
    takenFrom_bind uint32_read_iff not_denotesUInt32_empty 5
  dbTimeoutSeconds :=
    takenFrom_bind uint64_read_iff not_denotesUInt64_empty 30
  licensePath := takenFrom_nonempty _
  cardLimit := taken
  adminPageSize :=
    takenFrom_bind uint64_read_iff not_denotesUInt64_empty 50

/-- The fault with which a configuration is not read is the first of its variables. -/
theorem isFirst_of_ofEnvironment {fault : ConfigFault}
    (faulty : ofEnvironment environment = .error fault) : fault.IsFirst environment.get? := by
  rw [ofEnvironment_eq] at faulty
  cases read : cardLimitOf environment with
  | error first =>
    rw [read] at faulty
    cases faulty
    obtain ⟨text, rfl, found⟩ := found_of_cardLimitOf_eq_error read
    exact ⟨found, fun other _ => Nat.zero_le _⟩
  | ok cardLimit =>
    rw [read] at faulty
    obtain ⟨taken, isNumber⟩ := cardLimitOf_eq_ok read
    exact (draft_follows taken).isFirst_of_fault? isNumber (validate_eq_error_iff.mp faulty)

/-- A configuration that is read is that of its variables, and nothing is wrong with it or
them. -/
theorem follows_of_ofEnvironment {config : Config}
    (read : ofEnvironment environment = .ok config) :
    config.Follows environment.get? ∧ config.fault? = none ∧
      ∀ fault : ConfigFault, ¬fault.Found environment.get? := by
  rw [ofEnvironment_eq] at read
  cases readLimit : cardLimitOf environment with
  | error first =>
    rw [readLimit] at read
    cases read
  | ok cardLimit =>
    rw [readLimit] at read
    obtain ⟨taken, isNumber⟩ := cardLimitOf_eq_ok readLimit
    obtain ⟨fine, rfl⟩ := validate_eq_ok_iff.mp read
    have follows := draft_follows taken
    exact ⟨follows, fine, follows.not_found_of_fault? isNumber fine⟩

/-- A configuration without faults has room on its pages. -/
theorem one_le_adminPageSize {config : Config} (fine : config.fault? = none) :
    1 ≤ config.adminPageSize :=
  UInt64.le_iff_toNat_le.mpr <| UInt64.lt_iff_toNat_lt.mp <|
    UInt64.pos_iff_ne_zero.mpr (fault?_eq_none_iff.mp fine).2.1

/-- A configuration without faults has no negative card limit. -/
theorem cardLimit_nonneg {config : Config} (fine : config.fault? = none) {limit : Int32}
    (limited : config.cardLimit = some limit) : 0 ≤ limit := by
  have notNegative := (fault?_eq_none_iff.mp fine).2.2
  rw [limited, Option.any_some, decide_eq_true_eq] at notNegative
  exact Int32.not_lt.mp notNegative

end Config

/-- The value of a variable over a process and a plain file of settings: that of the process and,
without one, that of the first line with the name. -/
def mergedValue (process : Variables) (written : List Settings.PlainLine) (name : String) :
    Option String :=
  (process.lookup name).or ((Settings.PlainLine.variables written).lookup name)

/-- Whatever the variables of a process and of a plain file of settings are, the configuration
cannot be read exactly if something is wrong with their values, and then with the first fault.
Otherwise it is the one of the values, nothing is wrong with it, and a server that is started with
it asks its host for no page without room, whatever happened before. -/
theorem Config.ofEnvironment_fails_exactly (process : Variables)
    (written : List Settings.PlainLine) :
    let valueOf := mergedValue process written
    let result := ofEnvironment (.ofSettings process (Settings.PlainLine.text written))
    ((∃ fault, result = .error fault) ↔ ∃ fault : ConfigFault, fault.Found valueOf) ∧
      (∀ fault, result = .error fault ↔ fault.IsFirst valueOf) ∧
      ∀ config, result = .ok config →
        config.Follows valueOf ∧ config.validate = .ok config ∧ 1 ≤ config.adminPageSize ∧
          (∀ limit, config.cardLimit = some limit → 0 ≤ limit) ∧
          ∀ fixture operations workspaceId,
            let server := (Server.ofFixture fixture config).after operations
            ∃ queries,
              (outcome (Server.requestUpgrade workspaceId) server).2.queries =
                  server.queries ++ queries ∧
                ∀ query ∈ queries, query.perPage ≠ 0 := by
  intro valueOf result
  have merged : Environment.get? (.ofSettings process (Settings.PlainLine.text written)) =
      valueOf := funext fun name => Environment.get?_ofSettings_plain process written name
  have firstFault (fault : ConfigFault) (faulty : result = .error fault) :
      fault.IsFirst valueOf := merged ▸ isFirst_of_ofEnvironment faulty
  have faultless (config : Config) (read : result = .ok config) :
      config.Follows valueOf ∧ config.fault? = none ∧
        ∀ fault : ConfigFault, ¬fault.Found valueOf := merged ▸ follows_of_ofEnvironment read
  have exists_fault (fault : ConfigFault) (found : fault.Found valueOf) :
      ∃ first, result = .error first := by
    cases read : result with
    | error first => exact ⟨first, rfl⟩
    | ok config => exact absurd found ((faultless config read).2.2 fault)
  refine ⟨⟨fun ⟨fault, faulty⟩ => ⟨fault, (firstFault fault faulty).1⟩,
    fun ⟨fault, found⟩ => exists_fault fault found⟩, fun fault => ⟨firstFault fault, ?_⟩, ?_⟩
  · intro first
    obtain ⟨other, faulty⟩ := exists_fault fault first.1
    rwa [first.eq (firstFault other faulty)]
  · intro config read
    obtain ⟨follows, fine, -⟩ := faultless config read
    have room := (fault?_eq_none_iff.mp fine).2.1
    refine ⟨follows, validate_eq_ok_iff.mpr ⟨fine, rfl⟩, one_le_adminPageSize fine,
      fun limit => cardLimit_nonneg fine, fun fixture operations workspaceId => ?_⟩
    obtain ⟨queries, asked, sized⟩ := queries_of_requestUpgrade_after workspaceId operations
      (Server.ofFixture fixture config)
    exact ⟨queries, asked, fun query member => (sized query member).symm ▸ room⟩

/-- A plain file with a card limit and a page size. -/
def sampleSettings : List Settings.PlainLine :=
  [.comment " limits" (by decide),
    .setting ⟨"BOARDS_CARD_LIMIT", "-0", by decide, List.all_eq_true.mp rfl,
      List.all_eq_true.mp rfl, by decide⟩,
    .empty,
    .setting ⟨"BOARDS_ADMIN_PAGE_SIZE", "+025", by decide, List.all_eq_true.mp rfl,
      List.all_eq_true.mp rfl, by decide⟩]

/-- The file is read beside a number that is none; if the process has a wrong address and a
negative limit, the address is what is wrong first. -/
theorem Config.ofEnvironment_sampleSettings :
    let process := [("DB_MAX_CONNECTIONS", "many")]
    let config : Config := { cardLimit := some 0, adminPageSize := 25 }
    let faulty := [("BOARDS_CARD_LIMIT", "-1"), ("DATABASE_URL", "mysql://host")]
    ofEnvironment (.ofSettings process (Settings.PlainLine.text sampleSettings)) = .ok config ∧
      config.Follows (mergedValue process sampleSettings) ∧ config.validate = .ok config ∧
      ConfigFault.databaseUrlScheme.IsFirst (mergedValue faulty sampleSettings) := by
  intro process config faulty
  obtain ⟨-, -, read⟩ := ofEnvironment_fails_exactly process sampleSettings
  obtain ⟨-, fails, -⟩ := ofEnvironment_fails_exactly faulty sampleSettings
  obtain ⟨follows, valid, -⟩ := read config rfl
  exact ⟨rfl, follows, valid, (fails .databaseUrlScheme).mp rfl⟩

/-- An empty variable for the name of the environment does not give the standard name, although
nothing is wrong with the configuration. -/
theorem Config.empty_environment_is_no_default :
    ∃ config,
      ofEnvironment (.ofSettings [("ENVIRONMENT", "")] (Settings.PlainLine.text [])) =
          .ok config ∧
        Unset (mergedValue [("ENVIRONMENT", "")] []) "ENVIRONMENT" ∧
        Unset (mergedValue [("ENVIRONMENT", "")] []) "APP_ENV" ∧
        config.environment ≠ ({} : Config).environment :=
  ⟨{ environment := "" }, rfl, .inr rfl, .inl rfl, by decide⟩

end CardLimits
