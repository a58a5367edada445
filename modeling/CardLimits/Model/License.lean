import CardLimits.Json.Record
/-!
# Licenses and product limits

Both are records of optional levels.  A server runs in the cloud only if every
level of its license says so, and a limit with a missing level is zero, which
means no limit.
-/

namespace CardLimits

open Json

/-- The features that a license switches on. -/
structure Features where
  cloud : Option Bool := none
deriving DecidableEq, Repr

/-- The JSON form of features. -/
def Features.record : Record Features where
  name := "Features"
  fields := .field (.withDefault "cloud" (Codec.optional .boolean) none) .done
  ofValues := fun (cloud, ()) => { cloud }
  toValues := fun features => (features.cloud, ())

/-- A license of the host. -/
structure License where
  features : Option Features := none
deriving DecidableEq, Repr

namespace License

/-- A license of a cloud server. -/
def cloud : License :=
  { features := some { cloud := some true } }

/-- Whether the cloud feature is there and switched on. -/
def isCloud (license : License) : Bool :=
  (license.features.bind Features.cloud).getD false

/-- There is a license for the cloud exactly if every level is there and the last one says so. -/
theorem any_isCloud_iff {license : Option License} :
    license.any isCloud = true ↔ (license.bind features).bind Features.cloud = some true := by
  cases license with
  | none => simp
  | some license =>
    rw [Option.any_some, isCloud, Option.bind_some]
    cases license.features.bind Features.cloud <;> simp

/-- The JSON form of a license. -/
def record : Record License where
  name := "License"
  fields := .field (.withDefault "features" (Codec.optional Features.record.codec) none) .done
  ofValues := fun (features, ()) => { features }
  toValues := fun license => (license.features, ())

/-- How licenses are read and written. -/
def codec : Codec License :=
  record.codec

end License

/-- The limits on boards that a product comes with. -/
structure BoardsLimits where
  cards : Option Int32 := none
  views : Option Int32 := none
deriving DecidableEq

/-- The JSON form of limits on boards. -/
def BoardsLimits.record : Record BoardsLimits where
  name := "BoardsLimits"
  fields :=
    .field (.withDefault "cards" (Codec.optional .int32) none) <|
    .field (.withDefault "views" (Codec.optional .int32) none) .done
  ofValues := fun (cards, views, ()) => { cards, views }
  toValues := fun limits => (limits.cards, limits.views, ())

/-- The limits that a product comes with. -/
structure ProductLimits where
  boards : Option BoardsLimits := none
deriving DecidableEq

namespace ProductLimits

/-- A limit on cards alone. -/
def withCards (cards : Int32) : ProductLimits :=
  { boards := some { cards := some cards } }

/-- The limit on cards; zero if there is none. -/
def cardLimit (limits : ProductLimits) : Int32 :=
  (limits.boards.bind BoardsLimits.cards).getD 0

/-- The limit on views; zero if there is none. -/
def viewLimit (limits : ProductLimits) : Int32 :=
  (limits.boards.bind BoardsLimits.views).getD 0

/-- The JSON form of product limits. -/
def record : Record ProductLimits where
  name := "ProductLimits"
  fields := .field (.withDefault "boards" (Codec.optional BoardsLimits.record.codec) none) .done
  ofValues := fun (boards, ()) => { boards }
  toValues := fun limits => (limits.boards, ())

/-- How product limits are read and written. -/
def codec : Codec ProductLimits :=
  record.codec

end ProductLimits

/-- The limits of a server and what is used of them, as shown to clients. -/
structure Usage where
  cards : Int32 := 0
  usedCards : Int64 := 0
  cutoff : Int64 := 0
  views : Int32 := 0
deriving DecidableEq

namespace Usage

/-- The JSON form of a usage. -/
def record : Record Usage where
  name := "BoardsCloudLimits"
  fields :=
    .field (.required "cards" .int32) <|
    .field (.required "usedCards" .int64) <|
    .field (.required "cardLimitTimestamp" .int64) <|
    .field (.required "views" .int32) .done
  ofValues := fun (cards, usedCards, cutoff, views, ()) => { cards, usedCards, cutoff, views }
  toValues := fun usage => (usage.cards, usage.usedCards, usage.cutoff, usage.views, ())

/-- How usages are read and written. -/
def codec : Codec Usage :=
  record.codec

end Usage

end CardLimits
