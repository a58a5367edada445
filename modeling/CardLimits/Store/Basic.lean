import CardLimits.Failure
import CardLimits.Model.Block
import CardLimits.Model.License
import CardLimits.Model.User
/-!
# Stores

What a server needs from whatever keeps its blocks.  The cutoff is the update time
of the newest card outside the card limit, kept so that it need not be computed
for every request; zero stands for no cutoff.
-/

namespace CardLimits

/-- A direct message to a number of users. -/
structure Message where
  message : String
  postType : String
  /-- The ids of the users. -/
  recipients : List String
deriving DecidableEq, Repr

/-- The JSON form of a message. -/
def Message.json (message : Message) : Json :=
  .object
    [("message", .string message.message), ("postType", .string message.postType),
      ("recipients", .array (message.recipients.map .string))]

/-- What a type of states must offer to serve as the store of a server. -/
class Store (σ : Type) where
  /-- The license of the host, if there is one. -/
  license : Action σ (Option License)
  /-- The current cutoff. -/
  cutoff : Action σ Int64
  /-- Computes the cutoff for a card limit anew, keeps it and returns it. -/
  updateCutoff (limit : Int32) : Action σ Int64
  /-- The number of cards that count against the limit. -/
  usedCards : Action σ Int64
  /-- The blocks of a workspace with the given ids; an id without a block is passed over. -/
  blocksByIds (container : Container) (ids : List String) : Action σ (List Block)
  /-- The team of a workspace, if it has one. -/
  team (workspaceId : String) : Action σ (Option Team)
  /-- Queues a direct message for its recipients. -/
  send (message : Message) : Action σ Unit

end CardLimits
