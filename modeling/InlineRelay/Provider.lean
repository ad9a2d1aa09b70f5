import InlineRelay.Failure
import InlineRelay.Result.Response
import InlineRelay.Selection

/-! What the bot works with: bots that answer inline queries, and delivery to the chat. -/
namespace InlineRelay

/-- A handle and the bot behind it. -/
structure Bot where
  id : Int
  handle : String
  deriving DecidableEq, Repr

/-- Access to other bots' inline results. -/
structure Provider (m : Type → Type) where
  resolve : (handle : String) → m (Except Failure Bot)
  /-- Ask a bot on behalf of a user. -/
  query : (bot : Bot) → (userId : Int) → (text : String) → m (Except Failure Response)

/-- A chat message the bot sends. -/
structure Outgoing where
  /-- A username or a peer object. -/
  peer : Json
  text : String
  replyTo : Option Int
  markdown : Bool
  deriving Repr

namespace Outgoing

def plain (peer : Json) (text : String) : Outgoing := ⟨peer, text, none, false⟩

def encode (o : Outgoing) : Json :=
  .ofFields
    ([("peer", o.peer), ("message", .str o.text)]
      ++ Json.Fields.maybe "reply_to_msg_id" Json.int o.replyTo
      ++ (if o.markdown then [("parse_mode", .str "markdown")] else []))

end Outgoing

/-- Delivery of what the bot has to say. -/
structure Messenger (m : Type → Type) where
  answer : Answer → m (Except Failure Unit)
  send : Outgoing → m (Except Failure Unit)

/-- What a running bot has at hand. -/
structure Desk (m : Type → Type) where
  provider : Provider m
  messenger : Messenger m
  /-- The patterns selectors may be. -/
  matcher : Matcher
  /-- The bot's own id; it never queries itself. -/
  selfId : Int
  /-- Where failures are reported. -/
  adminPeer : String
  /-- The button that stands in for results. -/
  faq : Redirect

end InlineRelay
