import InlineRelay.Json.Record

/-! Accounts as the gateway describes them. -/
namespace InlineRelay

/-- The account a session is logged in as. -/
structure Account where
  id : Int
  isBot : Bool
  username : Option String
  firstName : Option String
  deriving DecidableEq, Repr

namespace Account

def decode {τ : Type} [Json.Source τ] (v : τ) : Json.Decoded Account := do
  let id := Json.Field.required "id" Json.int64
  let isBot := Json.Field.withDefault "bot" Json.boolean false
  let username := Json.Field.optional "username" Json.string
  let firstName := Json.Field.optional "first_name" Json.string
  let slots := [id.slot, isBot.slot, username.slot, firstName.slot]
  let ms ← Json.closedRecord "struct User" slots v
  return {
    id := ← id.get ms
    isBot := ← isBot.get ms
    username := ← username.get ms
    firstName := ← firstName.get ms }

def encode (a : Account) : Json :=
  .ofFields
    ([("id", .int a.id), ("bot", .bool a.isBot)]
      ++ Json.Fields.maybe "username" Json.str a.username
      ++ Json.Fields.maybe "first_name" Json.str a.firstName)

end Account

/-- The peer a handle stands for. -/
structure Peer where
  id : Int
  /-- Such as `bot`, `user` or `channel`. -/
  kind : Option String
  deriving DecidableEq, Repr

namespace Peer

def decode {τ : Type} [Json.Source τ] (v : τ) : Json.Decoded Peer := do
  let id := Json.Field.required "bot_api_id" Json.int64
  let kind := Json.Field.optional "type" Json.string
  let ms ← Json.closedRecord "struct PeerInfo" [id.slot, kind.slot] v
  return { id := ← id.get ms, kind := ← kind.get ms }

def encode (p : Peer) : Json :=
  .ofFields ([("bot_api_id", .int p.id)] ++ Json.Fields.maybe "type" Json.str p.kind)

end Peer

end InlineRelay
