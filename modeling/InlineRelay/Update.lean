import InlineRelay.Json.Record

/-! What reaches the bot: inline queries and chat messages. -/
namespace InlineRelay

/-- An inline query a user types to the bot. -/
structure InlineQuery where
  queryId : Int
  userId : Int
  query : String
  offset : String
  deriving DecidableEq, Repr

namespace InlineQuery

def decode {τ : Type} [Json.Source τ] (v : τ) : Json.Decoded InlineQuery := do
  let queryId := Json.Field.required "query_id" Json.int64
  let userId := Json.Field.required "user_id" Json.int64
  let query := Json.Field.required "query" Json.string
  let offset := Json.Field.withDefault "offset" Json.string ""
  let slots := [queryId.slot, userId.slot, query.slot, offset.slot]
  let ms ← Json.closedRecord "struct BotInlineQuery" slots v
  return {
    queryId := ← queryId.get ms
    userId := ← userId.get ms
    query := ← query.get ms
    offset := ← offset.get ms }

def members (q : InlineQuery) : Json.Fields :=
  [("query_id", .int q.queryId), ("user_id", .int q.userId), ("query", .str q.query),
    ("offset", .str q.offset)]

def encode (q : InlineQuery) : Json := .ofFields q.members

end InlineQuery

/-- A message in a chat the bot is in. -/
structure ChatMessage where
  id : Int
  /-- Whether the bot itself sent it. -/
  outgoing : Bool
  text : String
  peer : Option Json
  sender : Option Json
  deriving Repr

namespace ChatMessage

def decode {τ : Type} [Json.Source τ] (v : τ) : Json.Decoded ChatMessage := do
  let id := Json.Field.required "id" Json.int32
  let outgoing := Json.Field.withDefault "out" Json.boolean false
  let text := Json.Field.withDefault "message" Json.string ""
  let peer := Json.Field.optional "peer_id" Json.anything
  let sender := Json.Field.optional "from_id" Json.anything
  let slots := [id.slot, outgoing.slot, text.slot, peer.slot, sender.slot]
  let ms ← Json.closedRecord "struct Message" slots v
  return {
    id := ← id.get ms
    outgoing := ← outgoing.get ms
    text := ← text.get ms
    peer := ← peer.get ms
    sender := ← sender.get ms }

def encode (m : ChatMessage) : Json :=
  .ofFields
    ([("id", .int m.id), ("out", .bool m.outgoing), ("message", .str m.text)]
      ++ Json.Fields.maybe "peer_id" (fun p => p) m.peer
      ++ Json.Fields.maybe "from_id" (fun p => p) m.sender)

end ChatMessage

/-- An update, by what it tells of. -/
inductive Update
  | inlineQuery (query : InlineQuery)
  | newMessage (message : ChatMessage)
  | newChannelMessage (message : ChatMessage)
  /-- Anything the bot does not react to. -/
  | unsupported
  deriving Repr

namespace Update

inductive Kind
  | inlineQuery
  | newMessage
  | newChannelMessage
  | unsupported
  deriving DecidableEq, Repr

def Kind.ofTag (tag : String) : Kind :=
  if tag = "updateBotInlineQuery" then inlineQuery
  else if tag = "updateNewMessage" then newMessage
  else if tag = "updateNewChannelMessage" then newChannelMessage
  else unsupported

/-- The message of an update, its only field. -/
def decodeMessage {τ : Type} [Json.Source τ] (title : String) (v : τ) :
    Json.Decoded ChatMessage := do
  let message := Json.Field.required "message" ChatMessage.decode
  let ms ← Json.closedRecord title [message.slot] v
  message.get ms

/-- An update without fields: its members are passed over, and an array holds nothing more. -/
def decodeUnsupported {τ : Type} [Json.Source τ] (v : τ) : Json.Decoded Update := do
  let _ ← Json.closedRecord "unit variant Update::Unsupported" [] v
  return unsupported

def decode {τ : Type} [Json.Source τ] (v : τ) : Json.Decoded Update := do
  let (kind, rest) ← Json.tagged "Update" (fun tag => .ok (Kind.ofTag tag)) v
  match kind with
  | .inlineQuery => return inlineQuery (← InlineQuery.decode rest)
  | .newMessage => return newMessage (← decodeMessage "struct variant Update::NewMessage" rest)
  | .newChannelMessage =>
    return newChannelMessage (← decodeMessage "struct variant Update::NewChannelMessage" rest)
  | .unsupported => decodeUnsupported rest

def encode : Update → Json
  | inlineQuery q => .ofFields ((Json.tagKey, .str "updateBotInlineQuery") :: q.members)
  | newMessage m =>
    .ofFields [(Json.tagKey, .str "updateNewMessage"), ("message", m.encode)]
  | newChannelMessage m =>
    .ofFields [(Json.tagKey, .str "updateNewChannelMessage"), ("message", m.encode)]
  | unsupported => .ofFields [(Json.tagKey, .str "Unsupported")]

end Update

end InlineRelay
