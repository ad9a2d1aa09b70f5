import InlineRelay.Account
import InlineRelay.Failure
import InlineRelay.Http.Address
import InlineRelay.Http.Status
import InlineRelay.Json.Octets
import InlineRelay.Json.Printer
import InlineRelay.Provider

/-!
A client of the gateway, which holds a session and carries out its methods. The body of a reply
decides what came of a call; its HTTP status is only named where the body is unreadable.
-/
namespace InlineRelay.Gateway

inductive Error
  | config (text : String)
  | network (text : String)
  /-- The method was refused. -/
  | api (code : Int) (description : String)
  | parse (text : String)
  deriving DecidableEq, Repr

namespace Error

def message : Error → String
  | config text => s!"Configuration error: {text}"
  | network text => s!"Network error: {text}"
  | api code description => s!"RPC error {code}: {description}"
  | parse text => s!"Parse error: {text}"

/-- Whether a text occurs in another. -/
def occursIn (part : List Char) : List Char → Bool
  | [] => part.isEmpty
  | c :: cs => part.isPrefixOf (c :: cs) || occursIn part cs

/-- The descriptions that say there is no such peer. -/
def unknownPeers : List String := ["USERNAME_NOT_OCCUPIED", "USERNAME_INVALID", "PEER_ID_INVALID"]

def isUnknownPeer : Error → Bool
  | api _ description => unknownPeers.any fun d => occursIn d.toList description.toList
  | _ => false

def failure (e : Error) : Failure := .ofText e.message

end Error

/-- A reply as it comes from the network. -/
structure Reply where
  status : Nat
  /-- Nothing if it breaks off. -/
  body : Option (List UInt8)
  deriving DecidableEq, Repr

namespace Reply

def ofText (status : Nat) (text : String) : Reply := ⟨status, some (Text.octets text)⟩

def decode {τ : Type} [Json.Source τ] (v : τ) : Json.Decoded Reply := do
  let status := Json.Field.required "status" Json.int32
  let body := Json.Field.optional "body" Json.string
  let ms ← Json.closedRecord "struct Reply" [status.slot, body.slot] v
  return { status := (← status.get ms).toNat, body := (← body.get ms).map Text.octets }

end Reply

/-- The network. -/
structure Transport (m : Type → Type) where
  /-- The address that a text stands for, if it is an absolute one. -/
  address? : String → Option Http.Address
  /-- What becomes of a request, with no reply if none comes. -/
  post : Http.Address → (body : String) → m (Option Reply)

/-- What every reply is wrapped in. -/
structure Envelope (α : Type) where
  ok : Bool
  result : Option α
  errorCode : Option Int
  description : Option String

namespace Envelope
variable {α τ : Type} [Json.Source τ]

def decode (read : τ → Json.Decoded α) (v : τ) : Json.Decoded (Envelope α) := do
  let ok := Json.Field.required "ok" Json.boolean
  let result := Json.Field.optional "result" read
  let errorCode := Json.Field.optional "error_code" Json.int32
  let description := Json.Field.optional "description" Json.string
  let slots := [ok.slot, result.slot, errorCode.slot, description.slot]
  let ms ← Json.closedRecord "struct ApiResponse" slots v
  return {
    ok := ← ok.get ms
    result := ← result.get ms
    errorCode := ← errorCode.get ms
    description := ← description.get ms }

/-- What an envelope says came of the call. -/
def outcome (e : Envelope α) : Except Error α :=
  if e.ok then
    match e.result with
    | some a => .ok a
    | none => .error (.parse "Gateway returned ok without a result")
  else
    .error (.api (e.errorCode.getD 500) (e.description.getD "Unknown gateway error"))

end Envelope

namespace Reply
variable {α : Type} (read : Json.Doc → Json.Decoded α)

/-- The envelope in a reply, if all of it came and it can be read. -/
def envelope? (r : Reply) : Option (Envelope α) :=
  r.body.bind fun octets => (Json.decodeText (Envelope.decode read) (Json.textOf octets)).toOption

/-- What a reply says came of the call. -/
def outcome (r : Reply) : Except Error α :=
  match r.envelope? read with
  | some e => e.outcome
  | none => .error (.parse s!"error decoding response body (HTTP {Http.statusLine r.status})")

end Reply

/-- Access to one session of a gateway. -/
structure Client where
  baseUrl : String
  session : String
  deriving DecidableEq, Repr

namespace Client

/-- Slashes that end the address do not count. -/
def ofUrl (url session : String) : Client :=
  ⟨String.ofList (url.toList.reverse.dropWhile (· = '/')).reverse, session⟩

/-- The client that the variables `<name>_GATEWAY_URL` and `<name>_SESSION` describe. -/
def ofVariables (lookup : String → Option String) (name : String) : Except Error Client :=
  match lookup s!"{name}_GATEWAY_URL", lookup s!"{name}_SESSION" with
  | none, _ => .error (.config s!"{name}_GATEWAY_URL not set")
  | some _, none => .error (.config s!"{name}_SESSION not set")
  | some url, some session => .ok (ofUrl url session)

def url (c : Client) (method : String) : String := s!"{c.baseUrl}/{c.session}/{method}"

variable {m : Type → Type} [Monad m] {α : Type}

/-- Call a method. The body that is posted stands here for its value: on the way a record has its own
members first, in the order declared, and after them those it only passes on, so that a key among
both, as `geo_point` can be, comes twice. -/
def invoke (c : Client) (t : Transport m) (method : String) (parameters : Json)
    (read : Json.Doc → Json.Decoded α) : m (Except Error α) := do
  match t.address? (c.url method) with
  | none => return .error (.network "builder error")
  | some address =>
    if address.host.isEmpty then
      return .error (.network s!"builder error for url ({address.text})")
    match ← t.post address parameters.text with
    | some reply => return reply.outcome read
    | none => return .error (.network s!"error sending request for url ({address.text})")

def getSelf (c : Client) (t : Transport m) : m (Except Error Account) :=
  c.invoke t "getSelf" (.obj []) Account.decode

def getInfo (c : Client) (t : Transport m) (peer : String) : m (Except Error Peer) :=
  c.invoke t "getInfo" (.ofFields [("id", .str peer)]) Peer.decode

def sendMessage (c : Client) (t : Transport m) (message : Outgoing) : m (Except Error Json) :=
  c.invoke t "messages.sendMessage" message.encode Json.anything

def setInlineBotResults (c : Client) (t : Transport m) (answer : Json) :
    m (Except Error Bool) :=
  c.invoke t "messages.setInlineBotResults" answer Json.boolean

def getInlineBotResults (c : Client) (t : Transport m) (bot : String) (userId : Int)
    (query : String) : m (Except Error Response) :=
  let parameters := .ofFields
    [("bot", .str bot), ("peer", .int userId), ("query", .str query), ("offset", .str "0")]
  c.invoke t "messages.getInlineBotResults" parameters Response.decode

end Client

section Backend
variable {m : Type → Type} [Monad m]

/-- Other bots, asked through a user's session. -/
def provider (t : Transport m) (user : Client) : Provider m where
  resolve handle := do
    match ← user.getInfo t handle with
    | .ok peer => return .ok ⟨peer.id, handle⟩
    | .error e =>
      if e.isUnknownPeer then return .error (.ofText s!"Unknown provider {handle}")
      else return .error (e.failure.within s!"Failed to resolve {handle}")
  query bot userId text := do
    match ← user.getInlineBotResults t bot.handle userId text with
    | .ok response => return .ok response
    | .error e => return .error (e.failure.within s!"Inline query to {bot.handle} failed")

/-- Delivery through the bot's session. -/
def messenger (t : Transport m) (bot : Client) : Messenger m where
  answer a := do
    match ← bot.setInlineBotResults t a.encode with
    | .ok _ => return .ok ()
    | .error e => return .error (e.failure.within s!"Failed to answer inline query {a.queryId}")
  send o := do
    match ← bot.sendMessage t o with
    | .ok _ => return .ok ()
    | .error e => return .error (e.failure.within "Failed to send message")

end Backend

end InlineRelay.Gateway
