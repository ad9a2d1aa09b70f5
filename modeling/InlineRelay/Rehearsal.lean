import InlineRelay.Provider

/-!
Rehearsals: bots with prepared responses and a messenger that only records, to see what the bot
would do.
-/
namespace InlineRelay.Rehearsal

/-! ### Prepared results -/

def plainMessage (kind : MessageKind) (text : Option String) : Message .fetched :=
  ⟨kind, text, none, none, []⟩

def text (id text : String) : Candidate :=
  .text ⟨id, "article", plainMessage .text (some text), []⟩

def photo (id : String) (caption : Option String) : Candidate :=
  .photo ⟨id, "photo", plainMessage .mediaAuto caption,
    [("photo", .ofFields [(Json.tagKey, .str "photo"), ("id", .str id)])]⟩

def game (id : String) : Candidate :=
  .game ⟨id, "game", plainMessage .mediaAuto (some ""),
    [("game", .ofFields [(Json.tagKey, .str "game"), ("short_name", .str id)])]⟩

/-- So many texts, numbered from one. -/
def texts (name : String) (count : Nat) : List Candidate :=
  (List.range count).map fun n => text s!"{name}{n + 1}" s!"{name} result {n + 1}"

/-! ### Bots -/

/-- The bots there are and what they answer. Of several entries for a handle the first counts. -/
structure Cast where
  bots : List (String × Int)
  responses : List (String × Response)
  /-- Those whose queries fail. -/
  failing : List String

namespace Cast

def empty : Cast := ⟨[], [], []⟩

/-- The handles that have an id, each once. -/
def handles (c : Cast) : List String := (c.bots.map (·.1)).eraseDups

def withBot (c : Cast) (handle : String) (id : Int) : Cast :=
  { c with bots := (handle, id) :: c.bots }

/-- Prepare a response. A new handle takes its id from how many are known. -/
def withResponse (c : Cast) (handle : String) (r : Response) : Cast :=
  let c := if (c.bots.lookup handle).isSome then c
    else c.withBot handle (1000 + c.handles.length)
  { c with responses := (handle, r) :: c.responses }

def withFailure (c : Cast) (handle : String) : Cast :=
  let c := c.withResponse handle (.ofResults [])
  { c with failing := handle :: c.failing }

def resolve (c : Cast) (handle : String) : Except Failure Bot :=
  match c.bots.lookup handle with
  | some id => .ok ⟨id, handle⟩
  | none => .error (.ofText s!"Unknown provider {handle}")

def query (c : Cast) (bot : Bot) : Except Failure Response :=
  if bot.handle ∈ c.failing then
    .error (.ofText s!"Connection reset while querying {bot.handle}")
  else .ok ((c.responses.lookup bot.handle).getD (.ofResults []))

end Cast

/-! ### The record -/

/-- A query as it was asked. -/
structure Asked where
  handle : String
  userId : Int
  text : String
  deriving DecidableEq, Repr

/-- All that was asked and delivered, in order. -/
structure Log where
  resolved : List String
  queried : List Asked
  answers : List Answer
  sent : List Outgoing
  deriving Repr

namespace Log

def empty : Log := ⟨[], [], [], []⟩

/-- What was recorded since an earlier state. -/
def since (before after : Log) : Log where
  resolved := after.resolved.drop before.resolved.length
  queried := after.queried.drop before.queried.length
  answers := after.answers.drop before.answers.length
  sent := after.sent.drop before.sent.length

def lastAnswer? (l : Log) : Option Answer := l.answers.getLast?

/-- The messages sent to a peer that is given by name. -/
def messagesTo (l : Log) (peer : String) : List Outgoing :=
  l.sent.filter fun o => match o.peer with
    | .str s => s == peer
    | _ => false

def wasQueried (l : Log) (handle : String) : Bool := l.queried.any (·.handle == handle)

end Log

def provider (c : Cast) : Provider (StateM Log) where
  resolve handle := do
    modify fun l => { l with resolved := l.resolved ++ [handle] }
    return c.resolve handle
  query bot userId text := do
    modify fun l => { l with queried := l.queried ++ [⟨bot.handle, userId, text⟩] }
    return c.query bot

/-- Messages that cannot be sent are recorded all the same. -/
def messenger (failMessages : Bool) : Messenger (StateM Log) where
  answer a := do
    modify fun l => { l with answers := l.answers ++ [a] }
    return .ok ()
  send o := do
    modify fun l => { l with sent := l.sent ++ [o] }
    return if failMessages then .error (.ofText "PEER_ID_INVALID") else .ok ()

end InlineRelay.Rehearsal
