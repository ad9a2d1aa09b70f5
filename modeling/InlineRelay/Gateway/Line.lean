import InlineRelay.Gateway.Client

/-!
A gateway that follows a script: for every path, replies to be given in turn. What is asked of it is
recorded, unless the line to it is down.
-/
namespace InlineRelay.Gateway

/-- What the gateway does with a request. -/
inductive Turn
  | reply (r : Reply)
  /-- Hang up without a reply. -/
  | drop
  deriving DecidableEq, Repr

def Turn.reply? : Turn → Option Reply
  | .reply r => some r
  | .drop => none

/-- A request as it arrived. -/
structure Request where
  path : String
  body : String
  deriving DecidableEq, Repr

structure Line where
  /-- Whether requests arrive at all. -/
  up : Bool
  /-- Turns by path, without slashes in front. -/
  routes : List (String × List Turn)
  log : List Request

namespace Line

/-- The name of a path among the routes. -/
def routeName (path : String) : String := String.ofList (path.toList.dropWhile (· = '/'))

/-- How often a route was asked for. -/
def count (l : Line) (name : String) : Nat :=
  (l.log.filter fun r => routeName r.path == name).length

/-- The reply of a gateway that knows no such method. -/
def unknownMethod : Turn :=
  .reply <| .ofText 200 <| Json.text <| .ofFields
    [("ok", .bool false), ("error_code", .int 404), ("description", .str "METHOD_NOT_FOUND")]

/-- The next turn of a route; the last one repeats. -/
def next (l : Line) (name : String) : Turn :=
  let turns := (l.routes.lookup name).getD []
  turns.getD (min (l.count name) (turns.length - 1)) unknownMethod

def post (address : Http.Address) (body : String) (l : Line) : Option Reply × Line :=
  if l.up then
    ((l.next (routeName address.path)).reply?, { l with log := l.log ++ [⟨address.path, body⟩] })
  else (none, l)

/-- The line to the gateway, where texts stand for these addresses. -/
def transport (address? : String → Option Http.Address) : Transport (StateM Line) where
  address? := address?
  post address body := modifyGet (post address body)

/-- The requests since an earlier state of the line. -/
def since (before after : Line) : List Request := after.log.drop before.log.length

end Line

end InlineRelay.Gateway
