import InlineRelay.Frontend
import InlineRelay.Json.Octets
import InlineRelay.Json.Printer

/-!
The web side of a running bot: a health check, and the hook the gateway posts updates to. An
update is acknowledged once it was dealt with, whatever came of that.
-/
namespace InlineRelay

namespace Webhook

structure Request where
  method : String
  uri : String
  contentType : Option String
  body : List UInt8

def Request.decode {τ : Type} [Json.Source τ] (v : τ) : Json.Decoded Request := do
  let method := Json.Field.required "method" Json.string
  let uri := Json.Field.required "uri" Json.string
  let contentType := Json.Field.optional "content_type" Json.string
  let body := Json.Field.withDefault "body" Json.string ""
  let slots := [method.slot, uri.slot, contentType.slot, body.slot]
  let ms ← Json.closedRecord "struct Request" slots v
  return {
    method := ← method.get ms
    uri := ← uri.get ms
    contentType := ← contentType.get ms
    body := (← body.get ms).toUTF8.toList }

structure Response where
  status : Nat
  /-- Refusals have a body of their own, which is not described here. -/
  body : String
  deriving DecidableEq, Repr

def Response.encode (r : Response) : Json :=
  .ofFields [("status", .int r.status), ("body", .str r.body)]

/-- What a request is for. -/
inductive Reception
  | health (withBody : Bool)
  | update (u : Update)
  | refusal (status : Nat)
  deriving Repr

/-! ### Media types -/

def isTokenChar (c : Char) : Bool := c.isAlphanum || c ∈ "!#$%&'*+-.^_\x60|~".toList

def isToken (cs : List Char) : Bool := !cs.isEmpty && cs.all isTokenChar

/-- Whether a quoted value ends well: blanks, then the end or another parameter. -/
def afterQuoted (cs : List Char) : Option (List Char) :=
  match cs.dropWhile (· = ' ') with
  | [] => some []
  | ';' :: cs => some cs
  | _ => none

/-- Whether what follows a semicolon are parameters: names and values, values in quotes or not.
Each round reads one. -/
def areParameters : (rounds : Nat) → List Char → Bool
  | 0, _ => false
  | n + 1, cs =>
    match cs.dropWhile (· = ' ') with
    | [] => true
    | cs =>
      let name := cs.takeWhile (· ≠ '=')
      match cs.dropWhile (· ≠ '=') with
      | [] => false
      | [_] => isToken name
      | _ :: '"' :: cs =>
        match cs.dropWhile (· ≠ '"') with
        | _ :: rest => isToken name && ((afterQuoted rest).any fun cs => areParameters n cs)
        | [] => false
      | _ :: cs =>
        let value := cs.takeWhile (· ≠ ';')
        isToken name && isToken value && areParameters n ((cs.dropWhile (· ≠ ';')).drop 1)

/-- A media type's subtype without its suffix, and the suffix, which follows the last plus. -/
def splitSuffix (subtype : List Char) : List Char × Option (List Char) :=
  match subtype.reverse.dropWhile (· ≠ '+') with
  | _ :: [] | [] => (subtype, none)
  | _ :: base => (base.reverse, some (subtype.reverse.takeWhile (· ≠ '+')).reverse)

/-- Whether a media type is JSON, in whatever case and with whatever parameters. -/
def isJson (contentType : String) : Bool :=
  let cs := contentType.toList.map Char.toLower
  let isPlain := cs.all fun c => ' ' ≤ c && c ≤ '~'
  let whole := cs.takeWhile (· ≠ ';')
  let parameters := (cs.dropWhile (· ≠ ';')).drop 1
  let subtype := (whole.dropWhile (· ≠ '/')).drop 1
  let (base, suffix) := splitSuffix subtype
  isPlain && String.ofList (whole.takeWhile (· ≠ '/')) = "application" && isToken subtype &&
    (String.ofList base = "json" || suffix.any fun s => String.ofList s = "json") &&
    areParameters (parameters.length + 1) parameters

/-! ### Requests -/

/-- An update may take two mebibytes. -/
def bodyLimit : Nat := 2 * 0x100000

/-- The update a body holds; what follows it does not count. -/
def readUpdate (body : List UInt8) : Reception :=
  match Json.decodeFront Update.decode (Json.textOf body) with
  | .ok u => .update u
  | .error (.unreadable _) => .refusal 400
  | .error _ => .refusal 422

/-- What a request is for, by path, method and content type in this order. -/
def receive (r : Request) : Reception :=
  let path := String.ofList (r.uri.toList.takeWhile fun c => c ≠ '?' && c ≠ '#')
  if path = "/health" then
    if r.method = "GET" then .health true
    else if r.method = "HEAD" then .health false
    else .refusal 405
  else if path = "/updates" then
    if r.method ≠ "POST" then .refusal 405
    else if !r.contentType.any isJson then .refusal 415
    else if bodyLimit < r.body.length then .refusal 413
    else readUpdate r.body
  else .refusal 404

end Webhook

namespace Desk
variable {m : Type → Type} [Monad m]

/-- What the health check says; a running bot is healthy. -/
def health (d : Desk m) : Json :=
  .ofFields [("status", .str "healthy"), ("self_id", .int d.selfId)]

def serve (d : Desk m) (r : Webhook.Request) : m Webhook.Response := do
  match Webhook.receive r with
  | .health withBody => return ⟨200, if withBody then d.health.text else ""⟩
  | .update u =>
    d.handle u
    return ⟨200, ""⟩
  | .refusal status => return ⟨status, ""⟩

end Desk

end InlineRelay
