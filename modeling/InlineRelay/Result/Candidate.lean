import InlineRelay.Result.Message

/-!
Inline results: candidates as providers send them, submissions as clients accept them.
-/
namespace InlineRelay

/-- What every result has. Title, thumbnail and media stay among the members kept as they came. -/
structure Body (form : Form) where
  id : String
  /-- The type the provider declares, such as `article`. -/
  kind : String
  message : Message form
  extra : Json.Fields
  deriving Repr

namespace Body
variable {form : Form}

def decode {τ : Type} [Json.Source τ] (form : Form) (v : τ) : Json.Decoded (Body form) := do
  let id := Json.Field.required "id" Json.string
  let kind := Json.Field.required "type" Json.string
  let message := Json.Field.required "send_message" (Message.decode form)
  let slots := [id.slot, kind.slot, message.slot]
  let ms ← Json.openRecord "struct InlineResult" slots v
  return {
    id := ← id.get ms
    kind := ← kind.get ms
    message := ← message.get ms
    extra := ← Json.extras slots ms }

/-- A member that is only passed on, such as the medium; null counts as absent. -/
def field? (b : Body form) (name : String) : Option Json := b.extra.present? name

/-- The result as an object with this tag. -/
def encode (tag : String) (b : Body form) : Json :=
  .ofRecord
    [(Json.tagKey, .str tag), ("id", .str b.id), ("type", .str b.kind),
      ("send_message", b.message.encode)]
    b.extra

end Body

/-- A result of a provider's answer, by the medium it carries. -/
inductive Candidate
  | text (body : Body .fetched)
  | photo (body : Body .fetched)
  | document (body : Body .fetched)
  /-- Cannot be submitted. -/
  | game (body : Body .fetched)
  deriving Repr

namespace Candidate

def body : Candidate → Body .fetched
  | text b | photo b | document b | game b => b

def id (c : Candidate) : String := c.body.id

def isGame : Candidate → Bool
  | game _ => true
  | _ => false

/-- The text of the message the result would send, if it has one. A game has none. -/
def message? : Candidate → Option String
  | game _ => none
  | c => c.body.message.text

/-- The two constructors on the wire: with a medium and without. -/
inductive Carrier
  | plain
  | media
  deriving DecidableEq, Repr

def Carrier.tag : Carrier → String
  | plain => "botInlineResult"
  | media => "botInlineMediaResult"

def carrier : Candidate → Carrier
  | text _ => .plain
  | _ => .media

/-- A media result is what its members carry, a game before a document before a photo. -/
def classify (b : Body .fetched) : Json.Decoded Candidate :=
  if (b.field? "game").isSome then .ok (game b)
  else if (b.field? "document").isSome then .ok (document b)
  else if (b.field? "photo").isSome then .ok (photo b)
  else .error (.bareMedia b.id)

def decode {τ : Type} [Json.Source τ] (v : τ) : Json.Decoded Candidate := do
  let carriers := [Carrier.plain, .media].map fun k => (k.tag, k)
  let (carrier, rest) ← Json.tagged "WireResult" (Json.meaning carriers) v
  let body ← Body.decode .fetched rest
  match carrier with
  | .plain => return text body
  | .media => classify body

def encode (c : Candidate) : Json := c.body.encode c.carrier.tag

end Candidate

/-- A result in the form that answers to inline queries are made of. -/
inductive Submission
  | text (body : Body .submitted)
  | photo (body : Body .submitted)
  | document (body : Body .submitted)
  deriving Repr

namespace Submission

inductive Carrier
  | text
  | photo
  | document
  deriving DecidableEq, Repr

def Carrier.tag : Carrier → String
  | text => "inputBotInlineResult"
  | photo => "inputBotInlineResultPhoto"
  | document => "inputBotInlineResultDocument"

def ofCarrier : Carrier → Body .submitted → Submission
  | .text => text
  | .photo => photo
  | .document => document

def carrier : Submission → Carrier
  | text _ => .text
  | photo _ => .photo
  | document _ => .document

def body : Submission → Body .submitted
  | text b | photo b | document b => b

def id (s : Submission) : String := s.body.id

def decode {τ : Type} [Json.Source τ] (v : τ) : Json.Decoded Submission := do
  let carriers := [Carrier.text, .photo, .document].map fun k => (k.tag, k)
  let (carrier, rest) ← Json.tagged "ResubmittableResult" (Json.meaning carriers) v
  return ofCarrier carrier (← Body.decode .submitted rest)

def encode (s : Submission) : Json := s.body.encode s.carrier.tag

end Submission

end InlineRelay
