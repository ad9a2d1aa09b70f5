import InlineRelay.Json.Record

/-!
The message an inline result would send. It is fetched in one form and submitted in another:
the constructors have other names and the location another key. All that is not listed here is
kept as it came.
-/
namespace InlineRelay

/-- The two forms of a result: as a provider sends it and as a client accepts it. -/
inductive Form
  | fetched
  | submitted
  deriving DecidableEq, Repr

/-- The constructors of a message. -/
inductive MessageKind
  | mediaAuto
  | text
  | mediaGeo
  | mediaVenue
  | mediaContact
  | mediaInvoice
  | mediaWebPage
  deriving DecidableEq, Repr

namespace MessageKind

def all : List MessageKind :=
  [mediaAuto, text, mediaGeo, mediaVenue, mediaContact, mediaInvoice, mediaWebPage]

def tag : Form → MessageKind → String
  | .fetched, mediaAuto => "botInlineMessageMediaAuto"
  | .fetched, text => "botInlineMessageText"
  | .fetched, mediaGeo => "botInlineMessageMediaGeo"
  | .fetched, mediaVenue => "botInlineMessageMediaVenue"
  | .fetched, mediaContact => "botInlineMessageMediaContact"
  | .fetched, mediaInvoice => "botInlineMessageMediaInvoice"
  | .fetched, mediaWebPage => "botInlineMessageMediaWebPage"
  | .submitted, mediaAuto => "inputBotInlineMessageMediaAuto"
  | .submitted, text => "inputBotInlineMessageText"
  | .submitted, mediaGeo => "inputBotInlineMessageMediaGeo"
  | .submitted, mediaVenue => "inputBotInlineMessageMediaVenue"
  | .submitted, mediaContact => "inputBotInlineMessageMediaContact"
  | .submitted, mediaInvoice => "inputBotInlineMessageMediaInvoice"
  | .submitted, mediaWebPage => "inputBotInlineMessageMediaWebPage"

def decode {τ : Type} [Json.Source τ] (form : Form) (v : τ) : Json.Decoded MessageKind :=
  Json.word (all.map fun k => (k.tag form, k)) v

def encode (form : Form) (k : MessageKind) : Json := .str (k.tag form)

end MessageKind

/-- The constructors of a text annotation; only mentions by name change between the forms. -/
inductive EntityKind
  | mentionName
  | inputMentionName
  | other (tag : String)
  deriving DecidableEq, Repr

namespace EntityKind

def tag : EntityKind → String
  | mentionName => "messageEntityMentionName"
  | inputMentionName => "inputMessageEntityMentionName"
  | other tag => tag

def ofTag (tag : String) : EntityKind :=
  if tag = mentionName.tag then mentionName
  else if tag = inputMentionName.tag then inputMentionName
  else other tag

def decode {τ : Type} [Json.Source τ] (v : τ) : Json.Decoded EntityKind := do
  return ofTag (← Json.string v)

def encode (k : EntityKind) : Json := .str k.tag

end EntityKind

/-- A text annotation. -/
structure Entity where
  kind : EntityKind
  extra : Json.Fields
  deriving Repr

namespace Entity

def decode {τ : Type} [Json.Source τ] (v : τ) : Json.Decoded Entity := do
  let kind := Json.Field.required Json.tagKey EntityKind.decode
  let slots := [kind.slot]
  let ms ← Json.openRecord "struct MessageEntity" slots v
  return { kind := ← kind.get ms, extra := ← Json.extras slots ms }

def encode (e : Entity) : Json := .ofRecord [(Json.tagKey, e.kind.encode)] e.extra

end Entity

inductive PlaceKind
  | point
  | empty
  deriving DecidableEq, Repr

namespace PlaceKind

def all : List PlaceKind := [point, empty]

def tag : Form → PlaceKind → String
  | .fetched, point => "geoPoint"
  | .fetched, empty => "geoPointEmpty"
  | .submitted, point => "inputGeoPoint"
  | .submitted, empty => "inputGeoPointEmpty"

def decode {τ : Type} [Json.Source τ] (form : Form) (v : τ) : Json.Decoded PlaceKind :=
  Json.word (all.map fun k => (k.tag form, k)) v

def encode (form : Form) (k : PlaceKind) : Json := .str (k.tag form)

end PlaceKind

/-- A location. -/
structure Place (form : Form) where
  kind : PlaceKind
  extra : Json.Fields
  deriving Repr

namespace Place
variable {form : Form}

def title : Form → String
  | .fetched => "struct GeoPoint"
  | .submitted => "struct InputGeoPoint"

def decode {τ : Type} [Json.Source τ] (form : Form) (v : τ) : Json.Decoded (Place form) := do
  let kind := Json.Field.required Json.tagKey (PlaceKind.decode form)
  let slots := [kind.slot]
  let ms ← Json.openRecord (title form) slots v
  return { kind := ← kind.get ms, extra := ← Json.extras slots ms }

def encode (p : Place form) : Json := .ofRecord [(Json.tagKey, p.kind.encode form)] p.extra

end Place

/-- The message a result would send. -/
structure Message (form : Form) where
  kind : MessageKind
  text : Option String
  entities : Option (List Entity)
  place : Option (Place form)
  extra : Json.Fields
  deriving Repr

namespace Message
variable {form : Form}

def title : Form → String
  | .fetched => "struct BotInlineMessage"
  | .submitted => "struct InputBotInlineMessage"

def placeKey : Form → String
  | .fetched => "geo"
  | .submitted => "geo_point"

def decode {τ : Type} [Json.Source τ] (form : Form) (v : τ) : Json.Decoded (Message form) := do
  let kind := Json.Field.required Json.tagKey (MessageKind.decode form)
  let text := Json.Field.optional "message" Json.string
  let entities := Json.Field.optional "entities" (Json.list Entity.decode)
  let place := Json.Field.optional (placeKey form) (Place.decode form)
  let slots := [kind.slot, text.slot, entities.slot, place.slot]
  let ms ← Json.openRecord (title form) slots v
  return {
    kind := ← kind.get ms
    text := ← text.get ms
    entities := ← entities.get ms
    place := ← place.get ms
    extra := ← Json.extras slots ms }

def encode (m : Message form) : Json :=
  .ofRecord
    ([(Json.tagKey, m.kind.encode form)]
      ++ Json.Fields.maybe "message" Json.str m.text
      ++ Json.Fields.maybe "entities" (fun es => .arr (es.map Entity.encode)) m.entities
      ++ Json.Fields.maybe (placeKey form) Place.encode m.place)
    m.extra

end Message

end InlineRelay
