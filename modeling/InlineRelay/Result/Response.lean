import InlineRelay.Result.Candidate

/-! A provider's answer to one query, and the answer this bot gives in turn. -/
namespace InlineRelay

/-- A button that opens a private chat with a bot instead of showing results. -/
structure Redirect where
  text : String
  startParam : String
  deriving DecidableEq, Repr

namespace Redirect

def decode {τ : Type} [Json.Source τ] (v : τ) : Json.Decoded Redirect := do
  let text := Json.Field.required "text" Json.string
  let startParam := Json.Field.required "start_param" Json.string
  let ms ← Json.closedRecord "struct SwitchPm" [text.slot, startParam.slot] v
  return { text := ← text.get ms, startParam := ← startParam.get ms }

def encode (r : Redirect) : Json :=
  .ofFields
    [(Json.tagKey, .str "inlineBotSwitchPM"), ("text", .str r.text),
      ("start_param", .str r.startParam)]

end Redirect

/-- What a provider returns for one query. -/
structure Response where
  gallery : Bool
  results : List Candidate
  redirect : Option Redirect
  extra : Json.Fields
  deriving Repr

namespace Response

def ofResults (results : List Candidate) : Response := ⟨false, results, none, []⟩

def ofRedirect (r : Redirect) : Response := ⟨false, [], some r, []⟩

def decode {τ : Type} [Json.Source τ] (v : τ) : Json.Decoded Response := do
  let gallery := Json.Field.withDefault "gallery" Json.boolean false
  let results := Json.Field.withDefault "results" (Json.list Candidate.decode) []
  let redirect := Json.Field.optional "switch_pm" Redirect.decode
  let slots := [gallery.slot, results.slot, redirect.slot]
  let ms ← Json.openRecord "struct BotResults" slots v
  return {
    gallery := ← gallery.get ms
    results := ← results.get ms
    redirect := ← redirect.get ms
    extra := ← Json.extras slots ms }

def encode (r : Response) : Json :=
  .ofRecord
    ([("gallery", .bool r.gallery), ("results", .arr (r.results.map Candidate.encode))]
      ++ Json.Fields.maybe "switch_pm" Redirect.encode r.redirect)
    r.extra

end Response

/-- The answer to an inline query. -/
structure Answer where
  queryId : Int
  results : List Submission
  /-- How long the answer may be cached. -/
  cacheTime : Int
  /-- For the asking user only. -/
  personal : Bool
  gallery : Bool
  redirect : Option Redirect
  deriving Repr

namespace Answer

/-- The empty answer; answers are never cached. -/
def empty (queryId : Int) : Answer := ⟨queryId, [], 0, false, false, none⟩

def asPersonal (a : Answer) : Answer := { a with personal := true }

def showing (a : Answer) (results : List Submission) (gallery : Bool) : Answer :=
  { a with results, gallery }

def offering (a : Answer) (button : Redirect) : Answer := { a with redirect := some button }

def decode {τ : Type} [Json.Source τ] (v : τ) : Json.Decoded Answer := do
  let queryId := Json.Field.required "query_id" Json.int64
  let results := Json.Field.required "results" (Json.list Submission.decode)
  let cacheTime := Json.Field.required "cache_time" Json.int32
  let personal := Json.Field.withDefault "private" Json.boolean false
  let gallery := Json.Field.withDefault "gallery" Json.boolean false
  let redirect := Json.Field.withDefault "switch_pm" (Json.nullable Redirect.decode) none
  let slots := [queryId.slot, results.slot, cacheTime.slot, personal.slot, gallery.slot,
    redirect.slot]
  let ms ← Json.closedRecord "struct InlineAnswer" slots v
  return {
    queryId := ← queryId.get ms
    results := ← results.get ms
    cacheTime := ← cacheTime.get ms
    personal := ← personal.get ms
    gallery := ← gallery.get ms
    redirect := ← redirect.get ms }

def encode (a : Answer) : Json :=
  .ofFields
    ([("query_id", .int a.queryId), ("results", .arr (a.results.map Submission.encode)),
        ("cache_time", .int a.cacheTime)]
      ++ Json.Fields.flag "private" a.personal
      ++ Json.Fields.flag "gallery" a.gallery
      ++ Json.Fields.maybe "switch_pm" Redirect.encode a.redirect)

end Answer

end InlineRelay
