import InlineRelay.Pipeline
import InlineRelay.Update

/-!
The bot's side of the conversation: it answers every inline query, tells the operator what went
wrong, and explains itself on `/start`. None of this fails.
-/
namespace InlineRelay

/-- What a newcomer is told. -/
def welcome : String :=
  "This bot pipes inline bots into each other.
Type an inline query with this syntax:

```
@pipesbot text | @botname:selector | @botname2 $
```

For example:
```
" ++ "@pipesbot Hey I'm writing this using the leet filter of @filtersbot w/ @lolcatzbot | " ++
  "@filtersbot:eleet | @lolcatzbot $
```

This will:
" ++ "1) Send the inline query \"Hey I'm writing this using the leet filter of @filtersbot w/ " ++
  "@lolcatzbot\" to @filtersbot
" ++ "2) Pick the result whose text matches \"eleet\" (regexes are supported, a number picks " ++
  "the nth result, no selector keeps all results)
3) If that result is a text message, send its text as an inline query to @lolcatzbot
4) Return every result of @lolcatzbot to you

The chain stops early at media results or when more than one result is left.
The query must end with a $."

namespace Desk
variable {m : Type → Type} [Monad m]

/-- The answer that offers help instead of results. -/
def fallback (d : Desk m) (q : InlineQuery) : Answer :=
  let a := (Answer.empty q.queryId).offering d.faq
  if q.query.isEmpty then a else a.asPersonal

/-- The answer for an outcome; the FAQ button stands in where there is nothing to show. -/
def answerTo (d : Desk m) (q : InlineQuery) (o : Outcome) : Answer :=
  let a := (Answer.empty q.queryId).asPersonal
  match o with
  | .redirect button => a.offering button
  | .results [] _ | .selfReference => a.offering d.faq
  | .results results gallery => a.showing results gallery

/-- The report of a failure, with its whole chain. -/
def reportOn (q : InlineQuery) (f : Failure) : String :=
  s!"Inline query {q.queryId} from {q.userId} failed\nQuery: {q.query}\n\n{f.report}"

/-- Tell the operator; whether that works is of no consequence. -/
def report (d : Desk m) (q : InlineQuery) (f : Failure) : m Unit := do
  let _ ← d.messenger.send (.plain (.str d.adminPeer) (reportOn q f))

/-- The answer to a query. -/
def answer (d : Desk m) (q : InlineQuery) : m Answer := do
  if q.query.isEmpty then return d.fallback q
  let runner : Runner := ⟨d.matcher, d.selfId, q.userId⟩
  match ← Pipeline.run d.provider runner (Query.parse q.query) with
  | .ok outcome => return d.answerTo q outcome
  | .error e =>
    d.report q e.failure
    return d.fallback q

/-- Answer a query and deliver the answer, or if that fails the fallback. -/
def handleQuery (d : Desk m) (q : InlineQuery) : m Unit := do
  let a ← d.answer q
  match ← d.messenger.answer a with
  | .ok _ => return
  | .error f =>
    d.report q f
    let _ ← d.messenger.answer (d.fallback q)

/-- Whether a message asks for the welcome. -/
def isStart (msg : ChatMessage) : Bool :=
  !msg.outgoing && "/start".toList.isPrefixOf msg.text.toList

/-- Reply to `/start`; a message without a peer cannot be replied to. -/
def handleMessage (d : Desk m) (msg : ChatMessage) : m Unit := do
  if isStart msg then
    match msg.peer with
    | some peer =>
      let _ ← d.messenger.send ⟨peer, welcome, some msg.id, true⟩
    | none => return

def handle (d : Desk m) : Update → m Unit
  | .inlineQuery q => d.handleQuery q
  | .newMessage msg | .newChannelMessage msg => d.handleMessage msg
  | .unsupported => pure ()

end Desk

end InlineRelay
