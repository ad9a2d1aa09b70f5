import InlineRelay.Webhook

/-!
Scripts: one call after another on a running bot, each reported with what it came to and what it
added to the record.
-/
namespace InlineRelay

/-- What can be asked of a running bot. Updates, queries and answers come as they are written. -/
inductive Call
  | update (v : Json)
  | inlineQuery (v : Json)
  | message (v : Json)
  /-- Only find the answer, without delivering it. -/
  | answer (v : Json)
  | request (r : Webhook.Request)
  | resolve (handle : String)
  | query (bot : Bot) (userId : Int) (text : String)
  | send (o : Outgoing)
  | deliver (v : Json)

/-- What a call comes to. -/
inductive Report
  | done
  | answer (a : Answer)
  | served (r : Webhook.Response)
  | resolved (bot : Bot)
  | responded (r : Response)
  | sent
  | failed (f : Failure)
  /-- What was written does not decode. -/
  | rejected (e : DecodeError)
  deriving Repr

namespace Call
variable {m : Type → Type} [Monad m]

/-- The report of a call that may fail. -/
def report {α : Type} (ok : α → Report) : Except Failure α → Report
  | .ok a => ok a
  | .error f => .failed f

/-- Go on with what was written, if it decodes. -/
def reading {α : Type} (read : Json → Json.Decoded α) (v : Json) (next : α → m Report) :
    m Report :=
  match read v with
  | .ok a => next a
  | .error e => pure (.rejected e)

def run (d : Desk m) : Call → m Report
  | .update v => reading Update.decode v fun u => do
    d.handle u
    return .done
  | .inlineQuery v => reading InlineQuery.decode v fun q => do
    d.handleQuery q
    return .done
  | .message v => reading ChatMessage.decode v fun msg => do
    d.handleMessage msg
    return .done
  | .answer v => reading InlineQuery.decode v fun q => do return .answer (← d.answer q)
  | .request r => do return .served (← d.serve r)
  | .resolve handle => do return report .resolved (← d.provider.resolve handle)
  | .query bot userId text => do return report .responded (← d.provider.query bot userId text)
  | .send o => do return report (fun _ => .sent) (← d.messenger.send o)
  | .deliver v => reading Answer.decode v fun a => do
    return report (fun _ => .sent) (← d.messenger.answer a)

end Call

namespace Script
variable {σ ε α : Type}

/-- Run actions in order on one record, each with what it adds to the record. -/
def play (since : σ → σ → ε) : List (StateM σ α) → σ → List (α × ε)
  | [], _ => []
  | a :: as, s =>
    let r := a.run s
    (r.1, since s r.2) :: play since as r.2

end Script

end InlineRelay
