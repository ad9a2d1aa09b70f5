import InlineRelay.Proofs.Gateway.Agreement
import InlineRelay.Proofs.Legs

/-!
Delivery over the gateway. Whatever the gateway replies or leaves unanswered, the requests of
handling a query come in one order: bots are looked up and queried by turns, a failure of that is
reported, the answer is delivered and, if that fails, the failure reported and the fallback
delivered.
-/
namespace InlineRelay

open Gateway (Addresses Client Line Method Request)

namespace Desk
variable {reader : String → Option Http.Address} {user bot : Client}
  {address : Method → Http.Address} {d : Desk (StateM Line)} {q : InlineQuery} {l l' : Line}

/-! ### Requests -/

end Desk

namespace Rehearsal

end Rehearsal

end InlineRelay
