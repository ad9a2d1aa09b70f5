import InlineRelay.Gateway.Line
import InlineRelay.Proofs.Gateway.Envelope
import InlineRelay.Proofs.Replay

/-!
A desk on a scripted line. Every effect is one request to its method, and takes the next turn of
that method's route, so that effects whose turns are right come out as noted, one after another.
-/
namespace InlineRelay

open Gateway (Client Line Turn)

namespace Gateway

namespace Line

/-- The turn that the request after `i` others on a route gets; the last one repeats. -/
def upcoming (l : Line) (name : String) (i : Nat) : Turn :=
  let turns := (l.routes.lookup name).getD []
  turns.getD (min (l.count name + i) (turns.length - 1)) unknownMethod

theorem upcoming_zero (l : Line) (name : String) : l.upcoming name 0 = l.next name := rfl

theorem upcoming_of_getElem? {l : Line} {name : String} {turns : List Turn} {turn : Turn} {i : Nat}
    (hturns : l.routes.lookup name = some turns) (h : turns[l.count name + i]? = some turn) :
    l.upcoming name i = turn := by
  obtain ⟨hlt, -⟩ := List.getElem?_eq_some_iff.1 h
  have hmin : min (l.count name + i) (turns.length - 1) = l.count name + i := by omega
  unfold upcoming
  simp only [hturns, Option.getD_some, hmin, List.getD_eq_getElem?_getD, h]

theorem upcoming_of_singleton {l : Line} {name : String} {turn : Turn}
    (hturns : l.routes.lookup name = some [turn]) (i : Nat) : l.upcoming name i = turn := by
  unfold upcoming
  simp [hturns]

/-- The line after some more requests. -/
def recording (l : Line) (requests : List Request) : Line := { l with log := l.log ++ requests }

theorem recording_nil (l : Line) : l.recording [] = l := by
  unfold recording
  rw [List.append_nil]

theorem recording_recording (l : Line) (rs rs' : List Request) :
    (l.recording rs).recording rs' = l.recording (rs ++ rs') := by
  unfold recording
  rw [List.append_assoc]

theorem count_recording (l : Line) (r : Request) (name : String) :
    (l.recording [r]).count name =
      l.count name + if routeName r.path = name then 1 else 0 := by
  unfold count recording
  rw [List.filter_append, List.length_append]
  by_cases h : routeName r.path = name <;> simp [h]

/-- A request moves its own route on by a turn, and no other. -/
theorem upcoming_recording (l : Line) (r : Request) (name : String) (i : Nat) :
    (l.recording [r]).upcoming name i =
      l.upcoming name (if routeName r.path = name then i + 1 else i) := by
  unfold upcoming
  rw [count_recording]
  split
  · rw [Nat.add_assoc, Nat.add_comm 1 i]
    rfl
  · rfl

/-- What comes of a request on a route: its next turn, and nothing if the line is down. -/
def coming (l : Line) (name : String) : Turn := if l.up then l.next name else .drop

theorem coming_of_up {l : Line} (hup : l.up = true) (name : String) : l.coming name = l.next name :=
  if_pos hup

/-- The line after some more requests, which arrive if it is up. -/
def after (l : Line) (requests : List Request) : Line :=
  if l.up then l.recording requests else l

theorem after_of_up {l : Line} (hup : l.up = true) (rs : List Request) :
    l.after rs = l.recording rs := if_pos hup

end Line

/-- What a turn says came of the call. -/
def Turn.outcome {α : Type} (address : Http.Address) (read : Json.Doc → Json.Decoded α) :
    Turn → Except Error α
  | .reply r => r.outcome read
  | .drop => .error (.network s!"error sending request for url ({address.text})")

/-- Call a method: the request arrives if the line is up, whatever comes of it. -/
theorem Client.run_invoke_after {α : Type} {reader : String → Option Http.Address} {c : Client}
    {method : String} {address : Http.Address} (haddress : reader (c.url method) = some address)
    (hhost : address.host.isEmpty = false) (parameters : Json)
    (read : Json.Doc → Json.Decoded α) (l : Line) :
    ((c.invoke (Line.transport reader) method parameters read).run l).run =
      ((l.coming (Line.routeName address.path)).outcome address read,
        l.after [⟨address.path, parameters.text⟩]) := by
  have hpost : Line.post address parameters.text l =
      ((l.coming (Line.routeName address.path)).reply?,
        l.after [⟨address.path, parameters.text⟩]) := by
    unfold Line.post Line.coming Line.after
    split <;> rfl
  have hread : (Line.transport reader).address? (c.url method) = some address := haddress
  unfold Client.invoke
  simp only [hread, hhost, Bool.false_eq_true, if_false]
  cases hcoming : l.coming (Line.routeName address.path) with
  | reply r => simp [Line.transport, hpost, hcoming, Turn.reply?, Turn.outcome]
  | drop => simp [Line.transport, hpost, hcoming, Turn.reply?, Turn.outcome]

/-- Call a method over a line that is up and has a reply for it. -/
theorem Client.run_invoke {α : Type} {reader : String → Option Http.Address} {c : Client}
    {method : String} {address : Http.Address} {l : Line} {reply : Reply}
    (haddress : reader (c.url method) = some address)
    (hhost : address.host.isEmpty = false) (hup : l.up = true)
    (hnext : l.next (Line.routeName address.path) = .reply reply) (parameters : Json)
    (read : Json.Doc → Json.Decoded α) :
    ((c.invoke (Line.transport reader) method parameters read).run l).run =
      (reply.outcome read, l.recording [⟨address.path, parameters.text⟩]) := by
  rw [run_invoke_after haddress hhost, Line.coming_of_up hup, Line.after_of_up hup, hnext]
  rfl

/-- The methods a desk has called, by what it wants done. -/
inductive Method
  | info
  | results
  | answer
  | message
  deriving DecidableEq

namespace Method

def name : Method → String
  | info => "getInfo"
  | results => "messages.getInlineBotResults"
  | answer => "messages.setInlineBotResults"
  | message => "messages.sendMessage"

/-- Other bots are asked through the user's session, the chat is reached through the bot's. -/
def client (user bot : Client) : Method → Client
  | info | results => user
  | answer | message => bot

end Method

/-- The addresses of the methods, as they are read. Their routes are kept apart. -/
structure Addresses (reader : String → Option Http.Address) (user bot : Client)
    (address : Method → Http.Address) : Prop where
  url : ∀ k : Method, reader ((k.client user bot).url k.name) = some (address k)
  host : ∀ k, (address k).host.isEmpty = false
  apart : ∀ k k', Line.routeName (address k).path = Line.routeName (address k').path → k = k'

end Gateway

open Gateway (Method Addresses)

namespace Desk

namespace Effect

def method : Effect → Method
  | .asked (.resolve _ _) => .info
  | .asked (.query _ _ _ _) => .results
  | .delivered _ _ => .answer
  | .sent _ _ => .message

/-- What the method is called with. -/
def parameters : Effect → Json
  | .asked (.resolve handle _) => .ofFields [("id", .str handle)]
  | .asked (.query bot userId text _) => .ofFields
    [("bot", .str bot.handle), ("peer", .int userId), ("query", .str text), ("offset", .str "0")]
  | .delivered a _ => a.encode
  | .sent o _ => o.encode

/-- The request that an effect is on the line. -/
def request (address : Method → Http.Address) (e : Effect) : Gateway.Request :=
  ⟨(address e.method).path, e.parameters.text⟩

/-- The turns with which an effect comes out as it is noted. -/
inductive Served : Effect → Turn → Prop
  | known {p : Peer} (status : Nat) (handle : String) :
      -0x8000000000000000 ≤ p.id → p.id ≤ 0x7FFFFFFFFFFFFFFF →
      Served (.asked (.resolve handle (.ok ⟨p.id, handle⟩)))
        (.reply (.ofText status (Gateway.Envelope.success p.encode).text))
  | unknown {code : Option Int} (status : Nat) (handle : String) :
      (∀ c ∈ code, Gateway.Envelope.IsCode c) →
      Served (.asked (.resolve handle (.error (.ofText s!"Unknown provider {handle}"))))
        (.reply (.ofText status (Gateway.Envelope.refusal code "USERNAME_NOT_OCCUPIED").text))
  | responded {r : Response} (status : Nat) (bot : Bot) (userId : Int) (text : String) :
      r.Portable → Served (.asked (.query bot userId text (.ok r)))
        (.reply (.ofText status (Gateway.Envelope.success r.encode).text))
  | delivered {reply : Gateway.Reply} {b : Bool} (a : Answer) :
      reply.outcome Json.boolean = .ok b → Served (.delivered a (.ok ())) (.reply reply)
  | sent {reply : Gateway.Reply} {v : Json} (o : Outgoing) :
      reply.outcome Json.anything = .ok v → Served (.sent o (.ok ())) (.reply reply)

end Effect

theorem run_bind_of_run {σ α β : Type} {x : StateM σ α} {f : α → StateM σ β} {s s' : σ} {a : α}
    (h : (x.run s).run = (a, s')) : ((x >>= f).run s).run = ((f a).run s').run := by
  have h : x.run s = pure (a, s') := h
  rw [StateT.run_bind, h, pure_bind]

section Serving
variable {reader : String → Option Http.Address} {user bot : Client}
  {address : Method → Http.Address} {d : Desk (StateM Line)} {e : Effect} {l : Line}

/-- The desk works over the line. -/
structure OnLine (reader : String → Option Http.Address) (user bot : Client)
    (d : Desk (StateM Line)) : Prop where
  provider : d.provider = Gateway.provider (Line.transport reader) user
  messenger : d.messenger = Gateway.messenger (Line.transport reader) bot

theorem does_of_served (hd : OnLine reader user bot d) (ha : Addresses reader user bot address)
    (hup : l.up = true)
    (h : e.Served (l.upcoming (Line.routeName (address e.method).path) 0)) :
    d.Does e l (l.recording [e.request address]) := by
  rw [Line.upcoming_zero] at h
  generalize hnext : l.next (Line.routeName (address e.method).path) = turn at h
  have hrun {reply : Gateway.Reply} (hreply : turn = .reply reply) {α : Type}
      (read : Json.Doc → Json.Decoded α) :
      (((e.method.client user bot).invoke (Line.transport reader) e.method.name e.parameters
        read).run l).run = (reply.outcome read, l.recording [e.request address]) :=
    Gateway.Client.run_invoke (ha.url _) (ha.host _) hup (hnext.trans hreply) _ _
  cases h with
  | known status handle hlow hhigh =>
      have hpeer := hrun rfl Peer.decode
      rw [Gateway.Reply.outcome_peer status hlow hhigh] at hpeer
      show ((d.provider.resolve handle).run l).run = _
      rw [hd.provider]
      exact run_bind_of_run hpeer
  | @unknown code status handle hcode =>
      have hpeer := hrun rfl Peer.decode
      rw [Gateway.Reply.outcome_refusal status hcode Peer.reads] at hpeer
      have hno : (Gateway.Error.api (code.getD 500) "USERNAME_NOT_OCCUPIED").isUnknownPeer = true := by
        rfl
      show ((d.provider.resolve handle).run l).run = _
      rw [hd.provider]
      refine (run_bind_of_run hpeer).trans ?_
      simp only [hno]
      rfl
  | responded status bot userId text hportable =>
      have hresponse := hrun rfl Response.decode
      rw [Gateway.Reply.outcome_response status hportable] at hresponse
      show ((d.provider.query bot userId text).run l).run = _
      rw [hd.provider]
      exact run_bind_of_run hresponse
  | delivered a hok =>
      have hdelivered := hrun rfl Json.boolean
      rw [hok] at hdelivered
      show ((d.messenger.answer a).run l).run = _
      rw [hd.messenger]
      exact run_bind_of_run hdelivered
  | sent o hok =>
      have hsent := hrun rfl Json.anything
      rw [hok] at hsent
      show ((d.messenger.send o).run l).run = _
      rw [hd.messenger]
      exact run_bind_of_run hsent

/-- The effects of one method, each given the turn of its place among them. -/
def EachServed (address : Method → Http.Address) (es : List Effect) (l : Line) : Prop :=
  ∀ k i (e : Effect), (es.filter (·.method = k))[i]? = some e →
    e.Served (l.upcoming (Line.routeName (address k).path) i)

theorem EachServed.tail (ha : Addresses reader user bot address) {es : List Effect}
    (h : EachServed address (e :: es) l) :
    EachServed address es (l.recording [e.request address]) := by
  intro k i e' he'
  rw [Line.upcoming_recording]
  by_cases hk : e.method = k
  · have hroute : Line.routeName (e.request address).path = Line.routeName (address k).path := by
      rw [← hk]
      rfl
    rw [if_pos hroute]
    refine h k (i + 1) e' ?_
    rw [List.filter_cons_of_pos (by simpa using hk), List.getElem?_cons_succ]
    exact he'
  · have hroute : Line.routeName (e.request address).path ≠ Line.routeName (address k).path :=
      fun heq => hk (ha.apart _ _ heq)
    rw [if_neg hroute]
    refine h k i e' ?_
    rw [List.filter_cons_of_neg (by simpa using hk)]
    exact he'

/-- Effects that are each served come out as noted, and are on the line in the same order. -/
theorem trace_of_served (hd : OnLine reader user bot d) (ha : Addresses reader user bot address)
    {es : List Effect} (hup : l.up = true) (h : EachServed address es l) :
    Trace d.Does es l (l.recording (es.map (Effect.request address))) := by
  induction es generalizing l with
  | nil =>
      rw [List.map_nil, Line.recording_nil]
      exact .nil
  | cons e es ih =>
      have hfirst := h e.method 0 e (by simp)
      have hrest := ih (l := l.recording [e.request address]) hup (h.tail ha)
      rw [Line.recording_recording] at hrest
      exact .cons (does_of_served hd ha hup hfirst) hrest

end Serving

end Desk
end InlineRelay
