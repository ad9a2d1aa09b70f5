import InlineRelay.Proofs.Gateway.Line
import InlineRelay.Proofs.Submittable

/-!
Rehearsals and the gateway agree. A gateway whose script says of every bot what a rehearsal's cast
says has a query handled as it was in the rehearsal, with a request for every call and delivery of
the record.
-/
namespace InlineRelay

open Gateway (Line Turn Method Addresses)

/-! ### The record of a rehearsal -/

namespace Desk.Effect

def resolved? : Effect → Option String
  | .asked (.resolve handle _) => some handle
  | _ => none

def queried? : Effect → Option Rehearsal.Asked
  | .asked (.query bot userId text _) => some ⟨bot.handle, userId, text⟩
  | _ => none

def answer? : Effect → Option Answer
  | .delivered a _ => some a
  | _ => none

def message? : Effect → Option Outgoing
  | .sent o _ => some o
  | _ => none

theorem isSome_resolved? (e : Effect) : decide (e.method = .info) = e.resolved?.isSome := by
  cases e with
  | asked call => cases call <;> rfl
  | delivered a outcome => rfl
  | sent o outcome => rfl

theorem isSome_queried? (e : Effect) : decide (e.method = .results) = e.queried?.isSome := by
  cases e with
  | asked call => cases call <;> rfl
  | delivered a outcome => rfl
  | sent o outcome => rfl

/-- The effect comes to what a cast and a messenger that works make of it. -/
def Rehearsed (cast : Rehearsal.Cast) : Effect → Prop
  | .asked (.resolve handle answer) => answer = cast.resolve handle
  | .asked (.query bot _ _ answer) => answer = cast.query bot
  | .delivered _ outcome => outcome = .ok ()
  | .sent _ outcome => outcome = .ok ()

end Desk.Effect

namespace Rehearsal
open Desk (Effect)

/-- The record after some more effects. -/
def Log.extend (l : Log) (es : List Effect) : Log where
  resolved := l.resolved ++ es.filterMap Effect.resolved?
  queried := l.queried ++ es.filterMap Effect.queried?
  answers := l.answers ++ es.filterMap Effect.answer?
  sent := l.sent ++ es.filterMap Effect.message?

theorem Log.extend_nil (l : Log) : l.extend [] = l := by
  simp [Log.extend]

theorem Log.extend_cons (l : Log) (e : Effect) (es : List Effect) :
    l.extend (e :: es) = (l.extend [e]).extend es := by
  rw [← List.singleton_append]
  simp only [Log.extend, List.filterMap_append, List.append_assoc]

theorem Log.extend_singleton (l : Log) (e : Effect) :
    l.extend [e] = match e with
      | .asked (.resolve handle _) => { l with resolved := l.resolved ++ [handle] }
      | .asked (.query bot userId text _) =>
        { l with queried := l.queried ++ [⟨bot.handle, userId, text⟩] }
      | .delivered a _ => { l with answers := l.answers ++ [a] }
      | .sent o _ => { l with sent := l.sent ++ [o] } := by
  unfold Log.extend
  cases e with
  | asked call =>
      cases call <;> simp [Effect.resolved?, Effect.queried?, Effect.answer?, Effect.message?]
  | delivered a outcome =>
      simp [Effect.resolved?, Effect.queried?, Effect.answer?, Effect.message?]
  | sent o outcome => simp [Effect.resolved?, Effect.queried?, Effect.answer?, Effect.message?]

theorem Log.since_extend (l : Log) (es : List Effect) : l.since (l.extend es) = empty.extend es := by
  simp [Log.since, Log.extend, Log.empty]

theorem Log.since_empty (l : Log) : empty.since l = l := rfl

/-- The desk rehearses with a cast, and its messenger does not fail. -/
structure Rehearses (cast : Cast) (d : Desk (StateM Log)) : Prop where
  provider : d.provider = provider cast
  messenger : d.messenger = messenger false

variable {cast : Cast} {d : Desk (StateM Log)}

theorem Rehearses.step (hd : Rehearses cast d) {e : Effect} {l l' : Log} (h : d.Does e l l') :
    e.Rehearsed cast ∧ l' = l.extend [e] := by
  cases e with
  | asked call =>
      cases call with
      | resolve handle answer =>
          have h : ((d.provider.resolve handle).run l).run = (answer, l') := h
          rw [hd.provider] at h
          obtain ⟨rfl, rfl⟩ := Prod.mk.inj h
          rw [Log.extend_singleton]
          exact ⟨rfl, rfl⟩
      | query bot userId text answer =>
          have h : ((d.provider.query bot userId text).run l).run = (answer, l') := h
          rw [hd.provider] at h
          obtain ⟨rfl, rfl⟩ := Prod.mk.inj h
          rw [Log.extend_singleton]
          exact ⟨rfl, rfl⟩
  | delivered a outcome =>
      have h : ((d.messenger.answer a).run l).run = (outcome, l') := h
      rw [hd.messenger] at h
      obtain ⟨rfl, rfl⟩ := Prod.mk.inj h
      rw [Log.extend_singleton]
      exact ⟨rfl, rfl⟩
  | sent o outcome =>
      have h : ((d.messenger.send o).run l).run = (outcome, l') := h
      rw [hd.messenger] at h
      obtain ⟨rfl, rfl⟩ := Prod.mk.inj h
      rw [Log.extend_singleton]
      exact ⟨rfl, rfl⟩

theorem Rehearses.trace (hd : Rehearses cast d) {es : List Effect} {l l' : Log}
    (h : Trace d.Does es l l') : (∀ e ∈ es, e.Rehearsed cast) ∧ l' = l.extend es := by
  induction h with
  | nil => exact ⟨fun _ h => absurd h List.not_mem_nil, (Log.extend_nil _).symm⟩
  | @cons e es l l₁ l' he _ ih =>
      obtain ⟨hcast, rfl⟩ := hd.step he
      obtain ⟨hcasts, rfl⟩ := ih
      exact ⟨List.forall_mem_cons.2 ⟨hcast, hcasts⟩, (Log.extend_cons l e es).symm⟩

/-! ### The script of a gateway -/

/-- What the gateway says of a handle is what the cast says of it. -/
inductive Introduces (cast : Cast) (handle : String) : Turn → Prop
  | known {id : Int} (kind : Option String) (status : Nat) : cast.bots.lookup handle = some id →
      Introduces cast handle
        (.reply (.ofText status (Gateway.Envelope.success (Peer.encode ⟨id, kind⟩)).text))
  | unknown {code : Option Int} (status : Nat) : cast.bots.lookup handle = none →
      (∀ c ∈ code, Gateway.Envelope.IsCode c) →
      Introduces cast handle
        (.reply (.ofText status (Gateway.Envelope.refusal code "USERNAME_NOT_OCCUPIED").text))

/-- What a bot of the cast answers as long as it does not fail. -/
def Cast.response (c : Cast) (handle : String) : Response :=
  (c.responses.lookup handle).getD (.ofResults [])

/-- What the gateway has a bot answer is what the cast does. -/
def Relays (cast : Cast) (handle : String) (turn : Turn) : Prop :=
  ∃ status, turn =
    .reply (.ofText status (Gateway.Envelope.success (cast.response handle).encode).text)

/-- The script of a line follows the record of a rehearsal: a turn for each handle resolved and for
each query asked, in order, and calls to the chat that work. -/
structure Scripted (cast : Cast) (address : Method → Http.Address) (record : Log) (line : Line) :
    Prop where
  up : line.up = true
  info : ∀ i handle, record.resolved[i]? = some handle →
    Introduces cast handle (line.upcoming (Line.routeName (address .info).path) i)
  results : ∀ (i : Nat) (asked : Asked), record.queried[i]? = some asked →
    Relays cast asked.handle (line.upcoming (Line.routeName (address .results).path) i)
  answer : ∀ i, ∃ reply b, line.upcoming (Line.routeName (address .answer).path) i = .reply reply ∧
    reply.outcome Json.boolean = .ok b
  message : ∀ i, ∃ reply v,
    line.upcoming (Line.routeName (address .message).path) i = .reply reply ∧
      reply.outcome Json.anything = .ok v

/-- A cast whose bots do not fail and have ids and responses that come through the gateway. -/
structure Cast.Portable (c : Cast) : Prop where
  failing : c.failing = []
  bots : ∀ b ∈ c.bots, -0x8000000000000000 ≤ b.2 ∧ b.2 ≤ 0x7FFFFFFFFFFFFFFF
  responses : ∀ r ∈ c.responses, r.2.Portable

theorem mem_of_lookup {α : Type} {entries : List (String × α)} {key : String} {a : α}
    (h : entries.lookup key = some a) : (key, a) ∈ entries := by
  obtain ⟨before, after, rfl, -⟩ := List.lookup_eq_some_iff.1 h
  exact List.mem_append_right before (.head after)

/-- The kept results of a filter stand where the elements they are of are left. -/
theorem getElem?_filterMap {ε α : Type} {f : ε → Option α} {p : ε → Bool}
    (hf : ∀ e, p e = (f e).isSome) {es : List ε} {i : Nat} {e : ε}
    (h : (es.filter p)[i]? = some e) : (es.filterMap f)[i]? = f e := by
  induction es generalizing i with
  | nil => cases h
  | cons e₁ es ih =>
      cases hfirst : f e₁ with
      | none =>
          have hp : ¬ p e₁ = true := by simp [hf, hfirst]
          rw [List.filter_cons_of_neg hp] at h
          rw [List.filterMap_cons_none hfirst]
          exact ih h
      | some a =>
          have hp : p e₁ = true := by simp [hf, hfirst]
          rw [List.filter_cons_of_pos hp] at h
          rw [List.filterMap_cons_some hfirst]
          cases i with
          | zero =>
              cases h
              rw [hfirst]
              rfl
          | succ i => exact ih h

/-- Elements that are related in turn stand at the same places. -/
theorem getElem?_of_forall₂ {α β : Type} {R : α → β → Prop} {as : List α} {bs : List β} {i : Nat}
    {a : α} (h : List.Forall₂ R as bs) (ha : as[i]? = some a) : ∃ b, bs[i]? = some b ∧ R a b := by
  obtain ⟨hi, rfl⟩ := List.getElem?_eq_some_iff.1 ha
  have hi' : i < bs.length := h.length_eq ▸ hi
  exact ⟨bs[i], List.getElem?_eq_getElem hi', h.get hi hi'⟩

section Serving
variable {address : Method → Http.Address} {record : Log} {line : Line} {turn : Turn}
  {handle : String}

theorem Introduces.served (hcast : cast.Portable) (h : Introduces cast handle turn) :
    (Effect.asked (.resolve handle (cast.resolve handle))).Served turn := by
  cases h with
  | known kind status hid =>
      obtain ⟨hlow, hhigh⟩ := hcast.bots _ (mem_of_lookup hid)
      unfold Cast.resolve
      rw [hid]
      exact .known (p := ⟨_, kind⟩) status handle hlow hhigh
  | unknown status hid hcode =>
      unfold Cast.resolve
      rw [hid]
      exact .unknown status handle hcode

theorem Cast.Portable.response (hcast : cast.Portable) (handle : String) :
    (cast.response handle).Portable := by
  unfold Cast.response
  cases hlookup : cast.responses.lookup handle with
  | none => exact Response.portable_empty
  | some r => exact hcast.responses _ (mem_of_lookup hlookup)

theorem Cast.Portable.query (hcast : cast.Portable) (bot : Bot) :
    cast.query bot = .ok (cast.response bot.handle) := by
  unfold Cast.query
  rw [hcast.failing, if_neg List.not_mem_nil]
  rfl

theorem Relays.served (hcast : cast.Portable) {bot : Bot} (userId : Int) (text : String)
    (h : Relays cast bot.handle turn) :
    (Effect.asked (.query bot userId text (cast.query bot))).Served turn := by
  obtain ⟨status, rfl⟩ := h
  rw [hcast.query]
  exact .responded status bot userId text (hcast.response bot.handle)

theorem Scripted.eachServed (hcast : cast.Portable) {es : List Effect}
    (hes : ∀ e ∈ es, e.Rehearsed cast) (h : Scripted cast address (Log.empty.extend es) line) :
    Desk.EachServed address es line := by
  intro k i e he
  have hmem := List.mem_of_getElem? he
  obtain ⟨hmem, hmethod⟩ := List.mem_filter.1 hmem
  have hrehearsed := hes e hmem
  obtain rfl : e.method = k := of_decide_eq_true hmethod
  cases e with
  | asked call =>
      cases call with
      | resolve handle answer =>
          obtain rfl : answer = cast.resolve handle := hrehearsed
          have hresolved : (es.filterMap Effect.resolved?)[i]? = some handle :=
            getElem?_filterMap Effect.isSome_resolved? he
          exact (h.info i handle hresolved).served hcast
      | query bot userId text answer =>
          obtain rfl : answer = cast.query bot := hrehearsed
          have hqueried : (es.filterMap Effect.queried?)[i]? = some ⟨bot.handle, userId, text⟩ :=
            getElem?_filterMap Effect.isSome_queried? he
          exact (h.results i _ hqueried).served hcast userId text
  | delivered a outcome =>
      obtain rfl : outcome = .ok () := hrehearsed
      obtain ⟨reply, b, hturn, hok⟩ := h.answer i
      exact hturn ▸ .delivered a hok
  | sent o outcome =>
      obtain rfl : outcome = .ok () := hrehearsed
      obtain ⟨reply, v, hturn, hok⟩ := h.message i
      exact hturn ▸ .sent o hok

end Serving

/-! ### A gateway with two sessions -/

theorem read_text (id text : String) :
    ∃ v : Json, Candidate.decode v = .ok (Rehearsal.text id text) :=
  ⟨.obj [(Json.tagKey, .str "botInlineResult"), ("id", .str id), ("type", .str "article"),
    ("send_message", .obj [(Json.tagKey, .str "botInlineMessageText"), ("message", .str text)])], rfl⟩

theorem read_photo (id : String) (caption : Option String) :
    ∃ v : Json, Candidate.decode v = .ok (photo id caption) := by
  refine ⟨.obj [(Json.tagKey, .str "botInlineMediaResult"), ("id", .str id), ("type", .str "photo"),
    ("send_message", .obj ((Json.tagKey, .str "botInlineMessageMediaAuto") ::
      Json.Fields.maybe "message" Json.str caption)),
    ("photo", .obj [(Json.tagKey, .str "photo"), ("id", .str id)])], ?_⟩
  cases caption <;> rfl

theorem portable_duo : duo.Portable where
  failing := rfl
  bots := by decide
  responses := by
    have hb := Response.read_ofResults false (List.forall_mem_cons.2
      ⟨read_text "3" "three", List.forall_mem_singleton.2 (read_photo "4" none)⟩)
    have ha := Response.read_ofResults false (List.forall_mem_cons.2
      ⟨read_text "1" "one", List.forall_mem_singleton.2 (read_text "2" "two")⟩)
    exact List.forall_mem_cons.2
      ⟨Response.portable_of_numberless hb (by decide +kernel) (by decide +kernel),
        List.forall_mem_singleton.2
          (Response.portable_of_numberless ha (by decide +kernel) (by decide +kernel))⟩

/-- The addresses of a gateway with one session for a user and one for the bot. -/
def sessions : Method → Http.Address
  | .info => ⟨"http://gateway.test/user/getInfo", "gateway.test", "/user/getInfo"⟩
  | .results => ⟨"http://gateway.test/user/messages.getInlineBotResults", "gateway.test",
    "/user/messages.getInlineBotResults"⟩
  | .answer => ⟨"http://gateway.test/bot/messages.setInlineBotResults", "gateway.test",
    "/bot/messages.setInlineBotResults"⟩
  | .message => ⟨"http://gateway.test/bot/messages.sendMessage", "gateway.test",
    "/bot/messages.sendMessage"⟩

def sessionRoute : Method → String
  | .info => "user/getInfo"
  | .results => "user/messages.getInlineBotResults"
  | .answer => "bot/messages.setInlineBotResults"
  | .message => "bot/messages.sendMessage"

theorem routeName_sessions (k : Method) : Line.routeName (sessions k).path = sessionRoute k := by
  cases k <;> decide +kernel

theorem addresses_sessions : Addresses Http.Address.ofText? (.ofUrl "http://gateway.test" "user")
    (.ofUrl "http://gateway.test" "bot") sessions where
  url k := by cases k <;> decide +kernel
  host k := by cases k <;> decide +kernel
  apart k k' h := by
    rw [routeName_sessions, routeName_sessions] at h
    revert h
    cases k <;> cases k' <;> decide

/-- A desk that rehearses with a cast. -/
def rehearsing (cast : Cast) : Desk (StateM Log) :=
  ⟨provider cast, messenger false, Pattern.matcher, 777, "@admin", ⟨"FAQ", "lel"⟩⟩

/-- The same desk on the line to the gateway. -/
def serving : Desk (StateM Line) :=
  let t := Line.transport Http.Address.ofText?
  ⟨Gateway.provider t (.ofUrl "http://gateway.test" "user"),
    Gateway.messenger t (.ofUrl "http://gateway.test" "bot"), Pattern.matcher, 777, "@admin",
    ⟨"FAQ", "lel"⟩⟩

/-- The turn that gives a result. -/
def granting (result : Json) : Turn := .reply (.ofText 200 (Gateway.Envelope.success result).text)

/-- A gateway on which the user's methods take these turns and all deliveries work. -/
def delivering (infos results : List Turn) : Line where
  up := true
  routes :=
    [(sessionRoute .info, infos), (sessionRoute .results, results),
      (sessionRoute .answer, [granting (.bool true)]),
      (sessionRoute .message, [granting (.bool true)])]
  log := []

theorem outcome_granting_true {α : Type} {read : Json.Doc → Json.Decoded α} {R : Json → α → Prop}
    {a : α} (hread : Json.Reads read R) (h : R (.bool true) a) :
    (Gateway.Reply.ofText 200 (Gateway.Envelope.success (.bool true)).text).outcome read = .ok a := by
  have hdepth := Gateway.Envelope.depth_success_le (Nat.le_of_eq (rfl : (Json.bool true).depth = 0))
  have hnum : ∀ n ∈ (Json.bool true).numbers, n.ReadsBack := fun _ hn => absurd hn List.not_mem_nil
  exact Gateway.Reply.outcome_success 200 (hdepth.trans (by decide)) hnum hread h rfl

/-- Such a gateway follows a record that it has a turn for at each handle and each query. -/
theorem scripted_delivering {cast : Cast} {record : Log} {infos results : List Turn}
    (hinfos : List.Forall₂ (Introduces cast) record.resolved infos)
    (hresults : List.Forall₂ (fun asked => Relays cast asked.handle) record.queried results) :
    Scripted cast sessions record (delivering infos results) where
  up := rfl
  info := by
    intro i handle h
    obtain ⟨turn, hturn, hintroduces⟩ := getElem?_of_forall₂ hinfos h
    rw [← Nat.zero_add i] at hturn
    rw [routeName_sessions, Line.upcoming_of_getElem? rfl hturn]
    exact hintroduces
  results := by
    intro i asked h
    obtain ⟨turn, hturn, hrelays⟩ := getElem?_of_forall₂ hresults h
    rw [← Nat.zero_add i] at hturn
    rw [routeName_sessions, Line.upcoming_of_getElem? rfl hturn]
    exact hrelays
  answer := by
    intro i
    have hok := outcome_granting_true Json.reads_boolean rfl
    rw [routeName_sessions]
    exact ⟨_, true, Line.upcoming_of_singleton rfl i, hok⟩
  message := by
    intro i
    have hok := outcome_granting_true Json.reads_anything rfl
    rw [routeName_sessions]
    exact ⟨_, .bool true, Line.upcoming_of_singleton rfl i, hok⟩

/-- A gateway that says of two bots what the cast of the two does. -/
def duoLine : Line :=
  delivering [granting (Peer.encode ⟨1000, some "bot"⟩), granting (Peer.encode ⟨1001, none⟩)]
    [granting (duo.response "@a").encode, granting (duo.response "@b").encode]

/-- A record that resolves the two bots in turn and queries both is followed by that gateway. -/
theorem scripted_duoLine {record : Log} {first second : Asked}
    (hresolved : record.resolved = ["@a", "@b"]) (hqueried : record.queried = [first, second])
    (hfirst : first.handle = "@a") (hsecond : second.handle = "@b") :
    Scripted duo sessions record duoLine := by
  refine scripted_delivering ?_ ?_
  · rw [hresolved]
    exact .cons (.known (some "bot") 200 rfl) (.cons (.known none 200 rfl) .nil)
  · rw [hqueried]
    exact .cons (hfirst.symm ▸ ⟨200, rfl⟩) (.cons (hsecond.symm ▸ ⟨200, rfl⟩) .nil)

/-- A photo that was prepared without a medium. As a provider's result it would not be read. -/
def bareCast : Cast :=
  Cast.empty.withResponse "@a"
    (.ofResults [.photo ⟨"1", "photo", plainMessage .mediaAuto none, []⟩])

def bareLine : Line :=
  delivering [granting (Peer.encode ⟨1000, none⟩)] [granting (bareCast.response "@a").encode]

/-! ### Agreement -/

/-- A query handled on a gateway that follows the script of a rehearsal is handled as it was in the
rehearsal: with the same answer, the same calls and deliveries coming to the same, and one request
for each of them, in the same order, on the line. -/
theorem gateway_agrees {reader : String → Option Http.Address} {user bot : Gateway.Client}
    {address : Method → Http.Address} {rehearsed : Desk (StateM Log)} {served : Desk (StateM Line)}
    (ha : Addresses reader user bot address) (hcast : cast.Portable) (hr : Rehearses cast rehearsed)
    (hs : Desk.OnLine reader user bot served) (hsame : Desk.Alike rehearsed served) (q : InlineQuery)
    (log : Log) (line : Line)
    (hscript : Scripted cast address
      (log.since (rehearsed.watch (·.handleQuery q) log).state) line) :
    let effects := (rehearsed.watch (·.handleQuery q) log).effects
    ((served.answer q).run line).run.1 = ((rehearsed.answer q).run log).run.1 ∧
    (rehearsed.watch (·.handleQuery q) log).state = log.extend effects ∧
    served.watch (·.handleQuery q) line =
      ⟨(), effects, line.recording (effects.map (Effect.request address))⟩ := by
  intro effects
  obtain ⟨hrehearsed, hstate⟩ := hr.trace (rehearsed.trace_watch_handleQuery q log)
  rw [hstate, Log.since_extend] at hscript
  have htrace := Desk.trace_of_served hs ha hscript.up (hscript.eachServed hcast hrehearsed)
  have hanswer : ((served.answer q).run line).run.1 = ((rehearsed.answer q).run log).run.1 := by
    -- The effects of finding the answer come first.
    obtain ⟨rest, hrest⟩ := rehearsed.effects_watch_handleQuery q log
    rw [hrest] at htrace
    obtain ⟨line₁, hfound, -⟩ := Trace.append_iff.1 htrace
    rw [← Desk.result_watch_answer, ← Desk.result_watch_answer,
      Desk.watch_answer_of_trace hsame hfound]
  exact ⟨hanswer, hstate, Desk.watch_handleQuery_of_trace hsame htrace⟩

theorem gateway_agrees_duo :
    let q : InlineQuery := ⟨31, 4242, "hi | @a:2 | @b $", ""⟩
    let rehearsed := (rehearsing duo).watch (·.handleQuery q) .empty
    Scripted duo sessions (Log.empty.since rehearsed.state) duoLine ∧
      ((serving.answer q).run duoLine).run.1 = (((rehearsing duo).answer q).run .empty).run.1 ∧
      serving.watch (·.handleQuery q) duoLine =
        ⟨(), rehearsed.effects,
          duoLine.recording (rehearsed.effects.map (Effect.request sessions))⟩ := by
  intro q rehearsed
  have hresolved : rehearsed.state.resolved = ["@a", "@b"] := by decide +kernel
  have hqueried : rehearsed.state.queried = [⟨"@a", 4242, "hi"⟩, ⟨"@b", 4242, "two"⟩] := by
    decide +kernel
  have hscript : Scripted duo sessions (Log.empty.since rehearsed.state) duoLine := by
    rw [Log.since_empty]
    exact scripted_duoLine hresolved hqueried rfl rfl
  have hsame : Desk.Alike (rehearsing duo) serving := ⟨rfl, rfl, rfl, rfl⟩
  obtain ⟨hanswer, -, hwatch⟩ := gateway_agrees addresses_sessions portable_duo ⟨rfl, rfl⟩
    ⟨rfl, rfl⟩ hsame q .empty duoLine hscript
  exact ⟨hscript, hanswer, hwatch⟩

/-- A photo without a medium comes up in a rehearsal and is lost on a gateway that follows it. -/
theorem bare_photo_lost :
    let q : InlineQuery := ⟨31, 4242, "hi | @a $", ""⟩
    let rehearsed := (rehearsing bareCast).watch (·.handleQuery q) .empty
    bareCast.failing = [] ∧
      (∀ r ∈ bareCast.responses, r.2.encode.numbers = [] ∧
        (Gateway.Envelope.success r.2.encode).depth ≤ Json.Doc.nesting) ∧
      Scripted bareCast sessions (Log.empty.since rehearsed.state) bareLine ∧
      (((rehearsing bareCast).answer q).run .empty).run.1.results.map Submission.id = ["1"] ∧
      ((serving.answer q).run bareLine).run.1.results.map Submission.id = [] := by
  intro q rehearsed
  have hresolved : rehearsed.state.resolved = ["@a"] := by decide +kernel
  have hqueried : rehearsed.state.queried = [⟨"@a", 4242, "hi"⟩] := by decide +kernel
  have hscript : Scripted bareCast sessions (Log.empty.since rehearsed.state) bareLine := by
    rw [Log.since_empty]
    refine scripted_delivering ?_ ?_
    · rw [hresolved]
      exact .cons (.known none 200 rfl) .nil
    · rw [hqueried]
      exact .cons ⟨200, rfl⟩ .nil
  exact ⟨rfl, by decide +kernel, hscript, by decide +kernel, by decide +kernel⟩

end Rehearsal
end InlineRelay
