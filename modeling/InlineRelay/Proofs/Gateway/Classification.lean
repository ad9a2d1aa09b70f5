import InlineRelay.Proofs.Gateway.Attribution
import InlineRelay.Proofs.Json.Passing

/-!
What comes of a call. A reply is judged by its body alone: an envelope that holds a result, an
envelope that refuses the call, or anything else. Without a reply the network has failed.
-/
namespace InlineRelay.Gateway

open Json (Doc)
open Json.Doc (present?)

namespace Envelope
variable {α : Type} {read : Doc → Json.Decoded α} {body : Option (List UInt8)} {e e' : Envelope α}

/-- What an envelope in a document says. All four fields count: none of it can be read if one of them
cannot. Other members do not count, whatever they are. -/
def Stands (read : Doc → Json.Decoded α) (d : Doc) (e : Envelope α) : Prop :=
  ∃ ms, d.Record fields ms ∧ ms.lookup "ok" = some (.bool e.ok) ∧
    Option.Rel (fun x a => read x = .ok a) (present? ms "result") e.result ∧
    Option.Rel (fun x code => x = .num (.int code) ∧ IsCode code) (present? ms "error_code")
      e.errorCode ∧
    Option.Rel (fun x text => x = .str text) (present? ms "description") e.description

/-- A body of which all came and that spells an envelope and nothing else. -/
def Told (read : Doc → Json.Decoded α) (body : Option (List UInt8)) (e : Envelope α) : Prop :=
  ∃ octets, body = some octets ∧
    ∃ d : Doc, d.SpellsPart (Json.textOf octets).toList ∧ Stands read (d.inside 0) e

theorem decode_eq_ok_iff {d : Doc} (hskip : d.skip = .ok ()) :
    decode read d = .ok e ↔ Stands read d e := by
  have hfields : (slots read).map (fun s => (s.name, s.elastic)) = fields := rfl
  rw [decode_eq, Json.Doc.closedRecord_eq_ok hfields (by decide) hskip passes_of_build]
  refine exists_congr fun ms => and_congr_right fun _ => ?_
  simp only [build_eq_ok, Json.Doc.get_required, Json.Doc.get_optional, Json.int32,
    Json.Doc.boolean_eq_ok, Json.Doc.integer_eq_ok, Json.Doc.string_eq_ok, exists_eq_right]
  rfl

theorem decodeText_eq_ok_iff {text : String} : Json.decodeText (decode read) text = .ok e ↔
    ∃ d : Doc, d.SpellsPart text.toList ∧ Stands read (d.inside 0) e := by
  rw [Json.decodeText_eq_ok_iff]
  exact exists_congr fun d => and_congr_right fun hd =>
    decode_eq_ok_iff (Json.Doc.skip_inside_part hd 0)

theorem envelope?_eq_some_iff {r : Reply} : r.envelope? read = some e ↔ Told read r.body e := by
  rw [Reply.envelope?, Option.bind_eq_some_iff]
  refine exists_congr fun octets => and_congr_right fun _ => ?_
  rw [← decodeText_eq_ok_iff]
  cases Json.decodeText (decode read) (Json.textOf octets) <;> simp [Except.toOption]

theorem Told.unique (h : Told read body e) (h' : Told read body e') : e = e' := by
  have heq {e : Envelope α} (h : Told read body e) : (Reply.mk 0 body).envelope? read = some e :=
    envelope?_eq_some_iff.2 h
  exact Option.some.inj ((heq h).symm.trans (heq h'))

end Envelope

namespace Reply
variable {α : Type} {read : Doc → Json.Decoded α} {r : Reply}

end Reply

namespace Client
variable {σ α : Type} {c : Client} {t t' : Transport (StateM σ)} {method : String}
  {parameters : Json} {read : Doc → Json.Decoded α} {s s' : σ} {r other : Reply}

/-- The absolute address at which a method is called. -/
def AddressedAt (c : Client) (t : Transport (StateM σ)) (method : String) (address : Http.Address) :
    Prop := t.address? (c.url method) = some address

/-- What is received in answer to the request of a call: nothing if the network fails, or if the
address has no host that a request could be made to. -/
def Receives (c : Client) (t : Transport (StateM σ)) (method : String) (parameters : Json) (s : σ)
    (answer : Option Reply) : Prop :=
  ∃ address, c.AddressedAt t method address ∧
    (if address.host.isEmpty then none else ((t.post address parameters.text).run s).run.1) = answer

/-- What comes of a call. -/
def result (c : Client) (t : Transport (StateM σ)) (method : String) (parameters : Json)
    (read : Doc → Json.Decoded α) (s : σ) : Except Error α :=
  ((c.invoke t method parameters read).run s).run.1

theorem Receives.unique {x y : Option Reply} (h : c.Receives t method parameters s x)
    (h' : c.Receives t method parameters s y) : x = y := by
  obtain ⟨address, haddress, rfl⟩ := h
  obtain ⟨address', haddress', rfl⟩ := h'
  rw [AddressedAt, haddress] at haddress'
  cases haddress'
  rfl

end Client
end InlineRelay.Gateway
