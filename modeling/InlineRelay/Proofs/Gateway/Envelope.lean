import InlineRelay.Gateway.Client
import InlineRelay.Proofs.Json.Octets
import InlineRelay.Proofs.Json.Printing
import InlineRelay.Proofs.Result.Reencoding

/-!
Envelopes, from the value the gateway writes to what came of the call: a result comes through as
it was encoded, a refusal with its description.
-/
namespace InlineRelay

open Json (Reads Closed)
open Json.Fields (get? present?)

section Reading
variable {τ : Type} [Json.Source τ] [Json.Passable τ]

/-! ### Peers -/

def Peer.fields : List (String × Bool) := [("bot_api_id", false), ("type", false)]

def Peer.Written (v : Json) (p : Peer) : Prop :=
  ∃ fs, Closed fields v fs ∧
    (get? fs "bot_api_id" = some (.int p.id) ∧
      -0x8000000000000000 ≤ p.id ∧ p.id ≤ 0x7FFFFFFFFFFFFFFF) ∧
    Option.Rel (fun w kind => w = .str kind) (present? fs "type") p.kind

theorem Peer.reads : Reads (decode : τ → Json.Decoded Peer) Written := by
  refine Json.reads_closedRecord fields rfl (by decide) ?_ ?_
  · intro ms fs hms p
    simp only [bind_eq_ok, Json.required_eq_ok Json.reads_int64 hms, Json.optional_eq_ok Json.reads_string hms]
    constructor
    · rintro ⟨id, ⟨_, hid, rfl, hrange⟩, kind, hkind, ⟨⟩⟩
      exact ⟨⟨hid, hrange⟩, hkind⟩
    · rintro ⟨⟨hid, hrange⟩, hkind⟩
      exact ⟨p.id, ⟨_, hid, rfl, hrange⟩, p.kind, hkind, rfl⟩
  · intro ms p honce h
    obtain ⟨id, hid, h⟩ := bind_eq_ok.1 h
    obtain ⟨kind, hkind, _⟩ := bind_eq_ok.1 h
    simp only [List.forall_mem_cons]
    exact ⟨Json.passes_of_get honce (.head _) hid,
      Json.passes_of_get honce (.tail _ (.head _)) hkind, fun _ hs => absurd hs List.not_mem_nil⟩

theorem Peer.written_encode {p : Peer} (hlow : -0x8000000000000000 ≤ p.id)
    (hhigh : p.id ≤ 0x7FFFFFFFFFFFFFFF) : Written p.encode p := by
  refine ⟨_, .object (Json.once_of_sorted (Json.Fields.sorted_ofMembers _) _), ⟨?_, hlow, hhigh⟩, ?_⟩
  · rw [Json.Fields.get?_ofMembers]
    cases p.kind <;> rfl
  · rw [Json.Fields.present?_ofMembers]
    cases p.kind with
    | none => exact .none
    | some kind => exact .some rfl

/-! ### Envelopes -/

namespace Gateway.Envelope
variable {α : Type} {R : Json → α → Prop}

def fields : List (String × Bool) :=
  [("ok", false), ("result", false), ("error_code", false), ("description", false)]

/-- The codes an envelope has room for. -/
def IsCode (code : Int) : Prop := -0x80000000 ≤ code ∧ code ≤ 0x7FFFFFFF

def Written (R : Json → α → Prop) (v : Json) (e : Envelope α) : Prop :=
  ∃ fs, Closed fields v fs ∧ get? fs "ok" = some (.bool e.ok) ∧
    Option.Rel R (present? fs "result") e.result ∧
    Option.Rel (fun w code => w = .int code ∧ IsCode code) (present? fs "error_code") e.errorCode ∧
    Option.Rel (fun w text => w = .str text) (present? fs "description") e.description

/-- The fields of an envelope as their check sees them. -/
def slots (read : τ → Json.Decoded α) : List (Json.Slot τ) :=
  [(Json.Field.required "ok" Json.boolean).slot, (Json.Field.optional "result" read).slot,
    (Json.Field.optional "error_code" Json.int32).slot,
    (Json.Field.optional "description" Json.string).slot]

/-- The envelope with these members. -/
def build (read : τ → Json.Decoded α) (ms : List (String × τ)) : Json.Decoded (Envelope α) := do
  return {
    ok := ← (Json.Field.required "ok" Json.boolean).get ms
    result := ← (Json.Field.optional "result" read).get ms
    errorCode := ← (Json.Field.optional "error_code" Json.int32).get ms
    description := ← (Json.Field.optional "description" Json.string).get ms }

omit [Json.Passable τ] in
theorem decode_eq (read : τ → Json.Decoded α) (x : τ) :
    decode read x = Json.closedRecord "struct ApiResponse" (slots read) x >>= build read := rfl

omit [Json.Passable τ] in
theorem build_eq_ok {read : τ → Json.Decoded α} {ms : List (String × τ)} {e : Envelope α} :
    build read ms = .ok e ↔ (Json.Field.required "ok" Json.boolean).get ms = .ok e.ok ∧
      (Json.Field.optional "result" read).get ms = .ok e.result ∧
      (Json.Field.optional "error_code" Json.int32).get ms = .ok e.errorCode ∧
      (Json.Field.optional "description" Json.string).get ms = .ok e.description := by
  simp only [build, bind_eq_ok]
  constructor
  · rintro ⟨ok, hok, result, hresult, code, hcode, description, hdescription, ⟨⟩⟩
    exact ⟨hok, hresult, hcode, hdescription⟩
  · rintro ⟨hok, hresult, hcode, hdescription⟩
    exact ⟨e.ok, hok, e.result, hresult, e.errorCode, hcode, e.description, hdescription, rfl⟩

omit [Json.Passable τ] in
theorem passes_of_build {read : τ → Json.Decoded α} {ms : List (String × τ)} {e : Envelope α}
    (honce : Json.Fields.Once (fields.map Prod.fst) (ms.map Prod.fst))
    (h : build read ms = .ok e) : ∀ s ∈ slots read, s.Passes ms := by
  obtain ⟨hok, hresult, hcode, hdescription⟩ := build_eq_ok.1 h
  simp only [slots, List.forall_mem_cons]
  exact ⟨Json.passes_of_get honce (.head _) hok,
    Json.passes_of_get honce (.tail _ (.head _)) hresult,
    Json.passes_of_get honce (.tail _ (.tail _ (.head _))) hcode,
    Json.passes_of_get honce (.tail _ (.tail _ (.tail _ (.head _)))) hdescription,
    fun _ hs => absurd hs List.not_mem_nil⟩

theorem reads {read : τ → Json.Decoded α} (hread : Reads read R) :
    Reads (decode read) (Written R) := by
  rw [funext (decode_eq read)]
  refine Json.reads_closedRecord fields rfl (by decide) ?_ passes_of_build
  intro ms fs hms e
  simp only [build_eq_ok, Json.required_eq_ok Json.reads_boolean hms, exists_eq_right,
    Json.optional_eq_ok hread hms, Json.optional_eq_ok Json.reads_int32 hms,
    Json.optional_eq_ok Json.reads_string hms]
  rfl

end Gateway.Envelope

end Reading

namespace Gateway
namespace Envelope
variable {α : Type} {R : Json → α → Prop}

/-- The envelope of a call that worked. -/
def success (result : Json) : Json := .ofFields [("ok", .bool true), ("result", result)]

/-- The envelope of a call that was refused. -/
def refusal (code : Option Int) (description : String) : Json :=
  .ofFields ([("ok", .bool false)] ++ Json.Fields.maybe "error_code" Json.int code
    ++ [("description", .str description)])

theorem depth_success_le {result : Json} {n : Nat} (h : result.depth ≤ n) :
    (success result).depth ≤ n + 1 := by
  refine Json.depth_ofFields_le fun m hm => ?_
  rcases List.mem_pair.1 hm with rfl | rfl
  · exact Nat.zero_le n
  · exact h

theorem mem_numbers_success {result : Json} {n : Json.Number} (h : n ∈ (success result).numbers) :
    n ∈ result.numbers := by
  obtain ⟨m, hm, hn⟩ := Json.mem_numbers_ofFields h
  rcases List.mem_pair.1 hm with rfl | rfl
  · cases hn
  · exact hn

theorem Written.success {v : Json} {a : α} (h : R v a) (hnull : v.isNull = false) :
    Written R (success v) ⟨true, some a, none, none⟩ := by
  have hresult : present? (Json.Fields.ofMembers [("ok", .bool true), ("result", v)]) "result" =
      some v := by
    rw [Json.Fields.present?_ofMembers]
    show Option.filter _ (some v) = some v
    rw [Option.filter_some, hnull]
    rfl
  refine ⟨_, .object (Json.once_of_sorted (Json.Fields.sorted_ofMembers _) _), ?_,
    hresult ▸ .some h, ?_, ?_⟩
  · rw [Json.Fields.get?_ofMembers]
    rfl
  · rw [Json.Fields.present?_ofMembers]
    exact .none
  · rw [Json.Fields.present?_ofMembers]
    exact .none

theorem Written.refusal {code : Option Int} (hcode : ∀ c ∈ code, IsCode c) (description : String) :
    Written R (refusal code description) ⟨false, none, code, some description⟩ := by
  refine ⟨_, .object (Json.once_of_sorted (Json.Fields.sorted_ofMembers _) _), ?_, ?_, ?_, ?_⟩
  · rw [Json.Fields.get?_ofMembers]
    cases code <;> rfl
  · rw [Json.Fields.present?_ofMembers]
    cases code <;> exact .none
  · rw [Json.Fields.present?_ofMembers]
    cases code with
    | none => exact .none
    | some c => exact .some ⟨rfl, hcode c rfl⟩
  · rw [Json.Fields.present?_ofMembers]
    cases code <;> exact .some rfl

theorem values_refusal {code : Option Int} {description : String} {m : String × Json}
    (h : m ∈ [("ok", Json.bool false)] ++ Json.Fields.maybe "error_code" Json.int code
      ++ [("description", .str description)]) :
    m.2 = .bool false ∨ (∃ c ∈ code, m.2 = .int c) ∨ m.2 = .str description := by
  rcases List.mem_append.1 h with h | h
  · rcases List.mem_append.1 h with h | h
    · exact .inl (List.mem_singleton.1 h ▸ rfl)
    · obtain ⟨c, hc, rfl⟩ := Json.mem_maybe.1 h
      exact .inr (.inl ⟨c, hc, rfl⟩)
  · exact .inr (.inr (List.mem_singleton.1 h ▸ rfl))

theorem depth_refusal_le (code : Option Int) (description : String) :
    (refusal code description).depth ≤ 1 := by
  refine Json.depth_ofFields_le fun m hm => ?_
  rcases values_refusal hm with h | ⟨c, -, h⟩ | h
  all_goals rw [h]; exact Nat.le_refl 0

theorem mem_numbers_refusal {code : Option Int} {description : String} {n : Json.Number}
    (h : n ∈ (refusal code description).numbers) : ∃ c ∈ code, n = .int c := by
  obtain ⟨m, hm, hn⟩ := Json.mem_numbers_ofFields h
  rcases values_refusal hm with h | ⟨c, hc, h⟩ | h
  · rw [h] at hn
    cases hn
  · rw [h] at hn
    exact ⟨c, hc, List.mem_singleton.1 hn⟩
  · rw [h] at hn
    cases hn

end Envelope
end Gateway

/-- A response that comes through the gateway: it can be read off a value, is not nested too deep in
its envelope, and its numbers are read as they are printed. -/
structure Response.Portable (r : Response) : Prop where
  read : ∃ v : Json, Response.decode v = .ok r
  shallow : (Gateway.Envelope.success r.encode).depth ≤ Json.Doc.nesting
  numbers : ∀ n ∈ r.encode.numbers, n.ReadsBack

namespace Response

/-- Results without anything else come through if each does. -/
theorem read_ofResults {cs : List Candidate} (gallery : Bool)
    (h : ∀ c ∈ cs, ∃ v : Json, Candidate.decode v = .ok c) :
    ∃ v : Json, decode v = .ok { ofResults cs with gallery } := by
  have hwritten : List.Forall₂ Candidate.Written (cs.map Candidate.encode) cs := by
    refine List.forall₂_map_left_iff.2 (List.forall₂_same.2 fun c hc => ?_)
    obtain ⟨v, hv⟩ := h c hc
    exact ((Candidate.reads (τ := Json) rfl c).1 hv).again
  refine ⟨.obj [("gallery", .bool gallery), ("results", .arr (cs.map Candidate.encode))], ?_⟩
  have honce : Json.Fields.Once keys ["gallery", "results"] :=
    Json.Fields.once_of_nodup keys (by decide)
  exact (reads (τ := Json) rfl _).2 ⟨_, rfl, honce, rfl, ⟨_, rfl, hwritten⟩, .none, rfl⟩

theorem portable_of_numberless {r : Response} (hread : ∃ v : Json, decode v = .ok r)
    (hshallow : (Gateway.Envelope.success r.encode).depth ≤ Json.Doc.nesting)
    (hnone : r.encode.numbers = []) : r.Portable := by
  refine ⟨hread, hshallow, ?_⟩
  rw [hnone]
  exact fun _ h => absurd h List.not_mem_nil

theorem portable_empty : (ofResults []).Portable :=
  portable_of_numberless ⟨.obj [], rfl⟩ (by decide +kernel) (by decide +kernel)

end Response

namespace Gateway.Reply
variable {α : Type} {R : Json → α → Prop} {read : Json.Doc → Json.Decoded α}

theorem envelope?_ofText (status : Nat) (text : String) : (Reply.ofText status text).envelope? read =
    (Json.decodeText (Envelope.decode read) text).toOption := by
  rw [envelope?, ofText, Option.bind_some, Json.textOf_octets]

theorem outcome_of_decode {v : Json} {e : Envelope α} (status : Nat)
    (hdepth : v.depth ≤ Json.Doc.nesting) (hnum : ∀ n ∈ v.numbers, n.ReadsBack)
    (hread : Reads read R) (hv : Envelope.Written R v e) :
    (Reply.ofText status v.text).outcome read = e.outcome := by
  have hdecoded : Json.decodeText (Envelope.decode read) v.text = .ok e :=
    Json.decodeText_text hdepth hnum fun d hd => (Envelope.reads hread hd e).2 hv
  rw [outcome, envelope?_ofText, hdecoded]
  rfl

/-- A result comes through its envelope as it is read. -/
theorem outcome_success {v : Json} {a : α} (status : Nat)
    (hdepth : (Envelope.success v).depth ≤ Json.Doc.nesting)
    (hnum : ∀ n ∈ v.numbers, n.ReadsBack) (hread : Reads read R) (hv : R v a)
    (hnull : v.isNull = false) :
    (Reply.ofText status (Envelope.success v).text).outcome read = .ok a :=
  outcome_of_decode status hdepth (fun n hn => hnum n (Envelope.mem_numbers_success hn)) hread
    (.success hv hnull)

theorem outcome_refusal {code : Option Int} (status : Nat) (hcode : ∀ c ∈ code, Envelope.IsCode c)
    (hread : Reads read R) (description : String) :
    (Reply.ofText status (Envelope.refusal code description).text).outcome read =
      .error (.api (code.getD 500) description) := by
  have hdepth : (Envelope.refusal code description).depth ≤ Json.Doc.nesting :=
    (Envelope.depth_refusal_le code description).trans (by decide)
  have hnum : ∀ n ∈ (Envelope.refusal code description).numbers, n.ReadsBack := by
    intro n hn
    obtain ⟨c, hc, rfl⟩ := Envelope.mem_numbers_refusal hn
    obtain ⟨hlow, hhigh⟩ := hcode c hc
    exact Json.Number.readsBack_int (by omega) (by omega)
  exact outcome_of_decode status hdepth hnum hread (.refusal hcode description)

theorem outcome_peer {p : Peer} (status : Nat) (hlow : -0x8000000000000000 ≤ p.id)
    (hhigh : p.id ≤ 0x7FFFFFFFFFFFFFFF) :
    (Reply.ofText status (Envelope.success p.encode).text).outcome Peer.decode = .ok p := by
  have hmember {m : String × Json} (hm : m ∈ [("bot_api_id", Json.int p.id)] ++
      Json.Fields.maybe "type" Json.str p.kind) : m.2 = .int p.id ∨ ∃ kind, m.2 = .str kind := by
    rcases List.mem_append.1 hm with hm | hm
    · exact .inl (List.mem_singleton.1 hm ▸ rfl)
    · obtain ⟨kind, -, rfl⟩ := Json.mem_maybe.1 hm
      exact .inr ⟨kind, rfl⟩
  have hdepth : p.encode.depth ≤ 1 := by
    refine Json.depth_ofFields_le fun m hm => ?_
    rcases hmember hm with h | ⟨kind, h⟩
    all_goals rw [h]; exact Nat.le_refl 0
  have hnum : ∀ n ∈ p.encode.numbers, n.ReadsBack := by
    intro n hn
    obtain ⟨m, hm, hn⟩ := Json.mem_numbers_ofFields hn
    rcases hmember hm with h | ⟨kind, h⟩
    · rw [h] at hn
      obtain rfl := List.mem_singleton.1 hn
      exact Json.Number.readsBack_int hlow (by omega)
    · rw [h] at hn
      cases hn
  have hwrapped : (Envelope.success p.encode).depth ≤ Json.Doc.nesting :=
    (Envelope.depth_success_le hdepth).trans (by decide)
  exact outcome_success status hwrapped hnum Peer.reads (Peer.written_encode hlow hhigh) rfl

theorem outcome_response {r : Response} (status : Nat) (h : r.Portable) :
    (Reply.ofText status (Envelope.success r.encode).text).outcome Response.decode = .ok r := by
  obtain ⟨v, hv⟩ := h.read
  have hwritten := (Response.reads (τ := Json) rfl r).1 hv
  exact outcome_success status h.shallow h.numbers Response.reads hwritten.again rfl

end Gateway.Reply

end InlineRelay
