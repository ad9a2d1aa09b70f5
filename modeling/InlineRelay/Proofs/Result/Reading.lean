import InlineRelay.Proofs.Json.Record
import InlineRelay.Result.Candidate

/-! The objects that results and their parts are read from. -/
namespace InlineRelay

open Json (Decoded Faithful Fields Reads Source TagRecord tagKey)
open Json.Fields (Once others get? present?)

/-! ### Constructors -/

theorem lookup_eq_some {α : Type} {words : List (String × α)} (h : (words.map Prod.fst).Nodup)
    {w : String} {a : α} : words.lookup w = some a ↔ (w, a) ∈ words := by
  induction words with
  | nil => simp
  | cons p words ih =>
      obtain ⟨u, b⟩ := p
      obtain ⟨hu, hnodup⟩ := List.nodup_cons.1 h
      rw [List.lookup_cons]
      by_cases hw : w = u
      · subst hw
        have hnot : (w, a) ∉ words := fun hmem => hu (List.mem_map.2 ⟨(w, a), hmem, rfl⟩)
        simp [hnot, eq_comm]
      · simp [hw, ih hnodup, beq_false_of_ne hw]

section Constructors
variable {κ : Type} {all : List κ} {tag : κ → String}

theorem lookup_tag (hall : ∀ k, k ∈ all) (htag : (all.map tag).Nodup) {w : String} {k : κ} :
    (all.map fun k => (tag k, k)).lookup w = some k ↔ w = tag k := by
  rw [lookup_eq_some (by rwa [List.map_map])]
  constructor
  · intro h
    obtain ⟨l, -, heq⟩ := List.mem_map.1 h
    cases heq
    rfl
  · rintro rfl
    exact List.mem_map.2 ⟨k, hall k, rfl⟩

/-- The name of a constructor, or an object that has it as its only key, with nothing under it. -/
def Names (tag : String) (v : Json) : Prop :=
  v = .str tag ∨ ∃ u, v = .obj [(tag, u)] ∧ Json.Blank Json.Aside u

/-- A constructor named by a string. -/
theorem Names.eq_str {tag : String} {v : Json} (h : Names tag v) (hv : v.isString) :
    v = .str tag := by
  rcases h with rfl | ⟨_, rfl, -⟩
  · rfl
  · cases hv

theorem tag_eq_str {fs : Fields} {tag : String} (h : ∃ t, get? fs tagKey = some t ∧ Names tag t)
    (hplain : ((Json.obj fs).at? [tagKey]).all Json.isString) :
    get? fs tagKey = some (.str tag) := by
  obtain ⟨t, htag, hname⟩ := h
  rw [Json.at?, htag] at hplain
  rw [htag, hname.eq_str hplain]

theorem reads_tag (hall : ∀ k, k ∈ all) (htag : (all.map tag).Nodup) :
    Reads (Json.word (all.map fun k => (tag k, k)) : Json.Aside → Decoded κ)
      fun v k => Names (tag k) v := by
  intro x v hx k
  rw [Json.reads_word _ hx]
  simp only [lookup_tag hall htag]
  constructor
  · rintro ⟨w, hv, rfl⟩
    exact hv
  · intro hv
    exact ⟨tag k, hv, rfl⟩

end Constructors

/-- The tags of the message and of its location, where there are any, are strings. -/
def PlainTags (v : Json) : Prop :=
  ∀ path ∈ [["send_message", "_"], ["send_message", "geo", "_"]], (v.at? path).all Json.isString

instance (v : Json) : Decidable (PlainTags v) :=
  inferInstanceAs (Decidable (∀ path ∈ _, _))

section Parts
variable {τ : Type} [Source τ] [Faithful τ]

theorem MessageKind.reads (form : Form) :
    Reads (decode form : Json.Aside → Decoded MessageKind) fun v k => Names (k.tag form) v := by
  refine reads_tag (fun k => ?_) ?_
  · cases k <;> decide
  · cases form <;> decide

theorem PlaceKind.reads (form : Form) :
    Reads (decode form : Json.Aside → Decoded PlaceKind) fun v k => Names (k.tag form) v := by
  refine reads_tag (fun k => ?_) ?_
  · cases k <;> decide
  · cases form <;> decide

theorem EntityKind.reads :
    Reads (decode : τ → Decoded EntityKind) fun v k => ∃ s, v = .str s ∧ k = ofTag s := by
  intro x v hx k
  unfold decode
  simp only [bind_eq_ok, Json.reads_string hx, pure, Except.pure, Except.ok.injEq]
  exact ⟨fun ⟨s, hs, hk⟩ => ⟨s, hs, hk.symm⟩, fun ⟨s, hs, hk⟩ => ⟨s, hs, hk.symm⟩⟩

/-! ### Annotations and locations -/

/-- An object an annotation is read from. -/
def Entity.Written (v : Json) (e : Entity) : Prop :=
  TagRecord (fun t kind => ∃ s, t = .str s ∧ kind = EntityKind.ofTag s) v e.kind e.extra

theorem Entity.reads : Reads (decode : τ → Decoded Entity) Written := by
  intro x v hx e
  refine (Json.reads_tagRecord EntityKind.reads _ Entity.mk hx e).trans ?_
  constructor
  · rintro ⟨kind, extra, rfl, h⟩
    exact h
  · intro h
    exact ⟨e.kind, e.extra, rfl, h⟩

/-- An object a location is read from. -/
def Place.Written (form : Form) (v : Json) (p : Place form) : Prop :=
  TagRecord (fun t kind => Names (kind.tag form) t) v p.kind p.extra

theorem Place.reads (form : Form) :
    Reads (decode form : Json.Aside → Decoded (Place form)) (Written form) := by
  intro x v hx p
  refine (Json.reads_tagRecord (PlaceKind.reads form) _ Place.mk hx p).trans ?_
  constructor
  · rintro ⟨kind, extra, rfl, h⟩
    exact h
  · intro h
    exact ⟨p.kind, p.extra, rfl, h⟩

/-! ### Messages -/

/-- The keys a message has a meaning for. -/
def Message.keys (form : Form) : List String := [tagKey, "message", "entities", placeKey form]

/-- An object a message is read from. -/
def Message.Written (form : Form) (v : Json) (m : Message form) : Prop :=
  ∃ fs, v = .obj fs ∧ Once (keys form) (fs.map Prod.fst) ∧
    (∃ t, get? fs tagKey = some t ∧ Names (m.kind.tag form) t) ∧
    Option.Rel (fun t s => t = .str s) (present? fs "message") m.text ∧
    Option.Rel (fun w es => ∃ vs, w = .arr vs ∧ List.Forall₂ Entity.Written vs es)
      (present? fs "entities") m.entities ∧
    Option.Rel (Place.Written form) (present? fs (placeKey form)) m.place ∧
    m.extra = others (keys form) fs

theorem Message.reads (form : Form) :
    Reads (decode form : Json.Aside → Decoded (Message form)) (Written form) := by
  refine Json.reads_openRecord (keys form) rfl (by cases form <;> decide) ?_ ?_
  · intro ms fs hms m
    simp only [bind_eq_ok, Json.required_eq_ok (MessageKind.reads form) hms,
      Json.optional_eq_ok Json.reads_string hms,
      Json.optional_eq_ok (Json.reads_list Entity.reads) hms,
      Json.optional_eq_ok (Place.reads form) hms, Json.extras_eq_ok hms]
    constructor
    · rintro ⟨kind, hkind, text, htext, entities, hentities, place, hplace, extra, rfl, ⟨⟩⟩
      exact ⟨hkind, htext, hentities, hplace, rfl⟩
    · rintro ⟨hkind, htext, hentities, hplace, hextra⟩
      exact ⟨m.kind, hkind, m.text, htext, m.entities, hentities, m.place, hplace, m.extra,
        hextra, rfl⟩
  · intro ms m honce h
    obtain ⟨kind, hkind, h⟩ := bind_eq_ok.1 h
    obtain ⟨text, htext, h⟩ := bind_eq_ok.1 h
    obtain ⟨entities, hentities, h⟩ := bind_eq_ok.1 h
    obtain ⟨place, hplace, _⟩ := bind_eq_ok.1 h
    simp only [List.forall_mem_cons]
    exact ⟨Json.passes_of_get honce (.head _) hkind,
      Json.passes_of_get honce (.tail _ (.head _)) htext,
      Json.passes_of_get honce (.tail _ (.tail _ (.head _))) hentities,
      Json.passes_of_get honce (.tail _ (.tail _ (.tail _ (.head _)))) hplace,
      fun _ hs => absurd hs List.not_mem_nil⟩

/-! ### Results -/

/-- The keys every result has a meaning for, next to its tag. -/
def Body.keys : List String := ["id", "type", "send_message"]

/-- Members a result is read from, next to its tag. -/
def Body.Written (form : Form) (fs : Fields) (b : Body form) : Prop :=
  Once keys (fs.map Prod.fst) ∧
    get? fs "id" = some (.str b.id) ∧
    get? fs "type" = some (.str b.kind) ∧
    (∃ v, get? fs "send_message" = some v ∧ Message.Written form v b.message) ∧
    b.extra = others keys fs

theorem Body.reads (form : Form) :
    Reads (decode form : Json.Aside → Decoded (Body form)) fun v b =>
      ∃ fs, v = .obj fs ∧ Written form fs b := by
  refine Json.reads_openRecord keys rfl (by decide) ?_ ?_
  · intro ms fs hms b
    simp only [bind_eq_ok, Json.required_eq_ok Json.reads_string hms,
      Json.required_eq_ok (Message.reads form) hms, Json.extras_eq_ok hms, exists_eq_right]
    constructor
    · rintro ⟨id, hid, kind, hkind, message, hmessage, extra, rfl, ⟨⟩⟩
      exact ⟨hid, hkind, hmessage, rfl⟩
    · rintro ⟨hid, hkind, hmessage, hextra⟩
      exact ⟨b.id, hid, b.kind, hkind, b.message, hmessage, b.extra, hextra, rfl⟩
  · intro ms b honce h
    obtain ⟨id, hid, h⟩ := bind_eq_ok.1 h
    obtain ⟨kind, hkind, h⟩ := bind_eq_ok.1 h
    obtain ⟨message, hmessage, _⟩ := bind_eq_ok.1 h
    simp only [List.forall_mem_cons]
    exact ⟨Json.passes_of_get honce (.head _) hid,
      Json.passes_of_get honce (.tail _ (.head _)) hkind,
      Json.passes_of_get honce (.tail _ (.tail _ (.head _))) hmessage,
      fun _ hs => absurd hs List.not_mem_nil⟩

namespace Candidate

/-- Whether the candidate is of the variant that the media members of its body call for. -/
def Classified (c : Candidate) : Prop :=
  match c with
  | text _ => True
  | c => classify c.body = .ok c

/-- An object a candidate is read from. -/
def Written (v : Json) (c : Candidate) : Prop :=
  ∃ fs, v = .obj fs ∧ Once [tagKey] (fs.map Prod.fst) ∧
    get? fs tagKey = some (.str c.carrier.tag) ∧
    Body.Written .fetched (Json.untagged fs) c.body ∧ c.Classified

theorem classify_eq_ok {b : Body .fetched} {c : Candidate} :
    classify b = .ok c ↔ c.carrier = .media ∧ c.body = b ∧ c.Classified := by
  constructor
  · intro h
    have hc : c.carrier = .media ∧ c.body = b := by
      unfold classify at h
      split at h
      · cases h
        exact ⟨rfl, rfl⟩
      · split at h
        · cases h
          exact ⟨rfl, rfl⟩
        · split at h
          · cases h
            exact ⟨rfl, rfl⟩
          · cases h
    obtain ⟨hcarrier, rfl⟩ := hc
    refine ⟨hcarrier, rfl, ?_⟩
    cases c with
    | text b => trivial
    | photo | document | game => exact h
  · rintro ⟨hcarrier, rfl, hclass⟩
    cases c with
    | text b => cases hcarrier
    | photo | document | game => exact hclass

/-- The candidate of a body found under a constructor. -/
def ofCarrier (k : Carrier) (b : Body .fetched) : Decoded Candidate :=
  match k with
  | .plain => .ok (text b)
  | .media => classify b

theorem ofCarrier_eq_ok {k : Carrier} {b : Body .fetched} {c : Candidate} :
    ofCarrier k b = .ok c ↔ k = c.carrier ∧ c.body = b ∧ c.Classified := by
  cases k with
  | media =>
      rw [eq_comm (a := Carrier.media)]
      exact classify_eq_ok
  | plain =>
      constructor
      · intro h
        cases h
        exact ⟨rfl, rfl, trivial⟩
      · rintro ⟨hcarrier, rfl, -⟩
        cases c with
        | text b => rfl
        | photo | document | game => cases hcarrier

theorem meaning_carrier {w : String} {k : Carrier} :
    Json.meaning ([Carrier.plain, .media].map fun k => (k.tag, k)) w = .ok k ↔ w = k.tag := by
  rw [Json.meaning_eq_ok]
  refine lookup_tag (fun k => ?_) (by decide)
  cases k <;> decide

theorem reads : Reads (decode : τ → Decoded Candidate) Written := by
  intro x v hx c
  have hbuild : ∀ (k : Carrier) (y : Json.Aside) (c : Candidate),
      Body.decode .fetched y >>= ofCarrier k = .ok c ↔
        ∃ fs, y.value = .obj fs ∧
          k = c.carrier ∧ Body.Written .fetched fs c.body ∧ c.Classified := by
    intro k y c
    simp only [bind_eq_ok, Body.reads .fetched (x := y) rfl, ofCarrier_eq_ok]
    constructor
    · rintro ⟨b, ⟨fs, hy, hb⟩, hcarrier, rfl, hclass⟩
      exact ⟨fs, hy, hcarrier, hb, hclass⟩
    · rintro ⟨fs, hy, hcarrier, hb, hclass⟩
      exact ⟨c.body, ⟨fs, hy, hb⟩, hcarrier, rfl, hclass⟩
  refine Iff.trans (Json.reads_tagged hbuild hx c) ?_
  simp only [meaning_carrier]
  constructor
  · rintro ⟨fs, hv, honce, w, k, htag, rfl, rfl, hb, hclass⟩
    exact ⟨fs, hv, honce, htag, hb, hclass⟩
  · rintro ⟨fs, hv, honce, htag, hb, hclass⟩
    exact ⟨fs, hv, honce, _, _, htag, rfl, rfl, hb, hclass⟩

end Candidate

end Parts

end InlineRelay
