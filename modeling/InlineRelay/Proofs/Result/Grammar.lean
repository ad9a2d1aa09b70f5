import InlineRelay.Proofs.Json.Encoding
import InlineRelay.Proofs.Json.Shape
import InlineRelay.Proofs.Result.Reading

/-!
The grammar of candidates: which objects are accepted, what they are taken for, and that members
the grammar does not name have no say in it.
-/
namespace InlineRelay

open Json (Fields Nullable TagRecord Tagged tagKey)
open Json.Fields (Once carries get? others present? under)

/-- Neither the tag of the message nor that of its location is an object. -/
def FlatTags (v : Json) : Prop :=
  ∀ path ∈ [["send_message", "_"], ["send_message", "geo", "_"]],
    ∀ t ∈ v.at? path, t.isObject = false

theorem Names.eq_str_of_flat {tag : String} {t : Json} (h : Names tag t)
    (hflat : t.isObject = false) : t = .str tag := by
  rcases h with rfl | ⟨_, rfl, -⟩
  · rfl
  · cases hflat

/-! ### Annotations and locations -/

def Entity.Shape : Json → Prop := Tagged fun t => t.isString

theorem Entity.exists_written_iff {v : Json} : (∃ e, Written v e) ↔ Shape v := by
  have hparts : (∃ e, Written v e) ↔ ∃ kind extra,
      TagRecord (fun t kind => ∃ s, t = .str s ∧ kind = EntityKind.ofTag s) v kind extra := by
    constructor
    · rintro ⟨e, h⟩
      exact ⟨e.kind, e.extra, h⟩
    · rintro ⟨kind, extra, h⟩
      exact ⟨⟨kind, extra⟩, h⟩
  have htag : ∀ t : Json,
      (∃ kind s, t = .str s ∧ kind = EntityKind.ofTag s) ↔ t.isString = true := by
    intro t
    cases t <;> simp [Json.isString]
  simp only [hparts, Json.exists_tagRecord_iff, htag, Shape]

def Place.Shape : Json → Prop := Tagged fun t => t = .str "geoPoint" ∨ t = .str "geoPointEmpty"

theorem PlaceKind.exists_names_iff {t : Json} (h : t.isObject = false) :
    (∃ kind : PlaceKind, Names (kind.tag .fetched) t) ↔
      t = .str "geoPoint" ∨ t = .str "geoPointEmpty" := by
  constructor
  · rintro ⟨kind, hname⟩
    rw [hname.eq_str_of_flat h]
    cases kind
    · exact .inl rfl
    · exact .inr rfl
  · rintro (rfl | rfl)
    · exact ⟨point, .inl rfl⟩
    · exact ⟨empty, .inl rfl⟩

theorem Place.exists_written_iff {v : Json} (h : ∀ t ∈ v.at? ["_"], t.isObject = false) :
    (∃ p, Written .fetched v p) ↔ Shape v := by
  have hparts : (∃ p, Written .fetched v p) ↔ ∃ kind extra,
      TagRecord (fun t (kind : PlaceKind) => Names (kind.tag .fetched) t) v kind extra := by
    constructor
    · rintro ⟨p, h⟩
      exact ⟨p.kind, p.extra, h⟩
    · rintro ⟨kind, extra, h⟩
      exact ⟨⟨kind, extra⟩, h⟩
  rw [hparts, Json.exists_tagRecord_iff]
  refine exists_congr fun fs => and_congr_right ?_
  rintro rfl
  refine exists_congr fun t => and_congr_right fun ht => PlaceKind.exists_names_iff (h t ?_)
  have hfirst : get? fs "_" = some t := Json.Fields.get?_of_under_eq ht
  rw [Json.at?, hfirst]
  rfl

/-! ### Messages -/

namespace Message

def tags : List String :=
  ["botInlineMessageMediaAuto", "botInlineMessageText", "botInlineMessageMediaGeo",
    "botInlineMessageMediaVenue", "botInlineMessageMediaContact", "botInlineMessageMediaInvoice",
    "botInlineMessageMediaWebPage"]

/-- A message has its constructor, and three members that may be left out or null. -/
def Shape (v : Json) : Prop :=
  ∃ fs, v = .obj fs ∧ (∃ t, under fs tagKey = [t] ∧ ∃ tag ∈ tags, t = .str tag) ∧
    Nullable (fun w => w.isString) (under fs "message") ∧
    Nullable (fun w => ∃ es, w = .arr es ∧ ∀ e ∈ es, Entity.Shape e) (under fs "entities") ∧
    Nullable Place.Shape (under fs "geo")

theorem exists_names_iff {t : Json} (h : t.isObject = false) :
    (∃ kind : MessageKind, Names (kind.tag .fetched) t) ↔ ∃ tag ∈ tags, t = .str tag := by
  constructor
  · rintro ⟨kind, hname⟩
    exact ⟨_, by cases kind <;> decide, hname.eq_str_of_flat h⟩
  · rintro ⟨tag, htag, rfl⟩
    obtain ⟨kind, -, rfl⟩ : ∃ kind ∈ MessageKind.all, kind.tag .fetched = tag :=
      List.mem_map.1 (show tag ∈ MessageKind.all.map (MessageKind.tag .fetched) from htag)
    exact ⟨kind, .inl rfl⟩

theorem exists_written_iff {v : Json} (htag : ∀ t ∈ v.at? ["_"], t.isObject = false)
    (hplace : ∀ t ∈ v.at? ["geo", "_"], t.isObject = false) :
    (∃ m, Written .fetched v m) ↔ Shape v := by
  have hparts : (∃ m, Written .fetched v m) ↔ ∃ fs, v = .obj fs ∧
      Once (keys .fetched) (fs.map Prod.fst) ∧
      (∃ (kind : MessageKind) (t : Json), get? fs tagKey = some t ∧ Names (kind.tag .fetched) t) ∧
      (∃ s, Option.Rel (fun t s => t = .str s) (present? fs "message") s) ∧
      (∃ es, Option.Rel (fun w es => ∃ vs, w = .arr vs ∧ List.Forall₂ Entity.Written vs es)
        (present? fs "entities") es) ∧
      ∃ p, Option.Rel (Place.Written .fetched) (present? fs "geo") p := by
    constructor
    · rintro ⟨m, fs, hv, honce, ⟨t, ht, hkind⟩, htext, hentities, hgeo, -⟩
      exact ⟨fs, hv, honce, ⟨m.kind, t, ht, hkind⟩, ⟨_, htext⟩, ⟨_, hentities⟩, ⟨_, hgeo⟩⟩
    · rintro ⟨fs, hv, honce, ⟨kind, ht⟩, ⟨text, htext⟩, ⟨entities, hentities⟩, place, hgeo⟩
      exact ⟨⟨kind, text, entities, place, _⟩, fs, hv, honce, ht, htext, hentities, hgeo, rfl⟩
  rw [hparts]
  refine exists_congr fun fs => and_congr_right ?_
  rintro rfl
  have hflat : ∀ t, under fs tagKey = [t] → t.isObject = false := fun t ht => htag t (by
    have hfirst : get? fs "_" = some t := Json.Fields.get?_of_under_eq ht
    rw [Json.at?, hfirst]
    rfl)
  have hgeo : ∀ w ∈ present? fs "geo", Place.Shape w ↔ ∃ p, Place.Written .fetched w p := by
    intro w hw
    refine (Place.exists_written_iff fun t ht => hplace t ?_).symm
    rw [Json.at?, Json.Fields.get?_of_present? hw]
    exact ht
  have hentities : ∀ w : Json, (∃ es, w = .arr es ∧ ∀ e ∈ es, Entity.Shape e) ↔
      ∃ es vs, w = .arr vs ∧ List.Forall₂ Entity.Written vs es := by
    intro w
    simp only [← Entity.exists_written_iff, ← Json.exists_forall₂]
    constructor
    · rintro ⟨vs, hw, es, h⟩
      exact ⟨es, vs, hw, h⟩
    · rintro ⟨es, vs, hw, h⟩
      exact ⟨vs, hw, es, h⟩
  have htext : ∀ w : Json, w.isString = true ↔ ∃ s, w = .str s := by
    intro w
    cases w <;> simp [Json.isString]
  -- Each key is there once at most on both sides, so that what is read is what stands under it.
  constructor
  · rintro ⟨honce, ⟨kind, t, ht, hname⟩, hmessage, hannotations, hlocation⟩
    rw [Json.Fields.once_iff] at honce
    have ht := (Json.Fields.under_eq_singleton (honce tagKey (by decide))).2 ht
    exact ⟨⟨t, ht, (exists_names_iff (hflat t ht)).1 ⟨kind, hname⟩⟩,
      (Json.exists_present_iff (fun w _ => htext w) (honce _ (by decide))).1 hmessage,
      (Json.exists_present_iff (fun w _ => hentities w) (honce _ (by decide))).1 hannotations,
      (Json.exists_present_iff hgeo (honce _ (by decide))).1 hlocation⟩
  · rintro ⟨⟨t, ht, hkind⟩, hmessage, hannotations, hlocation⟩
    have hone := Json.Fields.length_under_of_eq_singleton ht
    obtain ⟨kind, hname⟩ := (exists_names_iff (hflat t ht)).2 hkind
    refine ⟨Json.Fields.once_iff.2 ?_,
      ⟨kind, t, (Json.Fields.under_eq_singleton hone).1 ht, hname⟩,
      (Json.exists_present_iff (fun w _ => htext w) hmessage.length_le).2 hmessage,
      (Json.exists_present_iff (fun w _ => hentities w) hannotations.length_le).2 hannotations,
      (Json.exists_present_iff hgeo hlocation.length_le).2 hlocation⟩
    simp only [keys, List.forall_mem_cons, List.not_mem_nil, false_imp_iff, implies_true, and_true]
    exact ⟨hone, hmessage.length_le, hannotations.length_le, hlocation.length_le⟩

end Message

/-! ### Candidates -/

namespace Candidate

/-- The keys candidates have a meaning for. -/
def keys : List String :=
  [tagKey, "id", "type", "send_message", "game", "document", "photo"]

/-- A result has its constructor, an id, a type and a message, and one with a medium the medium
too. -/
def Shape (v : Json) : Prop :=
  ∃ fs, v = .obj fs ∧
    (under fs tagKey = [.str "botInlineResult"] ∨ under fs tagKey = [.str "botInlineMediaResult"] ∧
      (carries fs "game" ∨ carries fs "document" ∨ carries fs "photo")) ∧
    (∃ id, under fs "id" = [.str id]) ∧ (∃ kind, under fs "type" = [.str kind]) ∧
    ∃ m, under fs "send_message" = [m] ∧ Message.Shape m

/-- A medium passed on with the body is one the object carries. -/
theorem isSome_field? {fs : Fields} {b : Body .fetched} {k : String}
    (hb : b.extra = others Body.keys (Json.untagged fs)) (hk : k ∉ Body.keys) (htag : k ≠ tagKey) :
    (b.field? k).isSome = carries fs k := by
  rw [Body.field?, present?, hb, Json.Fields.get?_others, if_neg hk,
    Json.Fields.get?_ordered_untagged, if_neg htag, Json.Fields.get?_ordered, carries,
    Json.Fields.getLast?_under]
  cases get? fs.reverse k with
  | none => rfl
  | some v =>
      rw [Option.map_some, Option.filter_some, Json.isNull_canonical, Option.any_some]
      cases v.isNull <;> rfl

/-- What a media result with this body is taken for. -/
theorem classify_eq {fs : Fields} {b : Body .fetched}
    (hb : b.extra = others Body.keys (Json.untagged fs)) :
    classify b = if carries fs "game" then .ok (game b)
      else if carries fs "document" then .ok (document b)
      else if carries fs "photo" then .ok (photo b)
      else .error (.bareMedia b.id) := by
  rw [classify, isSome_field? hb (by decide) (by decide), isSome_field? hb (by decide) (by decide),
    isSome_field? hb (by decide) (by decide)]

theorem exists_body_iff {fs : Fields} (hflat : FlatTags (.obj fs)) :
    (∃ b, Body.Written .fetched (Json.untagged fs) b) ↔
      (∃ id, under fs "id" = [.str id]) ∧ (∃ kind, under fs "type" = [.str kind]) ∧
        ∃ m, under fs "send_message" = [m] ∧ Message.Shape m := by
  have hmessage : ∀ m, get? fs "send_message" = some m →
      ((∃ n, Message.Written .fetched m n) ↔ Message.Shape m) := by
    intro m hm
    have hpath : ∀ path, (Json.obj fs).at? ("send_message" :: path) = m.at? path := by
      intro path
      rw [Json.at?, hm]
      rfl
    exact Message.exists_written_iff
      (fun t ht => hflat _ (by decide) t ((hpath ["_"]).symm ▸ ht))
      (fun t ht => hflat _ (by decide) t ((hpath ["geo", "_"]).symm ▸ ht))
  have hunder : ∀ k ∈ Body.keys, under (Json.untagged fs) k = under fs k := fun k hk =>
    Json.Fields.under_untagged fun htag => absurd hk (htag ▸ by decide)
  have hget : ∀ k ∈ Body.keys, get? (Json.untagged fs) k = get? fs k := by
    intro k hk
    rw [← Json.Fields.head?_under, hunder k hk, Json.Fields.head?_under]
  constructor
  · rintro ⟨b, honce, hid, hkind, ⟨m, hm, hb⟩, -⟩
    have hone : ∀ k ∈ Body.keys, (under fs k).length ≤ 1 := fun k hk =>
      hunder k hk ▸ Json.Fields.once_iff.1 honce k hk
    rw [hget _ (by decide)] at hid hkind hm
    exact ⟨⟨_, (Json.Fields.under_eq_singleton (hone _ (by decide))).2 hid⟩,
      ⟨_, (Json.Fields.under_eq_singleton (hone _ (by decide))).2 hkind⟩,
      m, (Json.Fields.under_eq_singleton (hone _ (by decide))).2 hm, (hmessage m hm).1 ⟨_, hb⟩⟩
  · rintro ⟨⟨id, hid⟩, ⟨kind, hkind⟩, m, hm, hshape⟩
    obtain ⟨n, hn⟩ := (hmessage m (Json.Fields.get?_of_under_eq hm)).2 hshape
    rw [← hunder _ (by decide)] at hid hkind hm
    refine ⟨⟨id, kind, n, _⟩, Json.Fields.once_iff.2 ?_, Json.Fields.get?_of_under_eq hid,
      Json.Fields.get?_of_under_eq hkind, ⟨m, Json.Fields.get?_of_under_eq hm, hn⟩, rfl⟩
    simp only [Body.keys, List.forall_mem_cons, List.not_mem_nil, false_imp_iff, implies_true,
      and_true]
    exact ⟨Json.Fields.length_under_of_eq_singleton hid,
      Json.Fields.length_under_of_eq_singleton hkind, Json.Fields.length_under_of_eq_singleton hm⟩

/-- Which constructor an object has, and what its body is taken for under it. -/
theorem written_iff {fs : Fields} {c : Candidate} :
    Written (.obj fs) c ↔ Body.Written .fetched (Json.untagged fs) c.body ∧
      (under fs tagKey = [.str "botInlineResult"] ∧ c = text c.body ∨
        under fs tagKey = [.str "botInlineMediaResult"] ∧ classify c.body = .ok c) := by
  constructor
  · rintro ⟨_, hv, honce, htag, hbody, hclass⟩
    cases hv
    refine ⟨hbody, ?_⟩
    have hone := Json.Fields.once_iff.1 honce tagKey (List.mem_singleton.2 rfl)
    have htag := (Json.Fields.under_eq_singleton hone).2 htag
    cases c with
    | text b => exact .inl ⟨htag, rfl⟩
    | photo b | document b | game b => exact .inr ⟨htag, hclass⟩
  · rintro ⟨hbody, hvariant⟩
    have hone : ∀ {v}, under fs tagKey = [v] → Once [tagKey] (fs.map Prod.fst) := fun h =>
      Json.Fields.once_iff.2
        (List.forall_mem_singleton.2 (Json.Fields.length_under_of_eq_singleton h))
    rcases hvariant with ⟨htag, hc⟩ | ⟨htag, hc⟩
    · refine ⟨fs, rfl, hone htag, ?_, hbody, ?_⟩
      · rw [hc]
        exact Json.Fields.get?_of_under_eq htag
      · rw [hc]
        trivial
    · obtain ⟨hcarrier, -, hclass⟩ := classify_eq_ok.1 hc
      refine ⟨fs, rfl, hone htag, ?_, hbody, hclass⟩
      rw [hcarrier]
      exact Json.Fields.get?_of_under_eq htag

theorem exists_classify_iff {fs : Fields} {b : Body .fetched}
    (hb : b.extra = others Body.keys (Json.untagged fs)) :
    (∃ c, classify b = .ok c) ↔ carries fs "game" ∨ carries fs "document" ∨ carries fs "photo" := by
  rw [classify_eq hb]
  cases carries fs "game" <;> cases carries fs "document" <;> cases carries fs "photo" <;> simp

theorem exists_written_iff {v : Json} (hflat : FlatTags v) : (∃ c, Written v c) ↔ Shape v := by
  constructor
  · rintro ⟨c, h⟩
    have ⟨fs, hv, _⟩ := h
    subst hv
    obtain ⟨hbody, hvariant⟩ := written_iff.1 h
    refine ⟨fs, rfl, hvariant.imp And.left fun ⟨htag, hc⟩ => ⟨htag, ?_⟩,
      (exists_body_iff hflat).1 ⟨_, hbody⟩⟩
    exact (exists_classify_iff hbody.2.2.2.2).1 ⟨c, hc⟩
  · rintro ⟨fs, rfl, htag, hmembers⟩
    obtain ⟨b, hbody⟩ := (exists_body_iff hflat).2 hmembers
    rcases htag with htag | ⟨htag, hmedia⟩
    · exact ⟨text b, written_iff.2 ⟨hbody, .inl ⟨htag, rfl⟩⟩⟩
    · obtain ⟨c, hc⟩ := (exists_classify_iff hbody.2.2.2.2).2 hmedia
      obtain ⟨-, rfl, -⟩ := classify_eq_ok.1 hc
      exact ⟨c, written_iff.2 ⟨hbody, .inr ⟨htag, hc⟩⟩⟩

end Candidate

/-! ### Members the grammar does not name -/

/-- More members next to the tag of an annotation or a location. -/
def WidenedPart : Json → Json → Prop := Json.Widened [tagKey] fun _ _ _ => False

theorem WidenedPart.tagged_iff {T : Json → Prop} {v w : Json} (h : WidenedPart v w) :
    Tagged T v ↔ Tagged T w := by
  obtain ⟨fs, gs, rfl, rfl, hfs⟩ := h
  have htag := hfs.under_eq (List.mem_singleton.2 rfl) fun _ _ => id
  simp only [Tagged, Json.obj.injEq, exists_eq_left', htag]

theorem WidenedPart.ne_null {v w : Json} (h : WidenedPart v w) : v ≠ .null ∧ w ≠ .null := by
  obtain ⟨fs, gs, rfl, rfl, -⟩ := h
  exact ⟨Json.noConfusion, Json.noConfusion⟩

def WidenedParts (v w : Json) : Prop :=
  ∃ vs ws, v = .arr vs ∧ w = .arr ws ∧ List.Forall₂ (fun v w => v = w ∨ WidenedPart v w) vs ws

theorem WidenedParts.all_iff {v w : Json} (h : WidenedParts v w) :
    (∃ es, v = .arr es ∧ ∀ e ∈ es, Entity.Shape e) ↔
      ∃ es, w = .arr es ∧ ∀ e ∈ es, Entity.Shape e := by
  obtain ⟨vs, ws, rfl, rfl, hvs⟩ := h
  simp only [Json.arr.injEq, exists_eq_left']
  induction hvs with
  | nil => exact Iff.rfl
  | @cons v w vs ws hvw _ ih =>
      rw [List.forall_mem_cons, List.forall_mem_cons, ih]
      rcases hvw with rfl | hvw
      · exact Iff.rfl
      · exact and_congr_left fun _ => hvw.tagged_iff

theorem WidenedParts.ne_null {v w : Json} (h : WidenedParts v w) : v ≠ .null ∧ w ≠ .null := by
  obtain ⟨vs, ws, rfl, rfl, -⟩ := h
  exact ⟨Json.noConfusion, Json.noConfusion⟩

/-- More members in a message, its annotations or its location. -/
def WidenedMessage : Json → Json → Prop :=
  Json.Widened (Message.keys .fetched) fun k v w =>
    k = "entities" ∧ WidenedParts v w ∨ k = "geo" ∧ WidenedPart v w

theorem WidenedMessage.shape_iff {v w : Json} (h : WidenedMessage v w) :
    Message.Shape v ↔ Message.Shape w := by
  obtain ⟨fs, gs, rfl, rfl, hfs⟩ := h
  have htag := hfs.under_eq (k := tagKey) (by decide) (by simp [tagKey])
  have htext := hfs.under_eq (k := "message") (by decide) (by simp)
  have hentities : List.Forall₂ (fun v w => v = w ∨ WidenedParts v w) (under fs "entities")
      (under gs "entities") :=
    (hfs.under (by decide)).imp fun v w hvw => by simpa using hvw
  have hgeo : List.Forall₂ (fun v w => v = w ∨ WidenedPart v w) (under fs "geo")
      (under gs "geo") :=
    (hfs.under (by decide)).imp fun v w hvw => by simpa using hvw
  have hentities := Json.nullable_congr (fun _ _ hvw => hvw.all_iff)
    (fun _ _ hvw => hvw.ne_null) hentities
  have hgeo : Nullable Place.Shape (under fs "geo") ↔ Nullable Place.Shape (under gs "geo") :=
    Json.nullable_congr (fun _ _ hvw => hvw.tagged_iff) (fun _ _ hvw => hvw.ne_null) hgeo
  simp only [Message.Shape, Json.obj.injEq, exists_eq_left', htag, htext, hentities, hgeo]

/-- More members in a candidate or anywhere in its message. -/
def WidenedCandidate : Json → Json → Prop :=
  Json.Widened Candidate.keys fun k v w => k = "send_message" ∧ WidenedMessage v w

theorem WidenedCandidate.shape_iff {v w : Json} (h : WidenedCandidate v w) :
    Candidate.Shape v ↔ Candidate.Shape w := by
  obtain ⟨fs, gs, rfl, rfl, hfs⟩ := h
  have hsame : ∀ k ∈ Candidate.keys, k ≠ "send_message" → under fs k = under gs k :=
    fun k hk hne => hfs.under_eq hk fun _ _ hvw => hne hvw.1
  have hcarries : ∀ k ∈ Candidate.keys, k ≠ "send_message" → carries fs k = carries gs k := by
    intro k hk hne
    rw [carries, carries, hsame k hk hne]
  have hmessage : (∃ m, under fs "send_message" = [m] ∧ Message.Shape m) ↔
      ∃ m, under gs "send_message" = [m] ∧ Message.Shape m := by
    have hall := hfs.under (k := "send_message") (by decide)
    generalize under fs "send_message" = vs at hall ⊢
    generalize under gs "send_message" = ws at hall ⊢
    cases hall with
    | nil => exact Iff.rfl
    | @cons v w vs ws hvw hrest =>
        cases hrest with
        | cons _ _ => simp
        | nil =>
            rcases hvw with rfl | ⟨-, hvw⟩
            · exact Iff.rfl
            · simpa using hvw.shape_iff
  simp only [Candidate.Shape, Json.obj.injEq, exists_eq_left',
    hsame tagKey (by decide) (by decide), hsame "id" (by decide) (by decide),
    hsame "type" (by decide) (by decide), hcarries "game" (by decide) (by decide),
    hcarries "document" (by decide) (by decide), hcarries "photo" (by decide) (by decide),
    hmessage]

theorem WidenedCandidate.flatTags {v w : Json} (h : WidenedCandidate v w) (hflat : FlatTags v) :
    FlatTags w := by
  have hmessage : ∀ t ∈ w.at? ["send_message", "_"], t ∈ v.at? ["send_message", "_"] :=
    h.at? (by decide) fun _ _ hm => hm.2.at? (by decide) fun _ _ hnone => by simp at hnone
  have hplace : ∀ t ∈ w.at? ["send_message", "geo", "_"],
      t ∈ v.at? ["send_message", "geo", "_"] := by
    refine h.at? (by decide) fun _ _ hm => hm.2.at? (by decide) fun p q hgeo => ?_
    have hpart : WidenedPart p q := by simpa using hgeo
    exact hpart.at? (List.mem_singleton.2 rfl) fun _ _ hnone => hnone.elim
  intro path hpath t ht
  rcases List.mem_pair.1 hpath with rfl | rfl
  · exact hflat _ hpath t (hmessage t ht)
  · exact hflat _ hpath t (hplace t ht)

namespace Candidate

/-- Candidates are accepted by their grammar alone. The constructor says whether a candidate is a
text; otherwise it is what it carries, a game before a document before a photo. Members under other
keys, there or in the message, its annotations or its location, change nothing. -/
theorem decode_iff_shape (v : Json) (hflat : FlatTags v) :
    ((∃ c, decode v = .ok c) ↔ Shape v) ∧
    (∀ c, decode v = .ok c → ∃ fs, v = .obj fs ∧
      (under fs tagKey = [.str "botInlineResult"] → c = text c.body) ∧
      (under fs tagKey = [.str "botInlineMediaResult"] →
        c = if carries fs "game" then game c.body
          else if carries fs "document" then document c.body
          else photo c.body)) ∧
    ∀ w, WidenedCandidate v w → ((∃ c, decode w = .ok c) ↔ ∃ c, decode v = .ok c) := by
  have haccepts : ∀ {u : Json}, FlatTags u → ((∃ c, decode u = .ok c) ↔ Shape u) := by
    intro u hu
    rw [← exists_written_iff hu]
    exact exists_congr fun c => reads rfl c
  refine ⟨haccepts hflat, ?_, fun w hw => ?_⟩
  · intro c hc
    have h := (reads (τ := Json) rfl c).1 hc
    have ⟨fs, hv, _⟩ := h
    subst hv
    obtain ⟨hbody, hvariant⟩ := written_iff.1 h
    refine ⟨fs, rfl, fun htag => ?_, fun htag => ?_⟩
    · rcases hvariant with ⟨-, htext⟩ | ⟨hmedia, -⟩
      · exact htext
      · rw [htag] at hmedia
        simp at hmedia
    · rcases hvariant with ⟨hplain, -⟩ | ⟨-, hclass⟩
      · rw [htag] at hplain
        simp at hplain
      · rw [classify_eq hbody.2.2.2.2] at hclass
        split_ifs at hclass ⊢ <;> exact (Except.ok.inj hclass).symm
  · rw [haccepts hflat, haccepts (hw.flatTags hflat), hw.shape_iff]

/-- A document that says it is no game, and a location with a key that means nothing there. -/
def sampleFile : Json := .obj
  [("game", .null), ("_", .str "botInlineMediaResult"), ("document", .obj []),
    ("send_message", .obj [("geo", .obj [("_", .str "geoPointEmpty")]),
      ("_", .str "botInlineMessageMediaAuto")]), ("photo", .bool true), ("id", .str "7"),
    ("type", .str "file")]

def sampleFileWithMore : Json := .obj
  [("entities", .int 3), ("game", .null), ("_", .str "botInlineMediaResult"),
    ("document", .obj []), ("send_message", .obj [("geo", .obj [("lat", .null),
      ("_", .str "geoPointEmpty")]), ("_", .str "botInlineMessageMediaAuto"), ("id", .null)]),
    ("photo", .bool true), ("id", .str "7"), ("type", .str "file")]

theorem sampleFile_widened : WidenedCandidate sampleFile sampleFileWithMore := by
  refine ⟨_, _, rfl, rfl, .add (by decide) <| .keep (.inl rfl) <| .keep (.inl rfl) <|
    .keep (.inl rfl) <| .keep (.inr ⟨rfl, _, _, rfl, rfl, .keep (.inr (.inr ⟨rfl, ?_⟩)) <|
      .keep (.inl rfl) <| .add (by decide) .nil⟩) <| .keep (.inl rfl) <| .keep (.inl rfl) <|
        .keep (.inl rfl) .nil⟩
  exact ⟨_, _, rfl, rfl, .add (by decide) <| .keep (.inl rfl) .nil⟩

theorem decode_iff_shape_file :
    FlatTags sampleFile ∧ Shape sampleFile ∧ (∃ b, decode sampleFile = .ok (document b)) ∧
      WidenedCandidate sampleFile sampleFileWithMore ∧ ∃ c, decode sampleFileWithMore = .ok c := by
  have hflat : FlatTags sampleFile := by
    unfold FlatTags
    decide
  obtain ⟨haccepts, hvariant, hmore⟩ := decode_iff_shape sampleFile hflat
  have hdecode : ∃ c, decode sampleFile = .ok c := ⟨_, rfl⟩
  refine ⟨hflat, haccepts.1 hdecode, ?_, sampleFile_widened, (hmore _ sampleFile_widened).2 hdecode⟩
  obtain ⟨c, hc⟩ := hdecode
  obtain ⟨fs, hfs, -, hmedia⟩ := hvariant c hc
  cases hfs
  exact ⟨c.body, hc.trans (congrArg Except.ok (hmedia rfl))⟩

end Candidate

end InlineRelay
