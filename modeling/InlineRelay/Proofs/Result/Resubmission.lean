import InlineRelay.Proofs.Json.Encoding
import InlineRelay.Proofs.Result.Reading
import InlineRelay.Proofs.Result.Writing
import InlineRelay.Result.Resubmission

/-!
Resubmission on the wire: which members of the object a result was read from are renamed, moved
or left out, and that all others stay as they are.
-/
namespace InlineRelay

open Json (Fields revise tagKey)
open Json.Fields (Once Sorted get? ordered others present?)

namespace Wire

/-- The name of a constructor in input form. -/
def inputName (tag : String) : String := "input" ++ tag.capitalize

def inputTag : Json → Json
  | .str tag => .str (inputName tag)
  | v => v

def nonNull (v : Json) : Option Json := if v.isNull then none else some v

/-- The tag of a mention by name; other tags stay. -/
def mentionTag : Json → Json
  | .str "messageEntityMentionName" => .str "inputMessageEntityMentionName"
  | v => v

def entity (v : Json) : Json := revise "_" (fun t => some (mentionTag t)) v

def entities : Json → Json
  | .arr vs => .arr (vs.map entity)
  | v => v

def place (v : Json) : Json := revise "_" (fun t => some (inputTag t)) v

/-- The location leaves its key, for the other one unless that is taken. -/
def movePlace (fs : Fields) : Fields :=
  let rest := Fields.revise "geo" (fun _ => none) fs
  match present? fs "geo", get? fs "geo_point" with
  | some v, none => Fields.insert "geo_point" (place v) rest
  | _, _ => rest

def members (fs : Fields) : Fields :=
  movePlace <|
    Fields.revise "entities" (fun v => (nonNull v).map entities) <|
    Fields.revise "message" nonNull <|
    Fields.revise "_" (fun t => some (inputTag t)) fs

def message : Json → Json
  | .obj fs => .obj (members fs)
  | v => v

/-- A result rewritten for submission under this tag. -/
def result (tag : String) (v : Json) : Json :=
  revise "send_message" (fun m => some (message m)) (revise "_" (fun _ => some (.str tag)) v)

theorem sorted_movePlace {fs : Fields} (h : Sorted fs) : Sorted (movePlace fs) := by
  unfold movePlace
  split
  · exact (h.revise _ _).insert _ _
  · exact h.revise _ _

theorem get?_movePlace (fs : Fields) (k : String) :
    get? (movePlace fs) k =
      if k = "geo" then none
      else if k = "geo_point" then (get? fs k).or ((present? fs "geo").map place)
      else get? fs k := by
  unfold movePlace
  by_cases hgeo : k = "geo"
  · subst hgeo
    split <;> simp [Fields.get?_insert, Fields.get?_revise]
  · by_cases hpoint : k = "geo_point"
    · subst hpoint
      split
      · rename_i v hv hnone
        simp [Fields.get?_insert, hv, hnone]
      · rename_i hother
        rw [Fields.get?_revise]
        cases hv : present? fs "geo" with
        | none => simp
        | some v =>
            cases hp : get? fs "geo_point" with
            | none => exact absurd hp (hother v hv)
            | some p => simp
    · rw [if_neg hgeo, if_neg hpoint]
      split <;> simp [Fields.get?_insert, Fields.get?_revise, Ne.symm hgeo, Ne.symm hpoint]

theorem bind_nonNull (fs : Fields) (k : String) : (get? fs k).bind nonNull = present? fs k := by
  unfold present?
  cases get? fs k with
  | none => rfl
  | some v =>
      rw [Option.bind_some, Option.filter_some, nonNull]
      cases v.isNull <;> rfl

theorem sorted_members {fs : Fields} (h : Sorted fs) : Sorted (members fs) :=
  sorted_movePlace (((h.revise _ _).revise _ _).revise _ _)

theorem get?_members (fs : Fields) (k : String) :
    get? (members fs) k =
      if k = "_" then (get? fs k).map inputTag
      else if k = "message" then present? fs k
      else if k = "entities" then (present? fs k).map entities
      else if k = "geo" then none
      else if k = "geo_point" then (get? fs k).or ((present? fs "geo").map place)
      else get? fs k := by
  simp only [members, get?_movePlace, Fields.get?_revise, ← bind_nonNull]
  by_cases htag : k = "_"
  · subst htag
    cases get? fs "_" <;> simp
  · by_cases htext : k = "message"
    · subst htext
      simp
    · by_cases hentities : k = "entities"
      · subst hentities
        cases get? fs "entities" <;> simp
      · simp [htag, htext, hentities, Ne.symm htag, Ne.symm htext, Ne.symm hentities]

end Wire

/-! ### Names -/

theorem MessageKind.tag_submitted (k : MessageKind) :
    k.tag .submitted = Wire.inputName (k.tag .fetched) := by
  cases k <;> decide

theorem PlaceKind.tag_submitted (k : PlaceKind) :
    k.tag .submitted = Wire.inputName (k.tag .fetched) := by
  cases k <;> decide

theorem EntityKind.tag_submitted (s : String) :
    Json.str (ofTag s).submitted.tag = Wire.mentionTag (.str s) := by
  unfold ofTag
  split
  · rename_i h
    subst h
    rfl
  · rename_i hmention
    have hstay : Wire.mentionTag (.str s) = .str s := by
      unfold Wire.mentionTag
      split
      · rename_i heq
        exact absurd (Json.str.inj heq) hmention
      · rfl
    rw [hstay]
    split
    · rename_i h
      rw [h]
      rfl
    · rfl

/-! ### Rewriting part by part -/

theorem Entity.encode_submitted {v : Json} {e : Entity} (h : Written v e) :
    e.submitted.encode = Wire.entity v.canonical := by
  refine Json.TagRecord.ofRecord_eq h ?_
  rintro _ - ⟨s, rfl, hkind⟩
  rw [submitted, hkind]
  exact EntityKind.tag_submitted s

theorem Place.encode_submitted {v : Json} {p : Place .fetched} (h : Written .fetched v p)
    (hplain : (v.at? ["_"]).all Json.isString) :
    p.submitted.encode = Wire.place v.canonical := by
  refine Json.TagRecord.ofRecord_eq h fun t ht hname => ?_
  have hstr : t.isString := by
    rw [show v.at? ["_"] = some t from ht] at hplain
    exact hplain
  rw [hname.eq_str hstr, PlaceKind.encode, submitted, PlaceKind.tag_submitted]
  rfl

theorem Entity.encode_submitted_all {vs : List Json} {es : List Entity}
    (h : List.Forall₂ Written vs es) :
    Json.arr ((es.map submitted).map encode) = Wire.entities (Json.arr vs).canonical := by
  rw [Json.canonical, Json.canonicalItems_eq_map, Wire.entities]
  refine congrArg Json.arr ?_
  induction h with
  | nil => rfl
  | cons h _ ih => rw [List.map_cons, List.map_cons, List.map_cons, List.map_cons, encode_submitted h, ih]

theorem rel_map_eq {α β γ : Type} {R : α → β → Prop} {f : α → γ} {g : β → γ} {o : Option α}
    {p : Option β} (h : Option.Rel R o p) (hfg : ∀ a b, a ∈ o → R a b → f a = g b) :
    o.map f = p.map g := by
  cases h with
  | none => rfl
  | some hab => rw [Option.map_some, Option.map_some, hfg _ _ rfl hab]

/-- What an optional member was read as says what it is among the members in order. -/
theorem present?_ordered_eq {α : Type} {R : Json → α → Prop} {names : List String} {fs : Fields}
    {k : String} {o : Option α} {f : α → Json} (honce : Once names (fs.map Prod.fst))
    (hk : k ∈ names) (h : Option.Rel R (present? fs k) o)
    (hf : ∀ v a, v ∈ present? fs k → R v a → v.canonical = f a) :
    present? (ordered fs) k = o.map f := by
  rw [honce.present?_ordered hk]
  exact rel_map_eq h hf

theorem Message.tag_ordered {form : Form} {fs : Fields} {kind : MessageKind}
    (honce : Once (keys form) (fs.map Prod.fst))
    (hname : ∃ t, get? fs tagKey = some t ∧ Names (kind.tag form) t)
    (hplain : ((Json.obj fs).at? ["_"]).all Json.isString) :
    get? (ordered fs) "_" = some (.str (kind.tag form)) :=
  (honce.get?_ordered (.head _)).trans
    (congrArg (Option.map Json.canonical) (tag_eq_str hname hplain))

theorem Message.encode_submitted {v : Json} {m : Message .fetched} (h : Written .fetched v m)
    (htagPlain : (v.at? ["_"]).all Json.isString)
    (hgeoPlain : (v.at? ["geo", "_"]).all Json.isString) :
    m.submitted.encode = Wire.message v.canonical := by
  obtain ⟨fs, rfl, honce, hname, htext, hentities, hplace, hextra⟩ := h
  have htag := tag_ordered honce hname htagPlain
  have hmessage : present? (ordered fs) "message" = m.text.map Json.str := by
    refine present?_ordered_eq honce (by decide) htext ?_
    rintro _ s - rfl
    rfl
  have hlist : (present? (ordered fs) "entities").map Wire.entities =
      (m.entities.map fun es => es.map Entity.submitted).map
        fun es => Json.arr (es.map Entity.encode) := by
    rw [honce.present?_ordered (by decide), Option.map_map, Option.map_map]
    refine rel_map_eq hentities ?_
    rintro _ es - ⟨vs, rfl, hes⟩
    exact (Entity.encode_submitted_all hes).symm
  have hgeo : (present? (ordered fs) "geo").map Wire.place =
      (m.place.map Place.submitted).map Place.encode := by
    rw [honce.present?_ordered (by decide), Option.map_map, Option.map_map]
    refine rel_map_eq hplace fun w p hw hp => (Place.encode_submitted hp ?_).symm
    rw [Json.at?, Fields.get?_of_present? hw] at hgeoPlain
    exact hgeoPlain
  rw [Json.canonical_obj, Wire.message]
  refine encode_eq_obj hextra (Wire.sorted_members (Fields.sorted_ordered fs)) fun k => ?_
  rw [Wire.get?_members, own?]
  by_cases hk : k ∈ keys .fetched
  · rw [if_pos hk, Option.none_or]
    simp only [keys, placeKey, List.mem_cons, List.not_mem_nil, or_false] at hk
    rcases hk with rfl | rfl | rfl | rfl
    · simp [tagKey, htag, MessageKind.encode, MessageKind.tag_submitted, Wire.inputTag, submitted]
    · simp [tagKey, hmessage, submitted]
    · simp [tagKey, hlist, submitted]
    · simp [tagKey, placeKey]
  · rw [if_neg hk]
    simp only [keys, placeKey, tagKey, List.mem_cons, List.not_mem_nil, or_false, not_or] at hk
    obtain ⟨hkTag, hkText, hkEntities, hkGeo⟩ := hk
    by_cases hkPoint : k = "geo_point"
    · subst hkPoint
      simp [tagKey, placeKey, hgeo, submitted]
    · simp [tagKey, placeKey, hkTag, hkText, hkEntities, hkGeo, hkPoint]

/-- A result is written as the object it was read from, under another tag and with the message
rewritten. -/
theorem Body.encode_rewritten {form : Form} {fs : Fields} {b : Body .fetched} {t : Json}
    {f : Json → Json} (honce : Once [tagKey] (fs.map Prod.fst)) (htag : get? fs tagKey = some t)
    (h : Written .fetched (Json.untagged fs) b) (b' : Body form)
    (hsame : b'.id = b.id ∧ b'.kind = b.kind ∧ b'.extra = b.extra)
    (hmessage : ∀ v, get? fs "send_message" = some v → Message.Written .fetched v b.message →
      b'.message.encode = f v.canonical) (tag : String) :
    b'.encode tag = revise "send_message" (fun m => some (f m))
      (revise "_" (fun _ => some (.str tag)) (.obj (ordered fs))) := by
  obtain ⟨hkeys, hid, hkind, ⟨v, hv, hm⟩, hextra⟩ := h
  obtain ⟨hid', hkind', hextra'⟩ := hsame
  -- The tag was read apart: the body comes from the members under the other keys.
  have hne : ∀ k ∈ keys, k ≠ tagKey := by decide
  have hordered : ∀ k ∈ keys, get? (ordered fs) k =
      (get? (Json.untagged fs) k).map Json.canonical :=
    fun k hk => hkeys.get?_ordered_of_untagged hk (hne k hk)
  have hidIn : get? (ordered fs) "id" = some (.str b.id) := by
    rw [hordered _ (by decide), hid]
    rfl
  have hkindIn : get? (ordered fs) "type" = some (.str b.kind) := by
    rw [hordered _ (by decide), hkind]
    rfl
  have hmessageIn : get? (ordered fs) "send_message" = some v.canonical := by
    rw [hordered _ (by decide), hv]
    rfl
  have hrewritten : b'.message.encode = f v.canonical := by
    have hv' : get? fs "send_message" = some v := by
      rwa [Fields.get?_untagged, if_neg (by decide)] at hv
    exact hmessage v hv' hm
  have htagIn : get? (ordered fs) "_" = some t.canonical :=
    (honce.get?_ordered (List.mem_singleton.2 rfl)).trans (congrArg (Option.map Json.canonical) htag)
  rw [revise, revise]
  refine encode_eq_obj (hextra'.trans hextra)
    (((Fields.sorted_ordered fs).revise _ _).revise _ _) fun k => ?_
  rw [Fields.get?_revise, Fields.get?_revise, own?, Fields.get?_ordered_untagged]
  by_cases hk : k ∈ keys
  · rw [if_pos hk, Option.none_or]
    simp only [keys, List.mem_cons, List.not_mem_nil, or_false] at hk
    rcases hk with rfl | rfl | rfl
    · simp [tagKey, hidIn, hid']
    · simp [tagKey, hkindIn, hkind']
    · simp [tagKey, hmessageIn, hrewritten]
  · rw [if_neg hk]
    simp only [keys, List.mem_cons, List.not_mem_nil, or_false, not_or] at hk
    obtain ⟨hkId, hkType, hkMessage⟩ := hk
    by_cases hkTag : k = "_"
    · subst hkTag
      simp [tagKey, htagIn]
    · simp [tagKey, hkTag, hkId, hkType, hkMessage, Ne.symm hkTag, Ne.symm hkMessage]

theorem PlainTags.message {fs : Fields} {v : Json} (h : PlainTags (.obj fs))
    (hv : get? fs "send_message" = some v) :
    (v.at? ["_"]).all Json.isString ∧ (v.at? ["geo", "_"]).all Json.isString := by
  have hmessage := h ["send_message", "_"] (by decide)
  have hgeo := h ["send_message", "geo", "_"] (by decide)
  rw [Json.at?, hv] at hmessage hgeo
  exact ⟨hmessage, hgeo⟩

theorem Body.encode_submitted {fs : Fields} {b : Body .fetched} {t : Json}
    (honce : Once [tagKey] (fs.map Prod.fst)) (htag : get? fs tagKey = some t)
    (h : Written .fetched (Json.untagged fs) b) (hplain : PlainTags (.obj fs)) (tag : String) :
    b.submitted.encode tag = Wire.result tag (.obj (ordered fs)) := by
  refine encode_rewritten honce htag h b.submitted ⟨rfl, rfl, rfl⟩ (fun v hv hm => ?_) tag
  obtain ⟨hmessage, hgeo⟩ := hplain.message hv
  exact Message.encode_submitted hm hmessage hgeo

/-- The tag under which a candidate is submitted. -/
def Candidate.inputTag? : Candidate → Option String
  | text _ => some "inputBotInlineResult"
  | photo _ => some "inputBotInlineResultPhoto"
  | document _ => some "inputBotInlineResultDocument"
  | game _ => none

/-- What a candidate is submitted as is the object it was read from, rewritten. -/
theorem Candidate.encode_submission {v : Json} {c : Candidate} (hplain : PlainTags v)
    (hdecode : decode v = .ok c) (hgame : c.isGame = false) :
    ∃ s tag, c.submission = .ok s ∧ c.inputTag? = some tag ∧
      s.encode = Wire.result tag v.canonical := by
  obtain ⟨fs, rfl, honce, htag, hbody, -⟩ := (reads rfl c).1 hdecode
  rw [Json.canonical_obj]
  have hrewritten := Body.encode_submitted honce htag hbody hplain
  cases c with
  | text b => exact ⟨.text b.submitted, _, rfl, rfl, hrewritten _⟩
  | photo b => exact ⟨.photo b.submitted, _, rfl, rfl, hrewritten _⟩
  | document b => exact ⟨.document b.submitted, _, rfl, rfl, hrewritten _⟩
  | game b => cases hgame

namespace Wire

/-- A result with a mention, a location, a null message and members that are only passed on. -/
def sample : Json := .obj
  [("_", .str "botInlineResult"), ("id", .str "a"), ("send_message", .obj
    [("_", .str "botInlineMessageText"), ("entities", .arr
      [.obj [("_", .str "messageEntityMentionName"), ("user_id", .int 7)],
        .obj [("_", .str "messageEntityBold"), ("offset", .int 0)]]),
      ("geo", .obj [("_", .str "geoPoint"), ("lat", .int 52)]), ("message", .null),
      ("no_webpage", .bool true)]),
    ("thumb", .null), ("type", .str "article")]

def sampleCandidate : Candidate := .text
  { id := "a", kind := "article", extra := [("thumb", .null)],
    message := {
      kind := .text, text := none, place := some ⟨.point, [("lat", .int 52)]⟩,
      entities := some [⟨.mentionName, [("user_id", .int 7)]⟩,
        ⟨.other "messageEntityBold", [("offset", .int 0)]⟩],
      extra := [("no_webpage", .bool true)] } }

def sampleSubmitted : Json := .obj
  [("_", .str "inputBotInlineResult"), ("id", .str "a"), ("send_message", .obj
    [("_", .str "inputBotInlineMessageText"), ("entities", .arr
      [.obj [("_", .str "inputMessageEntityMentionName"), ("user_id", .int 7)],
        .obj [("_", .str "messageEntityBold"), ("offset", .int 0)]]),
      ("geo_point", .obj [("_", .str "inputGeoPoint"), ("lat", .int 52)]),
      ("no_webpage", .bool true)]),
    ("thumb", .null), ("type", .str "article")]

end Wire

theorem Candidate.encode_submission_sample :
    PlainTags Wire.sample ∧ decode Wire.sample = .ok Wire.sampleCandidate ∧
      Wire.sampleCandidate.isGame = false ∧
      ∃ s, Wire.sampleCandidate.submission = .ok s ∧ s.encode = Wire.sampleSubmitted := by
  have hplain : PlainTags Wire.sample := by decide
  have hdecode : decode Wire.sample = .ok Wire.sampleCandidate := rfl
  obtain ⟨s, tag, hs, htag, hencode⟩ := encode_submission hplain hdecode rfl
  obtain rfl : "inputBotInlineResult" = tag := Option.some.inj htag
  exact ⟨hplain, hdecode, rfl, s, hs, hencode⟩

end InlineRelay
