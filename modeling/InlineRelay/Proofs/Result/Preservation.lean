import InlineRelay.Proofs.Result.Reencoding
import InlineRelay.Proofs.Result.Resubmission

/-!
What decoding keeps. A candidate is written as the object it was read from, with all it was not
read for at every level; only a null that stands for an absent part of the message goes.
-/
namespace InlineRelay

open Json (Fields revise tagKey)
open Json.Fields (Once Sorted get? ordered others present?)

/-! ### Parts of a message -/

theorem EntityKind.tag_ofTag (s : String) : (ofTag s).tag = s := by
  unfold ofTag
  split
  · next h => exact h.symm
  · split
    · next h => exact h.symm
    · rfl

theorem Entity.Written.encode_eq {v : Json} {e : Entity} (h : Written v e) :
    e.encode = v.canonical := by
  refine Json.TagRecord.ofRecord_eq_canonical h ?_
  rintro _ - ⟨s, rfl, hkind⟩
  rw [hkind, EntityKind.encode, EntityKind.tag_ofTag]
  rfl

theorem Place.Written.encode_eq {form : Form} {v : Json} {p : Place form} (h : Written form v p)
    (hplain : (v.at? ["_"]).all Json.isString) : p.encode = v.canonical := by
  refine Json.TagRecord.ofRecord_eq_canonical h fun t ht hname => ?_
  have hstr : t.isString := by
    rw [show v.at? ["_"] = some t from ht] at hplain
    exact hplain
  rw [hname.eq_str hstr, PlaceKind.encode]
  rfl

theorem Entity.encode_all {vs : List Json} {es : List Entity} (h : List.Forall₂ Written vs es) :
    Json.arr (es.map encode) = (Json.arr vs).canonical := by
  rw [Json.canonical, Json.canonicalItems_eq_map]
  refine congrArg Json.arr ?_
  induction h with
  | nil => rfl
  | cons h _ ih => rw [List.map_cons, List.map_cons, h.encode_eq, ih]

/-! ### Messages and results -/

namespace Wire

/-- The parts of a message that may be null in place of being left out. -/
def optional : List String := ["message", "entities", "geo"]

/-- A message without the nulls that stand for its parts. -/
def withoutNulls : Json → Json
  | .obj fs => .obj (fs.filter fun m => !(optional.contains m.1 && m.2.isNull))
  | v => v

/-- A result without the nulls that stand for parts of its message. -/
def kept (v : Json) : Json := revise "send_message" (fun m => some (withoutNulls m)) v

/-- An optional part stays unless it is null, and all other members do. -/
theorem get?_withoutNulls {fs : Fields} (h : Sorted fs) (k : String) :
    get? (fs.filter fun m => !(optional.contains m.1 && m.2.isNull)) k =
      if k ∈ optional then present? fs k else get? fs k := by
  rw [h.get?_filter]
  by_cases hk : k ∈ optional
  · simp [hk, present?]
  · simp only [List.contains_eq_mem, hk, decide_false, Bool.false_and, Bool.not_false, if_false]
    cases get? fs k <;> rfl

end Wire

theorem Message.Written.encode_eq {v : Json} {m : Message .fetched} (h : Written .fetched v m)
    (htagPlain : (v.at? ["_"]).all Json.isString)
    (hgeoPlain : (v.at? ["geo", "_"]).all Json.isString) :
    m.encode = Wire.withoutNulls v.canonical := by
  obtain ⟨fs, rfl, honce, hname, htext, hentities, hplace, hextra⟩ := h
  have htag := tag_ordered honce hname htagPlain
  have hmessage : present? (ordered fs) "message" = m.text.map Json.str := by
    refine present?_ordered_eq honce (by decide) htext ?_
    rintro _ s - rfl
    rfl
  have hlist : present? (ordered fs) "entities" =
      m.entities.map fun es => Json.arr (es.map Entity.encode) := by
    refine present?_ordered_eq honce (by decide) hentities ?_
    rintro _ es - ⟨vs, rfl, hes⟩
    exact (Entity.encode_all hes).symm
  have hgeo : present? (ordered fs) "geo" = m.place.map Place.encode := by
    refine present?_ordered_eq honce (by decide) hplace fun w p hw hp => (hp.encode_eq ?_).symm
    rw [Json.at?, Fields.get?_of_present? hw] at hgeoPlain
    exact hgeoPlain
  rw [Json.canonical_obj, Wire.withoutNulls]
  refine encode_eq_obj hextra ((Fields.sorted_ordered fs).filter _) fun k => ?_
  rw [Wire.get?_withoutNulls (Fields.sorted_ordered fs), own?]
  by_cases hk : k ∈ keys .fetched
  · rw [if_pos hk, Option.none_or]
    simp only [keys, placeKey, List.mem_cons, List.not_mem_nil, or_false] at hk
    rcases hk with rfl | rfl | rfl | rfl
    · simp [tagKey, htag, MessageKind.encode, Wire.optional]
    · simp [tagKey, hmessage, Wire.optional]
    · simp [tagKey, hlist, Wire.optional]
    · simp [tagKey, placeKey, hgeo, Wire.optional]
  · rw [if_neg hk]
    simp only [keys, placeKey, tagKey, List.mem_cons, List.not_mem_nil, or_false, not_or] at hk
    obtain ⟨hkTag, hkText, hkEntities, hkGeo⟩ := hk
    simp [tagKey, placeKey, hkTag, hkText, hkEntities, hkGeo, Wire.optional]

/-- A candidate is written as the object it was read from, up to the order of keys and without the
nulls that stand for parts of its message, and is decoded from that as the same once more. -/
theorem Candidate.encode_decoded {v : Json} {c : Candidate} (hplain : PlainTags v)
    (hdecode : decode v = .ok c) :
    c.encode = Wire.kept v.canonical ∧ decode c.encode = .ok c := by
  have hwritten := (reads (τ := Json) rfl c).1 hdecode
  refine ⟨?_, (reads (τ := Json) rfl c).2 hwritten.again⟩
  obtain ⟨fs, rfl, honce, htag, hbody, -⟩ := hwritten
  have hrewritten := Body.encode_rewritten honce htag hbody c.body ⟨rfl, rfl, rfl⟩
    (fun w hw hm => hm.encode_eq (hplain.message hw).1 (hplain.message hw).2) c.carrier.tag
  have hsame : revise "_" (fun _ => some (.str c.carrier.tag)) (.obj (ordered fs)) =
      .obj (ordered fs) := by
    have hordered : get? (ordered fs) "_" = some (.str c.carrier.tag) :=
      (honce.get?_ordered (List.mem_singleton.2 rfl)).trans
        (congrArg (Option.map Json.canonical) htag)
    refine congrArg Json.obj ((Fields.sorted_ordered fs).revise_eq_self fun w hw => ?_)
    rw [← hw, hordered]
  rw [encode, hrewritten, hsame, Json.canonical_obj]
  rfl

namespace Wire

def sampleKept : Json := .obj
  [("_", .str "botInlineResult"), ("id", .str "a"), ("send_message", .obj
    [("_", .str "botInlineMessageText"), ("entities", .arr
      [.obj [("_", .str "messageEntityMentionName"), ("user_id", .int 7)],
        .obj [("_", .str "messageEntityBold"), ("offset", .int 0)]]),
      ("geo", .obj [("_", .str "geoPoint"), ("lat", .int 52)]), ("no_webpage", .bool true)]),
    ("thumb", .null), ("type", .str "article")]

end Wire

theorem Candidate.encode_decoded_sample :
    PlainTags Wire.sample ∧ decode Wire.sample = .ok Wire.sampleCandidate ∧
      Wire.sampleCandidate.encode = Wire.sampleKept ∧
      decode Wire.sampleKept = .ok Wire.sampleCandidate := by
  have hplain : PlainTags Wire.sample := by decide
  have hdecode : decode Wire.sample = .ok Wire.sampleCandidate := rfl
  obtain ⟨hencode, hagain⟩ := encode_decoded hplain hdecode
  have hkept : Wire.sampleCandidate.encode = Wire.sampleKept := hencode
  exact ⟨hplain, hdecode, hkept, hkept ▸ hagain⟩

end InlineRelay
