import InlineRelay.Proofs.Result.Answer
import InlineRelay.Proofs.Result.Resubmission
import InlineRelay.Proofs.Selection

/-!
Submissions read back. The location of a message moves to a key under which a provider may have put
something of its own, and what a provider put there is passed on in place of the location. Where the
key is free, what is submitted is read back as it was.
-/
namespace InlineRelay

open Json (Fields tagKey)
open Json.Fields (get? ordered others)

/-! ### Parts of a message -/

theorem EntityKind.ofTag_submitted (s : String) :
    ofTag (ofTag s).submitted.tag = (ofTag s).submitted := by
  by_cases hmention : s = mentionName.tag
  · subst hmention
    rfl
  · have hstays : (ofTag s).submitted = ofTag s := by
      rw [ofTag, if_neg hmention]
      split <;> rfl
    rw [hstays, ofTag_tag]

theorem Entity.Written.submitted {v : Json} {e : Entity} (h : Written v e) :
    Written e.submitted.encode e.submitted := by
  have ⟨_, _, _, ⟨_, _, s, _, hkind⟩, _⟩ := h
  refine Json.TagRecord.rewritten h ⟨e.submitted.kind.tag, rfl, ?_⟩
  change e.kind.submitted = EntityKind.ofTag e.kind.submitted.tag
  rw [hkind, EntityKind.ofTag_submitted]

theorem Place.Written.submitted {v : Json} {p : Place .fetched} (h : Written .fetched v p) :
    Written .submitted p.submitted.encode p.submitted :=
  Json.TagRecord.rewritten h (.inl rfl)

/-! ### Messages -/

namespace Message
variable {v : Json} {m : Message .fetched}

/-- What stands under the key the location moves to: what the provider put there, or else the
location. -/
theorem at?_encode_submitted (h : Written .fetched v m) :
    m.submitted.encode.at? ["geo_point"] =
      (v.canonical.at? ["geo_point"]).or (m.place.map fun p => p.submitted.encode) := by
  obtain ⟨fs, rfl, -, -, -, -, -, hextra⟩ := h
  have hextra : m.submitted.extra = others (keys .fetched) fs := hextra
  rw [encode_eq_written hextra, Json.canonical_obj, Json.at?, Json.at?, Json.get?_written, get?_members,
    if_neg (by decide)]
  simp [Json.at?, own?, placeKey, tagKey, submitted, Function.comp_def]

/-- A message is read back from what it is submitted as just if the key for its location is free. -/
theorem written_submitted_iff (h : Written .fetched v m) :
    Written .submitted m.submitted.encode m.submitted ↔ v.canonical.at? ["geo_point"] = none := by
  have ⟨fs, hv, _, _, _, _, _, hextra⟩ := h
  subst hv
  have hpoint : (Json.canonical (.obj fs)).at? ["geo_point"] = get? m.extra "geo_point" := by
    rw [Json.canonical_obj, Json.at?, hextra, Fields.get?_others, if_neg (by decide)]
    simp [Json.at?]
  rw [hpoint]
  constructor
  · -- What is read back passes on nothing under a key of its own.
    rintro ⟨gs, -, -, -, -, -, -, hagain⟩
    have hagain : m.extra = others (keys .submitted) gs := hagain
    rw [hagain, Fields.get?_others, if_pos (by decide)]
  · intro hfree
    have hothers : others (keys .submitted) m.extra = m.extra := by
      rw [hextra] at hfree ⊢
      apply Json.others_others
      intro k hk
      by_cases hpoint : k = "geo_point"
      · rw [hpoint, hfree]
      · -- All other keys are the same in both forms.
        have hfetched : k ∈ keys .fetched := by
          simp only [keys, placeKey, List.mem_cons, List.not_mem_nil, or_false] at hk ⊢
          tauto
        rw [Fields.get?_others, if_pos hfetched]
    refine written_encode ?_ ?_ hothers.symm
    · intro es hes e he
      obtain ⟨es', hes', rfl⟩ := Option.map_eq_some_iff.1 hes
      obtain ⟨e', he', rfl⟩ := List.mem_map.1 he
      obtain ⟨_, hwritten⟩ := h.exists_entity es' hes' e' he'
      exact hwritten.submitted
    · intro p hp
      obtain ⟨p', hp', rfl⟩ := Option.map_eq_some_iff.1 hp
      obtain ⟨_, hwritten⟩ := h.exists_place p' hp'
      exact hwritten.submitted

end Message

/-! ### Results -/

/-- What a message is written as is found in what its result is written as. -/
theorem Body.at?_encode {form : Form} {b : Body form} {fs : Fields}
    (hextra : b.extra = others (tagKey :: keys) fs) (tag : String) (path : List String) :
    (b.encode tag).at? ("send_message" :: path) = b.message.encode.at? path := by
  rw [encode_eq_written hextra, Json.at?, Json.get?_written_of_mem (by decide), get?_members]
  rfl

/-- A submission is read back from what it is written as just if its message is. -/
theorem Submission.decode_encode_iff {s : Submission} {fs : Fields}
    (hextra : s.body.extra = others (tagKey :: Body.keys) fs) :
    decode s.encode = .ok s ↔
      Message.Written .submitted s.body.message.encode s.body.message := by
  rw [reads (τ := Json) rfl]
  constructor
  · rintro ⟨gs, -, -, -, -, -, -, ⟨w, -, hmessage⟩, -⟩
    exact hmessage.again
  · intro hmessage
    exact Body.written_encode hmessage hextra s.carrier.tag

namespace Candidate

/-- What a candidate is submitted as is read back as it was just if the provider put nothing under
the key the location moves to. The location is found there in input form, unless the provider put
something else there. -/
theorem resubmittable_iff {v : Json} {c : Candidate} (hdecode : decode v = .ok c)
    (hgame : c.isGame = false) :
    ∃ s, c.submission = .ok s ∧
      (Submission.decode s.encode = .ok s ↔
        v.canonical.at? ["send_message", "geo_point"] = none) ∧
      s.encode.at? ["send_message", "geo_point"] =
        (v.canonical.at? ["send_message", "geo_point"]).or
          (c.body.message.place.map fun p => p.submitted.encode) := by
  obtain ⟨fs, rfl, -, -, hbody, -⟩ := (reads rfl c).1 hdecode
  obtain ⟨hkeys, -, -, ⟨w, hw, hmessage⟩, hextra⟩ := hbody
  rw [Json.others_untagged] at hextra
  have hpath : (Json.canonical (.obj fs)).at? ["send_message", "geo_point"] =
      w.canonical.at? ["geo_point"] := by
    rw [Json.canonical_obj, Json.at?, hkeys.get?_ordered_of_untagged (by decide) (by decide), hw]
    rfl
  obtain ⟨s, hs, hsBody⟩ := exists_submission hgame
  have hsExtra : s.body.extra = others (tagKey :: Body.keys) fs := by
    rw [hsBody]
    exact hextra
  have hsMessage : s.body.message = c.body.message.submitted := by
    rw [hsBody]
    rfl
  refine ⟨s, hs, ?_, ?_⟩
  · rw [Submission.decode_encode_iff hsExtra, hsMessage, hpath]
    exact Message.written_submitted_iff hmessage
  · rw [Submission.encode, Body.at?_encode hsExtra, hsMessage, hpath]
    exact Message.at?_encode_submitted hmessage

theorem resubmittable_iff_sample :
    decode Wire.sample = .ok Wire.sampleCandidate ∧ Wire.sampleCandidate.isGame = false ∧
      ∃ s, Wire.sampleCandidate.submission = .ok s ∧ Submission.decode s.encode = .ok s ∧
        s.encode.at? ["send_message", "geo_point"] =
          some (.obj [("_", .str "inputGeoPoint"), ("lat", .int 52)]) := by
  have hdecode : decode Wire.sample = .ok Wire.sampleCandidate := rfl
  have hgame : Wire.sampleCandidate.isGame = false := rfl
  obtain ⟨s, hs, hagain, hplace⟩ := resubmittable_iff hdecode hgame
  have hfree : Wire.sample.canonical.at? ["send_message", "geo_point"] = none := rfl
  refine ⟨hdecode, hgame, s, hs, hagain.2 hfree, ?_⟩
  rw [hplace, hfree]
  rfl

end Candidate

namespace Wire

/-- A result whose location shares its message with one under the key it moves to. -/
def occupied : Json := .obj
  [("_", .str "botInlineResult"), ("id", .str "a"), ("send_message", .obj
    [("_", .str "botInlineMessageMediaGeo"),
      ("geo", .obj [("_", .str "geoPoint"), ("lat", .int 52), ("long", .int 4)]),
      ("geo_point", .obj [("_", .str "geoPoint"), ("lat", .int 0), ("long", .int 0)])]),
    ("type", .str "article")]

def occupiedSubmission : Submission := .text
  { id := "a", kind := "article", extra := [],
    message := {
      kind := .mediaGeo, text := none, entities := none,
      place := some ⟨.point, [("lat", .int 52), ("long", .int 4)]⟩,
      extra := [("geo_point",
        .obj [("_", .str "geoPoint"), ("lat", .int 0), ("long", .int 0)])] } }

end Wire

/-- What it is submitted as has the other location, which is not in input form, and so is not read
back. -/
theorem Candidate.resubmission_refused :
    (∃ c, decode Wire.occupied = .ok c ∧ c.isGame = false ∧
      c.submission = .ok Wire.occupiedSubmission) ∧
    Wire.occupiedSubmission.encode.at? ["send_message", "geo_point"] =
      some (.obj [("_", .str "geoPoint"), ("lat", .int 0), ("long", .int 0)]) ∧
    Submission.decode Wire.occupiedSubmission.encode =
      .error (.unknownWord "geoPoint" ["inputGeoPoint", "inputGeoPointEmpty"]) :=
  ⟨⟨_, rfl, rfl, rfl⟩, rfl, rfl⟩

end InlineRelay
