import InlineRelay.Proofs.Json.Closed
import InlineRelay.Proofs.Json.Reencoding
import InlineRelay.Proofs.Result.Reading
import InlineRelay.Proofs.Result.Writing
import InlineRelay.Result.Response

/-!
Responses written again. What was decoded once is what its encoding is decoded as.
-/
namespace InlineRelay

open Json (Closed Decoded Faithful Fields Passable Reads Source TagRecord tagKey)
open Json.Fields (Once Sorted get? ordered others present?)

/-! ### Parts of a message -/

theorem EntityKind.ofTag_tag (s : String) : ofTag (ofTag s).tag = ofTag s := by
  unfold ofTag
  split
  · rfl
  · split
    · rfl
    · next hmention hinput =>
      change ofTag s = _
      rw [ofTag, if_neg hmention, if_neg hinput]

theorem Entity.Written.again {v : Json} {e : Entity} (h : Written v e) : Written e.encode e := by
  have ⟨_, _, _, ⟨_, _, s, _, hkind⟩, _⟩ := h
  refine TagRecord.rewritten h ⟨e.kind.tag, rfl, ?_⟩
  rw [hkind, EntityKind.ofTag_tag]

theorem Place.Written.again {form : Form} {v : Json} {p : Place form} (h : Written form v p) :
    Written form p.encode p :=
  TagRecord.rewritten h (.inl rfl)

/-- What is written of items that were read can be read once more. -/
theorem forall₂_map_of {α : Type} {R : Json → α → Prop} {encode : α → Json} {vs : List Json}
    {as : List α} (hagain : ∀ {v a}, R v a → R (encode a) a) (h : List.Forall₂ R vs as) :
    List.Forall₂ R (as.map encode) as := by
  induction h with
  | nil => exact .nil
  | cons ha _ ih => exact .cons (hagain ha) ih

/-! ### Messages and candidates -/

theorem Message.mem_keys_of_mem_members {form : Form} {m : Message form} {f : String × Json}
    (h : f ∈ m.members) : f.1 ∈ keys form := by
  simp only [members, List.mem_append, List.mem_singleton] at h
  rcases h with ((rfl | h) | h) | h
  · exact .head _
  · rw [Json.fst_of_mem_maybe h]
    exact .tail _ (.head _)
  · rw [Json.fst_of_mem_maybe h]
    exact .tail _ (.tail _ (.head _))
  · rw [Json.fst_of_mem_maybe h]
    exact .tail _ (.tail _ (.tail _ (.head _)))

theorem Message.encode_eq_written {form : Form} {m : Message form} {names : List String}
    {fs : Fields} (hextra : m.extra = others names fs) :
    m.encode = .obj (Json.written m.members (others names fs)) := by
  rw [← hextra]
  rfl

/-- A message is read again from what it is written as, if its parts are and the members it passes
on are none of its own. -/
theorem Message.written_encode {form : Form} {m : Message form} {fs : Fields}
    (hentities : ∀ es ∈ m.entities, ∀ e ∈ es, Entity.Written e.encode e)
    (hplace : ∀ p ∈ m.place, Place.Written form p.encode p)
    (hextra : m.extra = others (keys form) fs) : Written form m.encode m := by
  have hget : ∀ k ∈ keys form,
      get? (Json.written m.members (others (keys form) fs)) k = m.own? k := by
    intro k hk
    rw [Json.get?_written_of_mem hk, get?_members]
  refine ⟨_, encode_eq_written hextra, Json.once_of_sorted (Json.sorted_written _ _) _,
    ?_, ?_, ?_, ?_, ?_⟩
  · exact ⟨m.kind.encode form, hget tagKey (.head _), .inl rfl⟩
  · refine Json.rel_present (hget "message" (.tail _ (.head _))) (fun _ _ => rfl) fun s _ => rfl
  · refine Json.rel_present (hget "entities" (.tail _ (.tail _ (.head _)))) (fun _ _ => rfl) ?_
    intro es hes
    exact ⟨_, rfl, List.forall₂_map_left_iff.2 (List.forall₂_same.2 (hentities es hes))⟩
  · have hgeo := hget (placeKey form) (.tail _ (.tail _ (.tail _ (.head _))))
    obtain ⟨htag, htext, hlist⟩ := placeKey_ne form
    have htag : placeKey form ≠ tagKey := htag
    rw [own?, if_neg htag, if_neg htext, if_neg hlist, if_pos rfl] at hgeo
    exact Json.rel_present hgeo (fun _ _ => rfl) hplace
  · rw [hextra]
    exact (Json.others_written fun _ hk => mem_keys_of_mem_members hk).symm

/-- Every annotation of a message was read from something. -/
theorem Message.Written.exists_entity {form : Form} {v : Json} {m : Message form}
    (h : Written form v m) : ∀ es ∈ m.entities, ∀ e ∈ es, ∃ w, Entity.Written w e := by
  obtain ⟨fs, -, -, -, -, hentities, -⟩ := h
  intro es hes e he
  rw [Option.mem_def.1 hes] at hentities
  obtain ⟨_, vs, -, hvs⟩ := Json.exists_of_rel_some hentities
  clear hes hentities
  induction hvs with
  | nil => cases he
  | cons hwritten _ ih =>
      rcases List.mem_cons.1 he with rfl | he
      · exact ⟨_, hwritten⟩
      · exact ih he

theorem Message.Written.exists_place {form : Form} {v : Json} {m : Message form}
    (h : Written form v m) : ∀ p ∈ m.place, ∃ w, Place.Written form w p := by
  obtain ⟨fs, -, -, -, -, -, hplace, -⟩ := h
  intro p hp
  rw [Option.mem_def.1 hp] at hplace
  exact Json.exists_of_rel_some hplace

theorem Message.Written.again {form : Form} {v : Json} {m : Message form} (h : Written form v m) :
    Written form m.encode m := by
  have ⟨_, _, _, _, _, _, _, hextra⟩ := h
  refine written_encode (fun es hes e he => ?_) (fun p hp => ?_) hextra
  · obtain ⟨_, hwritten⟩ := h.exists_entity es hes e he
    exact hwritten.again
  · obtain ⟨_, hwritten⟩ := h.exists_place p hp
    exact hwritten.again

theorem Body.encode_eq_written {form : Form} {b : Body form} {names : List String} {fs : Fields}
    (hextra : b.extra = others names fs) (tag : String) :
    b.encode tag = .obj (Json.written (b.members tag) (others names fs)) := by
  rw [← hextra]
  rfl

/-- A body is read again from what is written under the other keys than the tag's, if its message
is and the members it passes on are none of its own. -/
theorem Body.written_encode {form : Form} {b : Body form} {fs : Fields}
    (hmessage : Message.Written form b.message.encode b.message)
    (hextra : b.extra = others (tagKey :: keys) fs) (tag : String) :
    ∃ gs, b.encode tag = .obj gs ∧ Once [tagKey] (gs.map Prod.fst) ∧
      get? gs tagKey = some (.str tag) ∧ Written form (Json.untagged gs) b := by
  have hget : ∀ k ∈ tagKey :: keys,
      get? (Json.written (b.members tag) (others (tagKey :: keys) fs)) k = b.own? tag k := by
    intro k hk
    rw [Json.get?_written_of_mem hk, get?_members]
  have hbody : ∀ k ∈ keys, get? (Json.untagged (Json.written (b.members tag)
      (others (tagKey :: keys) fs))) k = b.own? tag k := by
    intro k hk
    have hne : k ≠ tagKey := by
      rintro rfl
      exact absurd hk (by decide)
    rw [Fields.get?_untagged, if_neg hne]
    exact hget k (.tail _ hk)
  have hsorted := Json.sorted_written (b.members tag) (others (tagKey :: keys) fs)
  refine ⟨_, encode_eq_written hextra tag, Json.once_of_sorted hsorted _, hget tagKey (.head _),
    Json.once_of_sorted (hsorted.filter _) _, hbody "id" (by decide), hbody "type" (by decide),
    ⟨_, hbody "send_message" (by decide), hmessage⟩, ?_⟩
  rw [Json.others_untagged, hextra]
  refine (Json.others_written fun m hm => ?_).symm
  have hnames : (b.members tag).map Prod.fst = tagKey :: keys := rfl
  exact hnames ▸ List.mem_map_of_mem hm

theorem Body.Written.again {form : Form} {fs : Fields} {b : Body form}
    (h : Written form (Json.untagged fs) b) (tag : String) :
    ∃ gs, b.encode tag = .obj gs ∧ Once [tagKey] (gs.map Prod.fst) ∧
      get? gs tagKey = some (.str tag) ∧ Written form (Json.untagged gs) b := by
  obtain ⟨-, -, -, ⟨w, -, hmessage⟩, hextra⟩ := h
  exact written_encode hmessage.again (hextra.trans (Json.others_untagged _ _)) tag

theorem Candidate.Written.again {v : Json} {c : Candidate} (h : Written v c) :
    Written c.encode c := by
  obtain ⟨fs, -, -, -, hbody, hclass⟩ := h
  obtain ⟨gs, hencode, honce, htag, hagain⟩ := hbody.again c.carrier.tag
  exact ⟨gs, hencode, honce, htag, hagain, hclass⟩

/-! ### Responses -/

/-- The fields of a button, neither of which may be left out. -/
def Redirect.fields : List (String × Bool) := [("text", false), ("start_param", false)]

def Redirect.Written (v : Json) (r : Redirect) : Prop :=
  ∃ fs, Closed fields v fs ∧ get? fs "text" = some (.str r.text) ∧
    get? fs "start_param" = some (.str r.startParam)

section Reading
variable {τ : Type} [Source τ] [Passable τ]

theorem Redirect.reads : Reads (decode : τ → Decoded Redirect) Written := by
  refine Json.reads_closedRecord fields rfl (by decide) ?_ ?_
  · intro ms fs hms r
    simp only [bind_eq_ok, Json.required_eq_ok Json.reads_string hms, exists_eq_right]
    constructor
    · rintro ⟨text, htext, startParam, hstart, ⟨⟩⟩
      exact ⟨htext, hstart⟩
    · rintro ⟨htext, hstart⟩
      exact ⟨r.text, htext, r.startParam, hstart, rfl⟩
  · intro ms r honce h
    obtain ⟨text, htext, h⟩ := bind_eq_ok.1 h
    obtain ⟨startParam, hstart, _⟩ := bind_eq_ok.1 h
    simp only [List.forall_mem_cons]
    exact ⟨Json.passes_of_get honce (.head _) htext,
      Json.passes_of_get honce (.tail _ (.head _)) hstart, fun _ hs => absurd hs List.not_mem_nil⟩

theorem Redirect.written_encode (r : Redirect) : Written r.encode r := by
  refine ⟨_, .object (Json.once_of_sorted (Fields.sorted_ofMembers _) _), ?_, ?_⟩
  · rw [Fields.get?_ofMembers]
    rfl
  · rw [Fields.get?_ofMembers]
    rfl

/-- The keys a response has a meaning for. -/
def Response.keys : List String := ["gallery", "results", "switch_pm"]

def Response.Written (v : Json) (r : Response) : Prop :=
  ∃ fs, v = .obj fs ∧ Once keys (fs.map Prod.fst) ∧
    ((get? fs "gallery").elim (r.gallery = false) fun w => w = .bool r.gallery) ∧
    ((get? fs "results").elim (r.results = []) fun w =>
      ∃ vs, w = .arr vs ∧ List.Forall₂ Candidate.Written vs r.results) ∧
    Option.Rel Redirect.Written (present? fs "switch_pm") r.redirect ∧
    r.extra = others keys fs

theorem Response.reads : Reads (decode : τ → Decoded Response) Written := by
  refine Json.reads_openRecord keys rfl (by decide) ?_ ?_
  · intro ms fs hms r
    simp only [bind_eq_ok, Json.withDefault_eq_ok Json.reads_boolean hms,
      Json.withDefault_eq_ok (Json.reads_list Candidate.reads) hms,
      Json.optional_eq_ok Redirect.reads hms, Json.extras_eq_ok hms]
    constructor
    · rintro ⟨gallery, hgallery, results, hresults, redirect, hredirect, extra, rfl, ⟨⟩⟩
      exact ⟨hgallery, hresults, hredirect, rfl⟩
    · rintro ⟨hgallery, hresults, hredirect, hextra⟩
      exact ⟨r.gallery, hgallery, r.results, hresults, r.redirect, hredirect, r.extra, hextra, rfl⟩
  · intro ms r honce h
    obtain ⟨gallery, hgallery, h⟩ := bind_eq_ok.1 h
    obtain ⟨results, hresults, h⟩ := bind_eq_ok.1 h
    obtain ⟨redirect, hredirect, _⟩ := bind_eq_ok.1 h
    simp only [List.forall_mem_cons]
    exact ⟨Json.passes_of_get honce (.head _) hgallery,
      Json.passes_of_get honce (.tail _ (.head _)) hresults,
      Json.passes_of_get honce (.tail _ (.tail _ (.head _))) hredirect,
      fun _ hs => absurd hs List.not_mem_nil⟩

end Reading

/-- The own members of a response in the order they are written. -/
def Response.members (r : Response) : Fields :=
  [("gallery", .bool r.gallery), ("results", .arr (r.results.map Candidate.encode))]
    ++ Json.Fields.maybe "switch_pm" Redirect.encode r.redirect

theorem Response.get?_members (r : Response) :
    get? r.members.reverse "gallery" = some (.bool r.gallery) ∧
      get? r.members.reverse "results" = some (.arr (r.results.map Candidate.encode)) ∧
        get? r.members.reverse "switch_pm" = r.redirect.map Redirect.encode := by
  cases h : r.redirect <;> simp [members, Json.Fields.maybe, h, Fields.get?_cons]

theorem Response.Written.again {v : Json} {r : Response} (h : Written v r) :
    Written r.encode r := by
  obtain ⟨fs, -, -, -, hresults, -, hextra⟩ := h
  have hencode : r.encode = .obj (Json.written r.members (others keys fs)) := by
    rw [← hextra]
    rfl
  have hget : ∀ k ∈ keys, get? (Json.written r.members (others keys fs)) k =
      get? r.members.reverse k := fun k hk => Json.get?_written_of_mem hk
  obtain ⟨hgallery, hlist, hbutton⟩ := r.get?_members
  have hcandidates : ∃ vs, List.Forall₂ Candidate.Written vs r.results := by
    cases hw : get? fs "results" with
    | none =>
        rw [hw] at hresults
        exact ⟨[], hresults ▸ .nil⟩
    | some w =>
        rw [hw] at hresults
        obtain ⟨vs, -, hvs⟩ := hresults
        exact ⟨vs, hvs⟩
  obtain ⟨vs, hvs⟩ := hcandidates
  refine ⟨_, hencode, Json.once_of_sorted (Json.sorted_written _ _) _, ?_, ?_, ?_, ?_⟩
  · rw [hget _ (by decide), hgallery]
    rfl
  · rw [hget _ (by decide), hlist]
    exact ⟨_, rfl, forall₂_map_of Candidate.Written.again hvs⟩
  · exact Json.rel_present ((hget _ (by decide)).trans hbutton) (fun _ _ => rfl)
      fun b _ => b.written_encode
  · rw [hextra]
    refine (Json.others_written fun m hm => ?_).symm
    rcases List.mem_append.1 hm with hm | hm
    · exact List.mem_append_left ["switch_pm"] (List.mem_map_of_mem hm)
    · rw [Json.fst_of_mem_maybe hm]
      decide

/-- A response is decoded from its encoding as what it was decoded as before. -/
theorem Response.decode_encode {τ : Type} [Source τ] [Passable τ] {v : Json} {r : Response}
    (h : decode v = .ok r) {x : τ} (hx : Source.content x = .ok r.encode) : decode x = .ok r :=
  (reads hx r).2 ((reads (τ := Json) rfl r).1 h).again

end InlineRelay
