import InlineRelay.Proofs.Result.Reencoding

/-!
Submissions and answers written again. A flag that is off and a button that is missing are left
out, and are taken for the same when they are.
-/
namespace InlineRelay

open Json (Closed Decoded Faithful Fields Passable Reads Source tagKey)
open Json.Fields (Once get? present?)

/-! ### Submissions -/

namespace Submission

/-- An object a submission is read from. -/
def Written (v : Json) (s : Submission) : Prop :=
  ∃ fs, v = .obj fs ∧ Once [tagKey] (fs.map Prod.fst) ∧
    get? fs tagKey = some (.str s.carrier.tag) ∧ Body.Written .submitted (Json.untagged fs) s.body

theorem ofCarrier_eq_iff {k : Carrier} {b : Body .submitted} {s : Submission} :
    ofCarrier k b = s ↔ k = s.carrier ∧ b = s.body := by
  constructor
  · rintro rfl
    cases k <;> exact ⟨rfl, rfl⟩
  · rintro ⟨rfl, rfl⟩
    cases s <;> rfl

theorem meaning_carrier {w : String} {k : Carrier} :
    Json.meaning ([Carrier.text, .photo, .document].map fun k => (k.tag, k)) w = .ok k ↔
      w = k.tag := by
  rw [Json.meaning_eq_ok]
  refine lookup_tag (fun k => ?_) (by decide)
  cases k <;> decide

theorem reads {τ : Type} [Source τ] [Faithful τ] :
    Reads (decode : τ → Decoded Submission) Written := by
  intro x v hx s
  have hbuild : ∀ (k : Carrier) (y : Json.Aside) (s : Submission),
      (do return ofCarrier k (← Body.decode .submitted y) : Decoded Submission) = .ok s ↔
        ∃ fs, y.value = .obj fs ∧ k = s.carrier ∧ Body.Written .submitted fs s.body := by
    intro k y s
    simp only [bind_eq_ok, Body.reads .submitted (x := y) rfl, pure, Except.pure, Except.ok.injEq,
      ofCarrier_eq_iff]
    constructor
    · rintro ⟨b, ⟨fs, hy, hb⟩, hcarrier, rfl⟩
      exact ⟨fs, hy, hcarrier, hb⟩
    · rintro ⟨fs, hy, hcarrier, hb⟩
      exact ⟨s.body, ⟨fs, hy, hb⟩, hcarrier, rfl⟩
  refine Iff.trans (Json.reads_tagged hbuild hx s) ?_
  simp only [meaning_carrier]
  constructor
  · rintro ⟨fs, hv, honce, w, k, htag, rfl, rfl, hb⟩
    exact ⟨fs, hv, honce, htag, hb⟩
  · rintro ⟨fs, hv, honce, htag, hb⟩
    exact ⟨fs, hv, honce, _, _, htag, rfl, rfl, hb⟩

theorem Written.again {v : Json} {s : Submission} (h : Written v s) : Written s.encode s := by
  obtain ⟨fs, -, -, -, hbody⟩ := h
  exact hbody.again s.carrier.tag

end Submission

/-! ### Answers -/

namespace Answer

/-- The fields of an answer; the last three may be left out. -/
def fields : List (String × Bool) :=
  [("query_id", false), ("results", false), ("cache_time", false), ("private", true),
    ("gallery", true), ("switch_pm", true)]

/-- A record an answer is read from. -/
def Written (v : Json) (a : Answer) : Prop :=
  ∃ fs, Closed fields v fs ∧
    (get? fs "query_id" = some (.int a.queryId) ∧
      -0x8000000000000000 ≤ a.queryId ∧ a.queryId ≤ 0x7FFFFFFFFFFFFFFF) ∧
    (∃ vs, get? fs "results" = some (.arr vs) ∧ List.Forall₂ Submission.Written vs a.results) ∧
    (get? fs "cache_time" = some (.int a.cacheTime) ∧
      -0x80000000 ≤ a.cacheTime ∧ a.cacheTime ≤ 0x7FFFFFFF) ∧
    ((get? fs "private").elim (a.personal = false) fun w => w = .bool a.personal) ∧
    ((get? fs "gallery").elim (a.gallery = false) fun w => w = .bool a.gallery) ∧
    ((get? fs "switch_pm").elim (a.redirect = none) fun w =>
      Option.Rel Redirect.Written (if w.isNull then none else some w) a.redirect)

theorem reads {τ : Type} [Source τ] [Passable τ] : Reads (decode : τ → Decoded Answer) Written := by
  refine Json.reads_closedRecord fields rfl (by decide) ?_ ?_
  · intro ms fs hms a
    simp only [bind_eq_ok, Json.required_eq_ok Json.reads_int64 hms,
      Json.required_eq_ok (Json.reads_list Submission.reads) hms,
      Json.required_eq_ok Json.reads_int32 hms, Json.withDefault_eq_ok Json.reads_boolean hms,
      Json.withDefault_eq_ok (Json.reads_nullable Redirect.reads) hms]
    constructor
    · rintro ⟨id, ⟨_, hid, rfl, hrange⟩, results, ⟨_, hresults, vs, rfl, hvs⟩, time,
        ⟨_, htime, rfl, hshort⟩, personal, hpersonal, gallery, hgallery, redirect, hredirect, ⟨⟩⟩
      exact ⟨⟨hid, hrange⟩, ⟨vs, hresults, hvs⟩, ⟨htime, hshort⟩, hpersonal, hgallery, hredirect⟩
    · rintro ⟨⟨hid, hrange⟩, ⟨vs, hresults, hvs⟩, ⟨htime, hshort⟩, hpersonal, hgallery, hredirect⟩
      exact ⟨a.queryId, ⟨_, hid, rfl, hrange⟩, a.results, ⟨_, hresults, vs, rfl, hvs⟩, a.cacheTime,
        ⟨_, htime, rfl, hshort⟩, a.personal, hpersonal, a.gallery, hgallery, a.redirect, hredirect,
        rfl⟩
  · intro ms a honce h
    obtain ⟨id, hid, h⟩ := bind_eq_ok.1 h
    obtain ⟨results, hresults, h⟩ := bind_eq_ok.1 h
    obtain ⟨time, htime, h⟩ := bind_eq_ok.1 h
    obtain ⟨personal, hpersonal, h⟩ := bind_eq_ok.1 h
    obtain ⟨gallery, hgallery, h⟩ := bind_eq_ok.1 h
    obtain ⟨redirect, hredirect, _⟩ := bind_eq_ok.1 h
    simp only [List.forall_mem_cons]
    exact ⟨Json.passes_of_get honce (show "query_id" ∈ fields.map Prod.fst by decide) hid,
      Json.passes_of_get honce (show "results" ∈ fields.map Prod.fst by decide) hresults,
      Json.passes_of_get honce (show "cache_time" ∈ fields.map Prod.fst by decide) htime,
      Json.passes_of_get honce (show "private" ∈ fields.map Prod.fst by decide) hpersonal,
      Json.passes_of_get honce (show "gallery" ∈ fields.map Prod.fst by decide) hgallery,
      Json.passes_of_get honce (show "switch_pm" ∈ fields.map Prod.fst by decide) hredirect,
      fun _ hs => absurd hs List.not_mem_nil⟩

/-- The members of an answer in the order they are written. -/
def members (a : Answer) : Fields :=
  [("query_id", .int a.queryId), ("results", .arr (a.results.map Submission.encode)),
      ("cache_time", .int a.cacheTime)]
    ++ Json.Fields.flag "private" a.personal
    ++ Json.Fields.flag "gallery" a.gallery
    ++ Json.Fields.maybe "switch_pm" Redirect.encode a.redirect

/-- What stands under the keys of an answer. -/
theorem get?_members (a : Answer) :
    get? a.members.reverse "query_id" = some (.int a.queryId) ∧
      get? a.members.reverse "results" = some (.arr (a.results.map Submission.encode)) ∧
      get? a.members.reverse "cache_time" = some (.int a.cacheTime) ∧
      get? a.members.reverse "private" = (if a.personal then some (.bool true) else none) ∧
      get? a.members.reverse "gallery" = (if a.gallery then some (.bool true) else none) ∧
      get? a.members.reverse "switch_pm" = a.redirect.map Redirect.encode := by
  simp [members, Fields.get?_append, Fields.get?_flag, Fields.get?_maybe, Fields.get?_cons]

theorem Written.again {v : Json} {a : Answer} (h : Written v a) : Written a.encode a := by
  obtain ⟨-, -, ⟨-, hid⟩, ⟨vs, -, hvs⟩, ⟨-, htime⟩, -⟩ := h
  obtain ⟨hidIn, hresultsIn, htimeIn, hpersonalIn, hgalleryIn, hredirectIn⟩ := a.get?_members
  refine ⟨Fields.ofMembers a.members, .object (Json.once_of_sorted (Fields.sorted_ofMembers _) _),
    ?_⟩
  simp only [Fields.get?_ofMembers, hidIn, hresultsIn, htimeIn, hpersonalIn, hgalleryIn,
    hredirectIn]
  refine ⟨⟨trivial, hid⟩, ⟨_, rfl, forall₂_map_of Submission.Written.again hvs⟩,
    ⟨trivial, htime⟩, ?_, ?_, ?_⟩
  · cases a.personal <;> rfl
  · cases a.gallery <;> rfl
  · cases a.redirect with
    | none => rfl
    | some r => exact .some r.written_encode

end Answer
end InlineRelay
