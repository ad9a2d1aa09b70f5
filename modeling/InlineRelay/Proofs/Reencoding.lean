import InlineRelay.Proofs.Result.Answer
import InlineRelay.Update

/-!
Updates written again, and with them all that the bot exchanges. Of an update the bot does not react
to only that is kept.
-/
namespace InlineRelay

open Json (Closed Decoded Faithful Fields Passable Reads Source tagKey)
open Json.Fields (Once get? present?)

/-! ### Queries -/

namespace InlineQuery

def fields : List (String × Bool) :=
  [("query_id", false), ("user_id", false), ("query", false), ("offset", true)]

/-- A record a query is read from. -/
def Written (v : Json) (q : InlineQuery) : Prop :=
  ∃ fs, Closed fields v fs ∧
    (get? fs "query_id" = some (.int q.queryId) ∧
      -0x8000000000000000 ≤ q.queryId ∧ q.queryId ≤ 0x7FFFFFFFFFFFFFFF) ∧
    (get? fs "user_id" = some (.int q.userId) ∧
      -0x8000000000000000 ≤ q.userId ∧ q.userId ≤ 0x7FFFFFFFFFFFFFFF) ∧
    get? fs "query" = some (.str q.query) ∧
    (get? fs "offset").elim (q.offset = "") fun w => w = .str q.offset

theorem reads {τ : Type} [Source τ] [Passable τ] :
    Reads (decode : τ → Decoded InlineQuery) Written := by
  refine Json.reads_closedRecord fields rfl (by decide) ?_ ?_
  · intro ms fs hms q
    simp only [bind_eq_ok, Json.required_eq_ok Json.reads_int64 hms,
      Json.required_eq_ok Json.reads_string hms, Json.withDefault_eq_ok Json.reads_string hms,
      exists_eq_right]
    constructor
    · rintro ⟨id, ⟨_, hid, rfl, hrange⟩, user, ⟨_, huser, rfl, hwide⟩, query, hquery, offset,
        hoffset, ⟨⟩⟩
      exact ⟨⟨hid, hrange⟩, ⟨huser, hwide⟩, hquery, hoffset⟩
    · rintro ⟨⟨hid, hrange⟩, ⟨huser, hwide⟩, hquery, hoffset⟩
      exact ⟨q.queryId, ⟨_, hid, rfl, hrange⟩, q.userId, ⟨_, huser, rfl, hwide⟩, q.query, hquery,
        q.offset, hoffset, rfl⟩
  · intro ms q honce h
    obtain ⟨id, hid, h⟩ := bind_eq_ok.1 h
    obtain ⟨user, huser, h⟩ := bind_eq_ok.1 h
    obtain ⟨query, hquery, h⟩ := bind_eq_ok.1 h
    obtain ⟨offset, hoffset, _⟩ := bind_eq_ok.1 h
    simp only [List.forall_mem_cons]
    exact ⟨Json.passes_of_get honce (show "query_id" ∈ fields.map Prod.fst by decide) hid,
      Json.passes_of_get honce (show "user_id" ∈ fields.map Prod.fst by decide) huser,
      Json.passes_of_get honce (show "query" ∈ fields.map Prod.fst by decide) hquery,
      Json.passes_of_get honce (show "offset" ∈ fields.map Prod.fst by decide) hoffset,
      fun _ hs => absurd hs List.not_mem_nil⟩

/-- A query is read again from its members without the tag they are written with. -/
theorem Written.again {v : Json} {q : InlineQuery} (h : Written v q) (tag : Json) :
    Written (.obj (Json.untagged (Fields.ofMembers ((tagKey, tag) :: q.members)))) q := by
  obtain ⟨-, -, ⟨-, hid⟩, ⟨-, huser⟩, -⟩ := h
  refine ⟨_, .object (Json.once_of_sorted ((Fields.sorted_ofMembers _).filter _) _), ⟨?_, hid⟩,
    ⟨?_, huser⟩, ?_, ?_⟩
  all_goals
    rw [Fields.get?_untagged, Fields.get?_ofMembers]
    rfl

end InlineQuery

/-! ### Messages -/

/-- A value that is passed on is not null, and its keys are in order. -/
theorem Json.passed_on {fs : Fields} {k : String} {o : Option Json}
    (h : Option.Rel (fun v j => v.canonical = j) (present? fs k) o) :
    ∀ j ∈ o, j.isNull = false ∧ j.canonical = j := by
  unfold present? at h
  intro j hj
  rw [Option.mem_def.1 hj] at h
  generalize hw : Option.filter _ _ = p at h
  cases h with
  | @some v _ hv =>
      subst hv
      have hnull := (Option.filter_eq_some_iff.1 hw).2
      rw [Json.isNull_canonical, Json.canonical_canonical]
      exact ⟨by simpa using hnull, rfl⟩

namespace ChatMessage

def fields : List (String × Bool) :=
  [("id", false), ("out", true), ("message", true), ("peer_id", false), ("from_id", false)]

/-- A record a message is read from. -/
def Written (v : Json) (m : ChatMessage) : Prop :=
  ∃ fs, Closed fields v fs ∧
    (get? fs "id" = some (.int m.id) ∧ -0x80000000 ≤ m.id ∧ m.id ≤ 0x7FFFFFFF) ∧
    ((get? fs "out").elim (m.outgoing = false) fun w => w = .bool m.outgoing) ∧
    ((get? fs "message").elim (m.text = "") fun w => w = .str m.text) ∧
    Option.Rel (fun v j => v.canonical = j) (present? fs "peer_id") m.peer ∧
    Option.Rel (fun v j => v.canonical = j) (present? fs "from_id") m.sender

theorem reads {τ : Type} [Source τ] [Passable τ] :
    Reads (decode : τ → Decoded ChatMessage) Written := by
  refine Json.reads_closedRecord fields rfl (by decide) ?_ ?_
  · intro ms fs hms m
    simp only [bind_eq_ok, Json.required_eq_ok Json.reads_int32 hms,
      Json.withDefault_eq_ok Json.reads_boolean hms, Json.withDefault_eq_ok Json.reads_string hms,
      Json.optional_eq_ok Json.reads_anything hms]
    constructor
    · rintro ⟨id, ⟨_, hid, rfl, hrange⟩, outgoing, houtgoing, text, htext, peer, hpeer, sender,
        hsender, ⟨⟩⟩
      exact ⟨⟨hid, hrange⟩, houtgoing, htext, hpeer, hsender⟩
    · rintro ⟨⟨hid, hrange⟩, houtgoing, htext, hpeer, hsender⟩
      exact ⟨m.id, ⟨_, hid, rfl, hrange⟩, m.outgoing, houtgoing, m.text, htext, m.peer, hpeer,
        m.sender, hsender, rfl⟩
  · intro ms m honce h
    obtain ⟨id, hid, h⟩ := bind_eq_ok.1 h
    obtain ⟨outgoing, houtgoing, h⟩ := bind_eq_ok.1 h
    obtain ⟨text, htext, h⟩ := bind_eq_ok.1 h
    obtain ⟨peer, hpeer, h⟩ := bind_eq_ok.1 h
    obtain ⟨sender, hsender, _⟩ := bind_eq_ok.1 h
    simp only [List.forall_mem_cons]
    exact ⟨Json.passes_of_get honce (show "id" ∈ fields.map Prod.fst by decide) hid,
      Json.passes_of_get honce (show "out" ∈ fields.map Prod.fst by decide) houtgoing,
      Json.passes_of_get honce (show "message" ∈ fields.map Prod.fst by decide) htext,
      Json.passes_of_get honce (show "peer_id" ∈ fields.map Prod.fst by decide) hpeer,
      Json.passes_of_get honce (show "from_id" ∈ fields.map Prod.fst by decide) hsender,
      fun _ hs => absurd hs List.not_mem_nil⟩

/-- The members of a message in the order they are written. -/
def members (m : ChatMessage) : Fields :=
  [("id", .int m.id), ("out", .bool m.outgoing), ("message", .str m.text)]
    ++ Json.Fields.maybe "peer_id" (fun p => p) m.peer
    ++ Json.Fields.maybe "from_id" (fun p => p) m.sender

/-- What stands under the keys of a message. -/
theorem get?_members (m : ChatMessage) :
    get? m.members.reverse "id" = some (.int m.id) ∧
      get? m.members.reverse "out" = some (.bool m.outgoing) ∧
      get? m.members.reverse "message" = some (.str m.text) ∧
      get? m.members.reverse "peer_id" = m.peer.map (fun p => p) ∧
      get? m.members.reverse "from_id" = m.sender.map (fun p => p) := by
  simp [members, Fields.get?_append, Fields.get?_maybe, Fields.get?_cons]

theorem Written.again {v : Json} {m : ChatMessage} (h : Written v m) : Written m.encode m := by
  obtain ⟨_, -, ⟨-, hid⟩, -, -, hpeer, hsender⟩ := h
  obtain ⟨hidIn, houtIn, htextIn, hpeerIn, hsenderIn⟩ := m.get?_members
  have hpeer := Json.passed_on hpeer
  have hsender := Json.passed_on hsender
  refine ⟨Fields.ofMembers m.members, .object (Json.once_of_sorted (Fields.sorted_ofMembers _) _),
    ⟨?_, hid⟩, ?_, ?_, ?_, ?_⟩
  · rw [Fields.get?_ofMembers, hidIn]
  · rw [Fields.get?_ofMembers, houtIn]
    rfl
  · rw [Fields.get?_ofMembers, htextIn]
    rfl
  · rw [← Fields.get?_ofMembers] at hpeerIn
    exact Json.rel_present hpeerIn (fun p hp => (hpeer p hp).1) fun p hp => (hpeer p hp).2
  · rw [← Fields.get?_ofMembers] at hsenderIn
    exact Json.rel_present hsenderIn (fun p hp => (hsender p hp).1) fun p hp => (hsender p hp).2

end ChatMessage

/-! ### Updates -/

namespace Update

/-- A record that has a message as its only field. -/
def Carries (v : Json) (m : ChatMessage) : Prop :=
  ∃ fs, Closed [("message", false)] v fs ∧
    ∃ w, get? fs "message" = some w ∧ ChatMessage.Written w m

theorem reads_message {τ : Type} [Source τ] [Passable τ] (title : String) :
    Reads (decodeMessage title : τ → Decoded ChatMessage) Carries := by
  refine Json.reads_closedRecord [("message", false)] rfl (by decide) ?_ ?_
  · intro ms fs hms m
    exact Json.required_eq_ok ChatMessage.reads hms
  · intro ms m honce h
    exact List.forall_mem_singleton.2 (Json.passes_of_get honce (.head _) h)

theorem reads_unsupported {τ : Type} [Source τ] [Passable τ] :
    Reads (decodeUnsupported : τ → Decoded Update) fun v u =>
      ∃ fs, Closed [] v fs ∧ u = unsupported := by
  refine Json.reads_closedRecord [] rfl List.nodup_nil ?_ ?_
  · intro ms fs _ u
    simp only [pure, Except.pure, Except.ok.injEq]
    exact eq_comm
  · intro ms u _ _ s hs
    exact absurd hs List.not_mem_nil

/-- What an update of a kind is read from, apart from its tag. -/
def Told (kind : Kind) (v : Json) : Update → Prop
  | inlineQuery q => kind = .inlineQuery ∧ InlineQuery.Written v q
  | newMessage m => kind = .newMessage ∧ Carries v m
  | newChannelMessage m => kind = .newChannelMessage ∧ Carries v m
  | unsupported => kind = .unsupported ∧ ∃ fs, Closed [] v fs

/-- A record an update is read from. -/
def Written (v : Json) (u : Update) : Prop :=
  ∃ tag rest, Json.Untagged v tag rest ∧ Told (Kind.ofTag tag) rest u

/-- The update of a kind, read from what its tag leaves. -/
def ofKind (kind : Kind) (rest : Json.Aside) : Decoded Update :=
  match kind with
  | .inlineQuery => do return inlineQuery (← InlineQuery.decode rest)
  | .newMessage => do
    return newMessage (← decodeMessage "struct variant Update::NewMessage" rest)
  | .newChannelMessage => do
    return newChannelMessage (← decodeMessage "struct variant Update::NewChannelMessage" rest)
  | .unsupported => decodeUnsupported rest

theorem ofKind_eq_ok (kind : Kind) (rest : Json.Aside) (u : Update) :
    ofKind kind rest = .ok u ↔ Told kind rest.value u := by
  cases kind with
  | inlineQuery =>
      simp only [ofKind, bind_eq_ok, InlineQuery.reads (x := rest) rfl, pure, Except.pure,
        Except.ok.injEq]
      cases u <;> simp [Told]
  | newMessage =>
      simp only [ofKind, bind_eq_ok, reads_message _ (x := rest) rfl, pure, Except.pure,
        Except.ok.injEq]
      cases u <;> simp [Told]
  | newChannelMessage =>
      simp only [ofKind, bind_eq_ok, reads_message _ (x := rest) rfl, pure, Except.pure,
        Except.ok.injEq]
      cases u <;> simp [Told]
  | unsupported =>
      simp only [ofKind, reads_unsupported (x := rest) rfl]
      cases u <;> simp [Told]

theorem reads {τ : Type} [Source τ] [Faithful τ] : Reads (decode : τ → Decoded Update) Written := by
  intro x v hx u
  refine Iff.trans (Json.reads_untagged ofKind_eq_ok hx u) ?_
  simp only [Except.ok.injEq, exists_eq_left']
  rfl

/-- The tag found first among members that are written in turn. -/
theorem untagged_ofMembers {tag : String} {ms : Fields} (h : ∀ m ∈ ms, m.1 ≠ tagKey) :
    Json.Untagged (.ofFields ((tagKey, .str tag) :: ms)) tag
      (.obj (Json.untagged (Fields.ofMembers ((tagKey, .str tag) :: ms)))) := by
  refine .object (Json.once_of_sorted (Fields.sorted_ofMembers _) _) ?_
  have hnone : get? ms.reverse tagKey = none :=
    Fields.get?_eq_none.2 fun m hm => h m (List.mem_reverse.1 hm)
  rw [Fields.get?_ofMembers, List.reverse_cons, Fields.get?_append, hnone]
  rfl

theorem Carries.again {v : Json} {m : ChatMessage} (h : Carries v m) (tag : Json) :
    Carries (.obj (Json.untagged (Fields.ofMembers [(tagKey, tag), ("message", m.encode)]))) m := by
  obtain ⟨_, -, w, -, hm⟩ := h
  refine ⟨_, .object (Json.once_of_sorted ((Fields.sorted_ofMembers _).filter _) _), m.encode, ?_,
    hm.again⟩
  rw [Fields.get?_untagged, Fields.get?_ofMembers]
  rfl

theorem Written.again {v : Json} {u : Update} (h : Written v u) : Written u.encode u := by
  obtain ⟨_, rest, -, htold⟩ := h
  cases u with
  | inlineQuery q =>
      exact ⟨_, _, untagged_ofMembers (by simp [InlineQuery.members, tagKey]), rfl,
        htold.2.again _⟩
  | newMessage m => exact ⟨_, _, untagged_ofMembers (by simp [tagKey]), rfl, htold.2.again _⟩
  | newChannelMessage m => exact ⟨_, _, untagged_ofMembers (by simp [tagKey]), rfl, htold.2.again _⟩
  | unsupported =>
      exact ⟨_, _, untagged_ofMembers (by simp), rfl, _, .object (Fields.once_nil _)⟩

end Update

/-! ### All that is exchanged -/

/-- Responses, submissions, answers and updates are decoded from their encodings as what they were
decoded as at first: with the defaults that stood for missing members, without what was missing and
has no default, and with all that is passed on. -/
theorem decoded_again :
    (∀ (v : Json) (r : Response), Response.decode v = .ok r → Response.decode r.encode = .ok r) ∧
      (∀ (v : Json) (s : Submission),
        Submission.decode v = .ok s → Submission.decode s.encode = .ok s) ∧
      (∀ (v : Json) (a : Answer), Answer.decode v = .ok a → Answer.decode a.encode = .ok a) ∧
      ∀ (v : Json) (u : Update), Update.decode v = .ok u → Update.decode u.encode = .ok u := by
  refine ⟨?_, ?_, ?_, ?_⟩
  · intro v r h
    exact Response.decode_encode h rfl
  · intro v s h
    have hwritten := (Submission.reads (τ := Json) rfl s).1 h
    exact (Submission.reads rfl s).2 hwritten.again
  · intro v a h
    have hwritten := (Answer.reads (τ := Json) rfl a).1 h
    exact (Answer.reads rfl a).2 hwritten.again
  · intro v u h
    have hwritten := (Update.reads (τ := Json) rfl u).1 h
    exact (Update.reads rfl u).2 hwritten.again

theorem decoded_again_sparse :
    let response : Json := .obj
      [("next_offset", .null), ("switch_pm", .arr [.str "Log in", .str "auth"])]
    let answer : Json := .arr [.int 31, .arr [], .int 0]
    let message : Json := .obj [("_", .str "updateNewMessage"), ("message", .obj
      [("from_id", .null), ("id", .int 5), ("peer_id", .obj [("user_id", .int 7)])])]
    let status : Json := .obj [("_", .str "updateUserStatus"), ("user_id", .int 7)]
    let received : ChatMessage := ⟨5, false, "", some (.obj [("user_id", .int 7)]), none⟩
    let r : Response := ⟨false, [], some ⟨"Log in", "auth"⟩, [("next_offset", .null)]⟩
    (Response.decode response = .ok r ∧ Response.decode r.encode = .ok r) ∧
      (Answer.decode answer = .ok (Answer.empty 31) ∧
        Answer.decode (Answer.empty 31).encode = .ok (Answer.empty 31)) ∧
      (Update.decode message = .ok (.newMessage received) ∧
        Update.decode (Update.newMessage received).encode = .ok (.newMessage received)) ∧
      (Update.decode status = .ok .unsupported ∧
        Update.decode Update.unsupported.encode = .ok .unsupported) := by
  intro response answer message status received r
  obtain ⟨hresponse, -, hanswer, hupdate⟩ := decoded_again
  have hr : Response.decode response = .ok r := rfl
  have ha : Answer.decode answer = .ok (Answer.empty 31) := rfl
  have hm : Update.decode message = .ok (.newMessage received) := rfl
  have hs : Update.decode status = .ok .unsupported := rfl
  exact ⟨⟨hr, hresponse _ _ hr⟩, ⟨ha, hanswer _ _ ha⟩, ⟨hm, hupdate _ _ hm⟩, hs, hupdate _ _ hs⟩

end InlineRelay
