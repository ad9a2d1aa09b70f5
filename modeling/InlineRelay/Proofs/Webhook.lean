import InlineRelay.Proofs.Effects
import InlineRelay.Proofs.Json.Grammar
import InlineRelay.Proofs.Json.Octets
import InlineRelay.Proofs.Reencoding
import InlineRelay.Rehearsal
import InlineRelay.Webhook

/-!
The hook for updates. What a request does is decided by its body alone: a body that holds an update
has it handled and is acknowledged, whatever comes of that, and any other is refused with nothing
done.
-/
namespace InlineRelay

namespace Json.Doc

/-! ### Records with a tag -/

theorem content_of_view_str {d : Doc} {s : String} (h : Source.view d = .str s) :
    Source.content d = .ok (.str s) := by
  cases d with
  | str t =>
      cases h
      rfl
  | spoilt form => cases form <;> cases h
  | null | bool | num | arr | obj | broken => cases h

theorem named_of_legible {ms : List (Option String × Doc)} {cut : Option Fault} {fs : Fields}
    (h : Members (legible ms cut).1 fs) (hcut : (legible ms cut).2 = none) :
    cut = none ∧ List.Forall₂ (fun m n => m.1 = some n.1 ∧ Doc.content m.2 = .ok n.2) ms fs := by
  induction ms generalizing fs with
  | nil =>
      cases h
      exact ⟨hcut, .nil⟩
  | cons m ms ih =>
      obtain ⟨key, d⟩ := m
      cases key with
      | none => cases hcut
      | some k =>
          cases h with
          | @cons _ n _ fs hm hms =>
              obtain ⟨hcut, hms⟩ := ih hms hcut
              exact ⟨hcut, .cons ⟨congrArg some hm.1, content_eq_ok.1 hm.2⟩ hms⟩

variable {κ : Type} {meaning : String → Decoded κ}

/-- While the tag is looked for, every other member is read as a whole. -/
theorem members_of_untag {tag : Option κ} {ms : List (String × Doc)} {r : Option κ × Fields}
    (h : untag meaning tag ms = .ok r) : ∃ fs, Members ms fs := by
  induction ms generalizing tag r with
  | nil => exact ⟨[], .nil⟩
  | cons m ms ih =>
      obtain ⟨k, d⟩ := m
      unfold untag at h
      split at h
      · split at h
        · cases h
        · split at h
          · next s hview =>
            obtain ⟨t, -, h⟩ := bind_eq_ok.1 h
            obtain ⟨fs, hfs⟩ := ih h
            exact ⟨(k, .str s) :: fs, .cons ⟨rfl, content_of_view_str hview⟩ hfs⟩
          · cases h
      · obtain ⟨v, hv, h⟩ := bind_eq_ok.1 h
        obtain ⟨_, hrest, -⟩ := bind_eq_ok.1 h
        obtain ⟨fs, hfs⟩ := ih hrest
        exact ⟨(k, v) :: fs, .cons ⟨rfl, hv⟩ hfs⟩

theorem intact_eq_ok {cut : Option Fault} {u : Unit} : intact cut = .ok u ↔ cut = none := by
  cases cut <;> simp [intact]

/-- A record is told by its tag only if all of it has a value. -/
theorem content_of_tagged {name : String} {d : Doc} {p : κ × Aside}
    (h : tagged name meaning d = .ok p) : ∃ v, Doc.content d = .ok v := by
  cases d with
  | null | bool | num | str | broken => cases h
  | spoilt form => cases form <;> cases h
  | arr items cut =>
      cases items with
      | nil => cases cut <;> cases h
      | cons x items =>
          have hview : Source.view (Doc.arr (x :: items) cut) = .arr (x :: items) cut := rfl
          rw [tagged, hview] at h
          dsimp only at h
          split at h
          · next s hx =>
            obtain ⟨t, -, h⟩ := bind_eq_ok.1 h
            obtain ⟨vs, hvs, h⟩ := bind_eq_ok.1 h
            obtain ⟨_, hcut, -⟩ := bind_eq_ok.1 h
            have hx := content_eq_ok.1 (content_of_view_str hx)
            have hitems := (mapM_eq_ok.1 hvs).imp fun _ _ => content_eq_ok.1
            exact ⟨_, content_arr.2 ⟨intact_eq_ok.1 hcut, _, rfl, .cons hx hitems⟩⟩
          · cases h
  | obj ms cut =>
      obtain ⟨r, huntag, h⟩ := bind_eq_ok.1 h
      obtain ⟨_, hintact, -⟩ := bind_eq_ok.1 h
      obtain ⟨fs, hfs⟩ := members_of_untag huntag
      obtain ⟨hcut, hms⟩ := named_of_legible hfs (intact_eq_ok.1 hintact)
      exact ⟨_, content_obj.2 ⟨hcut, fs, rfl, hms⟩⟩

end Json.Doc

/-! ### Updates in texts -/

namespace Update

/-- An update is decoded from a text just when the text has a value, and that is an update. -/
theorem decode_doc_eq_ok {d : Json.Doc} {u : Update} :
    decode d = .ok u ↔ ∃ v, Json.Doc.content d = .ok v ∧ Written v u := by
  constructor
  · intro h
    obtain ⟨p, htagged, -⟩ := bind_eq_ok.1 h
    obtain ⟨v, hv⟩ := Json.Doc.content_of_tagged htagged
    exact ⟨v, hv, (reads (Json.Doc.content_eq_ok.2 hv) u).1 h⟩
  · rintro ⟨v, hv, hu⟩
    exact (reads (Json.Doc.content_eq_ok.2 hv) u).2 hu

/-- An object with a tag that is not known is an update of no kind that is dealt with. -/
theorem written_unsupported {fs : Json.Fields} {tag : String}
    (hkeys : (fs.map Prod.fst).Nodup) (htag : (Json.tagKey, .str tag) ∈ fs)
    (hkind : Kind.ofTag tag = .unsupported) : Written (.obj fs) .unsupported := by
  have honce := Json.Fields.once_of_nodup [Json.tagKey] hkeys
  have hget : Json.Fields.get? fs Json.tagKey = some (.str tag) := by
    rw [Json.Fields.get?, honce.find?_of_mem htag (.head _)]
    rfl
  exact ⟨tag, _, .object honce hget, hkind, _, .object (Json.Fields.once_nil _)⟩

end Update

namespace Webhook

/-- The update a body holds, by the value its text has. -/
def Holds (body : List UInt8) (u : Update) : Prop :=
  ∃ v, Json.Doc.content (Json.Doc.readPart (Json.textOf body).toList).1 = .ok v ∧
    Update.Written v u

/-- An update posted as JSON, and not too large. -/
structure Request.Posts (r : Request) : Prop where
  method : r.method = "POST"
  uri : r.uri = "/updates"
  contentType : ∃ t, r.contentType = some t ∧ isJson t = true
  size : r.body.length ≤ bodyLimit

/-- A text posted as JSON. -/
def Request.posting (text : String) : Request :=
  ⟨"POST", "/updates", some "application/json", text.toUTF8.toList⟩

theorem posts_posting {text : String} (h : (Text.octets text).length ≤ bodyLimit) :
    (Request.posting text).Posts :=
  ⟨rfl, rfl, ⟨_, rfl, by decide⟩, (congrArg List.length (Text.toList_toUTF8 text)).trans_le h⟩

theorem receive_of_posts {r : Request} (h : r.Posts) : receive r = readUpdate r.body := by
  obtain ⟨method, uri, contentType, body⟩ := r
  obtain ⟨rfl, rfl, ⟨t, rfl, ht⟩, hsize⟩ := h
  have hpath : String.ofList ("/updates".toList.takeWhile fun c => c ≠ '?' && c ≠ '#') =
      "/updates" := by
    decide
  unfold receive
  simp only [hpath, Option.any_some, ht, Nat.not_lt.2 hsize]
  simp

theorem readUpdate_of_holds {body : List UInt8} {u : Update} (h : Holds body u) :
    readUpdate body = .update u := by
  have hdecode : Json.decodeFront Update.decode (Json.textOf body) = .ok u :=
    Update.decode_doc_eq_ok.2 h
  rw [readUpdate, hdecode]

theorem readUpdate_of_not_holds {body : List UInt8} (h : ∀ u, ¬ Holds body u) :
    ∃ status, 400 ≤ status ∧ status < 500 ∧ readUpdate body = .refusal status := by
  unfold readUpdate
  split
  · next u hdecode => exact absurd (Update.decode_doc_eq_ok.1 hdecode) (h u)
  · exact ⟨400, by decide, by decide, rfl⟩
  · exact ⟨422, by decide, by decide, rfl⟩

/-- What a body holds that is a JSON text. -/
theorem holds_text {d : Json.Doc} {text : String} (htext : d.SpellsPart text.toList)
    (u : Update) :
    Holds text.toUTF8.toList u ↔ d.depth ≤ Json.Doc.nesting ∧
      ∃ v, Json.Doc.content d = .ok v ∧ Update.Written v u := by
  rw [Holds, Json.textOf_toUTF8, Json.Doc.readPart_spelled htext]
  simp only [Json.Doc.content_inside (Nat.zero_le _), Nat.add_zero, and_assoc, exists_and_left]

end Webhook

/-- An object has the keys and the strings of its text. -/
theorem Json.Doc.named_members {ms : List (Option String × Doc)} {fs : Fields}
    (h : List.Forall₂ (fun m n => m.1 = some n.1 ∧ Doc.content m.2 = .ok n.2) ms fs) :
    ms.map Prod.fst = (fs.map Prod.fst).map some ∧
      ∀ k s, (some k, .str s) ∈ ms → (k, .str s) ∈ fs := by
  induction h with
  | nil => exact ⟨rfl, fun k s hm => absurd hm List.not_mem_nil⟩
  | @cons m n ms fs hm _ ih =>
      refine ⟨by rw [List.map_cons, List.map_cons, List.map_cons, hm.1, ih.1], fun k s hks => ?_⟩
      rcases List.mem_cons.1 hks with rfl | hks
      · have hn : n = (k, .str s) :=
          Prod.ext (Option.some.inj hm.1).symm (Except.ok.inj hm.2).symm
        exact hn ▸ List.mem_cons_self
      · exact List.mem_cons_of_mem n (ih.2 k s hks)

/-- An object text with a tag that is not known holds an update nothing is done about. -/
theorem Update.unsupported_text {members : List (Option String × Json.Doc)} {cs : List Char}
    {tag : String} (hcs : (Json.Doc.obj members none).SpellsPart cs)
    (hsound : (Json.Doc.obj members none).Sound) (hkeys : (members.map Prod.fst).Nodup)
    (htag : (some Json.tagKey, .str tag) ∈ members) (hkind : Kind.ofTag tag = .unsupported) :
    ∃ v, Json.Doc.content (.obj members none) = .ok v ∧ Written v .unsupported := by
  obtain ⟨v, hv⟩ := Json.Doc.content_of_sound_part hcs hsound
  obtain ⟨-, fs, rfl, hfs⟩ := Json.Doc.content_obj.1 hv
  obtain ⟨hmap, hstrings⟩ := Json.Doc.named_members hfs
  rw [hmap] at hkeys
  exact ⟨.obj fs, hv, written_unsupported hkeys.of_map (hstrings _ _ htag) hkind⟩

namespace Desk

section Recording
variable {m : Type → Type} [Monad m] [LawfulMonad m]

theorem fst_run_handle_recorded (d : Desk m) (u : Update) (effects : List Effect) :
    (d.recorded.handle u).run effects >>= (fun r => pure r.1) = d.handle u := by
  have hmessage (msg : ChatMessage) :
      (d.recorded.handleMessage msg).run effects >>= (fun r => pure r.1) = d.handleMessage msg := by
    unfold handleMessage
    split
    · cases msg.peer <;> simp [run_send_recorded]
    · simp
  cases u with
  | inlineQuery q => exact d.fst_run_handleQuery_recorded q effects
  | newMessage msg | newChannelMessage msg => exact hmessage msg
  | unsupported => simp [handle]

theorem fst_run_serve_recorded (d : Desk m) (r : Webhook.Request) (effects : List Effect) :
    (d.recorded.serve r).run effects >>= (fun r => pure r.1) = d.serve r := by
  unfold serve
  cases Webhook.receive r with
  | health withBody => simp [health, recorded]
  | update u =>
      dsimp only
      rw [← d.fst_run_handle_recorded u effects]
      simp
  | refusal status => simp

end Recording

section Watching
variable {σ : Type} (d : Desk (StateM σ)) {r : Webhook.Request} (s : σ)

theorem run_serve (r : Webhook.Request) :
    ((d.serve r).run s).run =
      ((d.watch (·.serve r) s).result, (d.watch (·.serve r) s).state) := by
  rw [← d.fst_run_serve_recorded r []]
  rfl

theorem watch_serve_of_update {u : Update} (h : Webhook.receive r = .update u) :
    d.watch (·.serve r) s =
      let handled := d.watch (·.handle u) s
      ⟨⟨200, ""⟩, handled.effects, handled.state⟩ := by
  simp only [watch, serve, h]
  rfl

theorem watch_serve_of_refusal {status : Nat} (h : Webhook.receive r = .refusal status) :
    d.watch (·.serve r) s = ⟨⟨status, ""⟩, [], s⟩ := by
  simp only [watch, serve, h]
  rfl

open Webhook (Holds)

/-- The hook is all or nothing. A body that holds an update is acknowledged with 200, and done is
what handling the update does; any other is refused with a status of the client's fault, and nothing
is done. What a JSON text holds is told by its value: if it is an object with distinct keys whose
tag is a string that no update has, it is acknowledged and nothing is done, whatever the other
members are. -/
theorem all_or_nothing (hr : r.Posts) :
    let served := d.watch (·.serve r) s
    ((d.serve r).run s).run = (served.result, served.state) ∧
    (∀ u, Holds r.body u →
      let handled := d.watch (·.handle u) s
      served = ⟨⟨200, ""⟩, handled.effects, handled.state⟩) ∧
    ((∀ u, ¬ Holds r.body u) →
      ∃ status, 400 ≤ status ∧ status < 500 ∧ served = ⟨⟨status, ""⟩, [], s⟩) ∧
    ∀ (doc : Json.Doc) (text : String), doc.SpellsPart text.toList →
      r.body = text.toUTF8.toList →
      (∀ u, Holds r.body u ↔ doc.depth ≤ Json.Doc.nesting ∧
        ∃ v, Json.Doc.content doc = .ok v ∧ Update.Written v u) ∧
      ∀ members tag, doc = .obj members none → doc.depth ≤ Json.Doc.nesting → doc.Sound →
        (members.map Prod.fst).Nodup → (some Json.tagKey, .str tag) ∈ members →
        tag ∉ ["updateBotInlineQuery", "updateNewMessage", "updateNewChannelMessage"] →
        served = ⟨⟨200, ""⟩, [], s⟩ := by
  have hreceive := Webhook.receive_of_posts hr
  have hholds (u : Update) (hu : Holds r.body u) :=
    d.watch_serve_of_update s (hreceive.trans (Webhook.readUpdate_of_holds hu))
  refine ⟨d.run_serve s r, hholds, fun hnone => ?_, fun doc text htext hbody => ?_⟩
  · obtain ⟨status, hlow, hhigh, hrefusal⟩ := Webhook.readUpdate_of_not_holds hnone
    exact ⟨status, hlow, hhigh, d.watch_serve_of_refusal s (hreceive.trans hrefusal)⟩
  · have hiff (u : Update) : Holds r.body u ↔ _ :=
      hbody ▸ Webhook.holds_text htext u
    refine ⟨hiff, fun members tag hdoc hdepth hsound hkeys htag hunknown => ?_⟩
    subst hdoc
    have hkind : Update.Kind.ofTag tag = .unsupported := by
      simp only [List.mem_cons, List.not_mem_nil, or_false, not_or] at hunknown
      simp [Update.Kind.ofTag, hunknown]
    exact hholds .unsupported
      ((hiff .unsupported).2 ⟨hdepth, Update.unsupported_text htext hsound hkeys htag hkind⟩)

end Watching

/-- A desk whose provider knows no bot and whose messages do not arrive. -/
def deserted : Desk (StateM Rehearsal.Log) :=
  ⟨Rehearsal.provider .empty, Rehearsal.messenger true, Pattern.matcher, 778, "@other",
    ⟨"FAQ", "lel"⟩⟩

section Deserted

open Webhook.Request (posting)
open Json.Doc (Spells SpellsKey SpellsPart)

/-- An update of a kind that is not known, with other members after its tag. -/
theorem spelled_status {members : List (Option String × Json.Doc)} {cs : List Char}
    (h : Json.Doc.SpellsMembers members cs) :
    SpellsPart (.obj ((some Json.tagKey, .str "updateUserStatus") :: members) none)
      ("\x7b\"_\":\"updateUserStatus\",".toList ++ (cs ++ ['\x7d'])) := by
  have htag : SpellsKey (some Json.tagKey) ('"' :: (Json.tagKey.toList ++ ['"'])) :=
    .plain (by decide)
  have hkind : Spells (.str "updateUserStatus") ('"' :: ("updateUserStatus".toList ++ ['"'])) :=
    .plain (by decide)
  exact (Spells.members (.more htag hkind.bare h)).bare

/-- A text of the grammar is refused, whatever its tag, if a surrogate in it stands by itself. -/
theorem unpaired_surrogate_refused :
    let text := "\x7b\"_\":\"updateUserStatus\",\"s\":\"\\ud800\"\x7d"
    let members : List (Option String × Json.Doc) :=
      [(some "_", .str "updateUserStatus"), (some "s", .spoilt (.str ""))]
    (posting text).Posts ∧ SpellsPart (.obj members none) text.toList ∧
      (Json.Doc.obj members none).depth ≤ Json.Doc.nesting ∧ (members.map Prod.fst).Nodup ∧
      deserted.watch (·.serve (posting text)) .empty = ⟨⟨400, ""⟩, [], .empty⟩ := by
  intro text members
  have hkey : SpellsKey (some "s") ('"' :: ("s".toList ++ ['"'])) := .plain (by decide)
  have hvalue : Spells (.spoilt (.str "")) ('"' :: (['\\', 'u', 'd', '8', '0', '0'] ++ ['"'])) :=
    .string (.cons (.unit (by decide : Json.Doc.hex4? 'd' '8' '0' '0' = some 0xD800)) .nil)
  have htext : SpellsPart (.obj members none) text.toList := by
    exact (congrArg (SpellsPart _) (by decide)).mp (spelled_status (.last hkey hvalue.bare))
  have hposts : (posting text).Posts := Webhook.posts_posting (by decide)
  have hrefusal : Webhook.readUpdate (posting text).body = .refusal 400 := by
    have hread := Json.Doc.readPart_spelled htext
    rw [Webhook.readUpdate, posting, Json.textOf_toUTF8, Json.decodeFront, hread]
    rfl
  exact ⟨hposts, htext, by decide, by decide,
    deserted.watch_serve_of_refusal .empty ((Webhook.receive_of_posts hposts).trans hrefusal)⟩

/-- A command whose welcome does not arrive, an update of another kind, and no update at all. -/
theorem all_or_nothing_deserted :
    let command : Update := .newMessage ⟨9, false, "/start", some (.str "@a"), none⟩
    let status := "\x7b\"_\":\"updateUserStatus\",\"user_id\":[1]\x7d"
    ((posting command.encode.text).Posts ∧ (posting status).Posts ∧ (posting "[]").Posts) ∧
      (∃ l, deserted.watch (·.serve (posting command.encode.text)) .empty =
        ⟨⟨200, ""⟩, [.sent ⟨.str "@a", welcome, some 9, true⟩
          (.error (.ofText "PEER_ID_INVALID"))], l⟩) ∧
      deserted.watch (·.serve (posting status)) .empty = ⟨⟨200, ""⟩, [], .empty⟩ ∧
      ∃ n, 400 ≤ n ∧ n < 500 ∧
        deserted.watch (·.serve (posting "[]")) .empty = ⟨⟨n, ""⟩, [], .empty⟩ := by
  intro command status
  have hcommand : (posting command.encode.text).Posts := Webhook.posts_posting (by decide)
  have hstatus : (posting status).Posts := Webhook.posts_posting (by decide)
  have hnothing : (posting "[]").Posts := Webhook.posts_posting (by decide)
  refine ⟨⟨hcommand, hstatus, hnothing⟩, ?_, ?_, ?_⟩
  · obtain ⟨-, hholds, -⟩ := deserted.all_or_nothing Rehearsal.Log.empty hcommand
    have hnum : ∀ n ∈ command.encode.numbers, n.ReadsBack := by
      intro n hn
      obtain rfl : n = .int 9 := List.mem_singleton.1 hn
      exact Json.Number.readsBack_int (by decide) (by decide)
    have hu : Webhook.Holds (posting command.encode.text).body command := by
      obtain ⟨d, hd, hcontent⟩ := Json.readPart_text (by decide) hnum
      refine Update.decode_doc_eq_ok.1 ?_
      rw [posting, Json.textOf_toUTF8, hd]
      exact (Update.reads hcontent command).2 ((Update.reads (τ := Json) rfl command).1 rfl)
    exact ⟨_, hholds _ hu⟩
  · obtain ⟨-, -, -, htexts⟩ := deserted.all_or_nothing Rehearsal.Log.empty hstatus
    have hkey : SpellsKey (some "user_id") ('"' :: ("user_id".toList ++ ['"'])) :=
      .plain (by decide)
    have hdigits : ∀ c ∈ ['1'], c.isDigit = true := List.forall_mem_singleton.2 (by decide)
    have hone : Spells (.num (.int 1)) ['1'] :=
      .positive hdigits ⟨List.cons_ne_nil _ _, by simp⟩ .none .none
    have htext : SpellsPart (.obj [(some Json.tagKey, .str "updateUserStatus"),
        (some "user_id", .arr [.num (.int 1)] none)] none) status.toList :=
      (congrArg (SpellsPart _) (by decide)).mp
        (spelled_status (.last hkey (Spells.items (.last hone.bare)).bare))
    have hsound : (Json.Doc.obj [(some Json.tagKey, .str "updateUserStatus"),
        (some "user_id", .arr [.num (.int 1)] none)] none).Sound := by
      simp [Json.Doc.Sound, Json.Doc.SoundMembers, Json.Doc.SoundItems]
    obtain ⟨-, hobject⟩ := htexts _ status htext rfl
    exact hobject _ "updateUserStatus" rfl (by decide) hsound (by decide) (.head _) (by decide)
  · obtain ⟨-, -, hnone, -⟩ := deserted.all_or_nothing Rehearsal.Log.empty hnothing
    refine hnone fun u hu => ?_
    have hdecode := Update.decode_doc_eq_ok.2 hu
    rw [posting, Json.textOf_toUTF8] at hdecode
    cases hdecode

end Deserted

end Desk

end InlineRelay
