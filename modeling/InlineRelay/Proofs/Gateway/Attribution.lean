import InlineRelay.Proofs.Gateway.Agreement
import InlineRelay.Proofs.Legs
import Mathlib.Data.List.Nodup

/-!
Failures of the gateway. A call that yields nothing usable, for whatever reason, ends the run at the
stage it was made for. The error names the bot of that stage and then what was wanted of it, and the
last text is the gateway's.
-/
namespace InlineRelay

namespace Gateway

/-! ### Calls that yield nothing usable -/

section Calls
variable {σ α : Type} {read : Json.Doc → Json.Decoded α} {e : Error}

/-- A reply without a result of the kind asked for, and the error it comes to. -/
inductive Reply.Useless (read : Json.Doc → Json.Decoded α) (r : Reply) : Error → Prop
  /-- The body breaks off or is no envelope, or the envelope holds something of another kind. -/
  | unreadable : r.envelope? read = none →
      Useless read r (.parse s!"error decoding response body (HTTP {Http.statusLine r.status})")
  | resultless {envelope : Envelope α} : r.envelope? read = some envelope → envelope.ok = true →
      envelope.result = none → Useless read r (.parse "Gateway returned ok without a result")
  | refused {envelope : Envelope α} : r.envelope? read = some envelope → envelope.ok = false →
      Useless read r (.api (envelope.errorCode.getD 500)
        (envelope.description.getD "Unknown gateway error"))

theorem Reply.outcome_eq_error_iff {r : Reply} : r.outcome read = .error e ↔ r.Useless read e := by
  unfold outcome
  constructor
  · intro h
    cases hread : r.envelope? read with
    | none =>
        rw [hread] at h
        cases h
        exact .unreadable hread
    | some envelope =>
        rw [hread] at h
        have h : envelope.outcome = .error e := h
        unfold Envelope.outcome at h
        cases hok : envelope.ok with
        | false =>
            rw [hok] at h
            cases h
            exact .refused hread hok
        | true =>
            rw [hok, if_pos rfl] at h
            cases hresult : envelope.result with
            | none =>
                rw [hresult] at h
                cases h
                exact .resultless hread hok hresult
            | some a =>
                rw [hresult] at h
                cases h
  · intro h
    cases h with
    | unreadable hread => rw [hread]
    | resultless hread hok hresult => simp [hread, Envelope.outcome, hok, hresult]
    | refused hread hok => simp [hread, Envelope.outcome, hok]

/-- A call of a method that yields nothing usable: the error it comes to, and the state it leaves the
network in. -/
inductive Client.Fails (c : Client) (t : Transport (StateM σ)) (method : String) (parameters : Json)
    (read : Json.Doc → Json.Decoded α) (s : σ) : Error → σ → Prop
  /-- Without an absolute address there is no request. -/
  | noAddress : t.address? (c.url method) = none →
      Fails c t method parameters read s (.network "builder error") s
  | noHost {address : Http.Address} : t.address? (c.url method) = some address →
      address.host.isEmpty = true →
      Fails c t method parameters read s
        (.network s!"builder error for url ({address.text})") s
  | noReply {address : Http.Address} {s' : σ} :
      t.address? (c.url method) = some address → address.host.isEmpty = false →
      ((t.post address parameters.text).run s).run = (none, s') →
      Fails c t method parameters read s
        (.network s!"error sending request for url ({address.text})") s'
  | useless {address : Http.Address} {reply : Reply} {e : Error} {s' : σ} :
      t.address? (c.url method) = some address → address.host.isEmpty = false →
      ((t.post address parameters.text).run s).run = (some reply, s') → reply.Useless read e →
      Fails c t method parameters read s e s'

theorem Client.run_invoke_eq_error_iff {c : Client} {t : Transport (StateM σ)} {method : String}
    {parameters : Json} {s s' : σ} :
    ((c.invoke t method parameters read).run s).run = (.error e, s') ↔
      c.Fails t method parameters read s e s' := by
  unfold invoke
  constructor
  · intro h
    cases haddress : t.address? (c.url method) with
    | none =>
        simp only [haddress] at h
        cases h
        exact .noAddress haddress
    | some address =>
        simp only [haddress] at h
        cases hhost : address.host.isEmpty with
        | true =>
            simp only [hhost, if_true] at h
            cases h
            exact .noHost haddress hhost
        | false =>
            simp only [hhost, Bool.false_eq_true, if_false] at h
            rcases hpost : ((t.post address parameters.text).run s).run with ⟨_ | reply, s₁⟩
            · obtain ⟨rfl, rfl⟩ : Error.network s!"error sending request for url ({address.text})" = e ∧
                  s₁ = s' := by
                simpa [hpost] using h
              exact .noReply haddress hhost hpost
            · obtain ⟨houtcome, rfl⟩ : reply.outcome read = .error e ∧ s₁ = s' := by
                simpa [hpost] using h
              exact .useless haddress hhost hpost (Reply.outcome_eq_error_iff.1 houtcome)
  · intro h
    cases h with
    | noAddress haddress => simp [haddress]
    | noHost haddress hhost => simp [haddress, hhost]
    | noReply haddress hhost hpost => simp [haddress, hhost, hpost]
    | useless haddress hhost hpost huseless =>
        simp [haddress, hhost, hpost, Reply.outcome_eq_error_iff.2 huseless]

end Calls

/-! ### What is made of a failure -/

namespace Error

theorem occursIn_iff {part text : List Char} : occursIn part text = true ↔ part <:+: text := by
  induction text with
  | nil => simp [occursIn]
  | cons c text ih =>
      rw [occursIn, Bool.or_eq_true, List.isPrefixOf_iff_prefix, ih, List.infix_cons_iff]

/-- The gateway refuses the call with a description that says there is no such peer. -/
def NamesNobody (e : Error) : Prop :=
  ∃ code description, e = .api code description ∧
    ∃ mark ∈ ["USERNAME_NOT_OCCUPIED", "USERNAME_INVALID", "PEER_ID_INVALID"],
      mark.toList <:+: description.toList

theorem isUnknownPeer_iff {e : Error} : e.isUnknownPeer = true ↔ e.NamesNobody := by
  cases e with
  | api code description =>
      simp only [isUnknownPeer, NamesNobody, List.any_eq_true, occursIn_iff]
      constructor
      · intro h
        exact ⟨code, description, rfl, h⟩
      · rintro ⟨_, _, ⟨⟩, h⟩
        exact h
  | config text | network text | parse text => simp [isUnknownPeer, NamesNobody]

/-! The texts of an error can be told apart by how they begin. -/

def opening (text : String) : List Char := text.toList.take 2

/-- How the gateway's own texts begin. -/
def openings : List (List Char) := [['C', 'o'], ['N', 'e'], ['R', 'P'], ['P', 'a']]

theorem opening_append (front back : String) (h : 2 ≤ front.toList.length) :
    opening (front ++ back) = opening front := by
  unfold opening
  rw [String.toList_append, List.take_append_of_le_length h]

theorem opening_around (front middle back : String) (h : 2 ≤ front.toList.length) :
    opening (front ++ middle ++ back) = opening front := by
  rw [String.append_assoc, opening_append front _ h]

theorem opening_message (e : Error) : opening e.message ∈ openings := by
  have hopen (front back : String) (h : 2 ≤ front.toList.length) (hfront : opening front ∈ openings) :
      opening (front ++ back) ∈ openings := by
    rwa [opening_append front back h]
  cases e with
  | config text => exact hopen "Configuration error: " text (by decide) (by decide)
  | network text => exact hopen "Network error: " text (by decide) (by decide)
  | parse text => exact hopen "Parse error: " text (by decide) (by decide)
  | api code description =>
      have htext : (api code description).message =
          "RPC error " ++ (toString code ++ (": " ++ description)) := by
        rw [← String.append_assoc, ← String.append_assoc]
        rfl
      rw [htext]
      exact hopen "RPC error " _ (by decide) (by decide)

theorem opening_failed (handle : String) : opening s!"Provider {handle} failed" = ['P', 'r'] :=
  opening_around "Provider " handle " failed" (by decide)

theorem opening_unknown (handle : String) : opening s!"Unknown provider {handle}" = ['U', 'n'] :=
  opening_append "Unknown provider " handle (by decide)

theorem opening_unresolved (handle : String) :
    opening s!"Failed to resolve {handle}" = ['F', 'a'] :=
  opening_append "Failed to resolve " handle (by decide)

theorem opening_unanswered (handle : String) :
    opening s!"Inline query to {handle} failed" = ['I', 'n'] :=
  opening_around "Inline query to " handle " failed" (by decide)

/-- So no text stands twice in what is told of a failure. -/
theorem nodup_unknown (handle : String) :
    [s!"Provider {handle} failed", s!"Unknown provider {handle}"].Nodup := by
  refine List.Nodup.of_map opening ?_
  rw [List.map_cons, List.map_singleton, opening_failed, opening_unknown]
  decide

theorem nodup_caused {step : String} (handle : String) (e : Error)
    (hstep : opening step = ['F', 'a'] ∨ opening step = ['I', 'n']) :
    [s!"Provider {handle} failed", step, e.message].Nodup := by
  have happart : ∀ last ∈ openings,
      [['P', 'r'], ['F', 'a'], last].Nodup ∧ [['P', 'r'], ['I', 'n'], last].Nodup := by decide
  obtain ⟨hunresolved, hunanswered⟩ := happart _ e.opening_message
  refine List.Nodup.of_map opening ?_
  rw [List.map_cons, List.map_cons, List.map_singleton, opening_failed]
  rcases hstep with hstep | hstep
  · rwa [hstep]
  · rwa [hstep]

end Error

section Provider
variable {σ : Type} {t : Transport (StateM σ)} {user : Client} {handle text : String} {userId : Int}
  {bot : Bot} {s s' : σ} {e : Error}

theorem resolve_of_ok {peer : Peer} (h : ((user.getInfo t handle).run s).run = (.ok peer, s')) :
    (((provider t user).resolve handle).run s).run = (.ok ⟨peer.id, handle⟩, s') := by
  simp [provider, h]

theorem resolve_of_nobody (h : ((user.getInfo t handle).run s).run = (.error e, s'))
    (he : e.NamesNobody) :
    (((provider t user).resolve handle).run s).run =
      (.error (.ofText s!"Unknown provider {handle}"), s') := by
  simp [provider, h, Error.isUnknownPeer_iff.2 he]

theorem resolve_of_error (h : ((user.getInfo t handle).run s).run = (.error e, s'))
    (he : ¬ e.NamesNobody) :
    (((provider t user).resolve handle).run s).run =
      (.error (e.failure.within s!"Failed to resolve {handle}"), s') := by
  simp [provider, h, mt Error.isUnknownPeer_iff.1 he]

theorem query_of_error
    (h : ((user.getInlineBotResults t bot.handle userId text).run s).run = (.error e, s')) :
    (((provider t user).query bot userId text).run s).run =
      (.error (e.failure.within s!"Inline query to {bot.handle} failed"), s') := by
  simp [provider, h]

end Provider
end Gateway

/-! ### Runs ended by a failure -/

namespace Pipeline
open Gateway (Client Error Transport)

variable {σ : Type} {p : Provider (StateM σ)} {runner : Runner} {q : Query} {stage : Stage}
  {text : String} {s s' sₖ : σ} {k : Nat} {reply : Reply} {cause : Failure}

/-- A run that fails with stage `k`, whose bot the error names: after the calls of the stages before it
come these, which leave this state, and the error has these texts, the outermost first. -/
structure FailedAt (o : Observation σ) (userId : Int) (q : Query) (k : Nat) (stage : Stage)
    (cause : Failure) (last : List Provider.Call) (s' : σ) (texts : List String) : Prop where
  outcome_eq : o.outcome = .error (.provider stage.handle cause)
  calls_eq : ∃ legs : List Leg, legs.map Leg.stage = q.stages.take k ∧
    o.calls = legs.flatMap (Leg.calls userId) ++ last
  state_eq : o.state = s'
  chain_eq : (PipelineError.provider stage.handle cause).failure.chain = texts
  nodup : texts.Nodup

theorem failedAt_of_asked {texts : List String} (hreach : Reaches p runner q s k text sₖ)
    (hstage : q.stages[k]? = some stage) (hasked : Asked p runner stage text sₖ reply s')
    (hending : reply.ending runner.matcher stage = .error (.provider stage.handle cause))
    (hnone : reply.handOff? runner.matcher stage.selector = none)
    (htexts : s!"Provider {stage.handle} failed" :: cause.chain = texts) (hnodup : texts.Nodup) :
    FailedAt (observe p runner q s) runner.userId q k stage cause
      (reply.calls runner.userId stage text) s' texts := by
  obtain ⟨legs, hstages, -, hrun⟩ := (hasked.terminal hreach hstage hnone).exists_legs hasked
  rw [hending] at hrun
  exact ⟨by rw [hrun], ⟨legs, hstages, by rw [hrun]⟩, by rw [hrun], htexts, hnodup⟩

/-- A call to the gateway that yields nothing usable, whatever the reason, fails the run with the stage
it was made for, and no other call is made after it. If it was to resolve the handle, the error says
that nobody goes by that handle, where the gateway says so, and else that the handle was not resolved,
with the text of the gateway's error. If it was to query the bot, the error says that, with the text of
the gateway's error even where that is about an unknown peer. -/
theorem failure_names_bot_and_step (t : Transport (StateM σ)) (user : Client) (runner : Runner)
    (q : Query) (s : σ) (hreach : Reaches (Gateway.provider t user) runner q s k text sₖ)
    (hstage : q.stages[k]? = some stage) (hnamed : stage.handle ≠ "") :
    let handle := stage.handle
    let run := observe (Gateway.provider t user) runner q s
    let named : Json := .ofFields [("id", .str handle)]
    let asked : Json := .ofFields [("bot", .str handle), ("peer", .int runner.userId),
      ("query", .str text), ("offset", .str "0")]
    (∀ e s', user.Fails t "getInfo" named Peer.decode sₖ e s' → ∃ cause,
      (e.NamesNobody → FailedAt run runner.userId q k stage cause [.resolve handle (.error cause)] s'
        [s!"Provider {handle} failed", s!"Unknown provider {handle}"]) ∧
      (¬ e.NamesNobody → FailedAt run runner.userId q k stage cause [.resolve handle (.error cause)] s'
        [s!"Provider {handle} failed", s!"Failed to resolve {handle}", e.message])) ∧
    ∀ peer s₁ e s', ((user.getInfo t handle).run sₖ).run = (.ok peer, s₁) → peer.id ≠ runner.selfId →
      user.Fails t "messages.getInlineBotResults" asked Response.decode s₁ e s' → ∃ cause,
      FailedAt run runner.userId q k stage cause
        [.resolve handle (.ok ⟨peer.id, handle⟩),
          .query ⟨peer.id, handle⟩ runner.userId text (.error cause)] s'
        [s!"Provider {handle} failed", s!"Inline query to {handle} failed", e.message] := by
  intro handle run named asked
  refine ⟨fun e s' hfails => ?_, fun peer s₁ e s' hpeer hother hfails => ?_⟩
  · have hinfo : ((user.getInfo t handle).run sₖ).run = (.error e, s') :=
      Client.run_invoke_eq_error_iff.2 hfails
    by_cases he : e.NamesNobody
    · have hasked : Asked (Gateway.provider t user) runner stage text sₖ
          (.unresolved (.ofText s!"Unknown provider {handle}")) s' :=
        .unresolved hnamed (Gateway.resolve_of_nobody hinfo he)
      exact ⟨.ofText s!"Unknown provider {handle}",
        fun _ => failedAt_of_asked hreach hstage hasked rfl rfl rfl (Error.nodup_unknown handle),
        fun hno => absurd he hno⟩
    · have hasked : Asked (Gateway.provider t user) runner stage text sₖ
          (.unresolved (e.failure.within s!"Failed to resolve {handle}")) s' :=
        .unresolved hnamed (Gateway.resolve_of_error hinfo he)
      exact ⟨e.failure.within s!"Failed to resolve {handle}", fun hyes => absurd hyes he,
        fun _ => failedAt_of_asked hreach hstage hasked rfl rfl rfl
          (Error.nodup_caused handle e (.inl (Error.opening_unresolved handle)))⟩
  · have hresults : ((user.getInlineBotResults t handle runner.userId text).run s₁).run =
        (.error e, s') := Client.run_invoke_eq_error_iff.2 hfails
    have hasked : Asked (Gateway.provider t user) runner stage text sₖ
        (.unanswered ⟨peer.id, handle⟩
          (e.failure.within s!"Inline query to {handle} failed")) s' :=
      .unanswered hnamed (Gateway.resolve_of_ok hpeer) hother (Gateway.query_of_error hresults)
    exact ⟨e.failure.within s!"Inline query to {handle} failed",
      failedAt_of_asked hreach hstage hasked rfl rfl rfl
        (Error.nodup_caused handle e (.inr (Error.opening_unanswered handle)))⟩

end Pipeline

namespace Rehearsal
open Gateway (Client Line Method Turn)

/-- A refusal for want of the peer that was named. -/
def peerless : Gateway.Reply :=
  .ofText 400 (Gateway.Envelope.refusal (some 400) "PEER_ID_INVALID").text

theorem outcome_peerless {α : Type} {read : Json.Doc → Json.Decoded α} {R : Json → α → Prop}
    (hread : Json.Reads read R) :
    peerless.outcome read = .error (.api 400 "PEER_ID_INVALID") := by
  refine Gateway.Reply.outcome_refusal 400 ?_ hread "PEER_ID_INVALID"
  rintro _ ⟨⟩
  exact ⟨by decide, by decide⟩

/-- A gateway that refuses every query as if there were no such bot. -/
def peerlessLine (info : Turn) : Line where
  up := true
  routes := [(sessionRoute .info, [info]), (sessionRoute .results, [.reply peerless])]
  log := []

/-- A method whose route has one turn. -/
theorem run_invoke_sessions {α : Type} (l : Line) {reply : Gateway.Reply} (k : Method)
    (hup : l.up = true) (hturns : l.routes.lookup (sessionRoute k) = some [.reply reply])
    (parameters : Json) (read : Json.Doc → Json.Decoded α) :
    (((k.client (.ofUrl "http://gateway.test" "user") (.ofUrl "http://gateway.test" "bot")).invoke
        (Line.transport Http.Address.ofText?) k.name parameters read).run l).run =
      (reply.outcome read, l.recording [⟨(sessions k).path, parameters.text⟩]) := by
  refine Client.run_invoke (addresses_sessions.url k) (addresses_sessions.host k) hup ?_ parameters
    read
  rw [routeName_sessions]
  exact Line.upcoming_of_singleton hturns 0

end Rehearsal

theorem Pipeline.failure_names_bot_and_step_peerless :
    let t := Gateway.Line.transport Http.Address.ofText?
    let p := Gateway.provider t (.ofUrl "http://gateway.test" "user")
    let runner : Runner := ⟨Pattern.matcher, 777, 4242⟩
    let q : Query := ⟨"hi", [⟨"@a", "2"⟩, ⟨"@b", ""⟩]⟩
    let unknown := Rehearsal.peerlessLine (.reply Rehearsal.peerless)
    let known := Rehearsal.peerlessLine (Rehearsal.granting (Peer.encode ⟨1000, none⟩))
    let info : Gateway.Request := ⟨"/user/getInfo", "\x7b\"id\":\"@a\"\x7d"⟩
    let results : Gateway.Request := ⟨"/user/messages.getInlineBotResults",
      "\x7b\"bot\":\"@a\",\"offset\":\"0\",\"peer\":4242,\"query\":\"hi\"\x7d"⟩
    (∃ cause, FailedAt (observe p runner q unknown) 4242 q 0 ⟨"@a", "2"⟩ cause
      [.resolve "@a" (.error cause)] (unknown.recording [info])
      ["Provider @a failed", "Unknown provider @a"]) ∧
    ∃ cause, FailedAt (observe p runner q known) 4242 q 0 ⟨"@a", "2"⟩ cause
      [.resolve "@a" (.ok ⟨1000, "@a"⟩), .query ⟨1000, "@a"⟩ 4242 "hi" (.error cause)]
      (known.recording [info, results])
      ["Provider @a failed", "Inline query to @a failed", "RPC error 400: PEER_ID_INVALID"] := by
  intro t p runner q unknown known info results
  have hinfo : Json.text (.ofFields [("id", .str "@a")]) = info.body := by decide +kernel
  have hresults : Json.text (.ofFields [("bot", .str "@a"), ("peer", .int 4242),
      ("query", .str "hi"), ("offset", .str "0")]) = results.body := by decide +kernel
  have hrefused := Rehearsal.run_invoke_sessions unknown .info rfl rfl
    (.ofFields [("id", .str "@a")]) Peer.decode
  have hknown := Rehearsal.run_invoke_sessions known .info rfl rfl
    (.ofFields [("id", .str "@a")]) Peer.decode
  have hunanswered := Rehearsal.run_invoke_sessions (known.recording [info]) .results rfl rfl
    (.ofFields [("bot", .str "@a"), ("peer", .int 4242), ("query", .str "hi"), ("offset", .str "0")])
    Response.decode
  rw [hinfo, Rehearsal.outcome_peerless Peer.reads] at hrefused
  rw [hinfo, Gateway.Reply.outcome_peer 200 (by decide) (by decide)] at hknown
  rw [hresults, Rehearsal.outcome_peerless Response.reads, Gateway.Line.recording_recording]
    at hunanswered
  have hnobody : (Gateway.Error.api 400 "PEER_ID_INVALID").NamesNobody :=
    Gateway.Error.isUnknownPeer_iff.1 (by decide)
  obtain ⟨hresolve, -⟩ := Pipeline.failure_names_bot_and_step t
    (.ofUrl "http://gateway.test" "user") runner q unknown .start rfl (by decide)
  obtain ⟨-, hquery⟩ := Pipeline.failure_names_bot_and_step t
    (.ofUrl "http://gateway.test" "user") runner q known .start rfl (by decide)
  obtain ⟨cause, hcause, -⟩ := hresolve _ _ (Gateway.Client.run_invoke_eq_error_iff.1 hrefused)
  obtain ⟨cause', hcause'⟩ := hquery ⟨1000, none⟩ _ _ _ hknown (by decide)
    (Gateway.Client.run_invoke_eq_error_iff.1 hunanswered)
  exact ⟨⟨cause, hcause hnobody⟩, ⟨cause', hcause'⟩⟩

end InlineRelay
