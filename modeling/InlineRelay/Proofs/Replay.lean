import InlineRelay.Proofs.Effects
import InlineRelay.Proofs.Machine

/-!
Replays. What a desk does is decided by what comes of its calls and deliveries: a desk of the same
settings whose calls and deliveries come to the same, one after another, does the same.
-/
namespace InlineRelay

/-- Steps one after another, each with its label. -/
inductive Trace {σ ε : Type} (Does : ε → σ → σ → Prop) : List ε → σ → σ → Prop
  | nil {s : σ} : Trace Does [] s s
  | cons {e : ε} {es : List ε} {s s₁ s' : σ} : Does e s s₁ → Trace Does es s₁ s' →
      Trace Does (e :: es) s s'

namespace Trace
variable {σ ε δ : Type} {Does : ε → σ → σ → Prop} {es es' : List ε} {e : ε} {s s' : σ}

theorem nil_iff : Trace Does [] s s' ↔ s = s' := by
  constructor
  · intro h
    cases h
    rfl
  · rintro rfl
    exact .nil

theorem cons_iff : Trace Does (e :: es) s s' ↔ ∃ s₁, Does e s s₁ ∧ Trace Does es s₁ s' := by
  constructor
  · intro h
    cases h with
    | cons he hes => exact ⟨_, he, hes⟩
  · rintro ⟨s₁, he, hes⟩
    exact .cons he hes

theorem singleton_iff : Trace Does [e] s s' ↔ Does e s s' := by
  simp only [cons_iff, nil_iff, exists_eq_right]

theorem append_iff : Trace Does (es ++ es') s s' ↔
    ∃ s₁, Trace Does es s s₁ ∧ Trace Does es' s₁ s' := by
  induction es generalizing s with
  | nil => simp only [List.nil_append, nil_iff, exists_eq_left']
  | cons e es ih =>
      simp only [List.cons_append, cons_iff, ih]
      constructor
      · rintro ⟨s₁, he, s₂, hes, hes'⟩
        exact ⟨s₂, ⟨s₁, he, hes⟩, hes'⟩
      · rintro ⟨s₂, ⟨s₁, he, hes⟩, hes'⟩
        exact ⟨s₁, he, s₂, hes, hes'⟩

theorem map_iff {f : δ → ε} {ds : List δ} :
    Trace Does (ds.map f) s s' ↔ Trace (fun d => Does (f d)) ds s s' := by
  induction ds generalizing s with
  | nil => simp only [List.map_nil, nil_iff]
  | cons d ds ih => simp only [List.map_cons, cons_iff, ih]

end Trace

/-! ### Runs of the pipeline -/

/-- A call that comes to what is recorded of it. -/
def Provider.Makes {σ : Type} (p : Provider (StateM σ)) : Provider.Call → σ → σ → Prop
  | .resolve handle answer, s, s' => ((p.resolve handle).run s).run = (answer, s')
  | .query bot userId text answer, s, s' => ((p.query bot userId text).run s).run = (answer, s')

namespace Pipeline
variable {σ τ : Type} {p : Provider (StateM σ)} {p' : Provider (StateM τ)} {runner : Runner}
  {stage : Stage} {text : String} {s s' : σ} {t t' : τ} {reply : Reply}

theorem Asked.trace (h : Asked p runner stage text s reply s') :
    Trace p.Makes (reply.calls runner.userId stage text) s s' := by
  cases h with
  | unasked => exact .nil
  | unresolved _ hresolve => exact .cons hresolve .nil
  | itself _ hresolve _ => exact .cons hresolve .nil
  | unanswered _ hresolve _ hquery => exact .cons hresolve (.cons hquery .nil)
  | answered _ hresolve _ hquery => exact .cons hresolve (.cons hquery .nil)

/-- A provider that makes the calls behind a reply gives that reply. -/
theorem Asked.of_trace (h : Asked p runner stage text s reply s')
    (hcalls : Trace p'.Makes (reply.calls runner.userId stage text) t t') :
    Asked p' runner stage text t reply t' := by
  cases h with
  | unasked hhandle =>
      obtain rfl := Trace.nil_iff.1 hcalls
      exact .unasked hhandle
  | unresolved hhandle =>
      have hresolve := Trace.singleton_iff.1 hcalls
      exact .unresolved hhandle hresolve
  | itself hhandle _ hid =>
      have hresolve := Trace.singleton_iff.1 hcalls
      exact .itself hhandle hresolve hid
  | unanswered hhandle _ hid =>
      obtain ⟨t₁, hresolve, hquery⟩ := Trace.cons_iff.1 hcalls
      exact .unanswered hhandle hresolve hid (Trace.singleton_iff.1 hquery)
  | answered hhandle _ hid =>
      obtain ⟨t₁, hresolve, hquery⟩ := Trace.cons_iff.1 hcalls
      exact .answered hhandle hresolve hid (Trace.singleton_iff.1 hquery)

/-- The calls of a run lead to the state it leaves the provider in. -/
theorem trace_observe (p : Provider (StateM σ)) (runner : Runner) (q : Query) (s : σ) :
    Trace p.Makes (observe p runner q s).calls s (observe p runner q s).state := by
  obtain ⟨text, stages⟩ := q
  induction stages generalizing text s with
  | nil =>
      rw [observe_nil]
      exact .nil
  | cons stage rest ih =>
      obtain ⟨reply, s₁, hasked⟩ := exists_asked p runner stage text s
      rcases handOff_or_stop reply runner.matcher stage.selector rest with
        ⟨hrest, next, hnext⟩ | hstop
      · rw [observe_of_handOff hrest hasked.replyTo_eq hnext]
        exact Trace.append_iff.2 ⟨s₁, hasked.trace, ih s₁ next⟩
      · rw [observe_of_stop hasked.replyTo_eq hstop]
        exact hasked.trace

/-- A run is decided by what comes of its calls. -/
theorem observe_of_trace {q : Query}
    (hcalls : Trace p'.Makes (observe p runner q s).calls t t') :
    observe p' runner q t =
      ⟨(observe p runner q s).outcome, (observe p runner q s).calls, t'⟩ := by
  obtain ⟨text, stages⟩ := q
  induction stages generalizing text s t with
  | nil =>
      rw [observe_nil] at hcalls ⊢
      obtain rfl := Trace.nil_iff.1 hcalls
      rw [observe_nil]
  | cons stage rest ih =>
      obtain ⟨reply, s₁, hasked⟩ := exists_asked p runner stage text s
      rcases handOff_or_stop reply runner.matcher stage.selector rest with
        ⟨hrest, next, hnext⟩ | hstop
      · rw [observe_of_handOff hrest hasked.replyTo_eq hnext] at hcalls ⊢
        obtain ⟨t₁, hstage, hothers⟩ := Trace.append_iff.1 hcalls
        rw [observe_of_handOff hrest (hasked.of_trace hstage).replyTo_eq hnext, ih next hothers]
      · rw [observe_of_stop hasked.replyTo_eq hstop] at hcalls ⊢
        rw [observe_of_stop (hasked.of_trace hcalls).replyTo_eq hstop]

end Pipeline

/-! ### Desks -/

namespace Desk
variable {σ τ : Type} {d : Desk (StateM σ)} {d' : Desk (StateM τ)} {q : InlineQuery} {s : σ}
  {t t' : τ}

/-- What comes of a message, and the state after it. -/
def send (d : Desk (StateM σ)) (o : Outgoing) (s : σ) : Except Failure Unit × σ :=
  ((d.messenger.send o).run s).run

/-- An effect that comes to what is noted of it. -/
def Does (d : Desk (StateM σ)) : Effect → σ → σ → Prop
  | .asked call, s, s' => d.provider.Makes call s s'
  | .delivered a outcome, s, s' => d.deliver a s = (outcome, s')
  | .sent o outcome, s, s' => d.send o s = (outcome, s')

/-- The same settings, whatever the bots and the chat are reached by. -/
structure Alike (d : Desk (StateM σ)) (d' : Desk (StateM τ)) : Prop where
  matcher : d'.matcher = d.matcher
  selfId : d'.selfId = d.selfId
  adminPeer : d'.adminPeer = d.adminPeer
  faq : d'.faq = d.faq

theorem Alike.runner (h : Alike d d') : d'.runner q = d.runner q := by
  unfold Desk.runner
  rw [h.matcher, h.selfId]

theorem Alike.fallback (h : Alike d d') : d'.fallback q = d.fallback q := by
  unfold Desk.fallback
  rw [h.faq]

theorem Alike.answerTo (h : Alike d d') (o : Outcome) : d'.answerTo q o = d.answerTo q o := by
  unfold Desk.answerTo
  rw [h.faq]

theorem Alike.reportTo (h : Alike d d') (f : Failure) : d'.reportTo q f = d.reportTo q f := by
  unfold Desk.reportTo
  rw [h.adminPeer]

theorem trace_pipeline (d : Desk (StateM σ)) (q : InlineQuery) (s : σ) :
    Trace d.Does ((d.pipeline q s).calls.map .asked) s (d.pipeline q s).state :=
  Trace.map_iff.2 (Pipeline.trace_observe d.provider (d.runner q) (Query.parse q.query) s)

theorem pipeline_of_trace (h : Alike d d')
    (hcalls : Trace d'.Does ((d.pipeline q s).calls.map .asked) t t') :
    d'.pipeline q t = ⟨(d.pipeline q s).outcome, (d.pipeline q s).calls, t'⟩ := by
  rw [Trace.map_iff] at hcalls
  unfold pipeline at hcalls ⊢
  rw [h.runner]
  exact Pipeline.observe_of_trace hcalls

theorem Alike.tellOperator (h : Alike d d') {f : Failure} {told : Except Failure Unit}
    (hsent : d'.Does (.sent (d.reportTo q f) told) t t') :
    d'.tellOperator q f t = (told, t') := by
  unfold Desk.tellOperator
  rw [h.reportTo]
  exact hsent

/-- The effects of finding an answer lead to the state after it. -/
theorem trace_watch_answer (d : Desk (StateM σ)) (q : InlineQuery) (s : σ) :
    Trace d.Does (d.watch (·.answer q) s).effects s (d.watch (·.answer q) s).state := by
  by_cases hq : q.query = ""
  · rw [d.watch_answer_of_empty hq]
    exact .nil
  · have hcalls := d.trace_pipeline q s
    cases hout : (d.pipeline q s).outcome with
    | ok outcome =>
        rw [watch_answer_of_ok hq hout]
        exact hcalls
    | error e =>
        rcases htold : d.tellOperator q e.failure (d.pipeline q s).state with ⟨told, s'⟩
        rw [watch_answer_of_error hq hout htold]
        exact Trace.append_iff.2 ⟨_, hcalls, Trace.singleton_iff.2 htold⟩

/-- The answer is decided by what comes of the effects of finding it. -/
theorem watch_answer_of_trace (h : Alike d d')
    (heffects : Trace d'.Does (d.watch (·.answer q) s).effects t t') :
    d'.watch (·.answer q) t =
      ⟨(d.watch (·.answer q) s).result, (d.watch (·.answer q) s).effects, t'⟩ := by
  by_cases hq : q.query = ""
  · rw [d.watch_answer_of_empty hq] at heffects ⊢
    obtain rfl := Trace.nil_iff.1 heffects
    rw [d'.watch_answer_of_empty hq, h.fallback]
  · cases hout : (d.pipeline q s).outcome with
    | ok outcome =>
        rw [watch_answer_of_ok hq hout] at heffects ⊢
        have hrun := pipeline_of_trace h heffects
        have hout' : (d'.pipeline q t).outcome = .ok outcome := by rw [hrun, hout]
        rw [watch_answer_of_ok hq hout', hrun, h.answerTo]
    | error e =>
        rcases htold : d.tellOperator q e.failure (d.pipeline q s).state with ⟨told, s'⟩
        rw [watch_answer_of_error hq hout htold] at heffects ⊢
        obtain ⟨t₁, hcalls, hreport⟩ := Trace.append_iff.1 heffects
        have hrun := pipeline_of_trace h hcalls
        have hout' : (d'.pipeline q t).outcome = .error e := by rw [hrun, hout]
        have htold' : d'.tellOperator q e.failure (d'.pipeline q t).state = (told, t') := by
          rw [hrun]
          exact h.tellOperator (Trace.singleton_iff.1 hreport)
        rw [watch_answer_of_error hq hout' htold', hrun, h.fallback, h.reportTo]

theorem effects_watch_handleQuery (d : Desk (StateM σ)) (q : InlineQuery) (s : σ) :
    ∃ rest, (d.watch (·.handleQuery q) s).effects = (d.watch (·.answer q) s).effects ++ rest := by
  rw [d.watch_handleQuery]
  dsimp only
  split
  · exact ⟨_, rfl⟩
  · exact ⟨_, rfl⟩

/-- The effects of handling a query lead to the state after it. -/
theorem trace_watch_handleQuery (d : Desk (StateM σ)) (q : InlineQuery) (s : σ) :
    Trace d.Does (d.watch (·.handleQuery q) s).effects s (d.watch (·.handleQuery q) s).state := by
  have hfound := d.trace_watch_answer q s
  generalize hw : d.watch (·.answer q) s = w at hfound
  rcases hr : d.deliver w.result w.state with ⟨f | u, s₁⟩
  · rcases htold : d.tellOperator q f s₁ with ⟨told, s₂⟩
    rcases hlast : d.deliver (d.fallback q) s₂ with ⟨last, s'⟩
    rw [watch_handleQuery_of_error hw hr htold hlast]
    exact Trace.append_iff.2 ⟨_, hfound, .cons hr (.cons htold (.cons hlast .nil))⟩
  · rw [watch_handleQuery_of_ok hw hr]
    exact Trace.append_iff.2 ⟨_, hfound, Trace.singleton_iff.2 hr⟩

/-- What is done about a query is decided by what comes of the effects. -/
theorem watch_handleQuery_of_trace (h : Alike d d')
    (heffects : Trace d'.Does (d.watch (·.handleQuery q) s).effects t t') :
    d'.watch (·.handleQuery q) t = ⟨(), (d.watch (·.handleQuery q) s).effects, t'⟩ := by
  have hanswer {t₁ : τ} (hfound : Trace d'.Does (d.watch (·.answer q) s).effects t t₁) :=
    watch_answer_of_trace h hfound
  generalize hw : d.watch (·.answer q) s = w at hanswer
  rcases hr : d.deliver w.result w.state with ⟨f | u, s₁⟩
  · rcases htold : d.tellOperator q f s₁ with ⟨told, s₂⟩
    rcases hlast : d.deliver (d.fallback q) s₂ with ⟨last, s'⟩
    rw [watch_handleQuery_of_error hw hr htold hlast] at heffects ⊢
    obtain ⟨t₁, hfound, hrest⟩ := Trace.append_iff.1 heffects
    obtain ⟨t₂, hr', hrest⟩ := Trace.cons_iff.1 hrest
    obtain ⟨t₃, hreport, hfallback⟩ := Trace.cons_iff.1 hrest
    have hlast' : d'.deliver (d'.fallback q) t₃ = (last, t') := by
      rw [h.fallback]
      exact Trace.singleton_iff.1 hfallback
    rw [watch_handleQuery_of_error (hanswer hfound) hr' (h.tellOperator hreport) hlast',
      h.fallback, h.reportTo]
  · rw [watch_handleQuery_of_ok hw hr] at heffects ⊢
    obtain ⟨t₁, hfound, hr'⟩ := Trace.append_iff.1 heffects
    exact watch_handleQuery_of_ok (hanswer hfound) (Trace.singleton_iff.1 hr')

end Desk

end InlineRelay
