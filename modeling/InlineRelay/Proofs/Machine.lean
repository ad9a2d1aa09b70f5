import InlineRelay.Proofs.Calls

/-!
The state machine of a run. It waits before a stage with a text in hand; a stage that hands a
text on takes it to the next one, and the first stage that does not decides the outcome.
-/
namespace InlineRelay.Pipeline
variable {σ : Type}

/-- What the calls of a stage come to, and the state of the provider after them. -/
inductive Asked (p : Provider (StateM σ)) (runner : Runner) (stage : Stage) (text : String)
    (s : σ) : Reply → σ → Prop
  | unasked : stage.handle = "" → Asked p runner stage text s .unasked s
  | unresolved {f s'} : stage.handle ≠ "" →
      ((p.resolve stage.handle).run s).run = (.error f, s') →
      Asked p runner stage text s (.unresolved f) s'
  | itself {bot s'} : stage.handle ≠ "" →
      ((p.resolve stage.handle).run s).run = (.ok bot, s') → bot.id = runner.selfId →
      Asked p runner stage text s (.itself bot) s'
  | unanswered {bot s₁ f s'} : stage.handle ≠ "" →
      ((p.resolve stage.handle).run s).run = (.ok bot, s₁) → bot.id ≠ runner.selfId →
      ((p.query bot runner.userId text).run s₁).run = (.error f, s') →
      Asked p runner stage text s (.unanswered bot f) s'
  | answered {bot s₁ r s'} : stage.handle ≠ "" →
      ((p.resolve stage.handle).run s).run = (.ok bot, s₁) → bot.id ≠ runner.selfId →
      ((p.query bot runner.userId text).run s₁).run = (.ok r, s') →
      Asked p runner stage text s (.answered bot r) s'

/-- The stage hands a text on: its bot answers with neither a redirect nor a game, and one result
is left, which has a message. -/
def HandsOn (p : Provider (StateM σ)) (runner : Runner) (stage : Stage) (text : String) (s : σ)
    (next : String) (s' : σ) : Prop :=
  ∃ bot r c, Asked p runner stage text s (.answered bot r) s' ∧ r.redirect = none ∧
    (∀ d ∈ r.results, d.isGame = false) ∧
    (Selection.select runner.matcher r.results stage.selector).toList = [c] ∧
    c.body.message.text = some next

/-- How a stage that hands nothing on decides the outcome. -/
inductive Decides (p : Provider (StateM σ)) (runner : Runner) (stage : Stage) (text : String)
    (s : σ) : Except PipelineError Outcome → Prop
  | nameless {s'} : Asked p runner stage text s .unasked s' →
      Decides p runner stage text s (.ok .selfReference)
  | unresolved {f s'} : Asked p runner stage text s (.unresolved f) s' →
      Decides p runner stage text s (.error (.provider stage.handle f))
  | itself {bot s'} : Asked p runner stage text s (.itself bot) s' →
      Decides p runner stage text s (.ok .selfReference)
  | unanswered {bot f s'} : Asked p runner stage text s (.unanswered bot f) s' →
      Decides p runner stage text s (.error (.provider stage.handle f))
  | redirected {bot r s' button} : Asked p runner stage text s (.answered bot r) s' →
      r.redirect = some button → Decides p runner stage text s (.ok (.redirect button))
  /-- The first game counts, whatever the selector would pick. -/
  | game {bot r s' before body after} : Asked p runner stage text s (.answered bot r) s' →
      r.redirect = none → r.results = before ++ .game body :: after →
      (∀ c ∈ before, c.isGame = false) →
      Decides p runner stage text s (.error (.game body.id))
  | shown {bot r s' results} : Asked p runner stage text s (.answered bot r) s' →
      r.redirect = none → (∀ c ∈ r.results, c.isGame = false) →
      Candidate.submissions (Selection.select runner.matcher r.results stage.selector).toList =
        .ok results →
      Decides p runner stage text s (.ok (.results results r.gallery))

/-- The machine waits before stage `i` with a text, and the provider is in this state. -/
inductive Reaches (p : Provider (StateM σ)) (runner : Runner) (q : Query) (s : σ) :
    Nat → String → σ → Prop
  | start : Reaches p runner q s 0 q.text s
  | next {i text sᵢ stage next s'} : Reaches p runner q s i text sᵢ →
      q.stages[i]? = some stage → i + 1 < q.stages.length →
      HandsOn p runner stage text sᵢ next s' → Reaches p runner q s (i + 1) next s'

/-- Stage `k` is reached and hands nothing on: it is the last, or its bot's reply is to blame. -/
structure Terminal (p : Provider (StateM σ)) (runner : Runner) (q : Query) (s : σ) (k : Nat)
    (stage : Stage) (text : String) (sₖ : σ) : Prop where
  reached : Reaches p runner q s k text sₖ
  stage_eq : q.stages[k]? = some stage
  stays : k + 1 < q.stages.length → ∀ next s', ¬ HandsOn p runner stage text sₖ next s'

variable {p : Provider (StateM σ)} {runner : Runner} {stage : Stage} {text : String} {s : σ}

theorem Asked.replyTo_eq {reply : Reply} {s' : σ} (h : Asked p runner stage text s reply s') :
    replyTo p runner stage text s = (reply, s') := by
  unfold replyTo ask
  cases h with
  | unasked hh => simp [Stage.addressesSelf, hh]
  | unresolved hh hr => simp [Stage.addressesSelf, hh, hr]
  | itself hh hr hid => simp [Stage.addressesSelf, hh, hr, hid]
  | unanswered hh hr hid hq => simp [Stage.addressesSelf, hh, hr, hid, hq]
  | answered hh hr hid hq => simp [Stage.addressesSelf, hh, hr, hid, hq]

theorem exists_asked (p : Provider (StateM σ)) (runner : Runner) (stage : Stage) (text : String)
    (s : σ) : ∃ reply s', Asked p runner stage text s reply s' := by
  by_cases hh : stage.handle = ""
  · exact ⟨_, _, .unasked hh⟩
  rcases hr : ((p.resolve stage.handle).run s).run with ⟨f | bot, s₁⟩
  · exact ⟨_, _, .unresolved hh hr⟩
  by_cases hid : bot.id = runner.selfId
  · exact ⟨_, _, .itself hh hr hid⟩
  rcases hq : ((p.query bot runner.userId text).run s₁).run with ⟨f | r, s₂⟩
  · exact ⟨_, _, .unanswered hh hr hid hq⟩
  · exact ⟨_, _, .answered hh hr hid hq⟩

theorem asked_iff {reply : Reply} {s' : σ} :
    Asked p runner stage text s reply s' ↔ replyTo p runner stage text s = (reply, s') := by
  refine ⟨Asked.replyTo_eq, fun h => ?_⟩
  obtain ⟨reply', s'', hasked⟩ := exists_asked p runner stage text s
  obtain ⟨rfl, rfl⟩ := Prod.mk.inj (hasked.replyTo_eq.symm.trans h)
  exact hasked

theorem handsOn_iff {next : String} {s' : σ} :
    HandsOn p runner stage text s next s' ↔
      ∃ reply, replyTo p runner stage text s = (reply, s') ∧
        reply.handOff? runner.matcher stage.selector = some next := by
  constructor
  · rintro ⟨bot, r, c, hasked, hr, hg, hc, ht⟩
    exact ⟨.answered bot r, hasked.replyTo_eq, Response.handOff?_eq_some.2 ⟨hr, hg, c, hc, ht⟩⟩
  · rintro ⟨reply, hreply, hnext⟩
    cases reply with
    | answered bot r =>
        obtain ⟨hr, hg, c, hc, ht⟩ := Response.handOff?_eq_some.1 hnext
        exact ⟨bot, r, c, asked_iff.2 hreply, hr, hg, hc, ht⟩
    | _ => cases hnext

theorem decides_ending {reply : Reply} {s' : σ} (h : Asked p runner stage text s reply s') :
    Decides p runner stage text s (reply.ending runner.matcher stage) := by
  cases reply with
  | unasked => exact .nameless h
  | unresolved f => exact .unresolved h
  | itself bot => exact .itself h
  | unanswered bot f => exact .unanswered h
  | answered bot r =>
      change Decides p runner stage text s (r.ending runner.matcher stage.selector)
      cases hr : r.redirect with
      | some button =>
          rw [Response.ending_of_redirect hr]
          exact .redirected h hr
      | none =>
          cases hg : r.results.find? Candidate.isGame with
          | some g =>
              obtain ⟨hgame, before, after, hresults, hbefore⟩ :=
                List.find?_eq_some_iff_append.1 hg
              cases g with
              | game body =>
                  have hb : ∀ c ∈ before, c.isGame = false := by simpa using hbefore
                  rw [Response.ending_of_game hr hresults hb]
                  exact .game h hr hresults hb
              | _ => cases hgame
          | none =>
              have hno := Response.find?_isGame_eq_none.1 hg
              obtain ⟨ss, hss, _⟩ :=
                Response.exists_submissions runner.matcher stage.selector hno
              rw [Response.ending_of_results hr hno hss]
              exact .shown h hr hno hss

/-- The reply to the deciding stage is all the outcome depends on. -/
theorem decides_iff {o : Except PipelineError Outcome} :
    Decides p runner stage text s o ↔
      (replyTo p runner stage text s).1.ending runner.matcher stage = o := by
  constructor
  · intro h
    cases h with
    | nameless ha => rw [ha.replyTo_eq]; rfl
    | unresolved ha => rw [ha.replyTo_eq]; rfl
    | itself ha => rw [ha.replyTo_eq]; rfl
    | unanswered ha => rw [ha.replyTo_eq]; rfl
    | redirected ha hr => rw [ha.replyTo_eq]; exact Response.ending_of_redirect hr
    | game ha hr hs hb => rw [ha.replyTo_eq]; exact Response.ending_of_game hr hs hb
    | shown ha hr hg hs => rw [ha.replyTo_eq]; exact Response.ending_of_results hr hg hs
  · rintro rfl
    exact decides_ending (asked_iff.2 rfl)

theorem HandsOn.unique {next next' : String} {s' s'' : σ}
    (h : HandsOn p runner stage text s next s') (h' : HandsOn p runner stage text s next' s'') :
    next = next' ∧ s' = s'' := by
  obtain ⟨reply, hreply, hnext⟩ := handsOn_iff.1 h
  obtain ⟨reply', hreply', hnext'⟩ := handsOn_iff.1 h'
  obtain ⟨rfl, rfl⟩ := Prod.mk.inj (hreply.symm.trans hreply')
  exact ⟨Option.some.inj (hnext.symm.trans hnext'), rfl⟩

section Reaching
variable {q : Query} {i k : Nat} {next : String} {s₁ s' s'' : σ} {rest : List Stage}

theorem Reaches.unique {t t' : String} (h : Reaches p runner q s i t s')
    (h' : Reaches p runner q s i t' s'') : t = t' ∧ s' = s'' := by
  induction h generalizing t' s'' with
  | start => cases h'; exact ⟨rfl, rfl⟩
  | next _ hstage _ hon ih =>
      cases h' with
      | next hreach' hstage' _ hon' =>
          obtain ⟨rfl, rfl⟩ := ih hreach'
          cases Option.some.inj (hstage.symm.trans hstage')
          exact hon.unique hon'

theorem Reaches.handsOn_of_lt {t : String} (h : Reaches p runner q s k t s') (hi : i < k) :
    i + 1 < q.stages.length ∧ ∃ stage t₁ s₁ t₂ s₂, Reaches p runner q s i t₁ s₁ ∧
      q.stages[i]? = some stage ∧ HandsOn p runner stage t₁ s₁ t₂ s₂ := by
  induction h with
  | start => exact absurd hi (Nat.not_lt_zero i)
  | next hreach hstage hlt hon ih =>
      rcases Nat.lt_succ_iff_lt_or_eq.1 hi with hi | rfl
      · exact ih hi
      · exact ⟨hlt, _, _, _, _, _, hreach, hstage, hon⟩

theorem Terminal.not_reaches_of_lt {stage : Stage} {t t' : String}
    (h : Terminal p runner q s i stage t s') (hi : i < k) : ¬ Reaches p runner q s k t' s'' := by
  intro hreach
  obtain ⟨hlt, stage', t₁, s₁, t₂, s₂, hreach₁, hstage, hon⟩ := hreach.handsOn_of_lt hi
  obtain ⟨rfl, rfl⟩ := h.reached.unique hreach₁
  cases Option.some.inj (h.stage_eq.symm.trans hstage)
  exact h.stays hlt _ _ hon

theorem Terminal.unique {stage stage' : Stage} {t t' : String}
    (h : Terminal p runner q s i stage t s') (h' : Terminal p runner q s k stage' t' s'') :
    i = k ∧ stage = stage' ∧ t = t' ∧ s' = s'' := by
  rcases Nat.lt_trichotomy i k with hlt | rfl | hlt
  · exact absurd h'.reached (h.not_reaches_of_lt hlt)
  · obtain ⟨rfl, rfl⟩ := h.reached.unique h'.reached
    exact ⟨rfl, Option.some.inj (h.stage_eq.symm.trans h'.stage_eq), rfl, rfl⟩
  · exact absurd h.reached (h'.not_reaches_of_lt hlt)

theorem Reaches.cons {t : String} (hon : HandsOn p runner stage text s next s₁)
    (hrest : rest ≠ []) (h : Reaches p runner ⟨next, rest⟩ s₁ i t s') :
    Reaches p runner ⟨text, stage :: rest⟩ s (i + 1) t s' := by
  induction h with
  | start =>
      refine .next .start rfl ?_ hon
      have := List.length_pos_iff.2 hrest
      simpa using this
  | next _ hstage hlt hon' ih => exact .next ih hstage (Nat.succ_lt_succ hlt) hon'

theorem Terminal.cons {stage' : Stage} {t : String} (hon : HandsOn p runner stage text s next s₁)
    (hrest : rest ≠ []) (h : Terminal p runner ⟨next, rest⟩ s₁ i stage' t s') :
    Terminal p runner ⟨text, stage :: rest⟩ s (i + 1) stage' t s' where
  reached := h.reached.cons hon hrest
  stage_eq := h.stage_eq
  stays hlt := h.stays (Nat.lt_of_succ_lt_succ hlt)

theorem terminal_zero
    (hstop : rest ≠ [] → (replyTo p runner stage text s).1.handOff? runner.matcher
      stage.selector = none) :
    Terminal p runner ⟨text, stage :: rest⟩ s 0 stage text s where
  reached := .start
  stage_eq := rfl
  stays hlt next s' hon := by
    have hrest : rest ≠ [] := by
      rintro rfl
      exact absurd hlt (Nat.lt_irrefl 1)
    obtain ⟨reply, hreply, hnext⟩ := handsOn_iff.1 hon
    rw [hreply] at hstop
    rw [hstop hrest] at hnext
    cases hnext

end Reaching

/-- The machine comes to a stage that hands nothing on, and its reply is the end of the run. -/
theorem exists_terminal (p : Provider (StateM σ)) (runner : Runner) (text : String)
    {stages : List Stage} (hstages : stages ≠ []) (s : σ) :
    ∃ k stage t s', Terminal p runner ⟨text, stages⟩ s k stage t s' ∧
      (observe p runner ⟨text, stages⟩ s).outcome =
        (replyTo p runner stage t s').1.ending runner.matcher stage := by
  induction stages generalizing text s with
  | nil => exact absurd rfl hstages
  | cons stage rest ih =>
      rcases hreply : replyTo p runner stage text s with ⟨reply, s₁⟩
      rcases handOff_or_stop reply runner.matcher stage.selector rest with
        ⟨hrest, next, hnext⟩ | hstop
      · -- The machine of the other stages, started from the text handed on.
        obtain ⟨k, stage', t, s', hterm, hout⟩ := ih next hrest s₁
        have hon := handsOn_iff.2 ⟨reply, hreply, hnext⟩
        refine ⟨k + 1, stage', t, s', hterm.cons hon hrest, ?_⟩
        rw [observe_of_handOff hrest hreply hnext]
        exact hout
      · refine ⟨0, stage, text, s, terminal_zero (by rwa [hreply]), ?_⟩
        rw [observe_of_stop hreply hstop, hreply]

/-- A query without stages shows nothing and asks nobody. Of any other, exactly one stage is
terminal, and that stage alone decides the outcome. -/
theorem run_decided_by_terminal (p : Provider (StateM σ)) (runner : Runner) (q : Query) (s : σ) :
    (q.stages = [] → observe p runner q s = ⟨.ok (.results [] false), [], s⟩) ∧
    (q.stages ≠ [] → ∃ k stage text sₖ,
      (∀ k' stage' text' s', Terminal p runner q s k' stage' text' s' ↔
        k' = k ∧ stage' = stage ∧ text' = text ∧ s' = sₖ) ∧
      ∀ o, (observe p runner q s).outcome = o ↔ Decides p runner stage text sₖ o) := by
  obtain ⟨text, stages⟩ := q
  constructor
  · rintro rfl
    exact observe_nil p runner text s
  · intro hstages
    obtain ⟨k, stage, t, s', hterm, hout⟩ := exists_terminal p runner text hstages s
    refine ⟨k, stage, t, s', fun k' stage' t' s'' => ⟨fun h => h.unique hterm, ?_⟩, fun o => ?_⟩
    · rintro ⟨rfl, rfl, rfl, rfl⟩
      exact hterm
    · rw [hout, decides_iff]

theorem run_decided_by_terminal_duo :
    let p := Rehearsal.provider Rehearsal.duo
    let q : Query := ⟨"hi", [⟨"@a", "2"⟩, ⟨"@b", ""⟩]⟩
    q.stages ≠ [] ∧ ∃ k stage text sₖ,
      (∀ k' stage' text' s', Terminal p Rehearsal.runner q .empty k' stage' text' s' ↔
        k' = k ∧ stage' = stage ∧ text' = text ∧ s' = sₖ) ∧
      ∀ o, (observe p Rehearsal.runner q .empty).outcome = o ↔
        Decides p Rehearsal.runner stage text sₖ o :=
  ⟨by decide, (run_decided_by_terminal _ _ _ _).2 (by decide)⟩

end InlineRelay.Pipeline
