import InlineRelay.Proofs.Itinerary

/-!
The legs of a run. On the way to a stage every one before it makes a leg: its handle is resolved,
and the bot behind it, which is never the asking one, is queried.
-/
namespace InlineRelay.Pipeline
variable {σ : Type} {p : Provider (StateM σ)} {runner : Runner} {q : Query} {stage : Stage}
  {text : String} {s s' sₖ : σ} {k : Nat} {reply : Reply}

/-- A leg to a bot that has a name and is not the asking one. -/
structure Leg.Foreign (runner : Runner) (l : Leg) : Prop where
  named : l.stage.handle ≠ ""
  other : l.bot.id ≠ runner.selfId

theorem Asked.foreign_of_answered {bot : Bot} {r : Response}
    (h : Asked p runner stage text s (.answered bot r) s') :
    Leg.Foreign runner ⟨stage, bot, text, .ok r⟩ := by
  cases h with
  | answered hnamed _ hother _ => exact ⟨hnamed, hother⟩

theorem Asked.foreign_of_unanswered {bot : Bot} {f : Failure}
    (h : Asked p runner stage text s (.unanswered bot f) s') :
    Leg.Foreign runner ⟨stage, bot, text, .error f⟩ := by
  cases h with
  | unanswered hnamed _ hother _ => exact ⟨hnamed, hother⟩

theorem Asked.unique {reply' : Reply} {s'' : σ} (h : Asked p runner stage text s reply s')
    (h' : Asked p runner stage text s reply' s'') : reply = reply' ∧ s' = s'' :=
  Prod.mk.inj (h.replyTo_eq.symm.trans h'.replyTo_eq)

/-- The run ends at a stage that is come to and whose reply hands nothing on. -/
theorem Asked.terminal (hasked : Asked p runner stage text sₖ reply s')
    (hreach : Reaches p runner q s k text sₖ) (hstage : q.stages[k]? = some stage)
    (hnone : reply.handOff? runner.matcher stage.selector = none) :
    Terminal p runner q s k stage text sₖ where
  reached := hreach
  stage_eq := hstage
  stays _ next s'' hon := by
    obtain ⟨reply', hreply', hnext⟩ := handsOn_iff.1 hon
    obtain ⟨rfl, -⟩ := hasked.unique (asked_iff.2 hreply')
    cases hnone.symm.trans hnext

theorem drop_of_getElem? {stages : List Stage} (h : stages[k]? = some stage) :
    stages.drop k = stage :: stages.drop (k + 1) := by
  obtain ⟨hlt, rfl⟩ := List.getElem?_eq_some_iff.1 h
  exact List.drop_eq_getElem_cons hlt

/-- A run that has come to a stage made a leg of each stage before it, and goes on as a run of the
stages left. -/
theorem Reaches.exists_legs (h : Reaches p runner q s k text sₖ) :
    ∃ legs : List Leg, legs.map Leg.stage = q.stages.take k ∧
      (∀ leg ∈ legs, leg.Foreign runner) ∧
      observe p runner q s =
        { observe p runner ⟨text, q.stages.drop k⟩ sₖ with
          calls := legs.flatMap (Leg.calls runner.userId) ++
            (observe p runner ⟨text, q.stages.drop k⟩ sₖ).calls } := by
  induction h with
  | start => exact ⟨[], rfl, fun _ h => absurd h List.not_mem_nil, rfl⟩
  | @next i text sᵢ stage next s' _ hstage hlt hon ih =>
      obtain ⟨legs, hstages, hforeign, hrun⟩ := ih
      obtain ⟨bot, r, c, hasked, hresponse⟩ := hon
      have hnext : (Reply.answered bot r).handOff? runner.matcher stage.selector = some next :=
        Response.handOff?_eq_some.2 ⟨hresponse.1, hresponse.2.1, c, hresponse.2.2⟩
      have hrest : q.stages.drop (i + 1) ≠ [] :=
        mt List.drop_eq_nil_iff.1 (Nat.not_le.2 hlt)
      refine ⟨legs ++ [⟨stage, bot, text, .ok r⟩], ?_, ?_, ?_⟩
      · rw [List.map_append, hstages, List.take_add_one, hstage]
        rfl
      · intro leg hleg
        rcases List.mem_append.1 hleg with hleg | hleg
        · exact hforeign leg hleg
        · obtain rfl := List.mem_singleton.1 hleg
          exact hasked.foreign_of_answered
      · rw [hrun, drop_of_getElem? hstage, observe_of_handOff hrest hasked.replyTo_eq hnext,
          List.flatMap_append, List.append_assoc]
        simp [Leg.calls, Reply.calls]

/-- The calls of a run are those of its legs and of the stage that ends it. -/
theorem Terminal.exists_legs (h : Terminal p runner q s k stage text sₖ)
    (hasked : Asked p runner stage text sₖ reply s') :
    ∃ legs : List Leg, legs.map Leg.stage = q.stages.take k ∧
      (∀ leg ∈ legs, leg.Foreign runner) ∧
      observe p runner q s =
        ⟨reply.ending runner.matcher stage,
          legs.flatMap (Leg.calls runner.userId) ++ reply.calls runner.userId stage text, s'⟩ := by
  obtain ⟨legs, hstages, hforeign, hrun⟩ := h.reached.exists_legs
  refine ⟨legs, hstages, hforeign, ?_⟩
  have hstop : q.stages.drop (k + 1) ≠ [] →
      reply.handOff? runner.matcher stage.selector = none := by
    intro hrest
    have hlt : k + 1 < q.stages.length := Nat.not_le.1 (mt List.drop_eq_nil_iff.2 hrest)
    cases hnext : reply.handOff? runner.matcher stage.selector with
    | none => rfl
    | some next =>
        exact absurd (handsOn_iff.2 ⟨reply, hasked.replyTo_eq, hnext⟩) (h.stays hlt next s')
  rw [hrun, drop_of_getElem? h.stage_eq, observe_of_stop hasked.replyTo_eq hstop]

/-- Every run goes along the stages in legs, to bots other than the asking one; at the end at most
one more handle is resolved. -/
theorem exists_legs (p : Provider (StateM σ)) (runner : Runner) (q : Query) (s : σ) :
    ∃ (legs : List Leg) (resolved : Option (String × Except Failure Bot)),
      (observe p runner q s).calls = legs.flatMap (Leg.calls runner.userId) ++
        resolved.toList.map (fun r => .resolve r.1 r.2) ∧
      legs.map Leg.stage <+: q.stages ∧ (∀ leg ∈ legs, leg.Foreign runner) ∧
      ∀ r ∈ resolved, r.1 ≠ "" := by
  by_cases hstages : q.stages = []
  · refine ⟨[], none, ?_, List.nil_prefix, fun _ h => absurd h List.not_mem_nil, by simp⟩
    obtain ⟨text, stages⟩ := q
    obtain rfl : stages = [] := hstages
    rfl
  · obtain ⟨k, stage, text, sₖ, hterm, -⟩ := exists_terminal p runner q.text hstages s
    obtain ⟨reply, s', hasked⟩ := exists_asked p runner stage text sₖ
    obtain ⟨legs, htake, hforeign, hrun⟩ := hterm.exists_legs hasked
    have hfront : legs.map Leg.stage <+: q.stages := htake ▸ List.take_prefix k q.stages
    -- A stage that ends the run after a query has made a leg too.
    have hleg : ∀ leg : Leg, leg.stage = stage → leg.Foreign runner →
        (legs ++ [leg]).map Leg.stage <+: q.stages ∧ ∀ l ∈ legs ++ [leg], l.Foreign runner := by
      rintro leg rfl hlast
      refine ⟨?_, List.forall_mem_append.2 ⟨hforeign, List.forall_mem_singleton.2 hlast⟩⟩
      have hsucc : (legs ++ [leg]).map Leg.stage = q.stages.take (k + 1) := by
        rw [List.map_append, htake, List.take_add_one, hterm.stage_eq]
        rfl
      exact hsucc ▸ List.take_prefix (k + 1) q.stages
    rw [show observe p runner q s = _ from hrun]
    cases reply with
    | unasked => exact ⟨legs, none, rfl, hfront, hforeign, by simp⟩
    | unresolved f =>
        refine ⟨legs, some (stage.handle, .error f), rfl, hfront, hforeign, ?_⟩
        cases hasked with
        | unresolved hnamed _ => simpa using hnamed
    | itself bot =>
        refine ⟨legs, some (stage.handle, .ok bot), rfl, hfront, hforeign, ?_⟩
        cases hasked with
        | itself hnamed _ _ => simpa using hnamed
    | unanswered bot f =>
        obtain ⟨hfirst, hall⟩ := hleg ⟨stage, bot, text, .error f⟩ rfl hasked.foreign_of_unanswered
        exact ⟨_, none, by simp [Leg.calls, Reply.calls], hfirst, hall, by simp⟩
    | answered bot r =>
        obtain ⟨hfirst, hall⟩ := hleg ⟨stage, bot, text, .ok r⟩ rfl hasked.foreign_of_answered
        exact ⟨_, none, by simp [Leg.calls, Reply.calls], hfirst, hall, by simp⟩

end InlineRelay.Pipeline
