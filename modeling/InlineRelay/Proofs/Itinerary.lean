import InlineRelay.Proofs.Machine

/-!
The calls of a run in order. Stage after stage is resolved and then queried with the text the one
before it handed on; after the terminal stage nobody is called.
-/
namespace InlineRelay.Pipeline
variable {σ : Type}

/-- A stage that was queried: the bot its handle was resolved to, the text that bot was asked for
and what it answered. -/
structure Leg where
  stage : Stage
  bot : Bot
  text : String
  answer : Except Failure Response

namespace Leg

def calls (userId : Int) (l : Leg) : List Provider.Call :=
  [.resolve l.stage.handle (.ok l.bot), .query l.bot userId l.text l.answer]

/-- The one result left of the answer has this message, as the bot sent it. -/
def HasMessage (matcher : Matcher) (l : Leg) (text : String) : Prop :=
  ∃ r c, l.answer = .ok r ∧
    (Selection.select matcher r.results l.stage.selector).toList = [c] ∧
    c.body.message.text = some text

end Leg

/-- The calls of a run: two for each leg and, at the end, at most one stage that is only
resolved. -/
structure Itinerary (runner : Runner) (q : Query) (calls : List Provider.Call) (legs : List Leg)
    (resolved : Option (Stage × Except Failure Bot)) : Prop where
  calls_eq : calls = legs.flatMap (Leg.calls runner.userId) ++
    resolved.toList.map fun r => .resolve r.1.handle r.2
  in_order : legs.map Leg.stage ++ resolved.toList.map Prod.fst <+: q.stages
  first_text : ∀ leg, legs[0]? = some leg → leg.text = q.text
  next_text : ∀ i leg next, legs[i]? = some leg → legs[i + 1]? = some next →
    leg.HasMessage runner.matcher next.text

namespace Itinerary
variable {runner : Runner} {stage : Stage} {rest : List Stage} {text next : String}

theorem silent (runner : Runner) (q : Query) : Itinerary runner q [] [] none where
  calls_eq := rfl
  in_order := List.nil_prefix
  first_text _ h := by cases h
  next_text _ _ _ h := by cases h

theorem ofResolved (answer : Except Failure Bot) :
    Itinerary runner ⟨text, stage :: rest⟩ [.resolve stage.handle answer] []
      (some (stage, answer)) where
  calls_eq := rfl
  in_order := ⟨rest, rfl⟩
  first_text _ h := by cases h
  next_text _ _ _ h := by cases h

theorem ofLeg (bot : Bot) (answer : Except Failure Response) :
    Itinerary runner ⟨text, stage :: rest⟩ (Leg.calls runner.userId ⟨stage, bot, text, answer⟩)
      [⟨stage, bot, text, answer⟩] none where
  calls_eq := by simp
  in_order := ⟨rest, rfl⟩
  first_text leg h := by
    cases h
    rfl
  next_text i _ _ _ h := by simp at h

/-- The legs after a stage that handed its text on are those of the stages after it. -/
theorem cons {calls : List Provider.Call} {legs : List Leg}
    {resolved : Option (Stage × Except Failure Bot)} {bot : Bot} {r : Response}
    (hnext : r.handOff? runner.matcher stage.selector = some next)
    (h : Itinerary runner ⟨next, rest⟩ calls legs resolved) :
    Itinerary runner ⟨text, stage :: rest⟩
      (Leg.calls runner.userId ⟨stage, bot, text, .ok r⟩ ++ calls)
      (⟨stage, bot, text, .ok r⟩ :: legs) resolved where
  calls_eq := by rw [h.calls_eq, List.flatMap_cons, List.append_assoc]
  in_order := by
    rw [List.map_cons, List.cons_append]
    exact List.cons_prefix_cons.2 ⟨rfl, h.in_order⟩
  first_text leg hleg := by
    cases hleg
    rfl
  next_text i leg leg' hleg hleg' := by
    cases i with
    | zero =>
        cases hleg
        obtain ⟨-, -, c, hc, ht⟩ := Response.handOff?_eq_some.1 hnext
        have htext : leg'.text = next := h.first_text leg' hleg'
        exact ⟨r, c, rfl, hc, by rw [ht, htext]⟩
    | succ i => exact h.next_text i leg leg' hleg hleg'

end Itinerary

/-- A stage that ends the run makes at most one leg. -/
theorem itinerary_of_reply (runner : Runner) (stage : Stage) (rest : List Stage) (text : String)
    (reply : Reply) :
    ∃ legs resolved, Itinerary runner ⟨text, stage :: rest⟩
      (reply.calls runner.userId stage text) legs resolved ∧
      legs.length + resolved.toList.length ≤ 1 := by
  cases reply with
  | unasked => exact ⟨[], none, .silent _ _, Nat.zero_le 1⟩
  | unresolved f => exact ⟨[], some (stage, .error f), .ofResolved _, Nat.le_refl 1⟩
  | itself bot => exact ⟨[], some (stage, .ok bot), .ofResolved _, Nat.le_refl 1⟩
  | unanswered bot f => exact ⟨[⟨stage, bot, text, .error f⟩], none, .ofLeg _ _, Nat.le_refl 1⟩
  | answered bot r => exact ⟨[⟨stage, bot, text, .ok r⟩], none, .ofLeg _ _, Nat.le_refl 1⟩

/-- The calls of every run go along the stages in the order written, up to the terminal stage: all
before it are resolved and queried, it is called last, and each query but the first asks for the
message of the one result left of the answer before. -/
theorem calls_follow_stages (p : Provider (StateM σ)) (runner : Runner) (q : Query) (s : σ) :
    ∃ legs resolved, Itinerary runner q (observe p runner q s).calls legs resolved ∧
      (q.stages ≠ [] → ∃ k stage text sₖ, Terminal p runner q s k stage text sₖ ∧
        k ≤ legs.length ∧ legs.length + resolved.toList.length ≤ k + 1) := by
  obtain ⟨text, stages⟩ := q
  induction stages generalizing text s with
  | nil => exact ⟨[], none, .silent _ _, fun h => absurd rfl h⟩
  | cons stage rest ih =>
      rcases hreply : replyTo p runner stage text s with ⟨reply, s₁⟩
      rcases handOff_or_stop reply runner.matcher stage.selector rest with
        ⟨hrest, next, hnext⟩ | hstop
      · obtain ⟨legs, resolved, hit, hterm⟩ := ih s₁ next
        obtain ⟨k, stage', t, sₖ, hk, hle, hle'⟩ := hterm hrest
        have hon := handsOn_iff.2 ⟨reply, hreply, hnext⟩
        rw [observe_of_handOff hrest hreply hnext]
        cases reply with
        | answered bot r =>
            refine ⟨⟨stage, bot, text, .ok r⟩ :: legs, resolved, hit.cons hnext, fun _ => ?_⟩
            refine ⟨k + 1, stage', t, sₖ, hk.cons hon hrest, Nat.succ_le_succ hle, ?_⟩
            rw [List.length_cons]
            omega
        | _ => cases hnext
      · obtain ⟨legs, resolved, hit, hle⟩ := itinerary_of_reply runner stage rest text reply
        rw [observe_of_stop hreply hstop]
        refine ⟨legs, resolved, hit, fun _ => ?_⟩
        exact ⟨0, stage, text, s, terminal_zero (by rwa [hreply]), Nat.zero_le _, by simpa using hle⟩

end InlineRelay.Pipeline
