import InlineRelay.Proofs.Legs
import InlineRelay.Proofs.Submittable

/-!
The bot never queries itself. A stage without a handle, or with one that turns out to be the bot's
own, ends the run wherever it stands; the user is offered help and the operator hears nothing.
-/
namespace InlineRelay

namespace Pipeline
variable {σ : Type} {p : Provider (StateM σ)} {runner : Runner} {q : Query} {stage : Stage}
  {text : String} {s s' sₖ : σ} {k : Nat}

/-- The stage addresses the asking bot, which shows after these calls: at once where it has no
handle, else when the handle is resolved. -/
inductive ToItself (p : Provider (StateM σ)) (runner : Runner) (stage : Stage) (s : σ) :
    List Provider.Call → σ → Prop
  | nameless : stage.handle = "" → ToItself p runner stage s [] s
  | named {bot s'} : stage.handle ≠ "" →
      ((p.resolve stage.handle).run s).run = (.ok bot, s') → bot.id = runner.selfId →
      ToItself p runner stage s [.resolve stage.handle (.ok bot)] s'

/-- Nobody is queried for such a stage. -/
theorem ToItself.asked {calls : List Provider.Call} (h : ToItself p runner stage s calls s')
    (text : String) :
    ∃ reply, Asked p runner stage text s reply s' ∧
      calls = reply.calls runner.userId stage text ∧
      reply.ending runner.matcher stage = .ok .selfReference ∧
      reply.handOff? runner.matcher stage.selector = none := by
  cases h with
  | nameless hhandle => exact ⟨.unasked, .unasked hhandle, rfl, rfl, rfl⟩
  | named hhandle hresolve hid => exact ⟨.itself _, .itself hhandle hresolve hid, rfl, rfl, rfl⟩

/-- A stage that addresses the asking bot ends the run that comes to it, and is called last. -/
theorem ToItself.observe_eq {calls : List Provider.Call} (h : ToItself p runner stage sₖ calls s')
    (hreach : Reaches p runner q s k text sₖ) (hstage : q.stages[k]? = some stage) :
    ∃ legs : List Leg, legs.map Leg.stage = q.stages.take k ∧
      observe p runner q s =
        ⟨.ok .selfReference, legs.flatMap (Leg.calls runner.userId) ++ calls, s'⟩ := by
  obtain ⟨reply, hasked, rfl, hending, hnone⟩ := h.asked text
  obtain ⟨legs, hstages, -, hrun⟩ := (hasked.terminal hreach hstage hnone).exists_legs hasked
  exact ⟨legs, hstages, by rw [hrun, hending]⟩

end Pipeline

namespace Desk
variable {σ : Type}

open Pipeline (Leg Reaches ToItself)

/-- The bot never queries itself. Along the stages, whatever the handles stand for, every bot that is
queried has been resolved from a handle and is another one. A run that comes to a stage without a
handle, or with one that stands for the bot itself, ends there, whatever the selector of the stage
and the stages after it: the stages in front have made their calls, and nobody is queried any more.
The answer is then help for the asking user alone, and no message is sent. -/
theorem never_queries_itself (d : Desk (StateM σ)) (q : InlineQuery) (s : σ) :
    (∃ (legs : List Leg) (resolved : Option (String × Except Failure Bot)),
      (d.pipeline q s).calls = legs.flatMap (Leg.calls q.userId) ++
        resolved.toList.map (fun r => .resolve r.1 r.2) ∧
      legs.map Leg.stage <+: (Query.parse q.query).stages ∧
      (∀ leg ∈ legs, leg.stage.handle ≠ "" ∧ leg.bot.id ≠ d.selfId) ∧
      ∀ r ∈ resolved, r.1 ≠ "") ∧
    ∀ k stage text sₖ calls s',
      Reaches d.provider (d.runner q) (Query.parse q.query) s k text sₖ →
      (Query.parse q.query).stages[k]? = some stage →
      ToItself d.provider (d.runner q) stage sₖ calls s' →
      ∃ legs : List Leg, legs.map Leg.stage = (Query.parse q.query).stages.take k ∧
        d.pipeline q s =
          ⟨.ok .selfReference, legs.flatMap (Leg.calls q.userId) ++ calls, s'⟩ ∧
        ((d.answer q).run s).run.1 = ⟨q.queryId, [], 0, true, false, some d.faq⟩ ∧
        (d.watch (·.answer q) s).effects =
          (legs.flatMap (Leg.calls q.userId) ++ calls).map .asked := by
  constructor
  · obtain ⟨legs, resolved, hcalls, hstages, hforeign, hnamed⟩ :=
      Pipeline.exists_legs d.provider (d.runner q) (Query.parse q.query) s
    exact ⟨legs, resolved, hcalls, hstages,
      fun leg hleg => ⟨(hforeign leg hleg).named, (hforeign leg hleg).other⟩, hnamed⟩
  · intro k stage text sₖ calls s' hreach hstage hself
    obtain ⟨legs, hstages, hrun⟩ := hself.observe_eq hreach hstage
    have hrun : d.pipeline q s =
        ⟨.ok .selfReference, legs.flatMap (Leg.calls q.userId) ++ calls, s'⟩ := hrun
    have hq : q.query ≠ "" := by
      intro hempty
      rw [hempty] at hstage
      cases hstage
    have hwatch := watch_answer_of_ok hq (congrArg Pipeline.Observation.outcome hrun)
    refine ⟨legs, hstages, hrun, ?_, ?_⟩
    · rw [← d.result_watch_answer, hwatch]
      rfl
    · rw [hwatch, hrun]

end Desk

namespace Rehearsal

/-- The two bots, and the asking one under a name of its own. -/
def mirror : Cast := duo.withBot "@me" 777

end Rehearsal

theorem Desk.never_queries_itself_mirror :
    let d : Desk (StateM Rehearsal.Log) := ⟨Rehearsal.provider Rehearsal.mirror,
      Rehearsal.messenger false, Pattern.matcher, 777, "@admin", ⟨"FAQ", "lel"⟩⟩
    let q : InlineQuery := ⟨31, 4242, "hi | @a:2 | @me:7 | @b $", ""⟩
    let first : Rehearsal.Log := ⟨["@a"], [⟨"@a", 4242, "hi"⟩], [], []⟩
    Pipeline.Reaches d.provider (d.runner q) (Query.parse q.query) .empty 1 "two" first ∧
      Pipeline.ToItself d.provider (d.runner q) ⟨"@me", "7"⟩ first
        [.resolve "@me" (.ok ⟨777, "@me"⟩)] { first with resolved := ["@a", "@me"] } ∧
      (d.pipeline q .empty).outcome = .ok .selfReference ∧
      ((d.answer q).run .empty).run.1 = ⟨31, [], 0, true, false, some ⟨"FAQ", "lel"⟩⟩ := by
  intro d q first
  have hparse : Query.parse q.query = ⟨"hi", [⟨"@a", "2"⟩, ⟨"@me", "7"⟩, ⟨"@b", ""⟩]⟩ := by decide
  have hon : Pipeline.HandsOn d.provider (d.runner q) ⟨"@a", "2"⟩ "hi" .empty "two" first :=
    Pipeline.handsOn_iff.2 ⟨_, rfl, rfl⟩
  have hreach : Pipeline.Reaches d.provider (d.runner q) (Query.parse q.query) .empty 1 "two" first := by
    rw [hparse]
    exact .next .start rfl (by decide) hon
  have hself : Pipeline.ToItself d.provider (d.runner q) ⟨"@me", "7"⟩ first
      [.resolve "@me" (.ok ⟨777, "@me"⟩)] { first with resolved := ["@a", "@me"] } :=
    .named (by decide) rfl rfl
  obtain ⟨legs, -, hrun, hanswer, -⟩ := (d.never_queries_itself q .empty).2 1 ⟨"@me", "7"⟩ "two"
    first _ _ hreach (by rw [hparse]; rfl) hself
  exact ⟨hreach, hself, by rw [hrun], hanswer⟩

end InlineRelay
