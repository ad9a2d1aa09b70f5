import InlineRelay.Frontend
import InlineRelay.Proofs.Calls

/-!
What a desk does to the outside. A desk that notes its effects works as before; the effects of
answering a query are the calls of its run, a report if that failed, and one or two deliveries.
-/
namespace InlineRelay.Desk

/-- Something a desk does to the outside, and what came of it. -/
inductive Effect
  | asked (call : Provider.Call)
  | delivered (answer : Answer) (outcome : Except Failure Unit)
  | sent (message : Outgoing) (outcome : Except Failure Unit)

section Recording
variable {m : Type → Type} [Monad m]

/-- Do this and note the effect. -/
def noting {α : Type} (effect : α → Effect) (x : m α) : StateT (List Effect) m α := do
  let a ← x
  modify (· ++ [effect a])
  return a

/-- The same desk, keeping a record of its effects. -/
def recorded (d : Desk m) : Desk (StateT (List Effect) m) where
  provider := {
    resolve := fun handle =>
      noting (fun answer => .asked (.resolve handle answer)) (d.provider.resolve handle)
    query := fun bot userId text =>
      noting (fun answer => .asked (.query bot userId text answer))
        (d.provider.query bot userId text) }
  messenger := {
    answer := fun a => noting (.delivered a) (d.messenger.answer a)
    send := fun o => noting (.sent o) (d.messenger.send o) }
  matcher := d.matcher
  selfId := d.selfId
  adminPeer := d.adminPeer
  faq := d.faq

/-- Who runs the pipeline of a query. -/
def runner (d : Desk m) (q : InlineQuery) : Runner := ⟨d.matcher, d.selfId, q.userId⟩

/-- The message that reports a failure to the operator. -/
def reportTo (d : Desk m) (q : InlineQuery) (f : Failure) : Outgoing :=
  .plain (.str d.adminPeer) (reportOn q f)

theorem adminPeer_recorded (d : Desk m) : d.recorded.adminPeer = d.adminPeer := rfl

theorem fallback_recorded (d : Desk m) (q : InlineQuery) : d.recorded.fallback q = d.fallback q :=
  rfl

theorem answerTo_recorded (d : Desk m) (q : InlineQuery) (o : Outcome) :
    d.recorded.answerTo q o = d.answerTo q o := rfl

variable [LawfulMonad m]

theorem run_noting {α : Type} (effect : α → Effect) (x : m α) (effects : List Effect) :
    (noting effect x).run effects = x >>= fun a => pure (a, effects ++ [effect a]) := by
  simp [noting]

theorem notes_provider (d : Desk m) : Pipeline.Notes Effect.asked d.provider d.recorded.provider where
  resolve _ _ := run_noting _ _ _
  query _ _ _ _ := run_noting _ _ _

theorem run_deliver_recorded (d : Desk m) (a : Answer) (effects : List Effect) :
    (d.recorded.messenger.answer a).run effects =
      d.messenger.answer a >>= fun r => pure (r, effects ++ [.delivered a r]) :=
  run_noting _ _ _

theorem run_send_recorded (d : Desk m) (o : Outgoing) (effects : List Effect) :
    (d.recorded.messenger.send o).run effects =
      d.messenger.send o >>= fun r => pure (r, effects ++ [.sent o r]) :=
  run_noting _ _ _

theorem run_report_recorded (d : Desk m) (q : InlineQuery) (f : Failure) (effects : List Effect) :
    (d.recorded.report q f).run effects =
      d.messenger.send (d.reportTo q f) >>= fun r =>
        pure ((), effects ++ [.sent (d.reportTo q f) r]) := by
  simp only [report, StateT.run_bind, run_send_recorded, bind_assoc, pure_bind]
  rfl

/-- Noting effects changes nothing in what a desk answers. -/
theorem fst_run_answer_recorded (d : Desk m) (q : InlineQuery) (effects : List Effect) :
    (d.recorded.answer q).run effects >>= (fun r => pure r.1) = d.answer q := by
  unfold answer
  by_cases hq : q.query.isEmpty
  · simp [hq, fallback_recorded]
  · simp only [if_neg hq, StateT.run_bind, bind_assoc, Pipeline.run,
      d.notes_provider.run_runStages, pure_bind]
    rw [← Pipeline.fst_run_runStages_recorded d.provider _ _ _ [], bind_assoc]
    refine bind_congr fun r => ?_
    rw [pure_bind]
    cases r.1 with
    | ok outcome => simp [answerTo_recorded]
    | error e => simp [report, run_send_recorded, fallback_recorded, adminPeer_recorded]

theorem fst_run_handleQuery_recorded (d : Desk m) (q : InlineQuery) (effects : List Effect) :
    (d.recorded.handleQuery q).run effects >>= (fun r => pure r.1) = d.handleQuery q := by
  unfold handleQuery
  rw [← d.fst_run_answer_recorded q effects]
  simp only [StateT.run_bind, run_deliver_recorded, bind_assoc, pure_bind]
  refine bind_congr fun r => bind_congr fun outcome => ?_
  cases outcome with
  | ok u => simp
  | error f =>
      simp [report, run_send_recorded, run_deliver_recorded, fallback_recorded, adminPeer_recorded]

end Recording

section Watching
variable {σ α β : Type}

/-- Run a recorded action from a record and a state. -/
def play (x : StateT (List Effect) (StateM σ) α) (effects : List Effect) (s : σ) :
    (α × List Effect) × σ :=
  ((x.run effects).run s).run

theorem play_bind (x : StateT (List Effect) (StateM σ) α)
    (f : α → StateT (List Effect) (StateM σ) β) (effects : List Effect) (s : σ) :
    play (x >>= f) effects s =
      play (f (play x effects s).1.1) (play x effects s).1.2 (play x effects s).2 := rfl

theorem play_pure (a : α) (effects : List Effect) (s : σ) :
    play (pure a) effects s = ((a, effects), s) := rfl

/-- The run of the pipeline of a query. -/
def pipeline (d : Desk (StateM σ)) (q : InlineQuery) (s : σ) : Pipeline.Observation σ :=
  Pipeline.observe d.provider (d.runner q) (Query.parse q.query) s

theorem play_pipeline (d : Desk (StateM σ)) (q : InlineQuery) (effects : List Effect) (s : σ) :
    play (Pipeline.run d.recorded.provider (d.runner q) (Query.parse q.query)) effects s =
      (((d.pipeline q s).outcome, effects ++ (d.pipeline q s).calls.map .asked),
        (d.pipeline q s).state) := by
  have h := Pipeline.run_recorded d.provider (d.runner q) (Query.parse q.query) s
  unfold play Pipeline.run at *
  rw [d.notes_provider.run_runStages, StateT.run_bind]
  dsimp only [bind, Id.run] at h ⊢
  rw [h]
  rfl

/-- What comes of a delivery, and the state after it. -/
def deliver (d : Desk (StateM σ)) (a : Answer) (s : σ) : Except Failure Unit × σ :=
  ((d.messenger.answer a).run s).run

theorem play_deliver (d : Desk (StateM σ)) (a : Answer) (effects : List Effect) (s : σ) :
    play (d.recorded.messenger.answer a) effects s =
      (((d.deliver a s).1, effects ++ [.delivered a (d.deliver a s).1]), (d.deliver a s).2) := by
  unfold play
  rw [run_deliver_recorded]
  rfl

/-- What comes of the report of a failure, and the state after it. -/
def tellOperator (d : Desk (StateM σ)) (q : InlineQuery) (f : Failure) (s : σ) :
    Except Failure Unit × σ :=
  ((d.messenger.send (d.reportTo q f)).run s).run

theorem play_report (d : Desk (StateM σ)) (q : InlineQuery) (f : Failure) (effects : List Effect)
    (s : σ) :
    play (d.recorded.report q f) effects s =
      (((), effects ++ [.sent (d.reportTo q f) (d.tellOperator q f s).1]),
        (d.tellOperator q f s).2) := by
  unfold play
  rw [run_report_recorded]
  rfl

/-- What can be seen of a desk at work: the result, the effects in order and the state after. -/
structure Watched (σ α : Type) where
  result : α
  effects : List Effect
  state : σ

/-- Watch a desk do something. -/
def watch (d : Desk (StateM σ))
    (act : Desk (StateT (List Effect) (StateM σ)) → StateT (List Effect) (StateM σ) α) (s : σ) :
    Watched σ α :=
  let r := play (act d.recorded) [] s
  ⟨r.1.1, r.1.2, r.2⟩

theorem watch_answer_of_empty {q : InlineQuery} (d : Desk (StateM σ)) (hq : q.query = "") (s : σ) :
    d.watch (·.answer q) s = ⟨d.fallback q, [], s⟩ := by
  simp [watch, answer, hq, fallback_recorded, play_pure]

/-- The effects of finding an answer are the calls of the run and a report if it fails. -/
theorem watch_answer {q : InlineQuery} (d : Desk (StateM σ)) (hq : q.query ≠ "") (s : σ) :
    d.watch (·.answer q) s =
      let o := d.pipeline q s
      match o.outcome with
      | .ok outcome => ⟨d.answerTo q outcome, o.calls.map .asked, o.state⟩
      | .error e =>
        let r := d.tellOperator q e.failure o.state
        ⟨d.fallback q, o.calls.map .asked ++ [.sent (d.reportTo q e.failure) r.1], r.2⟩ := by
  have hempty : q.query.isEmpty = false := by simpa using hq
  unfold watch answer
  simp only [hempty, Bool.false_eq_true, if_false, play_bind]
  rw [show (⟨d.recorded.matcher, d.recorded.selfId, q.userId⟩ : Runner) = d.runner q from rfl,
    play_pipeline, List.nil_append]
  cases (d.pipeline q s).outcome with
  | ok outcome => rfl
  | error e =>
      simp only [play_bind, play_report, play_pure, fallback_recorded]

theorem watch_answer_of_ok {q : InlineQuery} {d : Desk (StateM σ)} {s : σ} {outcome : Outcome}
    (hq : q.query ≠ "") (h : (d.pipeline q s).outcome = .ok outcome) :
    d.watch (·.answer q) s =
      ⟨d.answerTo q outcome, (d.pipeline q s).calls.map .asked, (d.pipeline q s).state⟩ := by
  simp only [d.watch_answer hq, h]

theorem watch_answer_of_error {q : InlineQuery} {d : Desk (StateM σ)} {s s' : σ}
    {e : PipelineError} {told : Except Failure Unit} (hq : q.query ≠ "")
    (h : (d.pipeline q s).outcome = .error e)
    (htold : d.tellOperator q e.failure (d.pipeline q s).state = (told, s')) :
    d.watch (·.answer q) s = ⟨d.fallback q,
      (d.pipeline q s).calls.map .asked ++ [.sent (d.reportTo q e.failure) told], s'⟩ := by
  simp only [d.watch_answer hq, h, htold]

/-- After the answer is found it is delivered; if that fails, this is reported and the fallback
delivered. -/
theorem watch_handleQuery (d : Desk (StateM σ)) (q : InlineQuery) (s : σ) :
    d.watch (·.handleQuery q) s =
      let w := d.watch (·.answer q) s
      let r := d.deliver w.result w.state
      match r.1 with
      | .ok _ => ⟨(), w.effects ++ [.delivered w.result r.1], r.2⟩
      | .error f =>
        let told := d.tellOperator q f r.2
        let last := d.deliver (d.fallback q) told.2
        ⟨(), w.effects ++ [.delivered w.result r.1, .sent (d.reportTo q f) told.1,
          .delivered (d.fallback q) last.1], last.2⟩ := by
  have hplay : play (d.recorded.answer q) [] s =
      (((d.watch (·.answer q) s).result, (d.watch (·.answer q) s).effects),
        (d.watch (·.answer q) s).state) := rfl
  rw [watch]
  simp only [handleQuery, play_bind, hplay, play_deliver]
  cases hr : (d.deliver (d.watch (·.answer q) s).result (d.watch (·.answer q) s).state).1 with
  | ok u => simp only [play_pure]
  | error f =>
      simp only [play_bind, play_report, play_deliver, play_pure, fallback_recorded,
        List.append_assoc, List.cons_append, List.nil_append]

/-- Handling a query leaves the state in which it is seen to end. -/
theorem run_handleQuery (d : Desk (StateM σ)) (q : InlineQuery) (s : σ) :
    ((d.handleQuery q).run s).run = ((), (d.watch (·.handleQuery q) s).state) := by
  rw [← d.fst_run_handleQuery_recorded q []]
  rfl

theorem watch_handleQuery_of_ok {q : InlineQuery} {d : Desk (StateM σ)} {s s' : σ}
    {w : Watched σ Answer} {u : Unit} (hw : d.watch (·.answer q) s = w)
    (h : d.deliver w.result w.state = (.ok u, s')) :
    d.watch (·.handleQuery q) s = ⟨(), w.effects ++ [.delivered w.result (.ok u)], s'⟩ := by
  simp only [d.watch_handleQuery, hw, h]

theorem watch_handleQuery_of_error {q : InlineQuery} {d : Desk (StateM σ)} {s s₁ s₂ s' : σ}
    {w : Watched σ Answer} {f : Failure} {told last : Except Failure Unit}
    (hw : d.watch (·.answer q) s = w) (h : d.deliver w.result w.state = (.error f, s₁))
    (htold : d.tellOperator q f s₁ = (told, s₂))
    (hlast : d.deliver (d.fallback q) s₂ = (last, s')) :
    d.watch (·.handleQuery q) s = ⟨(), w.effects ++ [.delivered w.result (.error f),
      .sent (d.reportTo q f) told, .delivered (d.fallback q) last], s'⟩ := by
  simp only [d.watch_handleQuery, hw, h, htold, hlast]

end Watching

end InlineRelay.Desk
