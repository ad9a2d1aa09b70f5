import InlineRelay.Pattern.Matcher
import InlineRelay.Proofs.Stage
import InlineRelay.Rehearsal

/-!
The calls of a run. A provider that records what it is asked leaves the run as it is; what can
be seen of a run is its outcome, its calls and the state it leaves the provider in.
-/
namespace InlineRelay

/-- A call to a provider and what came of it. -/
inductive Provider.Call
  | resolve (handle : String) (answer : Except Failure Bot)
  | query (bot : Bot) (userId : Int) (text : String) (answer : Except Failure Response)

/-- The same provider, keeping a record of its calls. -/
def Provider.recorded {m : Type → Type} [Monad m] (p : Provider m) :
    Provider (StateT (List Provider.Call) m) where
  resolve handle := do
    let answer ← p.resolve handle
    modify (· ++ [.resolve handle answer])
    return answer
  query bot userId text := do
    let answer ← p.query bot userId text
    modify (· ++ [.query bot userId text answer])
    return answer

/-- The calls behind a reply to a stage. -/
def Reply.calls (userId : Int) (stage : Stage) (text : String) : Reply → List Provider.Call
  | unasked => []
  | unresolved cause => [.resolve stage.handle (.error cause)]
  | itself bot => [.resolve stage.handle (.ok bot)]
  | unanswered bot cause =>
    [.resolve stage.handle (.ok bot), .query bot userId text (.error cause)]
  | answered bot r => [.resolve stage.handle (.ok bot), .query bot userId text (.ok r)]

namespace Pipeline

section Recording
variable {m : Type → Type} [Monad m] [LawfulMonad m]

/-- A provider that makes the calls of another and adds a note on each to a record. -/
structure Notes {ε : Type} (note : Provider.Call → ε) (p : Provider m)
    (noting : Provider (StateT (List ε) m)) : Prop where
  resolve : ∀ handle record, (noting.resolve handle).run record =
    p.resolve handle >>= fun answer => pure (answer, record ++ [note (.resolve handle answer)])
  query : ∀ bot userId text record, (noting.query bot userId text).run record =
    p.query bot userId text >>= fun answer =>
      pure (answer, record ++ [note (.query bot userId text answer)])

theorem notes_recorded (p : Provider m) : Notes id p p.recorded where
  resolve handle record := by simp [Provider.recorded]
  query bot userId text record := by simp [Provider.recorded]

section Noting
variable {ε : Type} {note : Provider.Call → ε} {p : Provider m}
  {noting : Provider (StateT (List ε) m)}

theorem Notes.run_ask (h : Notes note p noting) (runner : Runner) (stage : Stage) (text : String)
    (record : List ε) :
    (ask noting runner stage text).run record =
      ask p runner stage text >>= fun reply =>
        pure (reply, record ++ (reply.calls runner.userId stage text).map note) := by
  unfold ask
  split
  · simp [Reply.calls]
  · simp only [StateT.run_bind, h.resolve, bind_assoc, pure_bind]
    refine bind_congr fun answer => ?_
    cases answer with
    | error f => simp [Reply.calls]
    | ok bot =>
        dsimp only
        split
        · simp [Reply.calls]
        · simp only [StateT.run_bind, h.query, bind_assoc, pure_bind]
          refine bind_congr fun answer => ?_
          cases answer <;> simp [Reply.calls]

theorem Notes.run_runStages_cons (h : Notes note p noting) (runner : Runner) (stage : Stage)
    (rest : List Stage) (text : String) (record : List ε) :
    (runStages noting runner (stage :: rest) text).run record =
      ask p runner stage text >>= fun reply =>
        match if rest.isEmpty then none else reply.handOff? runner.matcher stage.selector with
        | some next =>
          (runStages noting runner rest next).run
            (record ++ (reply.calls runner.userId stage text).map note)
        | none =>
          pure (reply.ending runner.matcher stage,
            record ++ (reply.calls runner.userId stage text).map note) := by
  rw [runStages_cons, StateT.run_bind, h.run_ask, bind_assoc]
  refine bind_congr fun reply => ?_
  rw [pure_bind]
  cases if rest.isEmpty then none else reply.handOff? runner.matcher stage.selector <;> rfl

end Noting

theorem run_runStages_recorded_cons (p : Provider m) (runner : Runner) (stage : Stage)
    (rest : List Stage) (text : String) (calls : List Provider.Call) :
    (runStages p.recorded runner (stage :: rest) text).run calls =
      ask p runner stage text >>= fun reply =>
        match if rest.isEmpty then none else reply.handOff? runner.matcher stage.selector with
        | some next =>
          (runStages p.recorded runner rest next).run
            (calls ++ reply.calls runner.userId stage text)
        | none =>
          pure (reply.ending runner.matcher stage,
            calls ++ reply.calls runner.userId stage text) := by
  simpa only [List.map_id] using (notes_recorded p).run_runStages_cons runner stage rest text calls

/-- The record is only added to, with a note on each call of the run. -/
theorem Notes.run_runStages {ε : Type} {note : Provider.Call → ε} {p : Provider m}
    {noting : Provider (StateT (List ε) m)} (h : Notes note p noting) (runner : Runner)
    (stages : List Stage) (text : String) (record : List ε) :
    (runStages noting runner stages text).run record =
      (runStages p.recorded runner stages text).run [] >>= fun r =>
        pure (r.1, record ++ r.2.map note) := by
  -- Along with the record that starts empty, for any calls it may hold by then.
  suffices hcalls : ∀ calls, (runStages noting runner stages text).run
      (record ++ calls.map note) = (runStages p.recorded runner stages text).run calls >>= fun r =>
        pure (r.1, record ++ r.2.map note) by
    simpa using hcalls []
  induction stages generalizing text with
  | nil => simp [runStages]
  | cons stage rest ih =>
      intro calls
      rw [h.run_runStages_cons, run_runStages_recorded_cons, bind_assoc]
      refine bind_congr fun reply => ?_
      rw [List.append_assoc, ← List.map_append]
      cases if rest.isEmpty then none else reply.handOff? runner.matcher stage.selector with
      | none => simp
      | some next => exact ih next _

theorem run_runStages_recorded (p : Provider m) (runner : Runner) (stages : List Stage)
    (text : String) (calls : List Provider.Call) :
    (runStages p.recorded runner stages text).run calls =
      (runStages p.recorded runner stages text).run [] >>= fun r => pure (r.1, calls ++ r.2) := by
  simpa only [List.map_id] using (notes_recorded p).run_runStages runner stages text calls

/-- Recording changes nothing in a run. -/
theorem fst_run_runStages_recorded (p : Provider m) (runner : Runner) (stages : List Stage)
    (text : String) (calls : List Provider.Call) :
    (runStages p.recorded runner stages text).run calls >>= (fun r => pure r.1) =
      runStages p runner stages text := by
  induction stages generalizing text calls with
  | nil => simp [runStages]
  | cons stage rest ih =>
      rw [run_runStages_recorded_cons, runStages_cons, bind_assoc]
      refine bind_congr fun reply => ?_
      cases if rest.isEmpty then none else reply.handOff? runner.matcher stage.selector with
      | none => simp
      | some next => exact ih next _

end Recording

/-- What can be seen of a run: its outcome, its calls and the state it leaves the provider in. -/
structure Observation (σ : Type) where
  outcome : Except PipelineError Outcome
  calls : List Provider.Call
  state : σ

variable {σ : Type}

/-- A run of a query by a provider whose answers depend on a state of its own. -/
def observe (p : Provider (StateM σ)) (runner : Runner) (q : Query) (s : σ) : Observation σ where
  outcome := (Id.run ((run p runner q).run s)).1
  calls := (Id.run (((run p.recorded runner q).run []).run s)).1.2
  state := (Id.run ((run p runner q).run s)).2

/-- The recorded run is the run that is observed, with the calls observed. -/
theorem run_recorded (p : Provider (StateM σ)) (runner : Runner) (q : Query) (s : σ) :
    Id.run (((run p.recorded runner q).run []).run s) =
      (((observe p runner q s).outcome, (observe p runner q s).calls),
        (observe p runner q s).state) := by
  have h := fst_run_runStages_recorded p runner q.stages q.text []
  unfold observe run
  rw [← h]
  rfl

/-- The reply to a stage and the state after it. -/
def replyTo (p : Provider (StateM σ)) (runner : Runner) (stage : Stage) (text : String) (s : σ) :
    Reply × σ :=
  Id.run ((ask p runner stage text).run s)

theorem observe_nil (p : Provider (StateM σ)) (runner : Runner) (text : String) (s : σ) :
    observe p runner ⟨text, []⟩ s = ⟨.ok (.results [] false), [], s⟩ := rfl

theorem observe_cons (p : Provider (StateM σ)) (runner : Runner) (stage : Stage)
    (rest : List Stage) (text : String) (s : σ) :
    observe p runner ⟨text, stage :: rest⟩ s =
      let (reply, s') := replyTo p runner stage text s
      match if rest.isEmpty then none else reply.handOff? runner.matcher stage.selector with
      | some next =>
        let o := observe p runner ⟨next, rest⟩ s'
        { o with calls := reply.calls runner.userId stage text ++ o.calls }
      | none =>
        ⟨reply.ending runner.matcher stage, reply.calls runner.userId stage text, s'⟩ := by
  unfold observe replyTo run
  rw [run_runStages_recorded_cons, runStages_cons p, StateT.run_bind, StateT.run_bind]
  rcases (ask p runner stage text).run s with ⟨reply, s'⟩
  dsimp only [bind, Id.run]
  cases if rest.isEmpty then none else reply.handOff? runner.matcher stage.selector with
  | none => rfl
  | some next =>
      dsimp only
      rw [run_runStages_recorded]
      rfl

section Cases
variable {p : Provider (StateM σ)} {runner : Runner} {stage : Stage} {rest : List Stage}
  {text next : String} {s s' : σ} {reply : Reply}

theorem observe_of_handOff (hrest : rest ≠ [])
    (hreply : replyTo p runner stage text s = (reply, s'))
    (hnext : reply.handOff? runner.matcher stage.selector = some next) :
    observe p runner ⟨text, stage :: rest⟩ s =
      { observe p runner ⟨next, rest⟩ s' with
        calls := reply.calls runner.userId stage text ++
          (observe p runner ⟨next, rest⟩ s').calls } := by
  have hempty : rest.isEmpty = false := List.isEmpty_eq_false_iff.2 hrest
  simp [observe_cons, hreply, hempty, hnext]

theorem observe_of_stop (hreply : replyTo p runner stage text s = (reply, s'))
    (hstop : rest ≠ [] → reply.handOff? runner.matcher stage.selector = none) :
    observe p runner ⟨text, stage :: rest⟩ s =
      ⟨reply.ending runner.matcher stage, reply.calls runner.userId stage text, s'⟩ := by
  cases rest with
  | nil => simp [observe_cons, hreply]
  | cons stage' rest => simp [observe_cons, hreply, hstop (List.cons_ne_nil stage' rest)]

/-- A stage hands its text on to the next, or the run stops with it. -/
theorem handOff_or_stop (reply : Reply) (matcher : Matcher) (selector : String)
    (rest : List Stage) :
    (rest ≠ [] ∧ ∃ next, reply.handOff? matcher selector = some next) ∨
      (rest ≠ [] → reply.handOff? matcher selector = none) := by
  cases h : reply.handOff? matcher selector with
  | none => exact .inr fun _ => rfl
  | some next =>
      by_cases hrest : rest = []
      · exact .inr fun hne => absurd hrest hne
      · exact .inl ⟨hrest, next, rfl⟩

end Cases

end Pipeline

namespace Rehearsal

/-- Two bots: texts to pick from, and results to show. -/
def duo : Cast :=
  (Cast.empty.withResponse "@a" (.ofResults [text "1" "one", text "2" "two"])).withResponse "@b"
    (.ofResults [text "3" "three", photo "4" none])

def runner : Runner := ⟨Pattern.matcher, 777, 4242⟩

end Rehearsal
end InlineRelay
