import InlineRelay.Proofs.Selection

/-!
One stage of a run. What its bot replies decides everything: the text the stage has to hand on
and, where none is handed on, how the run ends.
-/
namespace InlineRelay

/-- What a response is to a stage that hands its text on. -/
def Response.handOff? (matcher : Matcher) (selector : String) (r : Response) : Option String :=
  match r.redirect, r.results.find? Candidate.isGame with
  | none, none => (Selection.select matcher r.results selector).handOff?
  | _, _ => none

/-- How a response ends the run of a stage that hands nothing on. -/
def Response.ending (matcher : Matcher) (selector : String) (r : Response) :
    Except PipelineError Outcome :=
  match r.redirect, r.results.find? Candidate.isGame with
  | some button, _ => .ok (.redirect button)
  | none, some g => .error (.game g.id)
  | none, none =>
    match Candidate.submissions (Selection.select matcher r.results selector).toList with
    | .ok submissions => .ok (.results submissions r.gallery)
    | .error e => .error (.game e.resultId)

namespace Response
variable {matcher : Matcher} {selector : String} {r : Response}

theorem find?_isGame_eq_none :
    r.results.find? Candidate.isGame = none ↔ ∀ c ∈ r.results, c.isGame = false := by
  simp

theorem handOff?_eq_some {text : String} :
    r.handOff? matcher selector = some text ↔
      r.redirect = none ∧ (∀ c ∈ r.results, c.isGame = false) ∧
        ∃ c, (Selection.select matcher r.results selector).toList = [c] ∧
          c.body.message.text = some text := by
  unfold handOff?
  rw [← find?_isGame_eq_none]
  cases hr : r.redirect with
  | some button => simp
  | none =>
      cases hg : r.results.find? Candidate.isGame with
      | some g => simp
      | none =>
          simp only [true_and, Selection.handOff?_eq_some]
          refine exists_congr fun c => and_congr_right fun hc => ?_
          have hmem : c ∈ r.results :=
            Selection.toList_select_subset matcher r.results selector (by simp [hc])
          rw [Candidate.message?_of_not_game (find?_isGame_eq_none.1 hg c hmem)]

theorem ending_of_redirect {button : Redirect} (h : r.redirect = some button) :
    r.ending matcher selector = .ok (.redirect button) := by
  simp [ending, h]

theorem ending_of_game {before after : List Candidate} {body : Body .fetched}
    (h : r.redirect = none) (hr : r.results = before ++ .game body :: after)
    (hb : ∀ c ∈ before, c.isGame = false) :
    r.ending matcher selector = .error (.game body.id) := by
  have hg : r.results.find? Candidate.isGame = some (.game body) :=
    List.find?_eq_some_iff_append.2 ⟨rfl, before, after, hr, by simpa using hb⟩
  simp only [ending, h, hg]
  rfl

theorem ending_of_results {results : List Submission} (h : r.redirect = none)
    (hg : ∀ c ∈ r.results, c.isGame = false)
    (hs : Candidate.submissions (Selection.select matcher r.results selector).toList =
      .ok results) :
    r.ending matcher selector = .ok (.results results r.gallery) := by
  simp only [ending, h, find?_isGame_eq_none.2 hg, hs]

/-- What a selector leaves of a response without games can all be submitted. -/
theorem exists_submissions (matcher : Matcher) (selector : String)
    (hg : ∀ c ∈ r.results, c.isGame = false) :
    ∃ ss, Candidate.submissions (Selection.select matcher r.results selector).toList = .ok ss ∧
      List.Forall₂ (fun c s => s.body.message.text = c.message?)
        (Selection.select matcher r.results selector).toList ss :=
  Candidate.exists_submissions fun c hc =>
    hg c (Selection.toList_select_subset matcher r.results selector hc)

end Response

/-- What came of asking the bot of a stage. -/
inductive Reply
  /-- The stage has no handle and nobody was asked. -/
  | unasked
  | unresolved (cause : Failure)
  /-- The handle is the asking bot's own. -/
  | itself (bot : Bot)
  | unanswered (bot : Bot) (cause : Failure)
  | answered (bot : Bot) (response : Response)

namespace Reply

def handOff? (matcher : Matcher) (selector : String) : Reply → Option String
  | answered _ r => r.handOff? matcher selector
  | _ => none

def ending (matcher : Matcher) (stage : Stage) : Reply → Except PipelineError Outcome
  | unasked | itself _ => .ok .selfReference
  | unresolved cause | unanswered _ cause => .error (.provider stage.handle cause)
  | answered _ r => r.ending matcher stage.selector

def step (matcher : Matcher) (stage : Stage) (isLast : Bool) : Reply → Except PipelineError Step
  | unasked | itself _ => .ok .selfReference
  | unresolved cause | unanswered _ cause => .error (.provider stage.handle cause)
  | answered _ r => Pipeline.judge matcher stage.selector isLast r

end Reply

namespace Pipeline
variable {m : Type → Type} [Monad m]

/-- The calls of a stage. -/
def ask (p : Provider m) (runner : Runner) (stage : Stage) (text : String) : m Reply := do
  if stage.addressesSelf then return .unasked
  match ← p.resolve stage.handle with
  | .error f => return .unresolved f
  | .ok bot =>
    if bot.id = runner.selfId then return .itself bot
    match ← p.query bot runner.userId text with
    | .error f => return .unanswered bot f
    | .ok response => return .answered bot response

theorem runStage_eq_ask [LawfulMonad m] (p : Provider m) (runner : Runner) (stage : Stage)
    (text : String) (isLast : Bool) :
    runStage p runner stage text isLast =
      Reply.step runner.matcher stage isLast <$> ask p runner stage text := by
  unfold runStage ask
  split
  · simp [Reply.step]
  · simp only [map_bind]
    refine bind_congr fun answer => ?_
    cases answer with
    | error f => simp [Reply.step]
    | ok bot =>
        dsimp only
        split
        · simp [Reply.step]
        · simp only [map_bind]
          refine bind_congr fun answer => ?_
          cases answer <;> simp [Reply.step]

theorem judge_eq (matcher : Matcher) (selector : String) (isLast : Bool) (r : Response) :
    judge matcher selector isLast r =
      match if isLast then none else r.handOff? matcher selector with
      | some text => .ok (.handOn text)
      | none => judge matcher selector true r := by
  cases isLast with
  | true => rfl
  | false =>
      -- Being last only keeps a stage from handing its text on.
      unfold judge Response.handOff?
      cases r.redirect with
      | some button => rfl
      | none =>
          cases r.results.find? Candidate.isGame with
          | some g => rfl
          | none =>
              dsimp only
              cases (Selection.select matcher r.results selector).handOff? <;> rfl

/-- A run is its first stage's: it goes on with the text handed on, or ends as the reply says. -/
theorem runStages_cons [LawfulMonad m] (p : Provider m) (runner : Runner) (stage : Stage)
    (rest : List Stage) (text : String) :
    runStages p runner (stage :: rest) text =
      ask p runner stage text >>= fun reply =>
        match if rest.isEmpty then none else reply.handOff? runner.matcher stage.selector with
        | some next => runStages p runner rest next
        | none => pure (reply.ending runner.matcher stage) := by
  rw [runStages, runStage_eq_ask, bind_map_left]
  refine bind_congr fun reply => ?_
  cases reply with
  | answered bot r =>
      simp only [Reply.step, Reply.handOff?, Reply.ending]
      rw [judge_eq]
      cases if rest.isEmpty then none else r.handOff? runner.matcher stage.selector with
      | some next => rfl
      | none =>
          unfold judge Response.ending
          cases r.redirect with
          | some button => rfl
          | none =>
              cases r.results.find? Candidate.isGame with
              | some g => rfl
              | none =>
                  simp only [if_true]
                  cases Candidate.submissions
                    (Selection.select runner.matcher r.results stage.selector).toList <;> rfl
  | _ => simp [Reply.step, Reply.handOff?, Reply.ending]

end Pipeline
end InlineRelay
