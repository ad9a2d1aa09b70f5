import InlineRelay.Provider
import InlineRelay.Query
import InlineRelay.Result.Resubmission

/-!
Running a query. Stages are asked in order, each with the text the one before handed on; the run
ends with the first stage that does not hand a text on.
-/
namespace InlineRelay

inductive PipelineError
  /-- A provider returned a game. -/
  | game (resultId : String)
  /-- A provider could not be resolved or did not answer. -/
  | provider (handle : String) (cause : Failure)
  deriving DecidableEq, Repr

namespace PipelineError

def message : PipelineError → String
  | game id => s!"Games are not supported (result {id})"
  | provider handle _ => s!"Provider {handle} failed"

def failure : PipelineError → Failure
  | e@(game _) => .ofText e.message
  | e@(provider _ cause) => cause.within e.message

end PipelineError

/-- How a run ends. -/
inductive Outcome
  | redirect (button : Redirect)
  | results (results : List Submission) (gallery : Bool)
  /-- A stage addresses the bot itself. -/
  | selfReference
  deriving Repr

/-- What a stage comes to. -/
inductive Step
  | handOn (text : String)
  | results (results : List Candidate) (gallery : Bool)
  | redirect (button : Redirect)
  | selfReference
  deriving Repr

/-- Who runs a query: the patterns understood, the bot and the asking user. -/
structure Runner where
  matcher : Matcher
  selfId : Int
  userId : Int

namespace Pipeline
variable {m : Type → Type} [Monad m]

/-- What a response means for its stage; only a stage with one after it hands a text on. -/
def judge (matcher : Matcher) (selector : String) (isLast : Bool) (r : Response) :
    Except PipelineError Step :=
  match r.redirect with
  | some button => .ok (.redirect button)
  | none =>
    match r.results.find? Candidate.isGame with
    | some g => .error (.game g.id)
    | none =>
      let selection := Selection.select matcher r.results selector
      match if isLast then none else selection.handOff? with
      | some text => .ok (.handOn text)
      | none => .ok (.results selection.toList r.gallery)

def runStage (p : Provider m) (runner : Runner) (stage : Stage) (text : String)
    (isLast : Bool) : m (Except PipelineError Step) := do
  if stage.addressesSelf then return .ok .selfReference
  match ← p.resolve stage.handle with
  | .error f => return .error (.provider stage.handle f)
  | .ok bot =>
    if bot.id = runner.selfId then return .ok .selfReference
    match ← p.query bot runner.userId text with
    | .error f => return .error (.provider stage.handle f)
    | .ok response => return judge runner.matcher stage.selector isLast response

def runStages (p : Provider m) (runner : Runner) :
    List Stage → String → m (Except PipelineError Outcome)
  | [], _ => pure (.ok (.results [] false))
  | stage :: rest, text => do
    match ← runStage p runner stage text rest.isEmpty with
    | .error e => return .error e
    | .ok (.handOn next) => runStages p runner rest next
    | .ok (.redirect button) => return .ok (.redirect button)
    | .ok .selfReference => return .ok .selfReference
    | .ok (.results cs gallery) =>
      match Candidate.submissions cs with
      | .ok submissions => return .ok (.results submissions gallery)
      | .error e => return .error (.game e.resultId)

def run (p : Provider m) (runner : Runner) (q : Query) : m (Except PipelineError Outcome) :=
  runStages p runner q.stages q.text

end Pipeline

end InlineRelay
