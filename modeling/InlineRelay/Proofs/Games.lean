import InlineRelay.Proofs.Machine

/-!
Games are never submitted. Only a game keeps results from being submitted, and a run looks for
games in the whole response before anything is picked from it, so that what it submits never has one.
-/
namespace InlineRelay

namespace Candidate

/-! ### What can be submitted -/

/-- The first game among results, by the id of its body. -/
def FirstGame (cs : List Candidate) (id : String) : Prop :=
  ∃ before body after, cs = before ++ .game body :: after ∧
    (∀ c ∈ before, c.isGame = false) ∧ body.id = id

/-- What stays as it is when a body is brought into the other form. -/
structure KeptIn (b : Body .fetched) (b' : Body .submitted) : Prop where
  id_eq : b'.id = b.id
  kind_eq : b'.kind = b.kind
  text_eq : b'.message.text = b.message.text

/-- A result and its submission, by the medium. No submission is of a game. -/
inductive SubmittedAs : Candidate → Submission → Prop
  | text {b b'} : KeptIn b b' → SubmittedAs (.text b) (.text b')
  | photo {b b'} : KeptIn b b' → SubmittedAs (.photo b) (.photo b')
  | document {b b'} : KeptIn b b' → SubmittedAs (.document b) (.document b')

variable {c : Candidate} {cs : List Candidate} {s : Submission} {ss : List Submission}
  {e : GameError}

theorem keptIn_submitted (b : Body .fetched) : KeptIn b b.submitted := ⟨rfl, rfl, rfl⟩

theorem submittedAs_of_submission (h : c.submission = .ok s) : SubmittedAs c s := by
  cases c with
  | text b =>
      cases h
      exact .text (keptIn_submitted b)
  | photo b =>
      cases h
      exact .photo (keptIn_submitted b)
  | document b =>
      cases h
      exact .document (keptIn_submitted b)
  | game b => cases h

theorem SubmittedAs.isGame_eq_false (h : SubmittedAs c s) : c.isGame = false := by
  cases h <;> rfl

theorem submission_eq_error :
    c.submission = .error e ↔ ∃ body, c = .game body ∧ body.id = e.resultId := by
  cases c with
  | text b | photo b | document b => simp [submission]
  | game b =>
      obtain ⟨id⟩ := e
      simp [submission]

theorem exists_submission_iff : (∃ s, c.submission = .ok s) ↔ c.isGame = false := by
  constructor
  · rintro ⟨s, hs⟩
    exact (submittedAs_of_submission hs).isGame_eq_false
  · intro h
    obtain ⟨s, hs, -⟩ := exists_submission h
    exact ⟨s, hs⟩

theorem submittedAs_of_submissions (h : submissions cs = .ok ss) :
    List.Forall₂ SubmittedAs cs ss :=
  (submissions_eq_ok.1 h).imp fun _ _ => submittedAs_of_submission

theorem exists_submissions_iff : (∃ ss, submissions cs = .ok ss) ↔ ∀ c ∈ cs, c.isGame = false := by
  constructor
  · rintro ⟨ss, hss⟩
    have hall := submittedAs_of_submissions hss
    clear hss
    induction hall with
    | nil => exact fun _ hc => absurd hc List.not_mem_nil
    | cons hc _ ih => exact List.forall_mem_cons.2 ⟨hc.isGame_eq_false, ih⟩
  · intro h
    obtain ⟨ss, hss, -⟩ := exists_submissions h
    exact ⟨ss, hss⟩

/-- The error names the first game, wherever it stands. -/
theorem submissions_eq_error : submissions cs = .error e ↔ FirstGame cs e.resultId := by
  unfold submissions FirstGame
  rw [mapM_eq_error]
  simp only [exists_submission_iff, submission_eq_error]
  constructor
  · rintro ⟨before, _, after, hcs, hbefore, body, rfl, hid⟩
    exact ⟨before, body, after, hcs, hbefore, hid⟩
  · rintro ⟨before, body, after, hcs, hbefore, hid⟩
    exact ⟨before, _, after, hcs, hbefore, body, rfl, hid⟩

end Candidate

/-! ### What a run submits -/

/-- A response without a redirect that has a game among its results, wherever it stands. -/
structure Response.OffersGame (r : Response) (id : String) : Prop where
  redirect_eq : r.redirect = none
  game : Candidate.FirstGame r.results id

namespace Pipeline

/-- What a stage shows is part of a response that was looked through for games. -/
theorem no_game_of_judge {matcher : Matcher} {selector : String} {isLast : Bool} {r : Response}
    {cs : List Candidate} {gallery : Bool}
    (h : judge matcher selector isLast r = .ok (.results cs gallery)) :
    ∀ c ∈ cs, c.isGame = false := by
  unfold judge at h
  split at h
  · cases h
  · split at h
    · cases h
    · next hgame =>
      dsimp only at h
      split at h
      · cases h
      · cases h
        intro c hc
        have hmem := Selection.toList_select_subset matcher r.results selector hc
        exact Response.find?_isGame_eq_none.1 hgame c hmem

theorem no_game_of_step {matcher : Matcher} {stage : Stage} {isLast : Bool} {reply : Reply}
    {cs : List Candidate} {gallery : Bool}
    (h : reply.step matcher stage isLast = .ok (.results cs gallery)) :
    ∀ c ∈ cs, c.isGame = false := by
  cases reply with
  | answered bot r => exact no_game_of_judge h
  | unasked | unresolved | itself | unanswered => cases h

section Submitting
variable {m : Type → Type} [Monad m]

/-- A run that submits results in a way of its own. -/
def runStagesBy (submit : List Candidate → m (Except GameError (List Submission)))
    (p : Provider m) (runner : Runner) :
    List Stage → String → m (Except PipelineError Outcome)
  | [], _ => pure (.ok (.results [] false))
  | stage :: rest, text => do
    match ← runStage p runner stage text rest.isEmpty with
    | .error e => return .error e
    | .ok (.handOn next) => runStagesBy submit p runner rest next
    | .ok (.redirect button) => return .ok (.redirect button)
    | .ok .selfReference => return .ok .selfReference
    | .ok (.results cs gallery) =>
      match ← submit cs with
      | .ok submissions => return .ok (.results submissions gallery)
      | .error e => return .error (.game e.resultId)

/-- The run of a query that submits results in a way of its own. -/
def runBy (submit : List Candidate → m (Except GameError (List Submission))) (p : Provider m)
    (runner : Runner) (q : Query) : m (Except PipelineError Outcome) :=
  runStagesBy submit p runner q.stages q.text

variable [LawfulMonad m] {submit submit' : List Candidate → m (Except GameError (List Submission))}

theorem runStagesBy_submissions (p : Provider m) (runner : Runner) (stages : List Stage)
    (text : String) :
    runStagesBy (fun cs => pure (Candidate.submissions cs)) p runner stages text =
      runStages p runner stages text := by
  induction stages generalizing text with
  | nil => rfl
  | cons stage rest ih =>
      rw [runStagesBy, runStages]
      refine bind_congr fun step => ?_
      cases step with
      | error e => rfl
      | ok step =>
          cases step with
          | handOn next => exact ih next
          | redirect | selfReference => rfl
          | results cs gallery => exact pure_bind _ _

/-- Only lists without games are ever to be submitted. -/
theorem runStagesBy_congr (h : ∀ cs, (∀ c ∈ cs, c.isGame = false) → submit cs = submit' cs)
    (p : Provider m) (runner : Runner) (stages : List Stage) (text : String) :
    runStagesBy submit p runner stages text = runStagesBy submit' p runner stages text := by
  induction stages generalizing text with
  | nil => rfl
  | cons stage rest ih =>
      rw [runStagesBy, runStagesBy, runStage_eq_ask, bind_map_left, bind_map_left]
      refine bind_congr fun reply => ?_
      cases hstep : reply.step runner.matcher stage rest.isEmpty with
      | error e => rfl
      | ok step =>
          cases step with
          | handOn next => exact ih next
          | redirect | selfReference => rfl
          | results cs gallery =>
              dsimp only
              rw [h cs (no_game_of_step hstep)]

end Submitting

section Errors
variable {σ : Type} {p : Provider (StateM σ)} {runner : Runner} {stage : Stage} {text : String}
  {s : σ} {id : String}

/-- The terminal stage decides the outcome. -/
theorem Terminal.outcome_iff {q : Query} {k : Nat} {sₖ : σ} {o : Except PipelineError Outcome}
    (h : Terminal p runner q s k stage text sₖ) :
    (observe p runner q s).outcome = o ↔ Decides p runner stage text sₖ o := by
  have hstages : q.stages ≠ [] := by
    intro hnil
    cases (hnil ▸ h.stage_eq : [][k]? = some stage)
  obtain ⟨_, _, _, _, hterm, hout⟩ := exists_terminal p runner q.text hstages s
  obtain ⟨rfl, rfl, rfl, rfl⟩ := h.unique hterm
  rw [decides_iff, ← hout]

theorem decides_game_iff : Decides p runner stage text s (.error (.game id)) ↔
    ∃ bot r s', Asked p runner stage text s (.answered bot r) s' ∧ r.OffersGame id := by
  constructor
  · intro h
    generalize ho : (Except.error (PipelineError.game id) : Except PipelineError Outcome) = o at h
    cases h with
    | nameless | unresolved | itself | unanswered | redirected | shown => cases ho
    | game hasked hredirect hresults hbefore =>
        cases ho
        exact ⟨_, _, _, hasked, hredirect, _, _, _, hresults, hbefore, rfl⟩
  · rintro ⟨bot, r, s', hasked, hredirect, before, body, after, hresults, hbefore, rfl⟩
    exact .game hasked hredirect hresults hbefore

end Errors

/-- Results can be submitted just if there is no game among them; then each stays what it is, in its
place, and otherwise the error names the first game. A run never comes to submit a list with a game:
however such a list were dealt with, the run would be the same. So a run that fails for a game does so
for the first one in the response to its terminal stage, which offers no redirect, whatever the
selector of the stage would pick. -/
theorem games_never_submitted :
    (∀ cs, (∃ ss, Candidate.submissions cs = .ok ss) ↔ ∀ c ∈ cs, c.isGame = false) ∧
    (∀ cs ss, Candidate.submissions cs = .ok ss → List.Forall₂ Candidate.SubmittedAs cs ss) ∧
    (∀ cs e, Candidate.submissions cs = .error e ↔ Candidate.FirstGame cs e.resultId) ∧
    (∀ (m : Type → Type) [Monad m] [LawfulMonad m] (p : Provider m) (runner : Runner) (q : Query)
      (submit : List Candidate → m (Except GameError (List Submission))),
      (∀ cs, (∀ c ∈ cs, c.isGame = false) → submit cs = pure (Candidate.submissions cs)) →
      runBy submit p runner q = run p runner q) ∧
    ∀ (σ : Type) (p : Provider (StateM σ)) (runner : Runner) (q : Query) (s : σ) (id : String),
      (observe p runner q s).outcome = .error (.game id) ↔
        ∃ k stage text sₖ bot r s', Terminal p runner q s k stage text sₖ ∧
          Asked p runner stage text sₖ (.answered bot r) s' ∧ r.OffersGame id := by
  refine ⟨fun cs => Candidate.exists_submissions_iff,
    fun cs ss => Candidate.submittedAs_of_submissions,
    fun cs e => Candidate.submissions_eq_error, ?_, ?_⟩
  · intro m _ _ p runner q submit hsubmit
    calc runBy submit p runner q
        = runBy (fun cs => pure (Candidate.submissions cs)) p runner q :=
          runStagesBy_congr hsubmit p runner q.stages q.text
      _ = run p runner q := runStagesBy_submissions p runner q.stages q.text
  · intro σ p runner q s id
    constructor
    · intro hout
      have hstages : q.stages ≠ [] := by
        intro hnil
        rw [show q = ⟨q.text, []⟩ by rw [← hnil], observe_nil] at hout
        cases hout
      obtain ⟨k, stage, text, sₖ, hterm, -⟩ := exists_terminal p runner q.text hstages s
      obtain ⟨bot, r, s', hasked, hgame⟩ := decides_game_iff.1 (hterm.outcome_iff.1 hout)
      exact ⟨k, stage, text, sₖ, bot, r, s', hterm, hasked, hgame⟩
    · rintro ⟨k, stage, text, sₖ, bot, r, s', hterm, hasked, hgame⟩
      exact hterm.outcome_iff.2 (decides_game_iff.2 ⟨bot, r, s', hasked, hgame⟩)

/-- A position picks the text before a game, and the run fails all the same. -/
theorem games_never_submitted_unpicked :
    let results := [Rehearsal.text "t" "x", Rehearsal.game "g"]
    let p := Rehearsal.provider (Rehearsal.Cast.empty.withResponse "@games" (.ofResults results))
    let q : Query := ⟨"hi", [⟨"@games", "1"⟩]⟩
    (Selection.select Rehearsal.runner.matcher results "1").toList = [Rehearsal.text "t" "x"] ∧
      (observe p Rehearsal.runner q .empty).outcome = .error (.game "g") := by
  intro results p q
  have hterm : Terminal p Rehearsal.runner q .empty 0 ⟨"@games", "1"⟩ "hi" .empty := {
    reached := .start
    stage_eq := rfl
    stays := fun hlt => absurd hlt (by decide) }
  have hasked : Asked p Rehearsal.runner ⟨"@games", "1"⟩ "hi" .empty
      (.answered ⟨1000, "@games"⟩ (.ofResults results))
      ⟨["@games"], [⟨"@games", 4242, "hi"⟩], [], []⟩ := asked_iff.2 rfl
  have hgame : (Response.ofResults results).OffersGame "g" :=
    ⟨rfl, [Rehearsal.text "t" "x"], _, [], rfl, List.forall_mem_singleton.2 rfl, rfl⟩
  obtain ⟨-, -, -, -, hruns⟩ := games_never_submitted
  exact ⟨rfl, (hruns _ p Rehearsal.runner q .empty "g").2
    ⟨0, _, _, _, _, _, _, hterm, hasked, hgame⟩⟩

end Pipeline

end InlineRelay
