import InlineRelay.Proofs.Effects
import Mathlib.Logic.Basic

/-!
Every answer can be submitted: it shows results or it offers a button in their place, never both
and never neither, whatever the bots that were asked and the delivery come to.
-/
namespace InlineRelay

theorem Response.redirect_of_ending {matcher : Matcher} {selector : String} {r : Response}
    {button : Redirect} (h : r.ending matcher selector = .ok (.redirect button)) :
    r.redirect = some button := by
  unfold ending at h
  split at h
  · rename_i b _ hr
    cases h
    exact hr
  · cases h
  · split at h
    · cases h
    · cases h

namespace Pipeline
variable {σ : Type}

/-- A run that ends in a redirect ends with the response that carries it. -/
theorem redirect_of_last_call (p : Provider (StateM σ)) (runner : Runner) (stages : List Stage)
    (text : String) (s : σ) {button : Redirect}
    (h : (observe p runner ⟨text, stages⟩ s).outcome = .ok (.redirect button)) :
    ∃ front bot asked r, (observe p runner ⟨text, stages⟩ s).calls =
      front ++ [.query bot runner.userId asked (.ok r)] ∧ r.redirect = some button := by
  induction stages generalizing text s with
  | nil => cases h
  | cons stage rest ih =>
      rcases hreply : replyTo p runner stage text s with ⟨reply, s₁⟩
      rcases handOff_or_stop reply runner.matcher stage.selector rest with
        ⟨hrest, next, hnext⟩ | hstop
      · rw [observe_of_handOff hrest hreply hnext] at h ⊢
        obtain ⟨front, bot, asked, r, hcalls, hr⟩ := ih next s₁ h
        refine ⟨reply.calls runner.userId stage text ++ front, bot, asked, r, ?_, hr⟩
        simp only [hcalls, List.append_assoc]
      · rw [observe_of_stop hreply hstop] at h ⊢
        cases reply with
        | answered bot r =>
            exact ⟨[.resolve stage.handle (.ok bot)], bot, text, r, rfl,
              Response.redirect_of_ending h⟩
        | _ => cases h

end Pipeline

namespace Answer

/-- What an answer to a query has to be like: for this query, never cached, for the asking user
alone unless nothing was typed, and with results or else with a button. -/
structure Submittable (q : InlineQuery) (a : Answer) : Prop where
  queryId_eq : a.queryId = q.queryId
  cacheTime_eq : a.cacheTime = 0
  personal_iff : a.personal = true ↔ q.query ≠ ""
  shows_or_offers : Xor (a.results ≠ [] ∧ a.redirect = none)
    (a.results = [] ∧ a.gallery = false ∧ a.redirect ≠ none)

/-- A button in place of results. -/
structure Offers (a : Answer) (button : Redirect) : Prop where
  results_eq : a.results = []
  gallery_eq : a.gallery = false
  redirect_eq : a.redirect = some button

variable {q : InlineQuery} {a : Answer}

theorem Offers.submittable {button : Redirect} (h : a.Offers button)
    (hid : a.queryId = q.queryId) (hcache : a.cacheTime = 0)
    (hpersonal : a.personal = true ↔ q.query ≠ "") : a.Submittable q where
  queryId_eq := hid
  cacheTime_eq := hcache
  personal_iff := hpersonal
  shows_or_offers := .inr ⟨⟨h.results_eq, h.gallery_eq, by simp [h.redirect_eq]⟩,
    fun hshows => hshows.1 h.results_eq⟩

end Answer

namespace Desk
variable {m : Type → Type} (d : Desk m) (q : InlineQuery)

theorem fallback_offers : (d.fallback q).Offers d.faq := by
  unfold fallback
  split <;> exact ⟨rfl, rfl, rfl⟩

theorem fallback_submittable : (d.fallback q).Submittable q := by
  refine (d.fallback_offers q).submittable ?_ ?_ ?_
  all_goals unfold fallback
  · split <;> rfl
  · split <;> rfl
  · by_cases hq : q.query = ""
    · simp [hq, Answer.empty, Answer.offering]
    · simp [hq, Answer.asPersonal]

theorem answerTo_submittable (hq : q.query ≠ "") (o : Outcome) : (d.answerTo q o).Submittable q := by
  have hpersonal : true = true ↔ q.query ≠ "" := by simpa using hq
  have hoffers : ∀ button, (((Answer.empty q.queryId).asPersonal).offering button).Submittable q :=
    fun button => Answer.Offers.submittable ⟨rfl, rfl, rfl⟩ rfl rfl hpersonal
  match o with
  | .redirect button => exact hoffers button
  | .selfReference => exact hoffers d.faq
  | .results [] gallery => exact hoffers d.faq
  | .results (s :: ss) gallery =>
      exact ⟨rfl, rfl, hpersonal, .inl ⟨⟨List.cons_ne_nil s ss, rfl⟩, fun h => by cases h.1⟩⟩

theorem answerTo_redirect_offers (button : Redirect) :
    (d.answerTo q (.redirect button)).Offers button := ⟨rfl, rfl, rfl⟩

theorem answerTo_offers {o : Outcome} (hredirect : ∀ button, o ≠ .redirect button)
    (hresults : (d.answerTo q o).results = []) : (d.answerTo q o).Offers d.faq := by
  match o with
  | .redirect button => exact absurd rfl (hredirect button)
  | .selfReference => exact ⟨rfl, rfl, rfl⟩
  | .results [] gallery => exact ⟨rfl, rfl, rfl⟩
  | .results (s :: ss) gallery => cases hresults

/-- The answers handed to the messenger. -/
def handed (effects : List Effect) : List Answer :=
  effects.filterMap fun
    | .delivered a _ => some a
    | _ => none

theorem handed_append (es fs : List Effect) : handed (es ++ fs) = handed es ++ handed fs :=
  List.filterMap_append

theorem handed_asked (calls : List Provider.Call) : handed (calls.map .asked) = [] := by
  simp [handed]

end Desk

namespace Desk
variable {σ : Type}

/-- The answer found does not depend on whether anyone watches. -/
theorem result_watch_answer (d : Desk (StateM σ)) (q : InlineQuery) (s : σ) :
    (d.watch (·.answer q) s).result = ((d.answer q).run s).run.1 := by
  rw [← d.fst_run_answer_recorded q []]
  rfl

/-- Finding an answer delivers none. -/
theorem handed_watch_answer (d : Desk (StateM σ)) (q : InlineQuery) (s : σ) :
    handed (d.watch (·.answer q) s).effects = [] := by
  by_cases hq : q.query = ""
  · rw [d.watch_answer_of_empty hq]
    rfl
  · rw [d.watch_answer hq]
    dsimp only
    cases (d.pipeline q s).outcome with
    | ok o => exact handed_asked _
    | error e => rw [handed_append, handed_asked]; rfl

/-- The answer found is handed over first, and the fallback if that fails. -/
theorem handed_watch_handleQuery (d : Desk (StateM σ)) (q : InlineQuery) (s : σ) :
    let found := (d.watch (·.answer q) s).result
    handed (d.watch (·.handleQuery q) s).effects = [found] ∨
      handed (d.watch (·.handleQuery q) s).effects = [found, d.fallback q] := by
  rw [d.watch_handleQuery]
  dsimp only
  split
  · left
    rw [handed_append, d.handed_watch_answer]
    rfl
  · right
    rw [handed_append, d.handed_watch_answer]
    rfl

/-- Nothing typed is a query without stages. -/
theorem outcome_pipeline_of_empty {q : InlineQuery} (d : Desk (StateM σ)) (hq : q.query = "")
    (s : σ) : (d.pipeline q s).outcome = .ok (.results [] false) := by
  rw [pipeline, hq]
  rfl

/-- The answer found is made of the outcome of the run, or is the fallback. -/
theorem result_watch_answer_eq (d : Desk (StateM σ)) (q : InlineQuery) (s : σ) :
    (d.watch (·.answer q) s).result = d.fallback q ∧
        (∀ button, (d.pipeline q s).outcome ≠ .ok (.redirect button)) ∨
      ∃ o, (d.pipeline q s).outcome = .ok o ∧ q.query ≠ "" ∧
        (d.watch (·.answer q) s).result = d.answerTo q o := by
  by_cases hq : q.query = ""
  · left
    rw [d.watch_answer_of_empty hq, d.outcome_pipeline_of_empty hq]
    exact ⟨rfl, fun _ h => by cases h⟩
  · rw [d.watch_answer hq]
    dsimp only
    cases (d.pipeline q s).outcome with
    | ok o => exact .inr ⟨o, rfl, hq, rfl⟩
    | error e => exact .inl ⟨rfl, fun _ h => by cases h⟩

/-- Whatever the bots that are asked and the messenger do, the answer found can be submitted, and
so can all that are handed to the messenger: that answer and, if there is a second, the fallback,
which offers the FAQ. An answer without results offers the FAQ too, unless the run ended in a
redirect; then it offers the button of the response to the last call. -/
theorem answers_submittable (d : Desk (StateM σ)) (q : InlineQuery) (s : σ) :
    let found := ((d.answer q).run s).run.1
    let all := handed (d.watch (·.handleQuery q) s).effects
    (∀ a ∈ found :: all, a.Submittable q) ∧
    (all = [found] ∨ all = [found, d.fallback q] ∧ (d.fallback q).Offers d.faq) ∧
    (∀ button, (d.pipeline q s).outcome = .ok (.redirect button) → found.Offers button ∧
      ∃ front bot text r, (d.pipeline q s).calls =
        front ++ [.query bot q.userId text (.ok r)] ∧ r.redirect = some button) ∧
    ((¬ ∃ button, (d.pipeline q s).outcome = .ok (.redirect button)) → found.results = [] →
      found.Offers d.faq) := by
  have hfound := d.result_watch_answer_eq q s
  have hall := d.handed_watch_handleQuery q s
  rw [d.result_watch_answer] at hfound hall
  dsimp only at hall ⊢
  generalize ((d.answer q).run s).run.1 = found at *
  have hfit : found.Submittable q := by
    rcases hfound with ⟨rfl, -⟩ | ⟨o, -, hq, rfl⟩
    · exact d.fallback_submittable q
    · exact d.answerTo_submittable q hq o
  refine ⟨?_, hall.imp_right fun h => ⟨h, d.fallback_offers q⟩, fun button hout => ⟨?_, ?_⟩, ?_⟩
  · intro a ha
    have ha : a = found ∨ a = d.fallback q := by
      rcases hall with h | h
      all_goals rw [h] at ha; simp only [List.mem_cons, List.not_mem_nil] at ha; tauto
    rcases ha with rfl | rfl
    · exact hfit
    · exact d.fallback_submittable q
  · rcases hfound with ⟨-, hno⟩ | ⟨o, ho, -, rfl⟩
    · exact absurd hout (hno button)
    · cases ho.symm.trans hout
      exact d.answerTo_redirect_offers q button
  · exact Pipeline.redirect_of_last_call _ _ _ _ _ hout
  · intro hno hresults
    rcases hfound with ⟨rfl, -⟩ | ⟨o, ho, -, rfl⟩
    · exact d.fallback_offers q
    · refine d.answerTo_offers q (fun button hredirect => hno ⟨button, ?_⟩) hresults
      rw [ho, hredirect]

end Desk

namespace Rehearsal

/-- A desk whose last bot redirects and whose answers cannot be delivered. -/
def refused : Desk (StateM Log) where
  provider := provider {
    bots := [("@a", 1), ("@b", 2)]
    responses := [("@a", .ofResults [text "1" "one", text "2" "two"]),
      ("@b", .ofRedirect ⟨"Log in", "auth"⟩)]
    failing := [] }
  messenger := { messenger false with answer := fun _ => pure (.error (.ofText "QUERY_ID_INVALID")) }
  matcher := Pattern.matcher
  selfId := 777
  adminPeer := "@admin"
  faq := ⟨"FAQ", "lel"⟩

end Rehearsal

theorem Desk.answers_submittable_refused :
    let d := Rehearsal.refused
    let q : InlineQuery := ⟨31, 4242, "hi | @a:2 | @b $", ""⟩
    let found := ((d.answer q).run .empty).run.1
    (d.pipeline q .empty).outcome = .ok (.redirect ⟨"Log in", "auth"⟩) ∧
      found.Offers ⟨"Log in", "auth"⟩ ∧
      ∀ a ∈ Desk.handed (d.watch (·.handleQuery q) .empty).effects, a.Submittable q := by
  intro d q found
  obtain ⟨hfit, hall, hredirect, -⟩ := d.answers_submittable q .empty
  have hparse : Query.parse q.query = ⟨"hi", [⟨"@a", "2"⟩, ⟨"@b", ""⟩]⟩ := by decide
  have hout : (d.pipeline q .empty).outcome = .ok (.redirect ⟨"Log in", "auth"⟩) := by
    rw [Desk.pipeline, hparse]
    rfl
  have hmem := fun a ha => hfit a (List.mem_cons_of_mem _ ha)
  exact ⟨hout, (hredirect _ hout).1, hmem⟩

end InlineRelay
