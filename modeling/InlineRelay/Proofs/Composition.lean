import InlineRelay.Proofs.Calls

/-!
Runs in a row. Whether a run hands a text on can be read off its outcome, so a query with further
stages appended is the run of the first stages, followed by the run of the others on that text.
-/
namespace InlineRelay.Pipeline
variable {σ : Type}

/-- The message of the only result a run ends with. -/
def soleMessage? : Except PipelineError Outcome → Option String
  | .ok (.results [s] _) => s.body.message.text
  | _ => none

theorem soleMessage?_eq_some {o : Except PipelineError Outcome} {text : String} :
    soleMessage? o = some text ↔
      ∃ s gallery, o = .ok (.results [s] gallery) ∧ s.body.message.text = some text := by
  unfold soleMessage?
  split
  · rename_i s gallery
    constructor
    · intro h
      exact ⟨s, gallery, rfl, h⟩
    · rintro ⟨s', gallery', ho, ht⟩
      cases ho
      exact ht
  · rename_i hne
    constructor
    · intro h
      cases h
    · rintro ⟨s, gallery, rfl, -⟩
      exact absurd rfl (hne s gallery)

/-- The results shown have one message exactly where the selection has a text to hand on. -/
theorem soleMessage?_results {selection : Selection} {ss : List Submission} {gallery : Bool}
    (h : List.Forall₂ (fun c s => s.body.message.text = c.message?) selection.toList ss) :
    soleMessage? (.ok (.results ss gallery)) = selection.handOff? := by
  refine Option.ext fun text => ?_
  rw [soleMessage?_eq_some, Selection.handOff?_eq_some]
  constructor
  · rintro ⟨s, g, ho, ht⟩
    cases ho
    obtain ⟨c, cs, hc, hcs, hlist⟩ := List.forall₂_cons_right_iff.1 h
    cases hcs
    exact ⟨c, hlist, hc.symm.trans ht⟩
  · rintro ⟨c, hlist, ht⟩
    rw [hlist] at h
    obtain ⟨s, ss', hs, hss, rfl⟩ := List.forall₂_cons_left_iff.1 h
    cases hss
    exact ⟨s, gallery, rfl, hs.trans ht⟩

/-- A stage that ends a run shows in the outcome the text it would have handed on. -/
theorem soleMessage?_ending (matcher : Matcher) (stage : Stage) (reply : Reply) :
    soleMessage? (reply.ending matcher stage) = reply.handOff? matcher stage.selector := by
  cases reply with
  | answered bot r =>
      change soleMessage? (r.ending matcher stage.selector) = r.handOff? matcher stage.selector
      unfold Response.ending Response.handOff?
      cases r.redirect with
      | some button => rfl
      | none =>
          cases hg : r.results.find? Candidate.isGame with
          | some g => rfl
          | none =>
              obtain ⟨ss, hss, hforall⟩ := Response.exists_submissions matcher stage.selector
                (Response.find?_isGame_eq_none.1 hg)
              simp only [hss]
              exact soleMessage?_results hforall
  | _ => rfl

theorem observe_append (p : Provider (StateM σ)) (runner : Runner) (text : String)
    {front back : List Stage} (hfront : front ≠ []) (hback : back ≠ []) (s : σ) :
    observe p runner ⟨text, front ++ back⟩ s =
      let first := observe p runner ⟨text, front⟩ s
      match soleMessage? first.outcome with
      | some next =>
        let second := observe p runner ⟨next, back⟩ first.state
        { second with calls := first.calls ++ second.calls }
      | none => first := by
  induction front generalizing text s with
  | nil => exact absurd rfl hfront
  | cons stage rest ih =>
      rcases hreply : replyTo p runner stage text s with ⟨reply, s₁⟩
      have happend : rest ++ back ≠ [] := List.append_ne_nil_of_right_ne_nil rest hback
      rw [List.cons_append]
      rcases handOff_or_stop reply runner.matcher stage.selector rest with
        ⟨hrest, next, hnext⟩ | hstop
      · rw [observe_of_handOff happend hreply hnext, observe_of_handOff hrest hreply hnext,
          ih next hrest s₁]
        generalize observe p runner ⟨next, rest⟩ s₁ = first
        dsimp only
        cases soleMessage? first.outcome with
        | none => rfl
        | some t => simp only [List.append_assoc]
      · -- The front stops here, and what its outcome shows is what the stage now has to hand on.
        rw [observe_of_stop hreply hstop]
        dsimp only
        rw [soleMessage?_ending]
        cases hnext : reply.handOff? runner.matcher stage.selector with
        | none => exact observe_of_stop hreply fun _ => hnext
        | some next =>
            cases rest with
            | nil => exact observe_of_handOff hback hreply hnext
            | cons stage' rest => cases hnext.symm.trans (hstop (List.cons_ne_nil stage' rest))

/-- Runs compose. If the run of the first stages ends with one result that has a message, the
others run on that message from where the first run left the provider; if it ends in any other
way, that is the end, whatever the other stages are. -/
theorem run_append (p : Provider (StateM σ)) (runner : Runner) (text : String)
    {front back : List Stage} (hfront : front ≠ []) (hback : back ≠ []) (s : σ) :
    let first := observe p runner ⟨text, front⟩ s
    (∀ result gallery next, first.outcome = .ok (.results [result] gallery) →
      result.body.message.text = some next →
      let second := observe p runner ⟨next, back⟩ first.state
      observe p runner ⟨text, front ++ back⟩ s =
        ⟨second.outcome, first.calls ++ second.calls, second.state⟩) ∧
    ((¬ ∃ result gallery next, first.outcome = .ok (.results [result] gallery) ∧
        result.body.message.text = some next) →
      observe p runner ⟨text, front ++ back⟩ s = first) := by
  dsimp only
  rw [observe_append p runner text hfront hback s]
  constructor
  · intro result gallery next hout htext
    have hsole := soleMessage?_eq_some.2 ⟨result, gallery, hout, htext⟩
    simp only [hsole]
  · intro hnone
    cases hsole : soleMessage? (observe p runner ⟨text, front⟩ s).outcome with
    | none => simp only [hsole]
    | some next =>
        obtain ⟨result, gallery, hout, htext⟩ := soleMessage?_eq_some.1 hsole
        exact absurd ⟨result, gallery, next, hout, htext⟩ hnone

theorem run_append_duo :
    let p := Rehearsal.provider Rehearsal.duo
    let front : List Stage := [⟨"@a", "2"⟩]
    let back : List Stage := [⟨"@b", ""⟩]
    let first := observe p Rehearsal.runner ⟨"hi", front⟩ .empty
    let second := observe p Rehearsal.runner ⟨"two", back⟩ first.state
    front ≠ [] ∧ back ≠ [] ∧ soleMessage? first.outcome = some "two" ∧
      observe p Rehearsal.runner ⟨"hi", front ++ back⟩ .empty =
        ⟨second.outcome, first.calls ++ second.calls, second.state⟩ ∧
      observe p Rehearsal.runner ⟨"hi", back ++ front⟩ .empty =
        observe p Rehearsal.runner ⟨"hi", back⟩ .empty := by
  have ha : ([⟨"@a", "2"⟩] : List Stage) ≠ [] := by decide
  have hb : ([⟨"@b", ""⟩] : List Stage) ≠ [] := by decide
  have hfirst := run_append (Rehearsal.provider Rehearsal.duo) Rehearsal.runner "hi" ha hb .empty
  have hother := run_append (Rehearsal.provider Rehearsal.duo) Rehearsal.runner "hi" hb ha .empty
  refine ⟨ha, hb, rfl, hfirst.1 _ _ "two" rfl rfl, hother.2 ?_⟩
  rintro ⟨result, gallery, next, hout, -⟩
  cases hout

end InlineRelay.Pipeline
