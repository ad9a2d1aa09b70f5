import InlineRelay.Pipeline
import InlineRelay.Proofs.Success

/-!
What a selector leaves of a response, and which results can be submitted. A game is never among
the results of a response without games, and only games cannot be submitted.
-/
namespace InlineRelay

namespace Selection
variable {cs : List Candidate}

theorem toList_nth_subset (cs : List Candidate) (digits : List Char) :
    (nth cs digits).toList ⊆ cs := by
  unfold nth
  split
  · rename_i c hc
    obtain ⟨i, -, hi⟩ := Option.bind_eq_some_iff.1 hc
    exact List.cons_subset.2 ⟨List.mem_of_getElem? hi, List.nil_subset cs⟩
  · exact List.nil_subset cs

theorem firstMatch_eq_find? (cs : List Candidate) (isMatch : String → Bool) :
    firstMatch cs isMatch = match cs.find? fun c => c.message?.any isMatch with
      | some c => one c
      | none => all cs := by
  rw [List.find?_eq_map_findFinIdx?_getElem]
  unfold firstMatch
  cases cs.findFinIdx? fun c => c.message?.any isMatch <;> rfl

theorem toList_firstMatch_subset (cs : List Candidate) (isMatch : String → Bool) :
    (firstMatch cs isMatch).toList ⊆ cs := by
  rw [firstMatch_eq_find?]
  split
  · rename_i c hc
    exact List.cons_subset.2 ⟨List.mem_of_find?_eq_some hc, List.nil_subset cs⟩
  · exact List.Subset.refl cs

theorem toList_select_subset (matcher : Matcher) (cs : List Candidate) (selector : String) :
    (select matcher cs selector).toList ⊆ cs := by
  unfold select
  split
  · exact toList_nth_subset cs _
  · split
    · exact List.Subset.refl cs
    · split
      · exact toList_firstMatch_subset cs _
      · exact List.Subset.refl cs

/-- A text is handed on just when one result is left and has a message. -/
theorem handOff?_eq_some {s : Selection} {text : String} :
    s.handOff? = some text ↔ ∃ c, s.toList = [c] ∧ c.message? = some text := by
  cases s with
  | one c => simp [handOff?, toList]
  | empty => simp [handOff?, toList]
  | all cs =>
      match cs with
      | [] => simp [handOff?, toList]
      | [c] => simp [handOff?, toList]
      | c :: d :: cs => simp [handOff?, toList]

end Selection

namespace Candidate

theorem message?_of_not_game {c : Candidate} (h : c.isGame = false) :
    c.message? = c.body.message.text := by
  cases c with
  | game b => cases h
  | _ => rfl

/-- A candidate that is no game is submitted with its body in the other form. -/
theorem exists_submission {c : Candidate} (h : c.isGame = false) :
    ∃ s, c.submission = .ok s ∧ s.body = c.body.submitted := by
  cases c with
  | game b => cases h
  | text b => exact ⟨.text b.submitted, rfl, rfl⟩
  | photo b => exact ⟨.photo b.submitted, rfl, rfl⟩
  | document b => exact ⟨.document b.submitted, rfl, rfl⟩

theorem submissions_eq_ok {cs : List Candidate} {ss : List Submission} :
    submissions cs = .ok ss ↔ List.Forall₂ (fun c s => c.submission = .ok s) cs ss := mapM_eq_ok

theorem exists_submissions {cs : List Candidate} (h : ∀ c ∈ cs, c.isGame = false) :
    ∃ ss, submissions cs = .ok ss ∧
      List.Forall₂ (fun c s => s.body.message.text = c.message?) cs ss := by
  simp only [submissions_eq_ok]
  induction cs with
  | nil => exact ⟨[], .nil, .nil⟩
  | cons c cs ih =>
      have hc := h c List.mem_cons_self
      obtain ⟨s, hs, hbody⟩ := exists_submission hc
      have ht : s.body.message.text = c.message? := by
        rw [hbody, message?_of_not_game hc]
        rfl
      obtain ⟨ss, hss, hts⟩ := ih fun d hd => h d (List.mem_cons_of_mem c hd)
      exact ⟨s :: ss, .cons hs hss, .cons ht hts⟩

end Candidate

end InlineRelay
