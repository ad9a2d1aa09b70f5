import InlineRelay.Proofs.Selection
import InlineRelay.Rehearsal
import Mathlib.Data.List.Perm.Basic

/-!
Selecting by message. A pattern selects the first result that is not a game and has a message that
matches. Where there is none, and where there is no pattern, all results stay as they came.
-/
namespace InlineRelay

/-- A selector of ASCII digits picks by position. -/
theorem Selection.isNumeral_iff (selector : String) :
    isNumeral selector = true ↔ selector ≠ "" ∧ ∀ c ∈ selector.toList, '0' ≤ c ∧ c ≤ '9' := by
  have hdigit (c : Char) : c.isDigit = true ↔ '0' ≤ c ∧ c ≤ '9' := by
    rw [Char.isDigit, Bool.and_eq_true, decide_eq_true_iff, decide_eq_true_iff]
    exact Iff.rfl
  simp only [isNumeral, Bool.and_eq_true, List.all_eq_true, hdigit]
  refine and_congr ?_ Iff.rfl
  simp

/-- The candidate is not a game and has a message that fits. -/
def Candidate.Bears (fits : String → Prop) (c : Candidate) : Prop :=
  c.isGame = false ∧ ∃ text, c.body.message.text = some text ∧ fits text

instance {fits : String → Prop} [DecidablePred fits] (c : Candidate) : Decidable (c.Bears fits) :=
  inferInstanceAs (Decidable (c.isGame = false ∧ ∃ text ∈ c.body.message.text, fits text))

theorem Candidate.any_message?_iff {c : Candidate} {isMatch : String → Bool} :
    c.message?.any isMatch = true ↔ c.Bears (isMatch · = true) := by
  cases c with
  | game b => simp [message?, Bears, isGame]
  | text b | photo b | document b => simp [message?, Bears, isGame, body, Option.any_eq_true]

namespace Selection
variable {cs : List Candidate} {c : Candidate} {isMatch : String → Bool}

/-- Taking a result out loses none of the others, though it may change their order. -/
theorem takeOut_perm (cs : List Candidate) (position : Fin cs.length) :
    ((takeOut cs position).1 :: (takeOut cs position).2).Perm cs := by
  obtain ⟨i, hi⟩ := position
  rcases List.eq_nil_or_concat' cs with rfl | ⟨init, last, rfl⟩
  · cases hi
  · unfold takeOut
    simp only [Fin.getElem_fin, List.getLast_append_singleton]
    rw [List.length_append, List.length_singleton] at hi
    by_cases hlast : i = init.length
    · subst hlast
      rw [List.getElem_concat_length rfl, List.set_append_right _ _ (Nat.le_refl _)]
      simp [(List.perm_append_singleton last init).symm]
    · have hinit : i < init.length := by omega
      rw [List.getElem_append_left hinit, List.set_append_left _ _ hinit, List.dropLast_concat]
      calc (init[i] :: init.set i last).Perm (init[i] :: last :: init.eraseIdx i) :=
            (List.set_perm_cons_eraseIdx hinit last).cons _
        List.Perm _ (last :: init[i] :: init.eraseIdx i) := .swap _ _ _
        List.Perm _ (last :: init) := (List.getElem_cons_eraseIdx_perm hinit).cons last
        List.Perm _ (init ++ [last]) := (List.perm_append_singleton last init).symm

theorem firstMatch_eq_one_iff :
    firstMatch cs isMatch = one c ↔ ∃ before after, cs = before ++ c :: after ∧
      c.Bears (isMatch · = true) ∧ ∀ d ∈ before, ¬ d.Bears (isMatch · = true) := by
  have hfind : firstMatch cs isMatch = one c ↔
      cs.find? (fun c => c.message?.any isMatch) = some c := by
    rw [firstMatch_eq_find?]
    cases cs.find? fun c => c.message?.any isMatch <;> simp
  rw [hfind, List.find?_eq_some_iff_append, Candidate.any_message?_iff]
  simp only [Bool.not_eq_true', ← Bool.not_eq_true, Candidate.any_message?_iff]
  constructor
  · rintro ⟨hc, before, after, hcs, hbefore⟩
    exact ⟨before, after, hcs, hc, hbefore⟩
  · rintro ⟨before, after, hcs, hc, hbefore⟩
    exact ⟨hc, before, after, hcs, hbefore⟩

theorem firstMatch_eq_all_iff :
    firstMatch cs isMatch = all cs ↔ ∀ c ∈ cs, ¬ c.Bears (isMatch · = true) := by
  have hfind : firstMatch cs isMatch = all cs ↔
      cs.find? (fun c => c.message?.any isMatch) = none := by
    rw [firstMatch_eq_find?]
    cases cs.find? fun c => c.message?.any isMatch <;> simp
  rw [hfind, List.find?_eq_none]
  simp only [Candidate.any_message?_iff]

theorem firstMatch_one_or_all (cs : List Candidate) (isMatch : String → Bool) :
    (∃ c, firstMatch cs isMatch = one c) ∨ firstMatch cs isMatch = all cs := by
  rw [firstMatch_eq_find?]
  cases cs.find? fun c => c.message?.any isMatch with
  | some c => exact .inl ⟨c, rfl⟩
  | none => exact .inr rfl

section Pattern
variable {matcher : Matcher} {selector : String}

theorem select_empty (matcher : Matcher) (cs : List Candidate) : select matcher cs "" = all cs :=
  rfl

theorem select_of_compile_eq_none (hnumeral : isNumeral selector = false)
    (h : matcher.compile selector = none) : select matcher cs selector = all cs := by
  unfold select
  rw [if_neg (by simp [hnumeral]), h, ite_self]

theorem select_of_compile (hnumeral : isNumeral selector = false) (hne : selector ≠ "")
    (h : matcher.compile selector = some isMatch) :
    select matcher cs selector = firstMatch cs isMatch := by
  unfold select
  rw [if_neg (by simp [hnumeral]), if_neg (by simpa using hne), h]

end Pattern

/-- A selector that is not a numeral keeps all results in their order, unless it is a pattern that
matches the message of one that is not a game; then the first such is selected, whatever results
come after it. -/
theorem select_by_message (matcher : Matcher) (cs : List Candidate) (selector : String)
    (hselector : ¬ (selector ≠ "" ∧ ∀ c ∈ selector.toList, '0' ≤ c ∧ c ≤ '9')) :
    (selector = "" ∨ matcher.compile selector = none ∨
        (∃ isMatch, matcher.compile selector = some isMatch ∧
          ∀ c ∈ cs, ¬ c.Bears (isMatch · = true)) →
      select matcher cs selector = all cs) ∧
    ∀ isMatch, selector ≠ "" → matcher.compile selector = some isMatch →
      (∃ c ∈ cs, c.Bears (isMatch · = true)) →
      ∃ before c after, cs = before ++ c :: after ∧ c.Bears (isMatch · = true) ∧
        (∀ d ∈ before, ¬ d.Bears (isMatch · = true)) ∧ select matcher cs selector = one c ∧
        ∀ later, select matcher (before ++ c :: later) selector = one c := by
  have hnumeral : isNumeral selector = false := by
    rw [← Bool.not_eq_true, isNumeral_iff]
    exact hselector
  constructor
  · intro h
    by_cases hempty : selector = ""
    · rw [hempty, select_empty]
    · rcases h with h | h | ⟨isMatch, hcompile, hnone⟩
      · exact absurd h hempty
      · exact select_of_compile_eq_none hnumeral h
      · rw [select_of_compile hnumeral hempty hcompile, firstMatch_eq_all_iff]
        exact hnone
  · intro isMatch hne hcompile hsome
    have hselect (ds : List Candidate) : select matcher ds selector = firstMatch ds isMatch :=
      select_of_compile hnumeral hne hcompile
    simp only [hselect]
    rcases firstMatch_one_or_all cs isMatch with ⟨c, hone⟩ | hall
    · obtain ⟨before, after, hcs, hc, hbefore⟩ := firstMatch_eq_one_iff.1 hone
      refine ⟨before, c, after, hcs, hc, hbefore, hone, ?_⟩
      intro later
      exact firstMatch_eq_one_iff.2 ⟨before, later, rfl, hc, hbefore⟩
    · obtain ⟨c, hmem, hc⟩ := hsome
      exact absurd hc (firstMatch_eq_all_iff.1 hall c hmem)

/-- Neither a photo without a caption nor a game is selected, nor a message after the first. What is
not a pattern selects everything. -/
theorem select_by_message_blank :
    let matcher : Matcher := ⟨fun s => if s = "^$" then some String.isEmpty else none⟩
    let blank := Rehearsal.text "4" ""
    let cs := [Rehearsal.photo "1" none, Rehearsal.game "2", Rehearsal.text "3" "hi", blank,
      Rehearsal.text "5" ""]
    ¬ ("^$" ≠ "" ∧ ∀ c ∈ "^$".toList, '0' ≤ c ∧ c ≤ '9') ∧
      matcher.compile "^$" = some String.isEmpty ∧ (∃ c ∈ cs, c.Bears (·.isEmpty = true)) ∧
      (∃ before after, cs = before ++ blank :: after ∧
        (∀ d ∈ before, ¬ d.Bears (·.isEmpty = true)) ∧
        ∀ later, select matcher (before ++ blank :: later) "^$" = one blank) ∧
      select matcher cs "(" = all cs := by
  intro matcher blank cs
  have hselector : ¬ ("^$" ≠ "" ∧ ∀ c ∈ "^$".toList, '0' ≤ c ∧ c ≤ '9') :=
    fun h => absurd (h.2 '^' (by decide)) (by decide)
  have hbroken : ¬ ("(" ≠ "" ∧ ∀ c ∈ "(".toList, '0' ≤ c ∧ c ≤ '9') :=
    fun h => absurd (h.2 '(' (by decide)) (by decide)
  have hcompile : matcher.compile "^$" = some String.isEmpty := rfl
  have hsome : ∃ c ∈ cs, c.Bears (·.isEmpty = true) := ⟨blank, by simp [cs], by decide⟩
  obtain ⟨before, c, after, hcs, -, hbefore, hone, hlater⟩ :=
    (select_by_message matcher cs "^$" hselector).2 String.isEmpty (by decide) hcompile hsome
  have hselect : select matcher cs "^$" = one blank := rfl
  obtain rfl : blank = c := one.inj (hselect.symm.trans hone)
  exact ⟨hselector, hcompile, hsome, ⟨before, after, hcs, hbefore, hlater⟩,
    (select_by_message matcher cs "(" hbroken).1 (.inr (.inl rfl))⟩

end Selection
end InlineRelay
