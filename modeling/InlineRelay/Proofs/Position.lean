import InlineRelay.Proofs.FirstMatch
import Mathlib.Data.List.Induction
import Mathlib.Data.Nat.Digits.Defs

/-!
Selecting by position. A numeral of any length counts the results from one. It is read into a word,
digit by digit, and that fails only for numbers that are the position of no result.
-/
namespace InlineRelay.Selection

/-! ### Numerals -/

/-- The number that digits denote, each worth ten times the one after it. -/
def numeral (digits : List Char) : Nat :=
  Nat.ofDigits 10 (digits.reverse.map fun c => c.toNat - '0'.toNat)

theorem numeral_concat (digits : List Char) (c : Char) :
    numeral (digits ++ [c]) = numeral digits * 10 + (c.toNat - '0'.toNat) := by
  unfold numeral
  rw [List.reverse_append, List.reverse_singleton, List.singleton_append, List.map_cons,
    Nat.ofDigits_cons, Nat.add_comm, Nat.mul_comm]

theorem word?_eq_some_iff {n : Nat} {w : UInt64} : word? n = some w ↔ n = w.toNat := by
  unfold word?
  constructor
  · intro h
    split at h
    · next hlt =>
      obtain rfl := Option.some.inj h
      exact (UInt64.toNat_ofNat_of_lt hlt).symm
    · cases h
  · rintro rfl
    rw [if_pos w.toNat_lt, UInt64.ofNat_toNat]

theorem word?_eq_none_iff {n : Nat} : word? n = none ↔ UInt64.size ≤ n := by
  unfold word?
  split
  · next hlt => simpa using hlt
  · next hge => simpa using hge

theorem readWord?_concat (digits : List Char) (c : Char) :
    readWord? (digits ++ [c]) = (readWord? digits).bind fun w =>
      (word? (w.toNat * 10)).bind fun tens => word? (tens.toNat + (c.toNat - '0'.toNat)) := by
  unfold readWord?
  rw [List.foldlM_append]
  simp only [List.foldlM_cons, List.foldlM_nil, bind_pure]
  rfl

/-- The digits outgrow a word on the way just if the whole number does, as no further digit makes it
smaller. -/
theorem readWord?_eq_word? (digits : List Char) : readWord? digits = word? (numeral digits) := by
  induction digits using List.reverseRecOn with
  | nil => rfl
  | append_singleton digits c ih =>
      rw [readWord?_concat, ih, numeral_concat]
      cases hfront : word? (numeral digits) with
      | none =>
          have hlarge := word?_eq_none_iff.1 hfront
          exact (word?_eq_none_iff.2 (by omega)).symm
      | some w =>
          rw [word?_eq_some_iff.1 hfront, Option.bind_some]
          cases htens : word? (w.toNat * 10) with
          | none =>
              have hlarge := word?_eq_none_iff.1 htens
              exact (word?_eq_none_iff.2 (by omega)).symm
          | some tens => rw [word?_eq_some_iff.1 htens, Option.bind_some]

/-! ### Positions -/

section Position
variable {cs : List Candidate} {digits : List Char}

theorem index?_eq_some_iff {position : UInt64} {i : Nat} :
    index? position = some i ↔ position.toNat = i + 1 := by
  unfold index?
  by_cases hzero : position = 0
  · subst hzero
    simp
  · have hpos : 1 ≤ position.toNat :=
      Nat.pos_of_ne_zero fun h => hzero (UInt64.toNat_inj.1 h)
    have hsub : (position - 1).toNat = position.toNat - 1 :=
      UInt64.toNat_sub_of_le position 1 (UInt64.le_iff_toNat_le.2 hpos)
    rw [if_neg hzero, Option.some_inj, hsub]
    omega

theorem nth_of_position (hcs : cs.length < 2 ^ 64) (i : Fin cs.length)
    (h : numeral digits = i + 1) : nth cs digits = one (cs.get i) := by
  have hlt : numeral digits < UInt64.size := h ▸ Nat.lt_of_le_of_lt i.isLt hcs
  obtain ⟨w, hw⟩ : ∃ w : UInt64, numeral digits = w.toNat :=
    ⟨.ofNat (numeral digits), (UInt64.toNat_ofNat_of_lt hlt).symm⟩
  have hword : readWord? digits = some w := by rw [readWord?_eq_word?, word?_eq_some_iff, hw]
  have hindex : index? w = some i.val := index?_eq_some_iff.2 (hw.symm.trans h)
  have hfound : (readWord? digits >>= index? >>= fun i => cs[i]?) = some (cs.get i) := by
    simp [hword, hindex]
  unfold nth
  rw [hfound]

theorem nth_of_no_position (h : numeral digits = 0 ∨ cs.length < numeral digits) :
    nth cs digits = empty := by
  have hnone : (readWord? digits >>= index? >>= fun i => cs[i]?) = none := by
    rw [Option.bind_eq_bind, Option.bind_eq_none_iff]
    intro i hi
    obtain ⟨w, hw, hi⟩ := Option.bind_eq_some_iff.1 hi
    rw [readWord?_eq_word?, word?_eq_some_iff] at hw
    have hposition := index?_eq_some_iff.1 hi
    exact List.getElem?_eq_none (by omega)
  unfold nth
  rw [hnone]

end Position

/-- A selector of ASCII digits, however many, selects the result at the position it denotes, whatever
the matcher would make of it and whether or not the result is a game or has a message. Zero and the
numbers beyond the last result select nothing, those that outgrow a word among them. -/
theorem select_by_position (matcher : Matcher) (cs : List Candidate) (hcs : cs.length < 2 ^ 64)
    (selector : String)
    (hselector : selector ≠ "" ∧ ∀ c ∈ selector.toList, '0' ≤ c ∧ c ≤ '9') :
    (∀ i : Fin cs.length, numeral selector.toList = i + 1 →
      select matcher cs selector = one (cs.get i)) ∧
    (numeral selector.toList = 0 ∨ cs.length < numeral selector.toList →
      select matcher cs selector = empty) := by
  have hselect : select matcher cs selector = nth cs selector.toList := by
    unfold select
    rw [if_pos ((isNumeral_iff selector).2 hselector)]
  rw [hselect]
  exact ⟨nth_of_position hcs, nth_of_no_position⟩

/-- Zeros in front do not count, and past the largest word positions do not start again. -/
theorem select_by_position_long :
    let cs := [Rehearsal.text "1" "one", Rehearsal.game "2"]
    let padded := "000000000000000000000000000002"
    let past := "18446744073709551617"
    cs.length < 2 ^ 64 ∧ (padded ≠ "" ∧ ∀ c ∈ padded.toList, '0' ≤ c ∧ c ≤ '9') ∧
      (past ≠ "" ∧ ∀ c ∈ past.toList, '0' ≤ c ∧ c ≤ '9') ∧
      numeral padded.toList = 2 ∧ numeral past.toList = 2 ^ 64 + 1 ∧
      ∀ matcher, select matcher cs padded = one (Rehearsal.game "2") ∧
        select matcher cs past = empty := by
  intro cs padded past
  have hcs : cs.length < 2 ^ 64 := by decide
  have hpadded : padded ≠ "" ∧ ∀ c ∈ padded.toList, '0' ≤ c ∧ c ≤ '9' :=
    (isNumeral_iff _).1 (by decide)
  have hpast : past ≠ "" ∧ ∀ c ∈ past.toList, '0' ≤ c ∧ c ≤ '9' :=
    (isNumeral_iff _).1 (by decide)
  have htwo : numeral padded.toList = 2 := by decide
  have hlarge : numeral past.toList = 2 ^ 64 + 1 := by decide
  refine ⟨hcs, hpadded, hpast, htwo, hlarge, fun matcher => ⟨?_, ?_⟩⟩
  · exact (select_by_position matcher cs hcs padded hpadded).1 1 htwo
  · refine (select_by_position matcher cs hcs past hpast).2 (.inr ?_)
    rw [hlarge]
    decide

end InlineRelay.Selection
