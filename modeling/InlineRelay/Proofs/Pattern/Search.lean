import InlineRelay.Pattern.Search
import Mathlib.Data.List.Forall2
import Mathlib.Data.Nat.Bitwise

/-!
Searching for a sequence of characters. A place is in a set of places when its bit is set; one step
over a character takes each place to the next, and a sequence is found where the steps lead on from
some place of the text.
-/
namespace InlineRelay.Pattern

open Unicode (CharSet)

theorem testBit_placesWhere (holds : Option Char → Option Char → Bool)
    (gs : List (Option Char × Option Char)) (i : Nat) :
    (placesWhere holds gs).testBit i = gs[i]?.any fun g => holds g.1 g.2 := by
  induction gs generalizing i with
  | nil => simp [placesWhere]
  | cons g gs ih =>
      have hbit := Bool.toNat_lt (holds g.1 g.2)
      unfold placesWhere
      cases i with
      | zero =>
          rw [Nat.testBit_zero, Nat.mul_add_mod, Nat.mod_eq_of_lt hbit, List.getElem?_cons_zero,
            Option.any_some]
          cases holds g.1 g.2 <;> rfl
      | succ i =>
          have hhalf : (2 * placesWhere holds gs + (holds g.1 g.2).toNat) / 2 =
              placesWhere holds gs := by omega
          rw [Nat.testBit_succ, hhalf, ih]
          rfl

theorem length_places (before : Option Char) (text : List Char) :
    (places before text).length = text.length + 1 := by
  induction text generalizing before with
  | nil => rfl
  | cons c text ih => rw [places, List.length_cons, ih, List.length_cons]

/-- What stands after a place is the character counted from it. -/
theorem any_places (f : Char → Bool) (before : Option Char) (text : List Char) (i : Nat) :
    ((places before text)[i]?.any fun g => g.2.any f) = text[i]?.any f := by
  induction text generalizing before i with
  | nil => cases i <;> rfl
  | cons c text ih =>
      cases i with
      | zero => rfl
      | succ i => exact ih (some c) i

/-- A step over a character of a set leads to the places after one. -/
theorem testBit_step_char (chars : CharSet) (text : List Char) (starts j : Nat) :
    (((Atom.char chars).mask (places none text)).step starts).testBit j = true ↔
      ∃ i c, j = i + 1 ∧ starts.testBit i = true ∧ text[i]? = some c ∧
        chars.contains c.toNat = true := by
  have hplace (i : Nat) : (starts &&& placesWhere
      (fun _ after => after.any fun c => chars.contains c.toNat) (places none text)).testBit i =
        (starts.testBit i && text[i]?.any fun c => chars.contains c.toNat) := by
    rw [Nat.testBit_and, testBit_placesWhere, any_places]
  rw [Atom.mask, Mask.step, if_pos rfl, Nat.testBit_shiftLeft, Bool.and_eq_true, hplace,
    Bool.and_eq_true, Option.any_eq_true_iff_get]
  constructor
  · rintro ⟨hj, hstart, hsome, htakes⟩
    refine ⟨j - 1, _, ?_, hstart, (Option.some_get hsome).symm, htakes⟩
    have := of_decide_eq_true hj
    omega
  · rintro ⟨i, c, rfl, hstart, hc, htakes⟩
    refine ⟨decide_eq_true (Nat.le_add_left 1 i), ?_⟩
    rw [Nat.add_sub_cancel]
    refine ⟨hstart, ?_⟩
    simp [hc, htakes]

/-- A pattern of one character after another, each of a set. -/
def classes (sets : List CharSet) : Pattern Atom := sequence (sets.map fun s => .leaf (.char s))

theorem ends_classes_cons (size : Nat) (f : Atom → Mask) (s : CharSet) (sets : List CharSet)
    (starts : Nat) :
    ((classes (s :: sets)).map f).ends size starts =
      ((classes sets).map f).ends size ((f (.char s)).step starts) := by
  cases sets <;> rfl

/-- The characters are each of the set in their place. -/
def Spells (sets : List CharSet) (run : List Char) : Prop :=
  List.Forall₂ (fun s c => s.contains c.toNat = true) sets run

theorem cons_prefix_drop_iff {c : Char} {run text : List Char} {i : Nat} :
    c :: run <+: text.drop i ↔ text[i]? = some c ∧ run <+: text.drop (i + 1) := by
  rw [List.drop_eq_getElem?_toList_append]
  cases h : text[i]? with
  | none =>
      have hend : text.drop (i + 1) = [] :=
        List.drop_eq_nil_of_le ((List.getElem?_eq_none_iff.1 h).trans (Nat.le_succ i))
      simp [hend]
  | some d => simp [List.cons_prefix_cons, eq_comm]

theorem testBit_ends_classes (size : Nat) (sets : List CharSet) (text : List Char)
    (starts j : Nat) :
    (((classes sets).map (Atom.mask (places none text))).ends size starts).testBit j = true ↔
      ∃ i run, starts.testBit i = true ∧ j = i + sets.length ∧ Spells sets run ∧
        run <+: text.drop i := by
  induction sets generalizing starts with
  | nil =>
      constructor
      · intro h
        exact ⟨j, [], h, rfl, .nil, List.nil_prefix⟩
      · rintro ⟨i, run, hstart, rfl, -, -⟩
        exact hstart
  | cons s sets ih =>
      rw [ends_classes_cons, ih]
      constructor
      · rintro ⟨_, run, hstep, rfl, hrun, hprefix⟩
        obtain ⟨i, c, rfl, hstart, hc, htakes⟩ := (testBit_step_char s text starts _).1 hstep
        refine ⟨i, c :: run, hstart, ?_, .cons htakes hrun, cons_prefix_drop_iff.2 ⟨hc, hprefix⟩⟩
        rw [List.length_cons]
        omega
      · rintro ⟨i, _, hstart, rfl, hspells, hprefix⟩
        cases hspells with
        | cons htakes hrun =>
            obtain ⟨hc, hprefix⟩ := cons_prefix_drop_iff.1 hprefix
            have hstep := (testBit_step_char s text starts (i + 1)).2 ⟨i, _, rfl, hstart, hc, htakes⟩
            refine ⟨i + 1, _, hstep, ?_, hrun, hprefix⟩
            rw [List.length_cons]
            omega

/-- A sequence of classes is found in a text just when a stretch of the text spells it. -/
theorem occursIn_classes (sets : List CharSet) (text : List Char) :
    (classes sets).occursIn text = true ↔ ∃ run, Spells sets run ∧ run <:+: text := by
  have hstart (i : Nat) :
      (2 ^ (text.length + 1) - 1).testBit i = true ↔ i ≤ text.length := by
    rw [Nat.testBit_two_pow_sub_one, decide_eq_true_iff, Nat.lt_succ_iff]
  unfold occursIn
  dsimp only
  rw [bne_iff_ne, length_places]
  constructor
  · intro h
    obtain ⟨j, hj⟩ := Nat.exists_testBit_of_ne_zero h
    obtain ⟨i, run, -, -, hrun, hprefix⟩ := (testBit_ends_classes _ sets text _ j).1 hj
    exact ⟨run, hrun, hprefix.isInfix.trans (List.drop_suffix i text).isInfix⟩
  · rintro ⟨run, hrun, before, after, rfl⟩ hzero
    have hprefix : run <+: (before ++ run ++ after).drop before.length := by
      rw [List.append_assoc, List.drop_left]
      exact List.prefix_append run after
    have hlength : before.length ≤ (before ++ run ++ after).length := by
      rw [List.append_assoc, List.length_append]
      exact Nat.le_add_right _ _
    have hend := (testBit_ends_classes ((before ++ run ++ after).length + 1) sets _ _ _).2
      ⟨before.length, run, (hstart _).2 hlength, rfl, hrun, hprefix⟩
    rw [Nat.pow_eq] at hzero
    rw [hzero, Nat.zero_testBit] at hend
    cases hend

end InlineRelay.Pattern
