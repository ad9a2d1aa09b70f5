import InlineRelay.Text.Blank
import Mathlib.Data.List.TakeWhile

/-!
Trimming. A trimmed text is what is left when blanks are taken off the ends until none stands
there, and there is only one such text.
-/
namespace InlineRelay

/-- What is left after dropping is the rest of the list from the first item that stays. -/
theorem dropWhile_eq_iff {α : Type} {p : α → Bool} {xs ys : List α} :
    xs.dropWhile p = ys ↔
      ∃ front, xs = front ++ ys ∧ (∀ x ∈ front, p x) ∧ ∀ y ∈ ys.head?, p y = false := by
  induction xs with
  | nil =>
      constructor
      · rintro rfl
        exact ⟨[], rfl, by simp, by simp⟩
      · rintro ⟨front, h, -, -⟩
        exact (List.append_eq_nil_iff.1 h.symm).2.symm
  | cons x xs ih =>
      cases hx : p x with
      | true =>
          rw [List.dropWhile_cons_of_pos hx, ih]
          constructor
          · rintro ⟨front, rfl, hfront, hhead⟩
            exact ⟨x :: front, rfl, List.forall_mem_cons.2 ⟨hx, hfront⟩, hhead⟩
          · rintro ⟨front, h, hfront, hhead⟩
            cases front with
            | nil =>
                subst h
                exact absurd (hhead x rfl) (by simp [hx])
            | cons y front =>
                obtain ⟨rfl, rfl⟩ := List.cons.inj h
                exact ⟨front, rfl, (List.forall_mem_cons.1 hfront).2, hhead⟩
      | false =>
          rw [List.dropWhile_cons_of_neg (by simp [hx])]
          constructor
          · rintro rfl
            exact ⟨[], rfl, by simp, by simpa using hx⟩
          · rintro ⟨front, h, hfront, -⟩
            cases front with
            | nil => exact h
            | cons y front =>
                obtain ⟨rfl, -⟩ := List.cons.inj h
                exact absurd (hfront x List.mem_cons_self) (by simp [hx])

namespace Text

/-- Nothing but blanks. -/
def Blank (cs : List Char) : Prop := ∀ c ∈ cs, isBlank c

/-- `t` is `cs` without the blanks at its end. -/
structure TrimmedEnd (cs t : List Char) : Prop where
  off : ∃ blanks, cs = t ++ blanks ∧ Blank blanks
  last : ∀ c ∈ t.getLast?, isBlank c = false

/-- `t` is `cs` without the blanks at both ends. -/
structure Trimmed (cs t : List Char) : Prop where
  off : ∃ front back, cs = front ++ t ++ back ∧ Blank front ∧ Blank back
  head : ∀ c ∈ t.head?, isBlank c = false
  last : ∀ c ∈ t.getLast?, isBlank c = false

theorem trimStart_eq_iff {cs t : List Char} :
    trimStart cs = t ↔
      ∃ blanks, cs = blanks ++ t ∧ Blank blanks ∧ ∀ c ∈ t.head?, isBlank c = false :=
  dropWhile_eq_iff

theorem trimEnd_eq_iff {cs t : List Char} : trimEnd cs = t ↔ TrimmedEnd cs t := by
  rw [trimEnd, List.reverse_eq_iff, trimStart_eq_iff, List.head?_reverse]
  constructor
  · rintro ⟨blanks, h, hblanks, hlast⟩
    refine ⟨⟨blanks.reverse, ?_, fun c hc => hblanks c (List.mem_reverse.1 hc)⟩, hlast⟩
    rw [← List.reverse_reverse cs, h, List.reverse_append, List.reverse_reverse]
  · rintro ⟨⟨blanks, rfl, hblanks⟩, hlast⟩
    exact ⟨blanks.reverse, List.reverse_append, fun c hc => hblanks c (List.mem_reverse.1 hc), hlast⟩

/-- Blanks in front do not matter to what is trimmed at the end. -/
theorem trimStart_append {front t back : List Char} (hfront : Blank front) (hback : Blank back)
    (hhead : ∀ c ∈ t.head?, isBlank c = false) :
    ∃ blanks, trimStart (front ++ t ++ back) = t ++ blanks ∧ Blank blanks := by
  cases t with
  | nil =>
      refine ⟨[], List.dropWhile_eq_nil_iff.2 ?_, by simp [Blank]⟩
      intro c hc
      rw [List.append_nil, List.mem_append] at hc
      exact hc.elim (hfront c) (hback c)
  | cons c t =>
      refine ⟨back, trimStart_eq_iff.2 ⟨front, ?_, hfront, hhead⟩, hback⟩
      rw [List.append_assoc]

theorem trim_eq_iff {cs t : List Char} : trim cs = t ↔ Trimmed cs t := by
  rw [trim, trimEnd_eq_iff]
  constructor
  · rintro ⟨⟨back, hstart, hback⟩, hlast⟩
    obtain ⟨front, hcs, hfront, hhead⟩ := trimStart_eq_iff.1 hstart
    refine ⟨⟨front, back, ?_, hfront, hback⟩, fun c hc => hhead c ?_, hlast⟩
    · rw [List.append_assoc, ← hcs]
    · rw [List.head?_append, Option.mem_def.1 hc]
      rfl
  · rintro ⟨⟨front, back, rfl, hfront, hback⟩, hhead, hlast⟩
    exact ⟨trimStart_append hfront hback hhead, hlast⟩

end Text

end InlineRelay
