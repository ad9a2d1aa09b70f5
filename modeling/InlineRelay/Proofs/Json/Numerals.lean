import InlineRelay.Json.Printer
import InlineRelay.Json.Document
import Mathlib.Data.List.DropRight
import Mathlib.Data.List.TakeWhile

/-!
Numbers in texts. A number is read in the same way wherever it stands, and integers of 64 bits read
back from their digits.
-/
namespace InlineRelay.Json

/-- The number is what its text is read as. -/
def Number.ReadsBack (n : Number) : Prop := Doc.readPart n.text.toList = (.num n, some [])

namespace Doc

/-- What may follow a number: no character that could be part of it. -/
def Ends (rest : List Char) : Prop :=
  ∀ c ∈ rest.head?, c.isDigit = false ∧ c ≠ '.' ∧ c ≠ 'e' ∧ c ≠ 'E'

theorem ends_nil : Ends [] := fun _ h => by cases h

theorem takeWhile_append_of_head {p : Char → Bool} {rest : List Char} (cs : List Char)
    (h : ∀ c ∈ rest.head?, p c = false) :
    (cs ++ rest).takeWhile p = cs.takeWhile p ∧
      (cs ++ rest).dropWhile p = cs.dropWhile p ++ rest := by
  induction cs with
  | nil =>
      cases rest with
      | nil => exact ⟨rfl, rfl⟩
      | cons c rest => simp [h c rfl]
  | cons c cs ih =>
      cases hc : p c with
      | true => simp [hc, ih.1, ih.2]
      | false => simp [hc]

section Magnitudes
variable {cs rest : List Char} {n : Number} {negative : Bool}

theorem Ends.isDigit (h : Ends rest) : ∀ c ∈ rest.head?, c.isDigit = false :=
  fun c hc => (h c hc).1

theorem powerOf_append {sign p : Int} {t : List Char} (hends : Ends rest)
    (h : powerOf sign cs = .ok (p, t)) : powerOf sign (cs ++ rest) = .ok (p, t ++ rest) := by
  obtain ⟨htake, hdrop⟩ := takeWhile_append_of_head cs hends.isDigit
  cases cs with
  | nil => cases h
  | cons c cs =>
      unfold powerOf at h ⊢
      rw [List.cons_append] at htake hdrop ⊢
      dsimp only at h ⊢
      split at h
      · next hc =>
        rw [if_pos hc, htake, hdrop]
        cases h
        rfl
      · cases h

theorem readPower_append {p : Int} {t : List Char} (hends : Ends rest)
    (h : readPower cs = .ok (p, t)) : readPower (cs ++ rest) = .ok (p, t ++ rest) := by
  unfold readPower at h
  split at h
  · exact powerOf_append hends h
  · exact powerOf_append hends h
  · next hplus hminus =>
    cases cs with
    | nil => cases h
    | cons c cs =>
        have hunsigned := powerOf_append hends h
        unfold readPower
        split
        · next heq =>
          cases heq
          exact absurd rfl (hplus _)
        · next heq =>
          cases heq
          exact absurd rfl (hminus _)
        · exact hunsigned

theorem readScaled_append {whole fraction : List Char} (hends : Ends rest)
    (h : readScaled negative whole fraction cs = (.num n, some [])) :
    readScaled negative whole fraction (cs ++ rest) = (.num n, some rest) := by
  cases cs with
  | nil =>
      have hn : numberOf negative whole fraction none = .num n := congrArg Prod.fst h
      cases rest with
      | nil => exact h
      | cons c rest =>
          obtain ⟨-, -, he, hE⟩ := hends c rfl
          rw [List.nil_append, readScaled, if_neg (by simp [he, hE])]
          dsimp only
          rw [hn]
  | cons c cs =>
      rw [List.cons_append]
      unfold readScaled at h ⊢
      dsimp only at h ⊢
      split at h
      · next hc =>
        rw [if_pos hc]
        cases hpower : readPower cs with
        | error d =>
            rw [hpower] at h
            cases (Prod.mk.inj h).2
        | ok r =>
            obtain ⟨p, t⟩ := r
            rw [hpower] at h
            rw [readPower_append hends hpower]
            obtain ⟨hn, ht⟩ := Prod.mk.inj h
            dsimp only
            rw [hn, Option.some.inj ht, List.nil_append]
      · cases (Prod.mk.inj h).2

/-- Digits that can be the integer digits of a number. -/
def IsWhole (ds : List Char) : Prop := ds ≠ [] ∧ ∀ d more, ds ≠ '0' :: d :: more

theorem isWhole_of_readMagnitude {d : Doc} {t : List Char}
    (h : readMagnitude negative cs = (d, some t)) : IsWhole (cs.takeWhile Char.isDigit) := by
  unfold readMagnitude at h
  generalize cs.takeWhile Char.isDigit = whole at h ⊢
  generalize cs.dropWhile Char.isDigit = r at h
  constructor
  · rintro rfl
    cases r <;> cases (Prod.mk.inj h).2
  · rintro d more rfl
    cases (Prod.mk.inj h).2

theorem readMagnitude_of_point {r : List Char} (hwhole : IsWhole (cs.takeWhile Char.isDigit))
    (h : cs.dropWhile Char.isDigit = '.' :: r) :
    readMagnitude negative cs =
      if (r.takeWhile Char.isDigit).isEmpty then
        (.broken (if r.isEmpty then .truncated else .malformed) .malformed, none)
      else readScaled negative (cs.takeWhile Char.isDigit) (r.takeWhile Char.isDigit)
        (r.dropWhile Char.isDigit) := by
  unfold readMagnitude
  rw [h]
  generalize cs.takeWhile Char.isDigit = whole at hwhole ⊢
  obtain ⟨hne, hzero⟩ := hwhole
  dsimp only
  split
  · exact absurd rfl hne
  · exact absurd rfl hne
  · exact absurd rfl (hzero _ _)
  · next heq =>
    cases heq
    rfl
  · next hpoint _ => exact absurd rfl (hpoint r)

theorem readMagnitude_of_whole {t : List Char} (hwhole : IsWhole (cs.takeWhile Char.isDigit))
    (h : cs.dropWhile Char.isDigit = t) (hpoint : ∀ r, t ≠ '.' :: r) :
    readMagnitude negative cs = readScaled negative (cs.takeWhile Char.isDigit) [] t := by
  unfold readMagnitude
  rw [h]
  generalize cs.takeWhile Char.isDigit = whole at hwhole ⊢
  obtain ⟨hne, hzero⟩ := hwhole
  dsimp only
  split
  · exact absurd rfl hne
  · exact absurd rfl hne
  · exact absurd rfl (hzero _ _)
  · exact absurd rfl (hpoint _)
  · rfl

theorem readMagnitude_append (hends : Ends rest)
    (h : readMagnitude negative cs = (.num n, some [])) :
    readMagnitude negative (cs ++ rest) = (.num n, some rest) := by
  obtain ⟨htake, hdrop⟩ := takeWhile_append_of_head cs hends.isDigit
  have hwhole := isWhole_of_readMagnitude h
  have hwhole' : IsWhole ((cs ++ rest).takeWhile Char.isDigit) := htake.symm ▸ hwhole
  by_cases hpoint : ∃ r, cs.dropWhile Char.isDigit = '.' :: r
  · obtain ⟨r, hr⟩ := hpoint
    obtain ⟨htake', hdrop'⟩ := takeWhile_append_of_head r hends.isDigit
    rw [readMagnitude_of_point hwhole hr] at h
    rw [readMagnitude_of_point hwhole' (by rw [hdrop, hr, List.cons_append]), htake, htake', hdrop']
    split at h
    · cases h
    · next hfraction =>
      rw [if_neg hfraction]
      exact readScaled_append hends h
  · have hnone : ∀ r, cs.dropWhile Char.isDigit ≠ '.' :: r := fun r hr => hpoint ⟨r, hr⟩
    rw [readMagnitude_of_whole hwhole rfl hnone] at h
    rw [readMagnitude_of_whole hwhole' hdrop, htake]
    · exact readScaled_append hends h
    · intro r hr
      cases ht : cs.dropWhile Char.isDigit with
      | nil =>
          rw [ht, List.nil_append] at hr
          exact (hends '.' (by rw [hr]; rfl)).2.1 rfl
      | cons c t =>
          rw [ht, List.cons_append] at hr
          exact hnone t (by rw [ht, (List.cons.inj hr).1])

end Magnitudes

/-! ### Where a number stands -/

theorem skipGap_append {cs : List Char} (rest : List Char) (h : skipGap cs ≠ []) :
    skipGap (cs ++ rest) = skipGap cs ++ rest := by
  have hempty : (cs.dropWhile isGap).isEmpty = false := List.isEmpty_eq_false_iff.2 h
  rw [skipGap, List.dropWhile_append, hempty]
  rfl

theorem readWord_fst (value : Doc) (ws cs : List Char) :
    (readWord value ws cs).1 = value ∨ ∃ f g, (readWord value ws cs).1 = .broken f g := by
  induction ws generalizing cs with
  | nil => exact .inl rfl
  | cons w ws ih =>
      cases cs with
      | nil => exact .inr ⟨_, _, rfl⟩
      | cons c cs =>
          rw [readWord]
          split
          · exact ih cs
          · exact .inr ⟨_, _, rfl⟩

theorem readWord_ne_num {value : Doc} (hvalue : ∀ n, value ≠ .num n) (ws cs : List Char) (n : Number)
    (t : Option (List Char)) : readWord value ws cs ≠ (.num n, t) := by
  intro h
  rcases readWord_fst value ws cs with hw | ⟨f, g, hw⟩
  · rw [h] at hw
    exact hvalue n hw.symm
  · rw [h] at hw
    cases hw

theorem readString_ne_num (cs : List Char) (n : Number) (t : Option (List Char)) :
    readString cs ≠ (.num n, t) := by
  intro h
  unfold readString at h
  dsimp only at h
  split at h <;> cases h

theorem skipGap_cons {c : Char} (h : isGap c = false) (cs : List Char) :
    skipGap (c :: cs) = c :: cs := by
  rw [skipGap, List.dropWhile_cons_of_neg (by simp [h])]

theorem isGap_of_isDigit {c : Char} (h : c.isDigit = true) : isGap c = false := by
  rw [isGap, Bool.eq_false_iff]
  intro hgap
  simp only [Bool.or_eq_true, decide_eq_true_eq] at hgap
  rcases hgap with ((rfl | rfl) | rfl) | rfl <;> exact absurd h (by decide)

/-- A digit starts a number. -/
theorem readValue_digit {c : Char} (h : c.isDigit = true) (fuel depth : Nat) (cs : List Char) :
    readValue (fuel + 1) depth (c :: cs) = readMagnitude false (c :: cs) := by
  rw [readValue, skipGap_cons (isGap_of_isDigit h)]
  dsimp only
  -- The letters and brackets that start other values are no digits.
  split <;> rename_i heq <;> cases heq
  iterate 7 exact absurd h (by decide)
  exact if_pos h

theorem readValue_minus (fuel depth : Nat) (cs : List Char) :
    readValue (fuel + 1) depth ('-' :: cs) = readMagnitude true cs := by
  rw [readValue, skipGap_cons (by decide)]
  rfl

theorem skipGap_skipGap (cs : List Char) : skipGap (skipGap cs) = skipGap cs :=
  List.dropWhile_idempotent _ cs

theorem readValue_skipGap (fuel depth : Nat) (cs : List Char) :
    readValue fuel depth (skipGap cs) = readValue fuel depth cs := by
  cases fuel with
  | zero => rfl
  | succ fuel => rw [readValue, readValue, skipGap_skipGap]

/-- A number is read in the same way wherever it stands. -/
theorem readValue_num {fuel fuel' depth depth' : Nat} {cs rest : List Char} {n : Number}
    (hends : Ends rest) (h : readValue fuel depth cs = (.num n, some [])) :
    readValue (fuel' + 1) depth' (cs ++ rest) = (.num n, some rest) := by
  cases fuel with
  | zero => cases h
  | succ fuel =>
      rw [readValue] at h
      have hne : skipGap cs ≠ [] := by
        intro hnil
        rw [hnil] at h
        cases h
      have hsame : readValue (fuel' + 1) depth' (cs ++ rest) =
          readValue (fuel' + 1) depth' (skipGap cs ++ rest) := by
        rw [← readValue_skipGap, skipGap_append rest hne]
      rw [hsame]
      generalize skipGap cs = ds at h ⊢
      dsimp only at h
      split at h
      · cases h
      · exact absurd h (readWord_ne_num (by simp) _ _ _ _)
      · exact absurd h (readWord_ne_num (by simp) _ _ _ _)
      · exact absurd h (readWord_ne_num (by simp) _ _ _ _)
      · rw [List.cons_append, readValue_minus]
        exact readMagnitude_append hends h
      · exact absurd h (readString_ne_num _ _ _)
      · split_ifs at h <;> cases (Prod.mk.inj h).1
      · split_ifs at h <;> cases (Prod.mk.inj h).1
      · split at h
        · next hdigit =>
          rw [List.cons_append, readValue_digit hdigit, ← List.cons_append]
          exact readMagnitude_append hends h
        · cases h

/-! ### Integers -/

theorem significand_append {s t : Nat} {ds : List Char} (h : significand s ds = (t, []))
    (more : List Char) : significand s (ds ++ more) = significand t more := by
  induction ds generalizing s with
  | nil =>
      obtain rfl : s = t := congrArg Prod.fst h
      rfl
  | cons d ds ih =>
      rw [significand] at h
      rw [List.cons_append, significand]
      split at h
      · next hfits =>
        rw [if_pos hfits]
        exact ih h
      · cases (Prod.mk.inj h).2

theorem toNat_digitChar {d : Nat} (h : d < 10) : d.digitChar.toNat - '0'.toNat = d := by
  have hall : ∀ d < 10, d.digitChar.toNat - '0'.toNat = d := by decide
  exact hall d h

/-- The digits of a number have it as their significand. -/
theorem significand_toDigits {n : Nat} (h : n < 0x10000000000000000) :
    significand 0 (Nat.toDigits 10 n) = (n, []) := by
  induction n using Nat.strongRecOn with
  | ind n ih =>
      have hlast : ∀ s, s * 10 + n % 10 = n → significand s [(n % 10).digitChar] = (n, []) := by
        intro s hs
        rw [significand, toNat_digitChar (Nat.mod_lt n (by decide)), hs, if_pos h, significand]
      rw [Nat.toDigits_eq_if (by decide)]
      split
      · next hsmall =>
        have hone := hlast 0 (by omega)
        rwa [Nat.mod_eq_of_lt hsmall] at hone
      · rw [significand_append (ih (n / 10) (by omega) (by omega))]
        exact hlast (n / 10) (by omega)

theorem head?_toDigits {n : Nat} (h : 0 < n) : (Nat.toDigits 10 n).head? ≠ some '0' := by
  induction n using Nat.strongRecOn with
  | ind n ih =>
      rw [Nat.toDigits_eq_if (by decide)]
      split
      · next hsmall =>
        have hall : ∀ d < 10, 0 < d → d.digitChar ≠ '0' := by decide
        simpa using hall n hsmall h
      · rw [List.head?_append_of_ne_nil _ Nat.toDigits_ne_nil]
        exact ih (n / 10) (by omega) (by omega)

theorem isDigit_toDigits (n : Nat) : ∀ c ∈ Nat.toDigits 10 n, c.isDigit = true :=
  fun _ hc => Nat.isDigit_of_mem_toDigits (by decide) (by decide) hc

theorem isWhole_toDigits (n : Nat) : IsWhole (Nat.toDigits 10 n) := by
  refine ⟨Nat.toDigits_ne_nil, fun d more heq => ?_⟩
  cases n with
  | zero => cases heq
  | succ n => exact head?_toDigits n.succ_pos (by rw [heq]; rfl)

theorem readMagnitude_toDigits (negative : Bool) (n : Nat) :
    readMagnitude negative (Nat.toDigits 10 n) =
      (numberOf negative (Nat.toDigits 10 n) [] none, some []) := by
  have htake : (Nat.toDigits 10 n).takeWhile Char.isDigit = Nat.toDigits 10 n :=
    List.takeWhile_eq_self_iff.2 (isDigit_toDigits n)
  have hdrop : (Nat.toDigits 10 n).dropWhile Char.isDigit = [] :=
    List.dropWhile_eq_nil_iff.2 (isDigit_toDigits n)
  rw [readMagnitude_of_whole (htake.symm ▸ isWhole_toDigits n) hdrop (by simp), htake]
  rfl

end Doc

namespace Number

theorem text_int_nat (n : Nat) : (int n).text.toList = Nat.toDigits 10 n := by
  rw [text]
  exact String.toList_ofList

theorem text_int_neg (n : Nat) : (int (Int.negSucc n)).text.toList = '-' :: Nat.toDigits 10 (n + 1) := by
  have hsign : (int (Int.negSucc n)).text = "-" ++ Nat.repr (n + 1) := rfl
  rw [hsign, String.toList_append, Nat.repr]
  exact congrArg ('-' :: ·) String.toList_ofList

/-- Integers read back: the negative ones of 64 bits with a sign, the others of 64 bits. -/
theorem readsBack_int {i : Int} (hlow : -0x8000000000000000 ≤ i)
    (hhigh : i < 0x10000000000000000) : (int i).ReadsBack := by
  unfold ReadsBack Doc.readPart
  cases i with
  | ofNat n =>
      have hn : n < 0x10000000000000000 := by
        rw [Int.ofNat_eq_natCast] at hhigh
        omega
      rw [Int.ofNat_eq_natCast, text_int_nat]
      obtain ⟨c, cs, hcs⟩ := List.exists_cons_of_ne_nil (Nat.toDigits_ne_nil (n := n) (b := 10))
      have hc : c.isDigit = true := Doc.isDigit_toDigits n c (hcs ▸ List.mem_cons_self)
      rw [hcs, Doc.readValue_digit hc, ← hcs, Doc.readMagnitude_toDigits]
      simp [Doc.numberOf, Doc.significand_toDigits hn]
  | negSucc n =>
      have hn : n + 1 < 0x10000000000000000 := by omega
      have hsmall : ¬ 0x8000000000000000 < n + 1 := by omega
      rw [text_int_neg, Doc.readValue_minus, Doc.readMagnitude_toDigits]
      simp only [Doc.numberOf, Doc.significand_toDigits hn]
      simp [hsmall, Int.negSucc_eq]

end Number
end InlineRelay.Json
