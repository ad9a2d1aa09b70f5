import InlineRelay.Proofs.Json.Printing

/-!
The parts of JSON texts, as the grammar has them: gaps, strings and numbers, each read up to its
end. What the grammar allows may still have no value: numbers can be too large, and surrogates
unpaired.
-/
namespace InlineRelay.Json

namespace Doc

/-! ### Gaps -/

def Gap (ws : List Char) : Prop := ∀ c ∈ ws, isGap c = true

theorem skipGap_gap {ws : List Char} (h : Gap ws) (cs : List Char) :
    skipGap (ws ++ cs) = skipGap cs :=
  List.dropWhile_append_of_pos h

theorem skipGap_gap_cons {ws : List Char} {c : Char} (h : Gap ws) (hc : isGap c = false)
    (cs : List Char) : skipGap (ws ++ c :: cs) = c :: cs := by
  rw [skipGap_gap h, skipGap_cons hc]

theorem skipGap_gap_last {ws : List Char} {c : Char} (h : Gap ws) (hc : isGap c = false)
    (rest : List Char) : skipGap ((ws ++ [c]) ++ rest) = c :: rest := by
  rw [List.append_assoc]
  exact skipGap_gap_cons h hc rest

theorem readValue_gap {ws : List Char} (h : Gap ws) (fuel depth : Nat) (cs : List Char) :
    readValue fuel depth (ws ++ cs) = readValue fuel depth cs := by
  rw [← readValue_skipGap, skipGap_gap h, readValue_skipGap]

/-- After a gap a number is over, too. -/
theorem Ends.gap {ws rest : List Char} (hrest : Ends rest) (h : Gap ws) : Ends (ws ++ rest) := by
  cases ws with
  | nil => exact hrest
  | cons w ws =>
      intro c hc
      obtain rfl : w = c := Option.some.inj hc
      have hw := h w List.mem_cons_self
      simp only [isGap, Bool.or_eq_true, decide_eq_true_eq] at hw
      rcases hw with ((rfl | rfl) | rfl) | rfl <;> decide

/-! ### Strings -/

/-- A part of a string: a character, or a unit of 16 bits. -/
inductive Piece
  | char (c : Char)
  | unit (n : Nat)

/-- The letters of escapes, and the characters they stand for. -/
def escapes : List (Char × Char) :=
  [('"', '"'), ('\\', '\\'), ('/', '/'), ('b', '\x08'), ('f', '\x0c'), ('n', '\n'), ('r', '\r'),
    ('t', '\t')]

inductive Piece.Spelled : Piece → List Char → Prop
  | plain {c : Char} : ¬ c.toNat < 0x20 → c ≠ '"' → c ≠ '\\' → Spelled (.char c) [c]
  | letter {e c : Char} : (e, c) ∈ escapes → Spelled (.char c) ['\\', e]
  | unit {a b c d : Char} {n : Nat} : hex4? a b c d = some n →
      Spelled (.unit n) ['\\', 'u', a, b, c, d]

/-- The characters of a string. A lead surrogate and a trail surrogate after it make one character;
there are none if a surrogate stands by itself. -/
def charsOf : List Piece → Option (List Char)
  | [] => some []
  | .char c :: ps => (charsOf ps).map (c :: ·)
  | .unit n :: ps =>
    if isTrail n then none
    else if isLead n then
      match ps with
      | .unit m :: ps =>
        if isTrail m then
          (charsOf ps).map (Char.ofNat (0x10000 + (n - 0xD800) * 0x400 + (m - 0xDC00)) :: ·)
        else none
      | _ => none
    else (charsOf ps).map (Char.ofNat n :: ·)

theorem escaped?_of_mem {e c : Char} (h : (e, c) ∈ escapes) : escaped? e = some c ∧ e ≠ 'u' := by
  have hall : ∀ p ∈ escapes, escaped? p.1 = some p.2 ∧ p.1 ≠ 'u' := by decide
  exact hall _ h

section Units
variable {a b c d : Char} {n : Nat} {cs : List Char}

theorem readQuoted_trail (h : hex4? a b c d = some n) (htrail : isTrail n = true)
    (cs : List Char) :
    readQuoted ('\\' :: 'u' :: a :: b :: c :: d :: cs) = (readQuoted cs).push none := by
  rw [readQuoted]
  simp [h, htrail]

theorem readQuoted_lead_unit {e f g k : Char} {m : Nat} (h : hex4? a b c d = some n)
    (htrail : isTrail n = false) (hlead : isLead n = true) (hm : hex4? e f g k = some m)
    (cs : List Char) :
    readQuoted ('\\' :: 'u' :: a :: b :: c :: d :: '\\' :: 'u' :: e :: f :: g :: k :: cs) =
      (readQuoted cs).push (if isTrail m then
        some (Char.ofNat (0x10000 + (n - 0xD800) * 0x400 + (m - 0xDC00))) else none) := by
  rw [readQuoted]
  simp only [h, htrail, hlead, hm, Bool.false_eq_true, if_false, if_true]
  split <;> rfl

theorem readQuoted_lead_other (h : hex4? a b c d = some n) (htrail : isTrail n = false)
    (hlead : isLead n = true)
    (hother : cs ≠ [] ∧ cs ≠ ['\\'] ∧ ∀ ds, cs ≠ '\\' :: 'u' :: ds) :
    readQuoted ('\\' :: 'u' :: a :: b :: c :: d :: cs) = (readQuoted cs).push none := by
  rw [readQuoted]
  simp only [h, htrail, hlead, Bool.false_eq_true, if_false, if_true]
  split
  · exact absurd rfl hother.1
  · exact absurd rfl hother.2.1
  · exact absurd rfl (hother.2.2 _)
  · exact absurd rfl (hother.2.2 _)
  · rfl

end Units

section Surrogates
variable {n m : Nat} {ps : List Piece}

theorem charsOf_trail (h : isTrail n = true) : charsOf (.unit n :: ps) = none := by
  rw [charsOf.eq_def]
  simp only [h, if_true]

theorem charsOf_scalar (htrail : isTrail n = false) (hlead : isLead n = false) :
    charsOf (.unit n :: ps) = (charsOf ps).map (Char.ofNat n :: ·) := by
  rw [charsOf.eq_def]
  simp only [htrail, hlead, Bool.false_eq_true, if_false]

theorem charsOf_pair (htrail : isTrail n = false) (hlead : isLead n = true) :
    charsOf (.unit n :: .unit m :: ps) = if isTrail m then
      (charsOf ps).map (Char.ofNat (0x10000 + (n - 0xD800) * 0x400 + (m - 0xDC00)) :: ·)
      else none := by
  rw [charsOf.eq_def]
  simp only [htrail, hlead, Bool.false_eq_true, if_false, if_true]

theorem charsOf_lone (htrail : isTrail n = false) (hlead : isLead n = true)
    (hps : ∀ m qs, ps ≠ .unit m :: qs) : charsOf (.unit n :: ps) = none := by
  rw [charsOf.eq_def]
  simp only [htrail, hlead, Bool.false_eq_true, if_false, if_true]

end Surrogates

theorem chars?_push_some (c : Char) (q : Quoted) :
    (q.push (some c)).chars? = q.chars?.map (c :: ·) := by
  unfold Quoted.chars? Quoted.push
  rw [List.mapM_cons]
  cases q.units.mapM id <;> rfl

/-- A character is no unit. -/
theorem other_of_char {x : Char} {t : List Char} (h : Piece.Spelled (.char x) t) (cs : List Char) :
    t ++ cs ≠ [] ∧ t ++ cs ≠ ['\\'] ∧ ∀ ds, t ++ cs ≠ '\\' :: 'u' :: ds := by
  cases h with
  | plain hc hquote hback => simp [hback]
  | letter he => simp [(escaped?_of_mem he).2]

theorem readQuoted_char {x : Char} {t : List Char} (h : Piece.Spelled (.char x) t)
    (cs : List Char) : readQuoted (t ++ cs) = (readQuoted cs).push (some x) := by
  cases h with
  | plain hc hquote hback => exact readQuoted_plain hquote hback hc cs
  | letter he =>
      obtain ⟨hescaped, hu⟩ := escaped?_of_mem he
      exact readQuoted_letter hu hescaped cs

/-- What is found when a string is read: where it ends, and the characters it stands for. -/
def Quoted.Finds (q : Quoted) (chars : Option (List Char)) (rest : List Char) : Prop :=
  q.rest = .ok rest ∧ q.chars? = chars

theorem Quoted.Finds.push_some {q : Quoted} {chars : Option (List Char)} {rest : List Char}
    (h : q.Finds chars rest) (c : Char) : (q.push (some c)).Finds (chars.map (c :: ·)) rest :=
  ⟨h.1, by rw [chars?_push_some, h.2]⟩

theorem Quoted.Finds.push_none {q : Quoted} {chars : Option (List Char)} {rest : List Char}
    (h : q.Finds chars rest) : (q.push none).Finds none rest :=
  ⟨h.1, rfl⟩

section Spelled
variable {a b c d : Char} {n : Nat} {ps : List Piece} {ts : List (List Char)} {rest : List Char}

/-- A lead surrogate is read together with the unit after it, if there is one. -/
theorem finds_lead (hn : hex4? a b c d = some n) (htrail : isTrail n = false)
    (hlead : isLead n = true) (h : List.Forall₂ Piece.Spelled ps ts)
    (hread : (readQuoted (ts.flatten ++ '"' :: rest)).Finds (charsOf ps) rest)
    (hnext : (readQuoted (ts.tail.flatten ++ '"' :: rest)).Finds (charsOf ps.tail) rest) :
    (readQuoted ('\\' :: 'u' :: a :: b :: c :: d :: (ts.flatten ++ '"' :: rest))).Finds
      (charsOf (.unit n :: ps)) rest := by
  cases h with
  | nil =>
      rw [readQuoted_lead_other hn htrail hlead (by simp), charsOf_lone htrail hlead (by simp)]
      exact hread.push_none
  | @cons p t ps ts hp h =>
      cases p with
      | char x =>
          rw [List.flatten_cons, List.append_assoc] at hread ⊢
          rw [readQuoted_lead_other hn htrail hlead (other_of_char hp _),
            charsOf_lone htrail hlead (by simp)]
          exact hread.push_none
      | unit m =>
          cases hp with
          | unit hm =>
              rw [charsOf_pair htrail hlead]
              refine (congrArg (Quoted.Finds · _ rest)
                (readQuoted_lead_unit hn htrail hlead hm _)).mpr ?_
              cases isTrail m with
              | true => exact hnext.push_some _
              | false => exact hnext.push_none

theorem finds_unit (hn : hex4? a b c d = some n) (h : List.Forall₂ Piece.Spelled ps ts)
    (hread : (readQuoted (ts.flatten ++ '"' :: rest)).Finds (charsOf ps) rest)
    (hnext : (readQuoted (ts.tail.flatten ++ '"' :: rest)).Finds (charsOf ps.tail) rest) :
    (readQuoted ('\\' :: 'u' :: a :: b :: c :: d :: (ts.flatten ++ '"' :: rest))).Finds
      (charsOf (.unit n :: ps)) rest := by
  cases htrail : isTrail n with
  | true =>
      rw [readQuoted_trail hn htrail, charsOf_trail htrail]
      exact hread.push_none
  | false =>
      cases hlead : isLead n with
      | true => exact finds_lead hn htrail hlead h hread hnext
      | false =>
          rw [readQuoted_unit hn htrail hlead, charsOf_scalar htrail hlead]
          exact hread.push_some _

/-- A string is read up to its closing quote. -/
theorem readQuoted_spelled (h : List.Forall₂ Piece.Spelled ps ts) (rest : List Char) :
    (readQuoted (ts.flatten ++ '"' :: rest)).Finds (charsOf ps) rest := by
  have hend : (readQuoted ('"' :: rest)).Finds (charsOf []) rest := ⟨by rw [readQuoted], rfl⟩
  -- Two units may be read at once, so the string without its first part is carried along.
  suffices hboth : (readQuoted (ts.flatten ++ '"' :: rest)).Finds (charsOf ps) rest ∧
      (readQuoted (ts.tail.flatten ++ '"' :: rest)).Finds (charsOf ps.tail) rest from hboth.1
  induction h with
  | nil => exact ⟨hend, hend⟩
  | @cons p t ps ts hp h ih =>
      obtain ⟨hread, hnext⟩ := ih
      refine ⟨?_, hread⟩
      rw [List.flatten_cons, List.append_assoc]
      cases p with
      | char c =>
          rw [readQuoted_char hp]
          exact hread.push_some c
      | unit n =>
          cases hp with
          | unit hn => exact finds_unit hn h hread hnext

end Spelled

/-- The value of a string, spoilt if a surrogate stands by itself. -/
def stringOf (ps : List Piece) : Doc :=
  match charsOf ps with
  | some cs => .str (String.ofList cs)
  | none => .spoilt (.str "")

theorem readString_spelled {ps : List Piece} {ts : List (List Char)}
    (h : List.Forall₂ Piece.Spelled ps ts) (rest : List Char) :
    readString (ts.flatten ++ '"' :: rest) = (stringOf ps, some rest) := by
  obtain ⟨hrest, hchars⟩ := readQuoted_spelled h rest
  unfold readString stringOf
  simp only [hrest, hchars]
  cases charsOf ps <;> rfl

/-- A character that stands for itself in a string. -/
def isPlain (c : Char) : Bool := 0x20 ≤ c.toNat && c ≠ '"' && c ≠ '\\'

theorem spelled_plain {cs : List Char} (h : cs.all isPlain = true) :
    List.Forall₂ Piece.Spelled (cs.map .char) (cs.map fun c => [c]) := by
  refine List.forall₂_map_left_iff.2 (List.forall₂_map_right_iff.2 (List.forall₂_same.2 ?_))
  intro c hc
  have hplain := List.all_eq_true.1 h c hc
  simp only [isPlain, Bool.and_eq_true, decide_eq_true_eq] at hplain
  exact .plain (Nat.not_lt.2 hplain.1.1) hplain.1.2 hplain.2

theorem charsOf_map (cs : List Char) : charsOf (cs.map .char) = some cs := by
  induction cs with
  | nil => rfl
  | cons c cs ih =>
      rw [List.map_cons, charsOf, ih]
      rfl

theorem stringOf_map (s : String) : stringOf (s.toList.map .char) = .str s := by
  rw [stringOf, charsOf_map]
  exact congrArg Doc.str String.ofList_toList

/-! ### Numbers -/

def Digits (ds : List Char) : Prop := ds ≠ [] ∧ ∀ c ∈ ds, c.isDigit = true

/-- The number that digits denote. -/
def decimal (ds : List Char) : Nat := ds.foldl (fun n c => n * 10 + (c.toNat - '0'.toNat)) 0

/-- The digits of a fraction, and its text with the point. -/
inductive Fraction : List Char → List Char → Prop
  | none : Fraction [] []
  | point {ds : List Char} : Digits ds → Fraction ds ('.' :: ds)

/-- An exponent and its text. -/
inductive Exponent : Option Int → List Char → Prop
  | none : Exponent none []
  | bare {e : Char} {ds : List Char} : e = 'e' ∨ e = 'E' → Digits ds →
      Exponent (some (decimal ds)) (e :: ds)
  | plus {e : Char} {ds : List Char} : e = 'e' ∨ e = 'E' → Digits ds →
      Exponent (some (decimal ds)) (e :: '+' :: ds)
  | minus {e : Char} {ds : List Char} : e = 'e' ∨ e = 'E' → Digits ds →
      Exponent (some (-decimal ds)) (e :: '-' :: ds)

section Numbers
variable {ds whole fraction cs ft pt rest : List Char} {negative : Bool} {power : Option Int}

theorem digits_append (hds : ∀ c ∈ ds, c.isDigit = true)
    (hrest : ∀ c ∈ rest.head?, c.isDigit = false) :
    (ds ++ rest).takeWhile Char.isDigit = ds ∧ (ds ++ rest).dropWhile Char.isDigit = rest := by
  obtain ⟨htake, hdrop⟩ := takeWhile_append_of_head ds hrest
  rw [htake, hdrop, List.takeWhile_eq_self_iff.2 hds, List.dropWhile_eq_nil_iff.2 hds]
  exact ⟨rfl, rfl⟩

theorem powerOf_digits (sign : Int) (hds : Digits ds) (hends : Ends rest) :
    powerOf sign (ds ++ rest) = .ok (sign * decimal ds, rest) := by
  obtain ⟨htake, hdrop⟩ := digits_append hds.2 hends.isDigit
  obtain ⟨c, more, rfl⟩ := List.exists_cons_of_ne_nil hds.1
  unfold powerOf
  rw [List.cons_append] at htake hdrop ⊢
  dsimp only
  rw [if_pos (hds.2 c List.mem_cons_self), htake, hdrop]
  rfl

theorem readPower_bare (hds : Digits ds) (hends : Ends rest) :
    readPower (ds ++ rest) = .ok (decimal ds, rest) := by
  have hpower := powerOf_digits 1 hds hends
  rw [Int.one_mul] at hpower
  obtain ⟨c, more, rfl⟩ := List.exists_cons_of_ne_nil hds.1
  have hc := hds.2 c List.mem_cons_self
  unfold readPower
  split
  · next heq =>
    cases heq
    exact absurd hc (by decide)
  · next heq =>
    cases heq
    exact absurd hc (by decide)
  · exact hpower

theorem readScaled_exponent (hpower : Exponent power pt) (hends : Ends rest) :
    readScaled negative whole fraction (pt ++ rest) =
      (numberOf negative whole fraction power, some rest) := by
  cases hpower with
  | none =>
      cases rest with
      | nil => rfl
      | cons c rest =>
          obtain ⟨-, -, he, hE⟩ := hends c rfl
          rw [List.nil_append, readScaled, if_neg (by simp [he, hE])]
  | bare he hds =>
      rw [List.cons_append, readScaled, if_pos he, readPower_bare hds hends]
  | plus he hds =>
      rw [List.cons_append, List.cons_append, readScaled, if_pos he, readPower,
        powerOf_digits 1 hds hends, Int.one_mul]
  | minus he hds =>
      rw [List.cons_append, List.cons_append, readScaled, if_pos he, readPower,
        powerOf_digits (-1) hds hends, Int.neg_one_mul]

/-- No digit and no point follows the digits of a number. -/
theorem Exponent.ends (hpower : Exponent power pt) (hends : Ends rest) :
    (∀ c ∈ (pt ++ rest).head?, c.isDigit = false) ∧ ∀ r, pt ++ rest ≠ '.' :: r := by
  have hletter {e : Char} {t : List Char} (he : e = 'e' ∨ e = 'E') :
      (∀ c ∈ (e :: t).head?, c.isDigit = false) ∧ ∀ r, e :: t ≠ '.' :: r := by
    rcases he with rfl | rfl <;> exact ⟨fun c hc => by cases hc; decide, by simp⟩
  cases hpower with
  | none =>
      refine ⟨hends.isDigit, ?_⟩
      rintro r rfl
      exact (hends '.' rfl).2.1 rfl
  | bare he hds | plus he hds | minus he hds => exact hletter he

theorem readMagnitude_spelled (hdigits : ∀ c ∈ whole, c.isDigit = true) (hwhole : IsWhole whole)
    (hfraction : Fraction fraction ft) (hpower : Exponent power pt) (hends : Ends rest) :
    readMagnitude negative (whole ++ (ft ++ (pt ++ rest))) =
      (numberOf negative whole fraction power, some rest) := by
  have hscaled := hpower.ends hends
  cases hfraction with
  | none =>
      obtain ⟨htake, hdrop⟩ := digits_append hdigits hscaled.1
      rw [List.nil_append, readMagnitude_of_whole (htake.symm ▸ hwhole) hdrop hscaled.2, htake]
      exact readScaled_exponent hpower hends
  | point hds =>
      have hpoint : ∀ c ∈ ('.' :: (fraction ++ (pt ++ rest))).head?, c.isDigit = false := by
        intro c hc
        cases hc
        decide
      obtain ⟨htake, hdrop⟩ := digits_append hdigits hpoint
      obtain ⟨htake', hdrop'⟩ := digits_append hds.2 hscaled.1
      rw [List.cons_append, readMagnitude_of_point (htake.symm ▸ hwhole) hdrop, htake, htake',
        hdrop', if_neg (by simpa using hds.1)]
      exact readScaled_exponent hpower hends

/-- A number without a sign starts with a digit. -/
theorem readValue_whole (hdigits : ∀ c ∈ whole, c.isDigit = true) (hwhole : IsWhole whole)
    (fuel depth : Nat) (cs : List Char) :
    readValue (fuel + 1) depth (whole ++ cs) = readMagnitude false (whole ++ cs) := by
  obtain ⟨c, more, rfl⟩ := List.exists_cons_of_ne_nil hwhole.1
  exact readValue_digit (hdigits c List.mem_cons_self) fuel depth (more ++ cs)

end Numbers

end Doc
end InlineRelay.Json
